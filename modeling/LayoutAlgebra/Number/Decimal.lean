import LayoutAlgebra.Number.Double
import LayoutAlgebra.Text
set_option autoImplicit false

namespace LayoutAlgebra

def digitCount (n : Nat) : Nat := (Nat.toDigits 10 n).length

def leadingDigit (q : Rat) : Int :=
  if 1 ≤ q then (digitCount q.floor.toNat : Int) - 1
  else -(digitCount ((q.den - 1) / q.num.toNat) : Int)

structure Decimal where
  digits : Nat
  exponent : Int
deriving DecidableEq

namespace Decimal

def toRat (d : Decimal) : Rat := (d.digits : Rat) * (10 : Rat) ^ d.exponent

def lead (d : Decimal) : Int := (digitCount d.digits : Int) - 1 + d.exponent

def significant (count : Nat) (q : Rat) : Decimal :=
  let exponent := leadingDigit q + 1 - count
  ⟨(nearestInt (q / (10 : Rat) ^ exponent)).toNat, exponent⟩

def readingBack? (q : Rat) (exponent : Int) : Option Decimal :=
  let scaled := q / (10 : Rat) ^ exponent
  let low := scaled.floor.toNat
  let double := Double.ofMagnitude false q
  let reads (digits : Nat) := decide (Double.ofMagnitude false (Decimal.mk digits exponent).toRat = double)
  if reads low && reads (low + 1) then some ⟨(nearestInt scaled).toNat, exponent⟩
  else if reads low then some ⟨low, exponent⟩
  else if reads (low + 1) then some ⟨low + 1, exponent⟩
  else none

def shortest (q : Rat) : Decimal :=
  let lead := leadingDigit q
  ((List.range 17).findSome? fun (more : Nat) => readingBack? q (lead - more)).getD
    (significant 17 q)

end Decimal

-- How a decimal is written: below which leading power of ten without an exponent, and whether a whole number then keeps
-- its point.
structure DecimalStyle where
  positionalBelow : Int
  wholePoint : Bool

namespace DecimalStyle

def zeros (count : Nat) : String := String.ofList (List.replicate count '0')

def significand (digits : Nat) : List Char :=
  ((Nat.toDigits 10 digits).reverse.dropWhile (· == '0')).reverse

def exponentText (exponent : Int) : String :=
  let digits := toString exponent.natAbs
  (if exponent < 0 then "e-" else "e+") ++ (if digits.length < 2 then "0" ++ digits else digits)

def writeDecimal (style : DecimalStyle) (d : Decimal) : String :=
  let digits := significand d.digits
  let lead := d.lead
  if -4 ≤ lead ∧ lead < style.positionalBelow then
    if lead < 0 then "0." ++ zeros (lead.natAbs - 1) ++ String.ofList digits
    else
      let width := lead.toNat + 1
      let whole := String.ofList (digits.take width) ++ zeros (width - digits.length)
      match digits.drop width with
      | [] => if style.wholePoint then whole ++ ".0" else whole
      | rest => whole ++ "." ++ String.ofList rest
  else
    match digits with
    | [] => "0"
    | [d] => d.toString ++ exponentText lead
    | d :: rest => d.toString ++ "." ++ String.ofList rest ++ exponentText lead

def write (style : DecimalStyle) (digits : Rat → Decimal) : Double → String
  | .nan => "nan"
  | .infinite negative => if negative then "-inf" else "inf"
  | .finite negative mantissa exponent _ =>
    let sign := if negative then "-" else ""
    if mantissa = 0 then sign ++ (if style.wholePoint then "0.0" else "0")
    else sign ++ style.writeDecimal (digits (Double.magnitude mantissa exponent))

end DecimalStyle

def Double.full : Double → String := DecimalStyle.write ⟨16, true⟩ Decimal.shortest

def Double.brief : Double → String := DecimalStyle.write ⟨6, false⟩ (Decimal.significant 6)

namespace Double.Reading

def plain (c : Char) : Char :=
  match Text.digit? c with
  | some n => Char.ofNat (48 + n)
  | none => c

def trim (chars : List Char) : List Char :=
  ((chars.dropWhile Text.isBlank).reverse.dropWhile Text.isBlank).reverse

-- Whether every underscore stands between two digits; `before` is the character in front of the text.
def joinsDigits (before : Char) : List Char → Bool
  | [] => true
  | c :: rest => (c ≠ '_' || before.isDigit && rest.head?.any Char.isDigit) && joinsDigits c rest

def digitsValue (digits : List Char) : Nat :=
  digits.foldl (fun value c => value * 10 + (c.toNat - 48)) 0

def withoutLeadingZeros (digits : List Char) : List Char := digits.dropWhile (· == '0')

-- How many digits of an exponent are read. As many of them stand for a number out of every range, however many follow.
def mostExponentDigits : Nat := 18

-- How many significant digits are read. Where one double ends and the next one begins is a decimal of fewer digits, so
-- of the further ones it only matters whether there are any but zeros.
def mostDigits : Nat := 800

def sign : List Char → Bool × List Char
  | '-' :: rest => (true, rest)
  | '+' :: rest => (false, rest)
  | chars => (false, chars)

def exponent? : List Char → Option Int
  | [] => some 0
  | mark :: rest =>
    let (negative, digits) := sign rest
    if (mark = 'e' || mark = 'E') && !digits.isEmpty && digits.all Char.isDigit then
      let size := digitsValue ((withoutLeadingZeros digits).take mostExponentDigits)
      some (if negative then -(size : Int) else size)
    else none

def significant (digits : List Char) (exponent : Int) : Decimal :=
  let digits := withoutLeadingZeros digits
  let further := digits.drop mostDigits
  let read : Decimal := ⟨digitsValue (digits.take mostDigits), exponent + further.length⟩
  if further.all (· == '0') then read else ⟨read.digits * 10 + 1, read.exponent - 1⟩

-- A decimal rounded; a leading digit far outside the range of a double decides without the power.
def rounded (negative : Bool) (d : Decimal) : Double :=
  if d.digits = 0 then .zero negative
  else if d.lead > 400 then .infinite negative
  else if d.lead < -400 then .zero negative
  else .ofMagnitude negative d.toRat

def decimal? (negative : Bool) (chars : List Char) : Option Double :=
  let whole := chars.takeWhile Char.isDigit
  let rest := chars.dropWhile Char.isDigit
  let afterPoint := match rest with
    | '.' :: tail => tail
    | _ => []
  let fraction := afterPoint.takeWhile Char.isDigit
  let tail := match rest with
    | '.' :: _ => afterPoint.dropWhile Char.isDigit
    | _ => rest
  if whole.isEmpty && fraction.isEmpty then none
  else (exponent? tail).map fun exponent =>
    rounded negative (significant (whole ++ fraction) (exponent - fraction.length))

def unsigned? (negative : Bool) (chars : List Char) : Option Double :=
  let word := String.ofList (chars.map Char.toLower)
  if word = "inf" || word = "infinity" then some (.infinite negative)
  else if word = "nan" then some .nan
  else decimal? negative chars

end Double.Reading

def Double.ofText? (text : String) : Option Double :=
  let chars := (Double.Reading.trim text.toList).map Double.Reading.plain
  if Double.Reading.joinsDigits ' ' chars then
    let (negative, rest) := Double.Reading.sign (chars.filter (· ≠ '_'))
    Double.Reading.unsigned? negative rest
  else none

end LayoutAlgebra
