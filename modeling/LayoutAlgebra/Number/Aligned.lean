import LayoutAlgebra.Number.Decimal
set_option autoImplicit false

namespace LayoutAlgebra

def Decimal.above (least : Int) (q : Rat) : Decimal :=
  let d := Decimal.shortest q
  if least ≤ d.exponent then d else ⟨(nearestInt (q / (10 : Rat) ^ least)).toNat, least⟩

structure NumberParts where
  whole : String
  fraction : String
  exponent : Int

namespace NumberParts

def mostPlaces : Nat := 8

def padded (width : Nat) (text : String) : String :=
  String.ofList (List.replicate (width - text.length) ' ') ++ text

def zeroPadded (width n : Nat) : String :=
  let digits := toString n
  DecimalStyle.zeros (width - digits.length) ++ digits

def withoutZeros (text : String) : String :=
  String.ofList (text.toList.reverse.dropWhile (· == '0')).reverse

def positional (sign : String) (d : Decimal) : NumberParts :=
  let places := (-d.exponent).toNat
  let unit := Nat.pow 10 places
  let scaled := d.digits * Nat.pow 10 d.exponent.toNat
  ⟨sign ++ toString (scaled / unit), withoutZeros (zeroPadded places (scaled % unit)), 0⟩

def scientific (sign : String) (d : Decimal) : NumberParts :=
  { positional sign ⟨d.digits, 1 - digitCount d.digits⟩ with exponent := d.lead }

def ownDigits (hasExponent : Bool) (q : Rat) : Decimal :=
  .above (if hasExponent then leadingDigit q - mostPlaces else -mostPlaces) q

def ofDouble (hasExponent : Bool) (digits : Rat → Decimal) : Double → NumberParts
  | .finite negative mantissa exponent _ =>
    let sign := if negative then "-" else ""
    if mantissa = 0 then ⟨sign ++ "0", "", 0⟩
    else (if hasExponent then scientific else positional) sign (digits (Double.magnitude mantissa exponent))
  | _ => ⟨"", "", 0⟩

end NumberParts

structure NumberColumn where
  before : Nat
  after : Nat
  exponentDigits : Option Nat

namespace NumberColumn

def largest (sizes : List Nat) : Nat := sizes.foldl max 0

-- Whether sizes above zero need an exponent: past `10 ^ 8`, below `10 ^ (-4)`, or a thousandfold apart.
def needExponent : List Double → Bool
  | [] => false
  | size :: sizes =>
    let least := sizes.foldl (fun x y => if y.extended.lt x.extended then y else x) size
    let most := sizes.foldl (fun x y => if x.extended.lt y.extended then y else x) size
    Extended.le (.rational 100000000) most.extended || least.extended.lt (Double.round (1 / 10000)).extended ||
      Extended.lt (.rational 1000) (most / least).extended

def tail (c : NumberColumn) : Nat := c.after + (c.exponentDigits.map (· + 2)).getD 0

def of (xs : List Double) : NumberColumn :=
  let finite := xs.filter Double.isFinite
  let hasExponent := needExponent ((finite.map Double.abs).filter fun x => x ≠ .zero false)
  let parts := finite.map (NumberParts.ofDouble hasExponent (NumberParts.ownDigits hasExponent))
  let column : NumberColumn :=
    { before := largest (parts.map fun p => p.whole.length), after := largest (parts.map fun p => p.fraction.length)
      exponentDigits :=
        if hasExponent then some (largest (2 :: parts.map fun p => (toString p.exponent.natAbs).length)) else none }
  if xs.all Double.isFinite then column
  else
    let widest := if xs.contains (.infinite true) then 4 else 3
    { column with before := max column.before (widest - (column.tail + 1)) }

def text (c : NumberColumn) (x : Double) : String :=
  if x.isFinite then
    match c.exponentDigits with
    | none =>
      let p := NumberParts.ofDouble false (NumberParts.ownDigits false) x
      NumberParts.padded c.before p.whole ++ "." ++ p.fraction ++
        String.ofList (List.replicate (c.after - p.fraction.length) ' ')
    | some digits =>
      let p := NumberParts.ofDouble true (Decimal.significant (c.after + 1)) x
      NumberParts.padded c.before p.whole ++ "." ++ p.fraction ++ DecimalStyle.zeros (c.after - p.fraction.length) ++
        (if p.exponent < 0 then "e-" else "e+") ++ NumberParts.zeroPadded digits p.exponent.natAbs
  else NumberParts.padded (c.before + c.tail + 1) x.full

end NumberColumn

end LayoutAlgebra
