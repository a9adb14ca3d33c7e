set_option autoImplicit false

/-!
Binary floating-point numbers with 53 bits. An operation on finite numbers is the exact one on rationals followed by one
rounding to the nearest, so a law about an operation is a law about `ofMagnitude`.
-/
namespace LayoutAlgebra

-- The whole number nearest to `q`; a half goes to the even neighbour.
def nearestInt (q : Rat) : Int :=
  let low := q.floor
  let rest := q - low
  if rest < 1 / 2 then low
  else if 1 / 2 < rest then low + 1
  else if low % 2 = 0 then low else low + 1

def leadingBit (q : Rat) : Int :=
  let guess : Int := (q.num.natAbs.log2 : Int) - q.den.log2
  if (2 : Rat) ^ guess ≤ q then guess else guess - 1

-- The first number that needs more than 53 bits.
def mantissaLimit : Nat := 0x20000000000000

-- `mantissa · 2 ^ exponent` in its one form: 53 bits, or fewer of them at the smallest exponent.
def Canonical (mantissa : Nat) (exponent : Int) : Prop :=
  mantissa < mantissaLimit ∧ -1074 ≤ exponent ∧ exponent ≤ 971 ∧
    (mantissaLimit / 2 ≤ mantissa ∨ exponent = -1074)

instance (mantissa : Nat) (exponent : Int) : Decidable (Canonical mantissa exponent) :=
  inferInstanceAs (Decidable (_ ∧ _))

inductive Double where
  | nan
  | infinite (negative : Bool)
  | finite (negative : Bool) (mantissa : Nat) (exponent : Int)
      (canonical : Canonical mantissa exponent)
deriving DecidableEq

namespace Double

def zero (negative : Bool) : Double := .finite negative 0 (-1074) (by decide)

instance : Inhabited Double := ⟨zero false⟩

-- The double nearest to `±q` for `0 ≤ q`; past the largest finite one it is infinite.
def ofMagnitude (negative : Bool) (q : Rat) : Double :=
  if q = 0 then zero negative
  else
    let exponent := max (leadingBit q - 52) (-1074)
    let mantissa := (nearestInt (q / (2 : Rat) ^ exponent)).toNat
    let carried := mantissa = mantissaLimit
    let mantissa := if carried then mantissaLimit / 2 else mantissa
    let exponent := if carried then exponent + 1 else exponent
    if canonical : Canonical mantissa exponent then .finite negative mantissa exponent canonical
    else .infinite negative

def round (q : Rat) : Double := ofMagnitude (q < 0) q.abs

def magnitude (mantissa : Nat) (exponent : Int) : Rat := (mantissa : Rat) * (2 : Rat) ^ exponent

def toRat? : Double → Option Rat
  | .finite negative mantissa exponent _ =>
    some (if negative then -magnitude mantissa exponent else magnitude mantissa exponent)
  | _ => none

def isFinite : Double → Bool
  | .finite .. => true
  | _ => false

def isNaN : Double → Bool
  | .nan => true
  | _ => false

protected def neg : Double → Double
  | .nan => .nan
  | .infinite negative => .infinite !negative
  | .finite negative mantissa exponent canonical => .finite (!negative) mantissa exponent canonical

protected def abs : Double → Double
  | .nan => .nan
  | .infinite _ => .infinite false
  | .finite _ mantissa exponent canonical => .finite false mantissa exponent canonical

-- An exact sum of zero is negative only when both terms are negative zeros.
protected def add : Double → Double → Double
  | .nan, _ => .nan
  | _, .nan => .nan
  | .infinite s, .infinite t => if s = t then .infinite s else .nan
  | .infinite s, _ => .infinite s
  | _, .infinite t => .infinite t
  | x@(.finite s _ _ _), y@(.finite t _ _ _) =>
    let sum := x.toRat?.getD 0 + y.toRat?.getD 0
    if sum = 0 then zero (s && t) else round sum

protected def mul : Double → Double → Double
  | .nan, _ => .nan
  | _, .nan => .nan
  | .infinite s, .infinite t => .infinite (s != t)
  | .infinite s, .finite t m _ _ => if m = 0 then .nan else .infinite (s != t)
  | .finite s m _ _, .infinite t => if m = 0 then .nan else .infinite (s != t)
  | .finite s m e _, .finite t n f _ => ofMagnitude (s != t) (magnitude m e * magnitude n f)

protected def div : Double → Double → Double
  | .nan, _ => .nan
  | _, .nan => .nan
  | .infinite _, .infinite _ => .nan
  | .infinite s, .finite t _ _ _ => .infinite (s != t)
  | .finite s _ _ _, .infinite t => zero (s != t)
  | .finite s m e _, .finite t n f _ =>
    if n = 0 then if m = 0 then .nan else .infinite (s != t)
    else ofMagnitude (s != t) (magnitude m e / magnitude n f)

instance : Neg Double := ⟨Double.neg⟩
instance : Add Double := ⟨Double.add⟩
instance : Sub Double := ⟨fun x y => x + -y⟩
instance : Mul Double := ⟨Double.mul⟩
instance : Div Double := ⟨Double.div⟩

end Double

inductive Extended where
  | undefined
  | bottom
  | rational (q : Rat)
  | top
deriving DecidableEq

namespace Extended

def le : Extended → Extended → Bool
  | .undefined, _ => false
  | _, .undefined => false
  | .bottom, _ => true
  | _, .top => true
  | .rational p, .rational q => decide (p ≤ q)
  | _, _ => false

def lt (x y : Extended) : Bool := x.le y && !y.le x

-- Equal as places, so the two zeros are equal and nothing equals an undefined one.
def same (x y : Extended) : Bool := x.le y && y.le x

def opposite : Extended → Extended
  | .undefined => .undefined
  | .bottom => .top
  | .rational q => .rational (-q)
  | .top => .bottom

def distance : Extended → Extended
  | .undefined => .undefined
  | .bottom => .top
  | .rational q => .rational q.abs
  | .top => .top

end Extended

def Double.extended : Double → Extended
  | .nan => .undefined
  | .infinite negative => if negative then .bottom else .top
  | .finite negative mantissa exponent _ =>
    .rational (if negative then -magnitude mantissa exponent else magnitude mantissa exponent)

end LayoutAlgebra
