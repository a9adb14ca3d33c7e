import LayoutAlgebra.Number.Double
set_option autoImplicit false

/-!
Numbers of an expression: whole numbers of any size and doubles. They stay apart in results; where they meet in an
operation the whole number is rounded to a double first, and where they meet in a comparison both are read exactly.
-/
namespace LayoutAlgebra

inductive Number where
  | int (n : Int)
  | double (x : Double)
deriving DecidableEq

inductive ArithmeticFault where
  | overflow
  | zeroDivision
deriving DecidableEq

namespace Number

instance : Inhabited Number := ⟨.int 0⟩

def extended : Number → Extended
  | .int n => .rational n
  | .double x => x.extended

def toDouble : Number → Except ArithmeticFault Double
  | .double x => .ok x
  | .int n =>
    let x := Double.round n
    if x.isFinite then .ok x else .error .overflow

def equals (m n : Number) : Bool := m.extended.same n.extended

def isZero (n : Number) : Bool := n.equals (.int 0)

def ofBool (b : Bool) : Number := .int (if b then 1 else 0)

def combine (whole : Int → Int → Int) (rounded : Double → Double → Double) :
    Number → Number → Except ArithmeticFault Number
  | .int m, .int n => .ok (.int (whole m n))
  | a, b => do
    let x ← a.toDouble
    let y ← b.toDouble
    return .double (rounded x y)

def add : Number → Number → Except ArithmeticFault Number := combine (· + ·) (· + ·)
def sub : Number → Number → Except ArithmeticFault Number := combine (· - ·) (· - ·)
def mul : Number → Number → Except ArithmeticFault Number := combine (· * ·) (· * ·)

-- A quotient of whole numbers is rounded once, from its exact value.
def div : Number → Number → Except ArithmeticFault Number
  | .int m, .int n =>
    if n = 0 then .error .zeroDivision
    else
      let q := Double.ofMagnitude (decide (m < 0) != decide (n < 0)) (m.natAbs / n.natAbs)
      if q.isFinite then .ok (.double q) else .error .overflow
  | a, b => do
    let x ← a.toDouble
    let y ← b.toDouble
    if y.extended = .rational 0 then throw .zeroDivision
    return .double (x / y)

def neg : Number → Number
  | .int n => .int (-n)
  | .double x => .double (-x)

def abs : Number → Number
  | .int n => .int n.natAbs
  | .double x => .double x.abs

end Number

def leastWord : Int := -0x8000000000000000
def greatestWord : Int := 0x7fffffffffffffff

def wordCount : Nat := 0x10000000000000000

def isWord (n : Int) : Bool := leastWord ≤ n && n ≤ greatestWord

def isNaturalWord (n : Int) : Bool := 0 ≤ n && n < wordCount

def wordOf (n : Int) : Int := n.bmod wordCount
def naturalWordOf (n : Int) : Nat := (n % wordCount).toNat

inductive Comparison where
  | le
  | ge
  | lt
  | gt
deriving DecidableEq

def Comparison.holds : Comparison → Extended → Extended → Bool
  | .le, x, y => x.le y
  | .ge, x, y => y.le x
  | .lt, x, y => x.lt y
  | .gt, x, y => y.lt x

inductive Operation where
  | add
  | sub
  | mul
  | div
deriving DecidableEq

namespace Operation

def onNumbers : Operation → Number → Number → Except ArithmeticFault Number
  | add => Number.add
  | sub => Number.sub
  | mul => Number.mul
  | div => Number.div

def onDoubles : Operation → Double → Double → Double
  | add => (· + ·)
  | sub => (· - ·)
  | mul => (· * ·)
  | div => (· / ·)

def onWords? : Operation → Option (Int → Int → Int)
  | add => some (· + ·)
  | sub => some (· - ·)
  | mul => some (· * ·)
  | div => none

def onTruths? : Operation → Option (Bool → Bool → Bool)
  | add => some or
  | mul => some and
  | sub | div => none

end Operation

namespace Double

def accumulate (start : Double) (xs : List Double) : Double := xs.foldl (· + ·) start

def blocks : Nat → List Double → List (List Double)
  | 0, _ => []
  | count + 1, xs => xs.take 8 :: blocks count (xs.drop 8)

def lanes : List (List Double) → List Double
  | [] => []
  | first :: rest => rest.foldl (List.zipWith (· + ·)) first

def joinLanes : List Double → Double
  | [a, b, c, d, e, f, g, h] => ((a + b) + (c + d)) + ((e + f) + (g + h))
  | xs => accumulate (zero true) xs

def shortSum (xs : List Double) : Double :=
  if xs.length < 8 then accumulate (zero true) xs
  else
    let full := xs.length / 8
    accumulate (joinLanes (lanes (blocks full xs))) (xs.drop (8 * full))

-- Where a long run is cut: in the middle, or up to seven places before it.
def cut (length : Nat) : Nat := length / 2 - length / 2 % 8

theorem cut_pos {length : Nat} (long : 128 < length) : 0 < cut length := by
  unfold cut
  omega

theorem cut_lt {length : Nat} (long : 128 < length) : cut length < length := by
  unfold cut
  omega

-- The sum of a list. A negative zero is the start that changes no sum.
def sum (xs : List Double) : Double :=
  if 128 < xs.length then sum (xs.take (cut xs.length)) + sum (xs.drop (cut xs.length))
  else shortSum xs
termination_by xs.length
decreasing_by
  · have := cut_lt ‹128 < xs.length›
    simp only [List.length_take]
    omega
  · have := cut_pos ‹128 < xs.length›
    simp only [List.length_drop]
    omega

def mean (xs : List Double) : Double := (zero false + sum xs) / round xs.length

-- The second of two unless the first is less; undefined as soon as one of them is.
def least (x y : Double) : Double :=
  if x.isNaN then x else if y.isNaN then y else if x.extended.lt y.extended then x else y

def greatest (x y : Double) : Double :=
  if x.isNaN then x else if y.isNaN then y else if y.extended.lt x.extended then x else y

def minimum : List Double → Double
  | [] => zero false
  | x :: xs => xs.foldl least x

def maximum : List Double → Double
  | [] => zero false
  | x :: xs => xs.foldl greatest x

end Double

end LayoutAlgebra
