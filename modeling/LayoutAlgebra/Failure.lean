import LayoutAlgebra.Value
set_option autoImplicit false

namespace LayoutAlgebra

inductive Failure where
  | unbound
  | wrongType
  | wrongContent
  | noMember
  | noKey
  | noIndex
  | noMemory
  | noEntryOperation
  | endless
  | arithmetic (fault : ArithmeticFault)
  | noTruth
  | zeroDivisor (e : Value)
  | zeroRatio (numerator denominator : Value)
  | unrelatable (lhs : Value)
  | unrelated (lhs rhs : Value)
  | kindMismatch (lhs rhs : Kind)
  | twoLiterals
  | disjoint (a b : Value)
  | literalAttribute (attr : Value)
  | notLength (a : Attribute)
  | positionWithoutElement
  | notPosition (a : Attribute)
  | ratioWithoutElement
  | ratioNotHeight
  | edgesOffset (amount : Value)
  | centerOffset (amount : Value)
  | edgesExpected (got : Value)
  | centerExpected (got : Value)
  | boundsCrossed (low high : Value)
  | outsideBounds (what low high got : Value)
  | negativeMargin (got : Value)
  | cycle (child parent : Value)
  | noFrame (element : Value)

inductive Category where
  | unbound
  | wrongType
  | wrongContent
  | noMember
  | noKey
  | noIndex
  | noMemory
  | noEntryOperation
  | endless
  | overflow
  | zeroDivision
  | underspecified
  | disjoint
  | divisionByZero
  | invalidPriority
deriving DecidableEq

def Failure.category : Failure → Category
  | .unbound => .unbound
  | .wrongType | .noTruth | .unrelatable _ | .unrelated _ _ | .kindMismatch _ _ | .edgesOffset _ | .centerOffset _
  | .edgesExpected _ | .centerExpected _ => .wrongType
  | .wrongContent | .literalAttribute _ | .notLength _ | .positionWithoutElement | .notPosition _ | .ratioWithoutElement
  | .ratioNotHeight | .negativeMargin _ | .cycle _ _ => .wrongContent
  | .noMember => .noMember
  | .noKey | .noFrame _ => .noKey
  | .noIndex => .noIndex
  | .noMemory => .noMemory
  | .noEntryOperation => .noEntryOperation
  | .endless => .endless
  | .arithmetic .overflow => .overflow
  | .arithmetic .zeroDivision => .zeroDivision
  | .zeroDivisor _ | .zeroRatio _ _ => .divisionByZero
  | .twoLiterals => .underspecified
  | .disjoint _ _ => .disjoint
  | .boundsCrossed _ _ | .outsideBounds _ _ _ _ => .invalidPriority

abbrev Fallible := Except Failure

namespace Fallible

def ofArithmetic {α : Type} : Except ArithmeticFault α → Fallible α
  | .ok a => .ok a
  | .error fault => .error (.arithmetic fault)

-- The second answer counts only if the first one is yes.
@[macro_inline]
def and (first second : Fallible Bool) : Fallible Bool :=
  match first with
  | .ok true => second
  | .ok false => .ok false
  | .error failure => .error failure

end Fallible

end LayoutAlgebra
