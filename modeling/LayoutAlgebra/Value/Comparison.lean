import LayoutAlgebra.Surroundings
import LayoutAlgebra.Value.Operator
set_option autoImplicit false

namespace LayoutAlgebra

def literalOf (size : Value) : Expression :=
  { kind := .length, element := .none, attr := .attr .notAnAttribute, constant := size, multiplier := .noScale,
    priority := .none }

def proportionOf (element size : Value) : Expression :=
  { kind := .ratio, element, attr := .attr .height, constant := .noOffset, multiplier := size, priority := .none }

-- What `other` stands for beside `e`: an expression of the same kind is itself, a number is a literal length or a
-- proportion of the same element, and anything else is nothing.
def Linear.coerce (e : Expression) (other : Value) : Fallible (Option Value) :=
  match e.kind, other with
  | .length, .number _ _ => do return some (.linear .new (literalOf (← other.asDouble)))
  | .ratio, .number _ _ => do return some (.linear .new (proportionOf e.element (← other.asDouble)))
  | _, .linear _ o => .ok (if o.kind = e.kind then some other else none)
  | _, _ => .ok none

inductive Verdict where
  | settled (holds : Bool)
  | entrywise (places : Grid Bool)
  | awaiting (r : Relationship Value)

namespace Verdict

def toValue : Verdict → Value
  | .settled holds => .bool holds
  | .entrywise places => .ofTruths places
  | .awaiting r => .relationship .new r

def truth : Verdict → Fallible Bool
  | .settled holds => .ok holds
  | .entrywise places => Surroundings.settled places
  | .awaiting _ => .error .noTruth

end Verdict

namespace Comparison

def onText : Comparison → String → String → Bool
  | .le, s, t => !decide (t < s)
  | .ge, s, t => !decide (s < t)
  | .lt, s, t => decide (s < t)
  | .gt, s, t => decide (t < s)

def onLengths : Comparison → Nat → Nat → Bool
  | .le, m, n => m ≤ n
  | .ge, m, n => n ≤ m
  | .lt, m, n => m < n
  | .gt, m, n => n < m

def relation? : Comparison → Option Relation
  | .le => some .lessOrEqual
  | .ge => some .greaterOrEqual
  | .lt | .gt => none

end Comparison

-- Whether a comparison holds at each place. Entries that are text are not in order with others.
def Cells.compare (c : Comparison) (holds : Value → Value → Fallible Bool) (a b : Cells Value) : Fallible (Grid Bool) :=
  if a.kind.isIntegral && b.kind.isIntegral then do
    return (← a.asWholes.paired b.asWholes).map fun (m, n) => c.holds (.rational m) (.rational n)
  else match a.kind.join b.kind with
  | .double => do return (← a.asDoubles.paired b.asDoubles).map fun (x, y) => c.holds x.extended y.extended
  | .text => .error .noEntryOperation
  | _ => do (← a.values.paired b.values).mapM fun (v, w) => holds v w

namespace Value

-- A comparison with an expression on one side: the side that is one looks for the other side's place beside it, the
-- left first and then the right with the relation turned round.
def related (c : Comparison) (a b : Value) : Fallible Verdict :=
  match c.relation? with
  | .none => .error .wrongType
  | some sign => do
    let fromLeft ← match a with
      | .linear _ e => e.coerce b
      | _ => pure Option.none
    match fromLeft, b with
    | some rhs, _ => return .awaiting ⟨a, rhs, .relation sign⟩
    | .none, .linear _ e =>
      match ← e.coerce a with
      | some rhs => return .awaiting ⟨b, rhs, .relation sign.mirrored⟩
      | .none => throw .wrongType
    | .none, _ => throw .wrongType

def comparePlain (c : Comparison) (a b : Value) : Fallible Verdict :=
  match a, b with
  | .text _ s, .text _ t => .ok (.settled (c.onText s t))
  | a, b =>
    match a.number?, b.number? with
    | some m, some n => .ok (.settled (c.holds m.extended n.extended))
    | _, _ => related c a b

end Value

namespace Surroundings

def difference? (around : Surroundings) : List Value → List Value → Fallible (Option (Value × Value))
  | x :: xs, y :: ys => do if ← around.same x y then difference? around xs ys else return some (x, y)
  | _, _ => .ok none

def compareTo (around : Surroundings) (c : Comparison) : Nat → Value → Value → Fallible Verdict
  | 0, _, _ => .error .endless
  | depth + 1, a, b =>
    match around.betweenCells .comparison (Cells.compare c fun v w => do (← compareTo around c depth v w).truth) a b with
    | some places => do return .entrywise (← places)
    | none =>
      match around.opened a, around.opened b with
      | .list _ xs, .list _ ys | .tuple _ xs, .tuple _ ys => do
        match ← around.difference? xs ys with
        | some (x, y) => compareTo around c depth x y
        | none => return .settled (c.onLengths xs.length ys.length)
      | a, b => Value.comparePlain c a b

def equality (around : Surroundings) (wanted : Bool) (a b : Value) : Fallible Verdict :=
  match around.equalPlaces? a b with
  | some places => do return .entrywise ((← places).map (· == wanted))
  | none => do return .settled ((← around.equal a b) == wanted)

def equals (around : Surroundings) (v : Value) (n : Int) : Fallible Bool := do
  (← around.equality true v (.int n)).truth

def compare (around : Surroundings) (c : Comparison) (a b : Value) : Fallible Verdict := around.compareTo c depth a b

-- `a <= b <= c`: the second comparison is made, and is the result, only if the first one settles as true.
def chain (around : Surroundings) (a b c : Value) : Fallible Verdict := do
  let first ← around.compare .le a b
  if ← first.truth then around.compare .le b c else return first

def lesser (around : Surroundings) (a b : Value) : Fallible Value := do
  let below ← around.compare .lt b a
  return if ← below.truth then b else a

def greater (around : Surroundings) (a b : Value) : Fallible Value := do
  let above ← around.compare .gt b a
  return if ← above.truth then b else a

end Surroundings

end LayoutAlgebra
