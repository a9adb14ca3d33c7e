import LayoutAlgebra.Proofs.Built
import LayoutAlgebra.Proofs.Meaning
set_option autoImplicit false

namespace LayoutAlgebra

inductive Combinator where
  | shift
  | scale
  | inverseScale
  | priority

namespace Combinator

def named (around : Surroundings) : Combinator → Value → Value → Fallible Value
  | shift => around.withOffset
  | scale => Value.withScale
  | inverseScale => around.withInverseScale
  | priority => Value.withPriority

def operator (around : Surroundings) : Combinator → Value → Value → Fallible Value
  | shift => around.add
  | scale => around.mul
  | inverseScale => around.div
  | priority => around.prioritize

def AppliesTo : Combinator → Value → Prop
  | shift, .edges _ _ | shift, .center _ _ => True
  | _, v => v.Built

-- The operands beside numbers that a combinator takes, or refuses in words of its own, where the operator has no form.
def isLenient : Combinator → Value → Value → Bool
  | shift, .linear _ _, .bool _ | shift, .linear _ _, .linear _ _ => true
  | scale, _, .bool _ | scale, _, .text _ _ => true
  | inverseScale, _, .bool _ => true
  | priority, _, x => x.scalar?.isNone
  | _, _, _ => false

end Combinator

inductive Value.Operand : Value → Prop where
  | number (mark : Mark) (n : Number) : Operand (.number mark n)
  | bool (b : Bool) : Operand (.bool b)
  | text (mark : Mark) (s : String) : Operand (.text mark s)
  | none : Operand .none
  | offset (mark : Mark) (o : Offset Value) : Operand (.offset mark o)
  | insets (mark : Mark) (i : Insets Value) : Operand (.insets mark i)
  | view (v : ViewId) : Operand (.view v)
  | built (v : Value) (built : v.Built) : Operand v
  | edges (mark : Mark) (e : Edges Value) : Operand (.edges mark e)
  | center (mark : Mark) (e : Center Value) : Operand (.center mark e)

-- Two attempts that come to the same: to one value, or to failures of one sort.
def Alike {α : Type} (first second : Fallible α) : Prop :=
  first.mapError Failure.category = second.mapError Failure.category

section

variable {α : Type} {first second : Fallible α}

theorem alike_of_eq (same : first = second) : Alike first second := congrArg (Except.mapError Failure.category) same

theorem unlike_of_ok {a : α} {failure : Failure} (done : first = .ok a) (refused : second = .error failure) :
    ¬ Alike first second := by
  rw [Alike, done, refused]
  intro same
  cases same

theorem unlike_of_category {failure other : Failure} (refused : first = .error failure)
    (refusedToo : second = .error other) (differ : failure.category ≠ other.category) : ¬ Alike first second := by
  rw [Alike, refused, refusedToo]
  intro same
  exact differ (Except.error.inj same)

end

variable (around : Surroundings) (mark : Mark) (e : Expression)

theorem shift_linear (x : Value) :
    around.withOffset (.linear mark e) x = (around.add e.constant x).map fun constant => .linear .new { e with constant } := by
  change (around.add e.constant x >>= fun constant => pure { e with constant }) >>= _ = _
  cases around.add e.constant x <;> rfl

theorem scale_linear (x : Value) :
    (Value.linear mark e).withScale x = x.asDouble.map fun multiplier => .linear .new { e with multiplier } := by
  change (x.asDouble >>= fun multiplier => pure { e with multiplier }) >>= _ = _
  cases x.asDouble <;> rfl

theorem inverse_scale_linear (x : Value) :
    around.withInverseScale (.linear mark e) x = do
      if ← around.equals x 0 then throw (.zeroDivisor (.linear mark e))
      else return .linear .new { e with multiplier := ← around.div e.multiplier x } := rfl

theorem sum_linear (other : Mark) (n : Number) :
    around.add (.linear mark e) (.number other n) =
      (e.constant.shifted false other n).map fun constant => .linear .new { e with constant } := by
  change e.constant.shifted false other n >>= _ = _
  cases e.constant.shifted false other n <;> rfl

theorem difference_linear (other : Mark) (n : Number) :
    around.sub (.linear mark e) (.number other n) =
      (e.constant.shifted true other n).map fun constant => .linear .new { e with constant } := by
  change e.constant.shifted true other n >>= _ = _
  cases e.constant.shifted true other n <;> rfl

theorem product_linear (other : Mark) (n : Number) :
    around.mul (.linear mark e) (.number other n) =
      (Value.number other n).asDouble.map fun multiplier => .linear .new { e with multiplier } := by
  change (Value.number other n).asDouble >>= _ = _
  cases (Value.number other n).asDouble <;> rfl

theorem quotient_linear (other : Mark) (n : Number) :
    around.div (.linear mark e) (.number other n) =
      if n.isZero then .error (.zeroDivisor (.linear mark e))
      else (e.multiplier.dividedBy n).map fun multiplier => .linear .new { e with multiplier } := by
  change (if n.isZero then .error (.zeroDivisor (.linear mark e)) else e.multiplier.dividedBy n >>= _) = _
  cases e.multiplier.dividedBy n <;> rfl

theorem computed_unlike {α β : Type} (result : Except ArithmeticFault α) (f : α → β) :
    ¬ Alike ((Fallible.ofArithmetic result).map f) (.error .wrongType) := by
  cases result with
  | ok a => exact unlike_of_ok rfl rfl
  | error fault => cases fault <;> exact unlike_of_category rfl rfl (by decide)

theorem map_map {α β γ : Type} (result : Fallible α) (f : α → β) (g : β → γ) :
    (result.map f).map g = result.map (g ∘ f) := by
  cases result <;> rfl

section

variable (v w : Value) (m n : Number) (left : v.number? = some m) (right : w.number? = some n)

include left right

theorem sum_computed : around.add v w = (Fallible.ofArithmetic (m.add n)).map (.number .new) :=
  (calculate_numbers around .add v w m n left right).trans (on_values_numbers .add v w m n left right)

theorem quotient_computed : around.div v w = (Fallible.ofArithmetic (m.div n)).map (.number .new) :=
  (calculate_numbers around .div v w m n left right).trans (on_values_numbers .div v w m n left right)

end

theorem as_double_read (v : Value) (other : v.scalar? = none) : v.asDouble = v.toDouble.map .double := by
  have read : v.asDouble = v.toDouble >>= fun x => pure (.double x) := by
    cases v with
    | number _ _ => cases other
    | _ => rfl
  rw [read]
  cases v.toDouble <;> rfl

theorem equals_zero (v : Value) (n : Number) (number : v.number? = some n) : around.equals v 0 = .ok n.isZero := by
  simp only [Surroundings.equals, equality_number around v n 0 number]
  rfl

variable {e} {x : Value}

theorem unequal_zero (operand : x.Operand) (other : x.number? = none) : around.equals x 0 = .ok false := by
  cases operand with
  | number _ _ | bool _ => cases other
  | none | view _ => rfl
  | text mark _ | offset mark _ | insets mark _ | edges mark _ | center mark _ => cases mark <;> rfl
  | built v built =>
      obtain ⟨o, ⟨mark, rfl⟩, _, _⟩ := built_expresses x built
      cases mark <;> rfl

theorem shift_agrees (numeric : e.Numeric) (operand : x.Operand) :
    Alike (around.withOffset (.linear mark e) x) (around.add (.linear mark e) x) ↔
      Combinator.shift.isLenient (.linear mark e) x = false := by
  obtain ⟨inner, c, offset⟩ := numeric.constant
  rw [shift_linear, offset]
  cases operand with
  | number other n => exact iff_of_true (alike_of_eq (by rw [sum_linear, offset]; rfl)) rfl
  | bool b =>
      rw [sum_computed around _ _ (.double c) (.ofBool b) rfl rfl, map_map]
      exact iff_of_false (computed_unlike _ _) Bool.noConfusion
  | built v built =>
      obtain ⟨o, ⟨other, rfl⟩, _, numericToo⟩ := built_expresses x built
      obtain ⟨k, d, offsetToo⟩ := numericToo.constant
      -- The expression on the right takes the offset of the one on the left as if it were a number added to it.
      have turned : around.add (.number inner (.double c)) (.linear other o) = _ :=
        sum_linear around other o inner (.double c)
      have moved : (Value.number k (.double d)).shifted false inner (.double c) = _ :=
        sum_computed around (.number k (.double d)) (.number inner (.double c)) _ _ rfl rfl
      rw [turned, offsetToo, moved, map_map, map_map]
      exact iff_of_false (computed_unlike _ _) Bool.noConfusion
  | _ => exact iff_of_true rfl rfl

theorem scale_agrees (operand : x.Operand) :
    Alike ((Value.linear mark e).withScale x) (around.mul (.linear mark e) x) ↔
      Combinator.scale.isLenient (.linear mark e) x = false := by
  rw [scale_linear]
  cases operand with
  | number other n => exact iff_of_true (alike_of_eq (product_linear around mark e other n).symm) rfl
  | bool b =>
      rw [as_double_read _ rfl, map_map]
      exact iff_of_false (computed_unlike _ _) Bool.noConfusion
  | text other s =>
      rw [as_double_read _ rfl, map_map, Value.toDouble]
      refine iff_of_false ?_ Bool.noConfusion
      cases Double.ofText? s with
      | some size => exact unlike_of_ok rfl rfl
      | none => exact unlike_of_category rfl rfl (by decide)
  | built v built =>
      obtain ⟨o, ⟨other, rfl⟩, _, _⟩ := built_expresses x built
      exact iff_of_true rfl rfl
  | _ => exact iff_of_true rfl rfl

theorem inverse_scale_agrees (numeric : e.Numeric) (operand : x.Operand) :
    Alike (around.withInverseScale (.linear mark e) x) (around.div (.linear mark e) x) ↔
      Combinator.inverseScale.isLenient (.linear mark e) x = false := by
  obtain ⟨inner, c, scale⟩ := numeric.multiplier
  rw [inverse_scale_linear, scale]
  cases operand with
  | number other n =>
      have divided : (Value.number inner (.double c)).dividedBy n = _ :=
        quotient_computed around (.number inner (.double c)) (.number other n) _ _ rfl rfl
      rw [equals_zero around _ n rfl, quotient_linear, scale, divided,
        quotient_computed around _ (.number other n) (.double c) n rfl rfl]
      refine iff_of_true (alike_of_eq ?_) rfl
      cases n.isZero with
      | true => rfl
      | false => cases Fallible.ofArithmetic ((Number.double c).div n) <;> rfl
  | bool b =>
      rw [equals_zero around _ (.ofBool b) rfl, quotient_computed around _ _ (.double c) (.ofBool b) rfl rfl]
      refine iff_of_false ?_ Bool.noConfusion
      cases (Number.ofBool b).isZero with
      | true => exact unlike_of_category rfl rfl (show Category.divisionByZero ≠ .wrongType by decide)
      | false =>
          cases (Number.double c).div (.ofBool b) with
          | ok _ => exact unlike_of_ok rfl rfl
          | error fault => cases fault <;> exact unlike_of_category rfl rfl (by decide)
  | built v built =>
      obtain ⟨o, ⟨other, rfl⟩, _, _⟩ := built_expresses x built
      rw [unequal_zero around (.built _ built) rfl]
      exact iff_of_true rfl rfl
  | none => exact iff_of_true rfl rfl
  | view _ => exact iff_of_true rfl rfl
  | text mark _ | offset mark _ | insets mark _ | edges mark _ | center mark _ => cases mark <;> exact iff_of_true rfl rfl

theorem priority_agrees (operand : x.Operand) :
    Alike ((Value.linear mark e).withPriority x) (around.prioritize (.linear mark e) x) ↔
      Combinator.priority.isLenient (.linear mark e) x = false := by
  cases operand with
  | number other n => exact iff_of_true rfl rfl
  | built v built =>
      obtain ⟨o, ⟨other, rfl⟩, _, _⟩ := built_expresses x built
      exact iff_of_false (unlike_of_ok rfl rfl) Bool.noConfusion
  | _ => exact iff_of_false (unlike_of_ok rfl rfl) Bool.noConfusion

-- Groups take the same from both: `offsetBy` looks at its operand itself.
theorem shift_edges_agrees (group : Edges Value) (operand : x.Operand) :
    Alike (around.withOffset (.edges mark group) x) (around.add (.edges mark group) x) := by
  cases operand with
  | built v built =>
      obtain ⟨o, ⟨other, rfl⟩, _, _⟩ := built_expresses x built
      rfl
  | _ => rfl

theorem shift_center_agrees (group : Center Value) (operand : x.Operand) :
    Alike (around.withOffset (.center mark group) x) (around.add (.center mark group) x) := by
  cases operand with
  | built v built =>
      obtain ⟨o, ⟨other, rfl⟩, _, _⟩ := built_expresses x built
      rfl
  | _ => rfl

/-- For every operand, a combinator and its operator come to the same expression or to failures of one sort, except where
the combinator is lenient: a truth value or an expression as an offset of an expression, a truth value or a text as its
scale, a truth value as its divisor, and anything but a number as its priority. -/
theorem combinators_stand_for_operators (around : Surroundings) (c : Combinator) (v x : Value) (applies : c.AppliesTo v)
    (operand : x.Operand) :
    Alike (c.named around v x) (c.operator around v x) ↔ c.isLenient v x = false := by
  have expression : v.Built → (Alike (c.named around v x) (c.operator around v x) ↔ c.isLenient v x = false) := by
    intro built
    obtain ⟨e, ⟨mark, rfl⟩, _, numeric⟩ := built_expresses v built
    cases c with
    | shift => exact shift_agrees around mark numeric operand
    | scale => exact scale_agrees around mark operand
    | inverseScale => exact inverse_scale_agrees around mark numeric operand
    | priority => exact priority_agrees around mark operand
  cases c with
  | shift =>
      cases v with
      | edges mark group => exact iff_of_true (shift_edges_agrees around mark group operand) rfl
      | center mark group => exact iff_of_true (shift_center_agrees around mark group operand) rfl
      | _ => exact expression applies
  | scale | inverseScale | priority => exact expression applies

def firstWidth : Value := (Accessor.length .width).read (.view 0)

theorem first_width_built : firstWidth.Built := .read 0 "width" (.length .width) (by decide) rfl

theorem width_shifted_by_number :
    Combinator.shift.AppliesTo firstWidth ∧ (Value.int 3).Operand ∧
      Alike (Combinator.shift.named Scene.empty.surroundings firstWidth (.int 3))
        (Combinator.shift.operator Scene.empty.surroundings firstWidth (.int 3)) ∧
      (Value.bool true).Operand ∧
      ¬ Alike (Combinator.scale.named Scene.empty.surroundings firstWidth (.bool true))
        (Combinator.scale.operator Scene.empty.surroundings firstWidth (.bool true)) :=
  ⟨first_width_built, .number _ _,
    (combinators_stand_for_operators _ .shift firstWidth (.int 3) first_width_built (.number _ _)).mpr rfl, .bool true,
    fun alike => Bool.noConfusion
      ((combinators_stand_for_operators _ .scale firstWidth (.bool true) first_width_built (.bool true)).mp alike)⟩

theorem width_shifted_by_truth :
    Combinator.shift.named Scene.empty.surroundings firstWidth (.bool true) =
        .ok (.linear .new { Linear.reading .length (.view 0) .width with constant := .double (.round 1) }) ∧
      Combinator.shift.operator Scene.empty.surroundings firstWidth (.bool true) = .error .wrongType := by
  have sum : (Number.double (.zero false)).add (.ofBool true) = .ok (.double (.round 1)) := by decide +kernel
  refine ⟨?_, rfl⟩
  change Scene.empty.surroundings.withOffset (.linear .new (.reading .length (.view 0) .width)) (.bool true) = _
  rw [shift_linear, sum_computed _ _ _ (.double (.zero false)) (.ofBool true) rfl rfl, sum]
  rfl

end LayoutAlgebra
