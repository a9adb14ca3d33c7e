import LayoutAlgebra.Proofs.Exact.Arithmetic
import LayoutAlgebra.Proofs.Exact.Order
set_option autoImplicit false

namespace LayoutAlgebra

def Value.Matches (follow : Value → Value → Fallible Bool) (a b : Value) : Prop :=
  Value.orIdentical a b (a.agree follow b) = .ok true

variable (follow : Value → Value → Fallible Bool)

theorem alike_of_agree (a b : Value) (agree : a.agree follow b = .ok true) :
    Value.orIdentical a b (a.agree follow b) = .ok true := by
  unfold Value.orIdentical
  split
  · rfl
  · exact agree

theorem numbers_agree (a b : Value) (m n : Number) (left : a.number? = some m) (right : b.number? = some n)
    (same : m.extended = n.extended) (defined : n.extended ≠ .undefined) : a.agree follow b = .ok true := by
  have equal : m.equals n = true := by
    rw [Number.equals, Extended.same, same, extended_le_refl _ defined]
    rfl
  rcases number_cases a m left with ⟨_, rfl⟩ | ⟨p, rfl, rfl⟩ <;>
    rcases number_cases b n right with ⟨_, rfl⟩ | ⟨q, rfl, rfl⟩
  · exact congrArg Except.ok equal
  · exact congrArg Except.ok equal
  · exact congrArg Except.ok equal
  · have one : (p == q) = true := by
      revert equal
      cases p <;> cases q <;> decide +kernel
    exact congrArg Except.ok one

theorem none_matches : Value.Matches follow .none .none := by simp [Value.Matches, Value.orIdentical, Value.identical]

theorem view_matches (v : ViewId) : Value.Matches follow (.view v) (.view v) := by
  simp [Value.Matches, Value.orIdentical, Value.identical]

theorem attribute_matches (a : Attribute) : Value.Matches follow (.attr a) (.attr a) := by
  simp [Value.Matches, Value.orIdentical, Value.identical]

theorem numbers_match (a b : Value) (m n : Number) (left : a.number? = some m) (right : b.number? = some n)
    (same : m.extended = n.extended) (defined : n.extended ≠ .undefined) : a.Matches follow b :=
  alike_of_agree follow a b (numbers_agree follow a b m n left right same defined)

theorem expressions_agree (first second : Mark) (e o : Expression) (kind : e.kind = o.kind)
    (element : e.element.Matches follow o.element) (attr : e.attr.Matches follow o.attr)
    (constant : e.constant.Matches follow o.constant) (multiplier : e.multiplier.Matches follow o.multiplier)
    (priority : e.priority.Matches follow o.priority) :
    (Value.linear first e).agree follow (.linear second o) = .ok true := by
  have compared : (Value.linear first e).agree follow (.linear second o) =
      if e.kind == o.kind then
        (Value.orIdentical e.element o.element (e.element.agree follow o.element)).and <|
        (Value.orIdentical e.attr o.attr (e.attr.agree follow o.attr)).and <|
        (Value.orIdentical e.constant o.constant (e.constant.agree follow o.constant)).and <|
        (Value.orIdentical e.multiplier o.multiplier (e.multiplier.agree follow o.multiplier)).and <|
        Value.orIdentical e.priority o.priority (e.priority.agree follow o.priority)
      else .ok false := rfl
  unfold Value.Matches at element attr constant multiplier priority
  rw [compared, element, attr, constant, multiplier, priority, if_pos (beq_iff_eq.mpr kind)]
  rfl

end LayoutAlgebra
