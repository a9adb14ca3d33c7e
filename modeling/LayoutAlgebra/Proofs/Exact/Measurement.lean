import LayoutAlgebra.Proofs.Exact.Arithmetic
set_option autoImplicit false

/-!
Attributes measured in rationals. They are computed from the measures of a frame in the same way as the attributes of values,
by an arithmetic that keeps every number, or only those that are doubles. In the second one nothing is rounded, and there an
attribute has the value that is computed for it.
-/
namespace LayoutAlgebra

instance (q : Rat) : Decidable (IsDouble q) :=
  decidable_of_iff ((Double.round q).extended = .rational q) ⟨fun same => ⟨_, same⟩, round_exact q⟩

-- What becomes of a rational that is met or made: it is kept, or there is none.
abbrev Precision := Rat → Option Rat

namespace Precision

def exact : Precision := some

def double : Precision := fun q => if IsDouble q then some q else none

def ruler (keep : Precision) : Arithmetic Option Rat where
  zero := 0
  add p q := keep (p + q)
  sub p q := keep (p - q)
  half p := keep (p / 2)

@[simp] theorem exact_keeps (q : Rat) : exact q = some q := rfl

theorem double_iff (p q : Rat) : double p = some q ↔ p = q ∧ IsDouble q := by
  unfold double
  split
  · rename_i double
    simp only [Option.some.injEq]
    exact ⟨fun same => ⟨same, same ▸ double⟩, fun same => same.1⟩
  · rename_i other
    simp only [reduceCtorEq, false_iff, not_and]
    exact fun same double => other (same ▸ double)

end Precision

def Frame.measured (keep : Precision) (f : Frame Value) (what : Measure) : Option Rat :=
  (f.measure what).toOption.bind fun v => v.rational?.bind keep

def Table.measured (keep : Precision) (frames : Table) (element what : Value) : Option Rat :=
  if element.isKey then
    match frames.get? element, what with
    | some (.frame _ f), .attr attr => attr.resolve keep.ruler (f.measured keep)
    | _, _ => none
  else none

structure Refines {m : Type → Type} [Monad m] {α β : Type} (ops : Arithmetic m α) (target : Arithmetic Option β)
    (reads : α → β → Prop) : Prop where
  zero : reads ops.zero target.zero
  add : ∀ a b p q r, reads a p → reads b q → target.add p q = some r → ∃ c, ops.add a b = pure c ∧ reads c r
  sub : ∀ a b p q r, reads a p → reads b q → target.sub p q = some r → ∃ c, ops.sub a b = pure c ∧ reads c r
  half : ∀ a p r, reads a p → target.half p = some r → ∃ c, ops.half a = pure c ∧ reads c r

theorem resolve_refines {m : Type → Type} [Monad m] [LawfulMonad m] {α β : Type} (ops : Arithmetic m α)
    (target : Arithmetic Option β) (reads : α → β → Prop) (refines : Refines ops target reads) (measure : Measure → m α)
    (measured : Measure → Option β)
    (measures : ∀ what q, measured what = some q → ∃ a, measure what = pure a ∧ reads a q) (attr : Attribute) (q : β)
    (resolved : attr.resolve target measured = some q) : ∃ a, attr.resolve ops measure = pure a ∧ reads a q := by
  -- Each attribute takes the measures that it needs in its own order, and fails with the first that is missing.
  cases attr with
  | top | left | width | height => exact measures _ q resolved
  | topMargin | leftMargin | right | bottom =>
      simp only [Attribute.resolve, Option.bind_eq_bind, Option.bind_eq_some_iff] at resolved
      obtain ⟨p, first, r, second, sum⟩ := resolved
      obtain ⟨a, here, readsA⟩ := measures _ p first
      obtain ⟨b, there, readsB⟩ := measures _ r second
      simpa only [Attribute.resolve, here, there, pure_bind] using refines.add a b p r q readsA readsB sum
  | rightMargin | bottomMargin =>
      simp only [Attribute.resolve, Option.bind_eq_bind, Option.bind_eq_some_iff] at resolved
      obtain ⟨p, first, r, second, edge, sum, margin, third, difference⟩ := resolved
      obtain ⟨a, here, readsA⟩ := measures _ p first
      obtain ⟨b, there, readsB⟩ := measures _ r second
      obtain ⟨c, reached, readsC⟩ := refines.add a b p r edge readsA readsB sum
      obtain ⟨d, inside, readsD⟩ := measures _ margin third
      simpa only [Attribute.resolve, here, there, reached, inside, pure_bind] using
        refines.sub c d edge margin q readsC readsD difference
  | centerX | centerY =>
      simp only [Attribute.resolve, Option.bind_eq_bind, Option.bind_eq_some_iff] at resolved
      obtain ⟨p, first, r, second, part, half, sum⟩ := resolved
      obtain ⟨a, here, readsA⟩ := measures _ p first
      obtain ⟨b, there, readsB⟩ := measures _ r second
      obtain ⟨c, reached, readsC⟩ := refines.half b r part readsB half
      simpa only [Attribute.resolve, here, there, reached, pure_bind] using refines.add a c p part q readsA readsC sum
  | notAnAttribute =>
      refine ⟨ops.zero, rfl, ?_⟩
      rw [← Option.some.inj resolved]
      exact refines.zero

structure Follows {m : Type → Type} [Monad m] {α : Type} (ops : Arithmetic m α) (reads : α → Rat → Prop) : Prop where
  zero : reads ops.zero 0
  add : ∀ a b p q, reads a p → reads b q → IsDouble (p + q) → ∃ c, ops.add a b = pure c ∧ reads c (p + q)
  sub : ∀ a b p q, reads a p → reads b q → IsDouble (p - q) → ∃ c, ops.sub a b = pure c ∧ reads c (p - q)
  half : ∀ a p, reads a p → IsDouble (p / 2) → ∃ c, ops.half a = pure c ∧ reads c (p / 2)

theorem follows_refines {m : Type → Type} [Monad m] {α : Type} (ops : Arithmetic m α) (reads : α → Rat → Prop)
    (follows : Follows ops reads) : Refines ops Precision.double.ruler reads where
  zero := follows.zero
  add a b p q r left right kept := by
    obtain ⟨rfl, double⟩ := (Precision.double_iff _ _).mp kept
    exact follows.add a b p q left right double
  sub a b p q r left right kept := by
    obtain ⟨rfl, double⟩ := (Precision.double_iff _ _).mp kept
    exact follows.sub a b p q left right double
  half a p r left kept := by
    obtain ⟨rfl, double⟩ := (Precision.double_iff _ _).mp kept
    exact follows.half a p left double

theorem exact_follows : Follows Precision.exact.ruler fun p q => p = q where
  zero := rfl
  add _ _ p q left right _ := ⟨p + q, by rw [left, right]; rfl, rfl⟩
  sub _ _ p q left right _ := ⟨p - q, by rw [left, right]; rfl, rfl⟩
  half _ p left _ := ⟨p / 2, by rw [left]; rfl, rfl⟩

def Value.Reads (v : Value) (q : Rat) : Prop := v.rational? = some q ∧ IsDouble q

theorem reads_int (n : Int) (double : IsDouble n) : (Value.int n).Reads n :=
  ⟨rational_of_number .new (.int n) n rfl, double⟩

theorem calculate_reads (around : Surroundings) (op : Operation) (v w : Value) (p q : Rat) (divisor : op = .div → q ≠ 0)
    (left : v.Reads p) (right : w.Reads q) (double : IsDouble (op.onRationals p q)) :
    ∃ u, around.calculate op op.onValues v w = .ok u ∧ u.Reads (op.onRationals p q) := by
  obtain ⟨u, done, value⟩ := calculate_exact around op v w p q divisor left.1 right.1 left.2 right.2 double
  exact ⟨u, done, value, double⟩

theorem ruler_follows (around : Surroundings) : Follows around.ruler Value.Reads where
  zero := ⟨rational_of_number _ (.double (.zero false)) 0 (by decide +kernel), is_double_zero⟩
  add v w p q left right double := calculate_reads around .add v w p q (by simp) left right double
  sub v w p q left right double := calculate_reads around .sub v w p q (by simp) left right double
  half v p left double := calculate_reads around .div v (.int 2) p 2 (by simp) left (reads_int 2 (by decide +kernel)) double

theorem measured_iff (keep : Precision) (frames : Table) (element what : Value) (q : Rat) :
    frames.measured keep element what = some q ↔
      ∃ mark f attr, element.isKey = true ∧ frames.get? element = some (.frame mark f) ∧ what = .attr attr ∧
        attr.resolve keep.ruler (f.measured keep) = some q := by
  unfold Table.measured
  constructor
  · intro measured
    split at measured
    · rename_i key
      split at measured
      · rename_i mark f attr found
        exact ⟨mark, f, attr, key, found, rfl, measured⟩
      · simp at measured
    · simp at measured
  · rintro ⟨mark, f, attr, key, found, rfl, resolved⟩
    simp [key, found, resolved]

theorem frame_measured (f : Frame Value) (what : Measure) (q : Rat) (measured : f.measured .double what = some q) :
    ∃ v, f.measure what = .ok v ∧ v.Reads q := by
  simp only [Frame.measured, Option.bind_eq_some_iff] at measured
  obtain ⟨v, found, p, value, kept⟩ := measured
  obtain ⟨rfl, double⟩ := (Precision.double_iff _ _).mp kept
  cases read : f.measure what with
  | error failure => simp [read, Except.toOption] at found
  | ok w =>
      rw [read] at found
      exact ⟨w, rfl, Option.some.inj found ▸ value, double⟩

theorem measured_exact (frames : Table) (element what : Value) (q : Rat)
    (measured : frames.measured .double element what = some q) : frames.measured .exact element what = some q := by
  obtain ⟨mark, f, attr, key, found, rfl, resolved⟩ := (measured_iff .double frames element what q).mp measured
  have measures : ∀ part r, f.measured .double part = some r → ∃ p, f.measured .exact part = pure p ∧ p = r := by
    intro part r measured
    obtain ⟨v, read, value, _⟩ := frame_measured f part r measured
    refine ⟨r, ?_, rfl⟩
    simp only [Frame.measured, read, Except.toOption, Option.bind_some, value]
    rfl
  obtain ⟨p, exact, same⟩ := resolve_refines _ _ _ (follows_refines _ _ exact_follows) _ _ measures attr q resolved
  exact (measured_iff .exact frames element _ q).mpr ⟨mark, f, attr, key, found, rfl, same ▸ exact⟩

theorem measured_computed (around : Surroundings) (frames : Table) (element what : Value) (q : Rat)
    (measured : frames.measured .double element what = some q) :
    ∃ v, frames.attributeValue around element what = .ok v ∧ v.Reads q := by
  obtain ⟨mark, f, attr, key, found, rfl, resolved⟩ := (measured_iff .double frames element what q).mp measured
  obtain ⟨v, computed, reads⟩ := resolve_refines _ _ _ (follows_refines _ _ (ruler_follows around))
    f.measure _ (frame_measured f) attr q resolved
  refine ⟨v, ?_, reads⟩
  simp only [Table.attributeValue, key, found, if_true, Frame.value, Frame.attributeValue, computed]
  rfl

end LayoutAlgebra
