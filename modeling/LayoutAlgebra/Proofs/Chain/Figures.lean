import LayoutAlgebra.Number.Basic
import LayoutAlgebra.Proofs.Built
import LayoutAlgebra.Proofs.Exact.Place
import Mathlib.Data.List.DropRight
set_option autoImplicit false

/-!
What a chain of operators with numbers does to the numbers of an expression. Offsets accumulate, a factor takes the place of
the scale before it, a divisor divides the scale, and a priority takes the place of the one before it. The three do not touch
each other: what is left at the end is told by the offsets, by the divisors after the last factor and by the last priority.
-/
namespace LayoutAlgebra

structure Amount where
  mark : Mark
  number : Number
  size : Double
  fits : number.toDouble = .ok size
  finite : size.isFinite = true

deriving instance DecidableEq for Transform

structure Step where
  transform : Transform
  amount : Amount

inductive Scaling (α : Type) where
  | factor (size : α)
  | divisor (size : α)

namespace Scaling

variable {α β : Type}

def size : Scaling α → α
  | factor x | divisor x => x

def isDivisor : Scaling α → Bool
  | factor _ => false
  | divisor _ => true

def map (f : α → β) : Scaling α → Scaling β
  | factor x => .factor (f x)
  | divisor x => .divisor (f x)

def on (divided : α → α → α) (scale : α) : Scaling α → α
  | factor x => x
  | divisor x => divided scale x

-- The last factor, or the scale before all of them, divided in order by the divisors that come after it.
def settle (scale : Double) (scalings : List (Scaling Double)) : Double :=
  let last := (scalings.filter fun scaling => !scaling.isDivisor).getLast?
  ((scalings.rtakeWhile isDivisor).map size).foldl (· / ·) ((last.map size).getD scale)

end Scaling

namespace Step

def DividesByZero (step : Step) : Prop := step.transform = .divided ∧ step.amount.number.isZero = true

instance (step : Step) : Decidable step.DividesByZero := inferInstanceAs (Decidable (_ ∧ _))

def offset? (step : Step) : Option Double :=
  match step.transform with
  | .plus | .plusAfter => some step.amount.size
  | .minus => some (-step.amount.size)
  | .times | .timesAfter | .divided | .prioritized => none

def scaling? (step : Step) : Option (Scaling Double) :=
  match step.transform with
  | .times | .timesAfter => some (.factor step.amount.size)
  | .divided => some (.divisor step.amount.size)
  | .plus | .plusAfter | .minus | .prioritized => none

def priority? (step : Step) : Option Number :=
  match step.transform with
  | .prioritized => some step.amount.number
  | .plus | .plusAfter | .minus | .times | .timesAfter | .divided => none

end Step

structure Interleaved (steps others : List Step) : Prop where
  offsets : (steps.filterMap Step.offset?).map Double.extended = (others.filterMap Step.offset?).map Double.extended
  scalings : (steps.filterMap Step.scaling?).map (Scaling.map Double.extended) =
    (others.filterMap Step.scaling?).map (Scaling.map Double.extended)
  priorities : (steps.filterMap Step.priority?).map Number.extended = (others.filterMap Step.priority?).map Number.extended

structure Figures where
  offset : Double
  scale : Double
  priority : Option Number
deriving DecidableEq

namespace Figures

def after (figures : Figures) (step : Step) : Figures where
  offset := step.offset?.elim figures.offset (figures.offset + ·)
  scale := step.scaling?.elim figures.scale (Scaling.on (· / ·) figures.scale)
  priority := step.priority?.or figures.priority

def through (figures : Figures) (steps : List Step) : Figures where
  offset := .accumulate figures.offset (steps.filterMap Step.offset?)
  scale := Scaling.settle figures.scale (steps.filterMap Step.scaling?)
  priority := (steps.filterMap Step.priority?).getLast?.or figures.priority

structure Sound (figures : Figures) : Prop where
  offset : figures.offset.extended ≠ .undefined
  scale : figures.scale.extended ≠ .undefined
  priority : ∀ n, figures.priority = some n → ∃ x, n.toDouble = .ok x ∧ x.isFinite = true

structure Same (figures others : Figures) : Prop where
  offset : figures.offset.extended = others.offset.extended
  scale : figures.scale.extended = others.scale.extended
  priority : figures.priority.map Number.extended = others.priority.map Number.extended

end Figures

-- Induction from the end of the list, where the last scaling decides.
theorem settle_folds (scale : Double) (scalings : List (Scaling Double)) :
    Scaling.settle scale scalings = scalings.foldl (Scaling.on (· / ·)) scale := by
  induction scalings using List.reverseRecOn with
  | nil => rfl
  | append_singleton scalings scaling ih =>
      rw [List.foldl_append, ← ih]
      unfold Scaling.settle
      cases scaling with
      | factor x => simp [List.rtakeWhile_concat_neg, Scaling.isDivisor, Scaling.size, Scaling.on]
      | divisor x =>
          rw [List.rtakeWhile_concat_pos _ _ _ rfl, List.map_append, List.foldl_append, List.filter_append]
          simp [Scaling.isDivisor, Scaling.size, Scaling.on]

theorem through_cons (figures : Figures) (step : Step) (rest : List Step) :
    figures.through (step :: rest) = (figures.after step).through rest := by
  unfold Figures.through Figures.after
  simp only [settle_folds, List.filterMap_cons, Figures.mk.injEq]
  refine ⟨?_, ?_, ?_⟩
  · cases step.offset? <;> rfl
  · cases step.scaling? <;> rfl
  · cases step.priority? with
    | none => rfl
    | some n => simp [List.getLast?_cons]

theorem amount_zero_iff (amount : Amount) : amount.number.isZero = true ↔ amount.size.extended = .rational 0 :=
  zero_place_iff amount.number amount.size amount.fits

theorem after_sound (figures : Figures) (step : Step) (sound : figures.Sound) (safe : ¬ step.DividesByZero) :
    (figures.after step).Sound := by
  obtain ⟨transform, amount⟩ := step
  obtain ⟨q, place⟩ := finite_place amount.size amount.finite
  cases transform with
  | plus | plusAfter =>
      refine ⟨?_, sound.scale, sound.priority⟩
      change (figures.offset + amount.size).extended ≠ _
      rw [sum_place, place]
      exact sum_defined _ q sound.offset
  | minus =>
      refine ⟨?_, sound.scale, sound.priority⟩
      change (figures.offset + -amount.size).extended ≠ _
      rw [sum_place, extended_neg, place]
      exact sum_defined _ (-q) sound.offset
  | times | timesAfter => exact ⟨sound.offset, by simp [Figures.after, Step.scaling?, Scaling.on, place], sound.priority⟩
  | divided =>
      refine ⟨sound.offset, ?_, sound.priority⟩
      have some : amount.size.extended ≠ .rational 0 := fun zero => safe ⟨rfl, (amount_zero_iff amount).mpr zero⟩
      change (figures.scale / amount.size).extended ≠ _
      rw [quotient_place _ _ some, place]
      exact quotient_defined _ q sound.scale
  | prioritized =>
      refine ⟨sound.offset, sound.scale, fun n given => ?_⟩
      obtain rfl := Option.some.inj given
      exact ⟨amount.size, amount.fits, amount.finite⟩

theorem through_sound (figures : Figures) (steps : List Step) (sound : figures.Sound)
    (safe : ∀ step ∈ steps, ¬ step.DividesByZero) : (figures.through steps).Sound := by
  induction steps generalizing figures with
  | nil => exact sound
  | cons step rest ih =>
      rw [through_cons]
      exact ih _ (after_sound figures step sound (safe step (by simp))) fun later member => safe later (by simp [member])

theorem offset_place (start : Double) (xs : List Double) :
    (Double.accumulate start xs).extended = (xs.map Double.extended).foldl Extended.sum start.extended := by
  rw [List.foldl_map]
  exact (List.foldl_hom Double.extended fun x y => (sum_place x y).symm).symm

theorem scale_place (start : Double) (scalings : List (Scaling Double))
    (safe : .divisor (.rational 0) ∉ scalings.map (Scaling.map Double.extended)) :
    (Scaling.settle start scalings).extended =
      (scalings.map (Scaling.map Double.extended)).foldl (Scaling.on Extended.quotient) start.extended := by
  rw [settle_folds]
  induction scalings generalizing start with
  | nil => rfl
  | cons scaling rest ih =>
      simp only [List.map_cons, List.mem_cons, not_or] at safe
      have one : (Scaling.on (· / ·) start scaling).extended =
          Scaling.on Extended.quotient start.extended (scaling.map Double.extended) := by
        cases scaling with
        | factor x => rfl
        | divisor x => exact quotient_place start x fun zero => safe.1 (congrArg Scaling.divisor zero.symm)
      rw [List.map_cons, List.foldl_cons, List.foldl_cons, ih _ safe.2, one]

theorem divides_by_zero_iff (step : Step) :
    step.DividesByZero ↔ step.scaling?.map (Scaling.map Double.extended) = some (.divisor (.rational 0)) := by
  obtain ⟨transform, amount⟩ := step
  cases transform <;> simp [Step.DividesByZero, Step.scaling?, Scaling.map, amount_zero_iff]

theorem some_by_zero_iff (steps : List Step) : (∃ step ∈ steps, step.DividesByZero) ↔
    .divisor (.rational 0) ∈ (steps.filterMap Step.scaling?).map (Scaling.map Double.extended) := by
  simp [divides_by_zero_iff, List.map_filterMap]

theorem interleaved_safe (steps others : List Step) (same : Interleaved steps others)
    (safe : ∀ step ∈ steps, ¬ step.DividesByZero) : ∀ step ∈ others, ¬ step.DividesByZero := by
  intro step member stops
  have zero := (some_by_zero_iff others).mp ⟨step, member, stops⟩
  rw [← same.scalings, ← some_by_zero_iff] at zero
  obtain ⟨earlier, present, stopsToo⟩ := zero
  exact safe earlier present stopsToo

theorem through_same (figures : Figures) (steps others : List Step) (same : Interleaved steps others)
    (safe : ∀ step ∈ steps, ¬ step.DividesByZero) : (figures.through steps).Same (figures.through others) where
  offset := by
    unfold Figures.through
    rw [offset_place, offset_place, same.offsets]
  scale := by
    have some : Scaling.divisor (.rational 0) ∉ (steps.filterMap Step.scaling?).map (Scaling.map Double.extended) := by
      intro zero
      obtain ⟨step, member, stops⟩ := (some_by_zero_iff steps).mpr zero
      exact safe step member stops
    unfold Figures.through
    rw [scale_place _ _ some, scale_place _ _ (same.scalings ▸ some), same.scalings]
  priority := by
    unfold Figures.through
    rw [Option.map_or, Option.map_or, ← List.getLast?_map, ← List.getLast?_map, same.priorities]

end LayoutAlgebra
