import LayoutAlgebra.Proofs.Exact.Order
set_option autoImplicit false

namespace LayoutAlgebra

namespace Extended

def sum : Extended → Extended → Extended
  | .undefined, _ | _, .undefined => .undefined
  | .bottom, .top | .top, .bottom => .undefined
  | .rational p, .rational q => (Double.round (p + q)).extended
  | .bottom, _ | _, .bottom => .bottom
  | .top, _ | _, .top => .top

def quotient : Extended → Extended → Extended
  | .undefined, _ | _, .undefined => .undefined
  | .rational p, .rational q => (Double.round (p / q)).extended
  | .rational _, _ => .rational 0
  | x, .rational q => if q < 0 then x.opposite else x
  | _, _ => .undefined

end Extended

theorem sum_place (x y : Double) : (x + y).extended = x.extended.sum y.extended := by
  cases x with
  | nan => rfl
  | infinite s =>
      cases y with
      | nan => cases s <;> rfl
      | infinite t => cases s <;> cases t <;> rfl
      | finite t n f canonical => cases s <;> rfl
  | finite s m e canonical =>
      cases y with
      | nan => rfl
      | infinite t => cases t <;> rfl
      | finite t n f canonical' => exact sum_rounded _ _ _ _ rfl rfl

theorem quotient_place (x y : Double) (some : y.extended ≠ .rational 0) :
    (x / y).extended = x.extended.quotient y.extended := by
  cases x with
  | nan => rfl
  | infinite s =>
      cases y with
      | nan => cases s <;> rfl
      | infinite t => cases s <;> cases t <;> rfl
      | finite t n f canonical =>
          have nonneg := magnitude_nonneg n f
          have positive : 0 < Double.magnitude n f := by
            refine lt_of_le_of_ne nonneg fun zero => some ?_
            simp [Double.extended, ← zero]
          change (Double.infinite (s != t)).extended = _
          cases s <;> cases t <;> simp [Double.extended, Extended.quotient, Extended.opposite, positive, nonneg]
  | finite s m e canonical =>
      cases y with
      | nan => rfl
      | infinite t =>
          change (Double.zero (s != t)).extended = _
          cases s <;> cases t <;> simp [Double.zero, Double.extended, Extended.quotient, Double.magnitude]
      | finite t n f canonical' => exact quotient_rounded _ _ _ _ rfl rfl fun zero => some (congrArg Extended.rational zero)

theorem sum_defined (place : Extended) (q : Rat) (defined : place ≠ .undefined) : place.sum (.rational q) ≠ .undefined := by
  cases place with
  | undefined => exact absurd rfl defined
  | rational p => exact round_defined (p + q)
  | bottom | top => exact Extended.noConfusion

theorem quotient_defined (place : Extended) (q : Rat) (defined : place ≠ .undefined) :
    place.quotient (.rational q) ≠ .undefined := by
  cases place with
  | undefined => exact absurd rfl defined
  | rational p => exact round_defined (p / q)
  | bottom | top =>
      change (if q < 0 then _ else _) ≠ _
      split <;> exact Extended.noConfusion

theorem finite_place (x : Double) (finite : x.isFinite = true) : ∃ q, x.extended = .rational q := by
  cases x with
  | nan | infinite _ => cases finite
  | finite _ _ _ _ => exact ⟨_, rfl⟩

section

variable (n : Number) (x : Double) (fits : n.toDouble = .ok x)
include fits

theorem zero_place_iff : n.isZero = true ↔ x.extended = .rational 0 := by
  have same : n.isZero = true ↔ n.extended = .rational 0 := by
    constructor
    · intro both
      obtain ⟨below, above⟩ := (Bool.and_eq_true _ _).mp both
      exact extended_le_antisymm _ _ below above
    · intro zero
      unfold Number.isZero Number.equals
      rw [zero]
      rfl
  rw [same, to_double_rounded n x fits]
  cases n with
  | double y =>
      obtain rfl := Except.ok.inj fits
      rw [← to_double_rounded (.double y) y rfl]
      rfl
  | int k =>
      obtain ⟨j, one⟩ := double_in_ticks (Double.round 1) 1 (by decide +kernel)
      have whole : (k : Rat) = ((k * j : Int) : Rat) * Double.tick := by
        push_cast
        rw [mul_assoc, ← one, mul_one]
      constructor
      · intro zero
        exact (congrArg Extended.rounded zero).trans (round_exact 0 is_double_zero)
      · intro zero
        have below := (round_nonpos_iff k _ whole).mp (by rw [show (Double.round k).extended = _ from zero]; rfl)
        have above := (round_nonneg_iff k _ whole).mp (by rw [show (Double.round k).extended = _ from zero]; rfl)
        exact congrArg Extended.rational (le_antisymm below above)

end

theorem whole_bounded (k : Int) (x : Double) (fits : (Number.int k).toDouble = .ok x) (limit : Nat)
    (beyond : (Double.round limit).extended = .top) : k.natAbs < limit := by
  have finite : (Double.round k).isFinite = true := by
    unfold Number.toDouble at fits
    by_contra endless
    simp [endless] at fits
  obtain ⟨q, place⟩ := finite_place _ finite
  have some : (limit : Rat) ≠ 0 := by
    intro zero
    rw [zero, round_exact 0 is_double_zero] at beyond
    cases beyond
  have beneath : (Double.round (-limit)).extended = .bottom := by
    rw [round_neg _ some, extended_neg, beyond]
    rfl
  have above : k < limit := by
    by_contra large
    have ordered := round_mono limit k (by exact_mod_cast not_lt.mp large)
    rw [beyond, place] at ordered
    cases ordered
  have below : -limit < k := by
    by_contra large
    have ordered := round_mono k (-limit) (by exact_mod_cast not_lt.mp large)
    rw [beneath, place] at ordered
    cases ordered
  omega

end LayoutAlgebra
