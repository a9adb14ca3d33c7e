import LayoutAlgebra.Number.Basic
import Mathlib.Algebra.Order.Field.Basic
import Mathlib.Algebra.Order.Field.Power
import Mathlib.Algebra.Order.Field.Rat
import Mathlib.Tactic.FieldSimp
import Mathlib.Tactic.Linarith
import Mathlib.Tactic.NormNum
import Mathlib.Tactic.Positivity
import Mathlib.Tactic.Ring
set_option autoImplicit false

namespace LayoutAlgebra

def IsDouble (q : Rat) : Prop := ∃ x : Double, x.extended = .rational q

theorem leading_bit_bounds (q : Rat) (positive : 0 < q) :
    (2 : Rat) ^ leadingBit q ≤ q ∧ q < (2 : Rat) ^ (leadingBit q + 1) := by
  have numerator : 0 < q.num := Rat.num_pos.mpr positive
  have denominator := q.den_pos
  have parts : q = (q.num.natAbs : Rat) / q.den := by
    rw [← Int.cast_natCast, Int.natAbs_of_nonneg numerator.le, Rat.num_div_den]
  have above : ∀ n : Nat, 0 < n → (2 : Rat) ^ (n.log2 : Int) ≤ n ∧ (n : Rat) < (2 : Rat) ^ ((n.log2 : Int) + 1) := by
    intro n some
    constructor
    · exact_mod_cast Nat.log2_self_le (Nat.ne_of_gt some)
    · exact_mod_cast Nat.lt_log2_self
  obtain ⟨lowNum, highNum⟩ := above q.num.natAbs (by omega)
  obtain ⟨lowDen, highDen⟩ := above q.den denominator
  have denPositive : (0 : Rat) < q.den := by exact_mod_cast denominator
  have split : ∀ i j : Int, (2 : Rat) ^ (i - j) = 2 ^ i / 2 ^ j := fun i j => zpow_sub₀ (by norm_num) i j
  unfold leadingBit
  simp only
  split
  · rename_i low
    refine ⟨low, ?_⟩
    rw [sub_add_eq_add_sub, split]
    calc
      q = (q.num.natAbs : Rat) / q.den := parts
      _ < 2 ^ ((q.num.natAbs.log2 : Int) + 1) / q.den := by gcongr
      _ ≤ 2 ^ ((q.num.natAbs.log2 : Int) + 1) / 2 ^ (q.den.log2 : Int) := by gcongr
  · rename_i high
    rw [sub_add_cancel]
    refine ⟨?_, not_le.mp high⟩
    rw [sub_sub, split]
    calc
      (2 : Rat) ^ (q.num.natAbs.log2 : Int) / 2 ^ ((q.den.log2 : Int) + 1) ≤
          q.num.natAbs / 2 ^ ((q.den.log2 : Int) + 1) := by
        gcongr
      _ ≤ (q.num.natAbs : Rat) / q.den := by gcongr
      _ = q := parts.symm

theorem nearest_int_of_nat (n : Nat) : nearestInt (n : Rat) = n := by
  have low : (n : Rat).floor = n := by exact_mod_cast Rat.floor_intCast n
  simp [nearestInt, low]

theorem magnitude_shifted (mantissa : Nat) (exponent e : Int) (smaller : e ≤ exponent) :
    Double.magnitude mantissa exponent / (2 : Rat) ^ e = (mantissa * 2 ^ (exponent - e).toNat : Nat) := by
  have difference : ((exponent - e).toNat : Int) = exponent - e := Int.toNat_of_nonneg (by omega)
  push_cast
  rw [Double.magnitude, mul_div_assoc, ← zpow_sub₀ (by norm_num), ← zpow_natCast, difference]

-- A magnitude with a canonical form has one at the exponent that rounding chooses.
theorem canonical_at_leading_bit (mantissa : Nat) (exponent bit : Int) (canonical : Canonical mantissa exponent)
    (low : (2 : Rat) ^ bit ≤ Double.magnitude mantissa exponent)
    (high : Double.magnitude mantissa exponent < (2 : Rat) ^ (bit + 1)) :
    ∃ n : Nat, Double.magnitude mantissa exponent / (2 : Rat) ^ max (bit - 52) (-1074) = n ∧
      Canonical n (max (bit - 52) (-1074)) := by
  obtain ⟨short, least, most, _⟩ := canonical
  have power : ∀ i j : Int, (2 : Rat) ^ i < 2 ^ j → i < j := fun i j less => (zpow_lt_zpow_iff_right₀ (by norm_num)).mp less
  have below : bit < 53 + exponent := by
    apply power
    calc
      (2 : Rat) ^ bit ≤ mantissa * 2 ^ exponent := low
      _ < (2 : Rat) ^ (53 : Int) * 2 ^ exponent := by
        gcongr
        exact_mod_cast short
      _ = 2 ^ (53 + exponent) := (zpow_add₀ (by norm_num) _ _).symm
  generalize chosen : max (bit - 52) (-1074) = e
  have smaller : e ≤ exponent := by omega
  have shift := magnitude_shifted mantissa exponent e smaller
  refine ⟨_, shift, ?_, by omega, by omega, ?_⟩
  · have bounded : ((mantissa * 2 ^ (exponent - e).toNat : Nat) : Rat) < 2 ^ (53 : Int) := by
      rw [← shift, div_lt_iff₀ (by positivity), ← zpow_add₀ (by norm_num)]
      exact high.trans_le (zpow_le_zpow_right₀ (by norm_num) (by omega))
    exact_mod_cast bounded
  · by_cases floor : e = -1074
    · exact .inr floor
    · have same : e = bit - 52 := by omega
      have filled : (2 : Rat) ^ (52 : Int) ≤ (mantissa * 2 ^ (exponent - e).toNat : Nat) := by
        rw [← shift, le_div_iff₀ (by positivity), ← zpow_add₀ (by norm_num)]
        exact (zpow_le_zpow_right₀ (by norm_num) (by omega)).trans low
      exact .inl (by exact_mod_cast filled)

theorem of_magnitude_exact (negative : Bool) (mantissa : Nat) (exponent : Int) (canonical : Canonical mantissa exponent) :
    (Double.ofMagnitude negative (Double.magnitude mantissa exponent)).extended =
      .rational (if negative then -Double.magnitude mantissa exponent else Double.magnitude mantissa exponent) := by
  by_cases none : mantissa = 0
  · subst none
    have zero : Double.magnitude 0 exponent = 0 := by simp [Double.magnitude]
    simp only [zero, Double.ofMagnitude, if_true]
    cases negative <;> simp [Double.zero, Double.extended, Double.magnitude]
  · have some : (0 : Rat) < mantissa := by exact_mod_cast Nat.pos_of_ne_zero none
    have positive : 0 < Double.magnitude mantissa exponent := by
      unfold Double.magnitude
      positivity
    obtain ⟨low, high⟩ := leading_bit_bounds _ positive
    obtain ⟨n, scaled, fits⟩ := canonical_at_leading_bit mantissa exponent _ canonical low high
    -- Nothing is cut off, so rounding carries nothing into the next exponent either.
    have notCarried : n ≠ mantissaLimit := Nat.ne_of_lt fits.1
    have back : Double.magnitude n (max (leadingBit (Double.magnitude mantissa exponent) - 52) (-1074)) =
        Double.magnitude mantissa exponent := by
      rw [Double.magnitude, ← scaled]
      exact div_mul_cancel₀ _ (by positivity)
    unfold Double.ofMagnitude
    simp only [if_neg (ne_of_gt positive), scaled, nearest_int_of_nat, Int.toNat_natCast, notCarried, if_false, fits,
      dif_pos, Double.extended, back]

theorem magnitude_nonneg (mantissa : Nat) (exponent : Int) : 0 ≤ Double.magnitude mantissa exponent := by
  unfold Double.magnitude
  positivity

theorem double_cases (x : Double) (q : Rat) (value : x.extended = .rational q) :
    ∃ negative mantissa exponent canonical, x = .finite negative mantissa exponent canonical ∧
      q = if negative then -Double.magnitude mantissa exponent else Double.magnitude mantissa exponent := by
  cases x with
  | nan => simp [Double.extended] at value
  | infinite negative => cases negative <;> simp [Double.extended] at value
  | finite negative mantissa exponent canonical =>
      exact ⟨negative, mantissa, exponent, canonical, rfl, (Extended.rational.inj value).symm⟩

theorem extended_neg (x : Double) : (-x).extended = x.extended.opposite := by
  cases x with
  | nan => rfl
  | infinite negative => cases negative <;> rfl
  | finite negative mantissa exponent canonical =>
      change (Double.finite (!negative) mantissa exponent canonical).extended = _
      cases negative <;> simp [Double.extended, Extended.opposite]

theorem of_magnitude_turned (negative : Bool) (q : Rat) :
    Double.ofMagnitude (!negative) q = -Double.ofMagnitude negative q := by
  unfold Double.ofMagnitude
  by_cases zero : q = 0
  · simp only [zero, if_true]
    rfl
  · simp only [zero, if_false]
    split <;> split <;> rfl

theorem of_magnitude_signed (negative : Bool) (q : Rat) (nonneg : 0 ≤ q) :
    (Double.ofMagnitude negative q).extended = (Double.round (if negative then -q else q)).extended := by
  unfold Double.round
  rcases nonneg.eq_or_lt with rfl | positive
  · cases negative <;> simp [Double.ofMagnitude, Double.zero, Double.extended, Double.magnitude]
  · cases negative
    · simp [not_lt.mpr nonneg, Rat.abs_of_nonneg nonneg]
    · simp [positive, Rat.abs_neg, Rat.abs_of_nonneg nonneg]

theorem round_neg (q : Rat) (some : q ≠ 0) : Double.round (-q) = -Double.round q := by
  unfold Double.round
  rw [← of_magnitude_turned, Rat.abs_neg]
  rcases lt_or_gt_of_ne some with below | above
  · have other : ¬ -q < 0 := by linarith
    simp [below, other]
  · have other : ¬ q < 0 := by linarith
    simp [above, other]

theorem is_double_neg (q : Rat) (double : IsDouble q) : IsDouble (-q) := by
  obtain ⟨x, value⟩ := double
  exact ⟨-x, by rw [extended_neg, value]; rfl⟩

theorem is_double_zero : IsDouble 0 := ⟨.zero false, by simp [Double.zero, Double.extended, Double.magnitude]⟩

theorem of_magnitude_double (negative : Bool) (q : Rat) (nonneg : 0 ≤ q) (double : IsDouble q) :
    (Double.ofMagnitude negative q).extended = .rational (if negative then -q else q) := by
  obtain ⟨x, value⟩ := double
  obtain ⟨below, mantissa, exponent, canonical, _, same⟩ := double_cases x q value
  have positive := magnitude_nonneg mantissa exponent
  have plain : q = Double.magnitude mantissa exponent := by
    cases below with
    | false => exact same
    | true =>
        simp only [if_true] at same
        linarith
  rw [plain]
  exact of_magnitude_exact negative mantissa exponent canonical

theorem round_exact (q : Rat) (double : IsDouble q) : (Double.round q).extended = .rational q := by
  unfold Double.round
  by_cases below : q < 0
  · rw [Rat.abs_of_nonpos below.le, of_magnitude_double _ _ (by linarith) (is_double_neg q double)]
    simp [below]
  · rw [Rat.abs_of_nonneg (not_lt.mp below), of_magnitude_double _ _ (not_lt.mp below) double]
    simp [below]

section

variable (x y : Double) (p q : Rat) (left : x.extended = .rational p) (right : y.extended = .rational q)
include left right

theorem sum_rounded : (x + y).extended = (Double.round (p + q)).extended := by
  obtain ⟨s, m, e, canonical, rfl, first⟩ := double_cases x p left
  obtain ⟨t, n, f, canonical', rfl, second⟩ := double_cases y q right
  change (Double.add _ _).extended = _
  simp only [Double.add, Double.toRat?, Option.getD_some, ← first, ← second]
  by_cases zero : p + q = 0
  · rw [if_pos zero, zero, round_exact 0 is_double_zero]
    cases s <;> cases t <;> simp [Double.zero, Double.extended, Double.magnitude]
  · rw [if_neg zero]

theorem difference_rounded : (x - y).extended = (Double.round (p - q)).extended := by
  have opposite : (-y).extended = .rational (-q) := by
    rw [extended_neg, right]
    rfl
  rw [sub_eq_add_neg]
  exact sum_rounded x (-y) p (-q) left opposite

theorem double_add (double : IsDouble (p + q)) : (x + y).extended = .rational (p + q) := by
  rw [sum_rounded x y p q left right]
  exact round_exact (p + q) double

theorem double_sub (double : IsDouble (p - q)) : (x - y).extended = .rational (p - q) := by
  rw [difference_rounded x y p q left right]
  exact round_exact (p - q) double

theorem product_rounded : (x * y).extended = (Double.round (p * q)).extended := by
  obtain ⟨s, m, e, canonical, rfl, first⟩ := double_cases x p left
  obtain ⟨t, n, f, canonical', rfl, second⟩ := double_cases y q right
  have signed : p * q = if s != t then -(Double.magnitude m e * Double.magnitude n f)
      else Double.magnitude m e * Double.magnitude n f := by
    rw [first, second]
    cases s <;> cases t <;> simp
  rw [signed, ← of_magnitude_signed _ _ (mul_nonneg (magnitude_nonneg m e) (magnitude_nonneg n f))]
  rfl

theorem quotient_rounded (some : q ≠ 0) : (x / y).extended = (Double.round (p / q)).extended := by
  obtain ⟨s, m, e, canonical, rfl, first⟩ := double_cases x p left
  obtain ⟨t, n, f, canonical', rfl, second⟩ := double_cases y q right
  have signed : p / q = if s != t then -(Double.magnitude m e / Double.magnitude n f)
      else Double.magnitude m e / Double.magnitude n f := by
    rw [first, second]
    cases s <;> cases t <;> simp [neg_div, div_neg]
  have nonzero : n ≠ 0 := by
    rintro rfl
    cases t <;> simp [Double.magnitude] at second <;> exact some second
  rw [signed, ← of_magnitude_signed _ _ (div_nonneg (magnitude_nonneg m e) (magnitude_nonneg n f))]
  change (Double.div _ _).extended = _
  simp only [Double.div, nonzero, if_false]

theorem double_mul (double : IsDouble (p * q)) : (x * y).extended = .rational (p * q) := by
  rw [product_rounded x y p q left right]
  exact round_exact (p * q) double

theorem double_div (some : q ≠ 0) (double : IsDouble (p / q)) : (x / y).extended = .rational (p / q) := by
  rw [quotient_rounded x y p q left right some]
  exact round_exact (p / q) double

end

end LayoutAlgebra
