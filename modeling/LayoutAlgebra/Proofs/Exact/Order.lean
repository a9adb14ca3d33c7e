import LayoutAlgebra.Proofs.Exact.Arithmetic
set_option autoImplicit false

namespace LayoutAlgebra

theorem nearest_int_near (q : Rat) : (nearestInt q : Rat) - 1 / 2 ≤ q ∧ q ≤ nearestInt q + 1 / 2 := by
  have low := Rat.floor_le q
  have high := Rat.lt_floor_add_one q
  push_cast at high
  unfold nearestInt
  simp only
  split_ifs <;> push_cast <;> constructor <;> linarith

theorem nearest_int_mono (p q : Rat) (ordered : p ≤ q) : nearestInt p ≤ nearestInt q := by
  by_contra crossed
  have step : nearestInt q + 1 ≤ nearestInt p := by omega
  have apart : (nearestInt q : Rat) + 1 ≤ nearestInt p := by exact_mod_cast step
  obtain ⟨above, _⟩ := nearest_int_near p
  obtain ⟨_, below⟩ := nearest_int_near q
  -- Both lie in the middle of the gap, and then they are one number.
  have same : p = q := by linarith
  subst same
  omega

theorem leading_bit_mono (p q : Rat) (positive : 0 < p) (ordered : p ≤ q) : leadingBit p ≤ leadingBit q := by
  obtain ⟨low, _⟩ := leading_bit_bounds p positive
  obtain ⟨_, high⟩ := leading_bit_bounds q (positive.trans_le ordered)
  have less : (2 : Rat) ^ leadingBit p < 2 ^ (leadingBit q + 1) := (low.trans ordered).trans_lt high
  have := (zpow_lt_zpow_iff_right₀ (by norm_num)).mp less
  omega

namespace Double

def lastBit (q : Rat) : Int := max (leadingBit q - 52) (-1074)

def count (q : Rat) : Nat := (nearestInt (q / (2 : Rat) ^ lastBit q)).toNat

-- A magnitude rounded at its last bit, however large it is.
def kept (q : Rat) : Rat := magnitude (count q) (lastBit q)

end Double

section

variable (p q : Rat) (positive : 0 < q)
include positive

theorem count_nearest : (Double.count q : Int) = nearestInt (q / (2 : Rat) ^ Double.lastBit q) := by
  have nonneg := nearest_int_mono 0 (q / (2 : Rat) ^ Double.lastBit q) (by positivity)
  have zero : nearestInt 0 = 0 := nearest_int_of_nat 0
  exact Int.toNat_of_nonneg (by omega)

theorem count_most : Double.count q ≤ mantissaLimit := by
  obtain ⟨_, high⟩ := leading_bit_bounds q positive
  have scaled : q / (2 : Rat) ^ Double.lastBit q ≤ (mantissaLimit : Nat) := by
    rw [div_le_iff₀ (by positivity)]
    calc
      q ≤ (2 : Rat) ^ (leadingBit q + 1) := high.le
      _ ≤ 2 ^ (53 + Double.lastBit q) := zpow_le_zpow_right₀ (by norm_num) (by unfold Double.lastBit; omega)
      _ = 2 ^ (53 : Int) * 2 ^ Double.lastBit q := zpow_add₀ (by norm_num) _ _
      _ = (mantissaLimit : Nat) * 2 ^ Double.lastBit q := by norm_num [mantissaLimit]
  have below := nearest_int_mono _ _ scaled
  rw [nearest_int_of_nat, ← count_nearest q positive] at below
  exact_mod_cast below

theorem count_least (large : Double.lastBit q ≠ -1074) : mantissaLimit / 2 ≤ Double.count q := by
  obtain ⟨low, _⟩ := leading_bit_bounds q positive
  have place : Double.lastBit q = leadingBit q - 52 := by unfold Double.lastBit at large ⊢; omega
  have scaled : ((mantissaLimit / 2 : Nat) : Rat) ≤ q / (2 : Rat) ^ Double.lastBit q := by
    rw [le_div_iff₀ (by positivity)]
    calc
      ((mantissaLimit / 2 : Nat) : Rat) * 2 ^ Double.lastBit q = 2 ^ (52 : Int) * 2 ^ Double.lastBit q := by
        norm_num [mantissaLimit]
      _ = 2 ^ (52 + Double.lastBit q) := (zpow_add₀ (by norm_num) _ _).symm
      _ = 2 ^ leadingBit q := by rw [place]; congr 1; omega
      _ ≤ q := low
  have above := nearest_int_mono _ _ scaled
  rw [nearest_int_of_nat, ← count_nearest q positive] at above
  exact_mod_cast above

theorem kept_most : Double.kept q ≤ 2 ^ (Double.lastBit q + 53) := by
  have bound : (Double.count q : Rat) ≤ (mantissaLimit : Nat) := by exact_mod_cast count_most q positive
  calc
    Double.kept q ≤ (mantissaLimit : Nat) * 2 ^ Double.lastBit q := by unfold Double.kept Double.magnitude; gcongr
    _ = 2 ^ Double.lastBit q * 2 ^ (53 : Int) := by norm_num [mantissaLimit, mul_comm]
    _ = 2 ^ (Double.lastBit q + 53) := (zpow_add₀ (by norm_num) _ _).symm

theorem kept_least (large : Double.lastBit q ≠ -1074) : 2 ^ (Double.lastBit q + 52) ≤ Double.kept q := by
  have bound : ((mantissaLimit / 2 : Nat) : Rat) ≤ Double.count q := by exact_mod_cast count_least q positive large
  calc
    (2 : Rat) ^ (Double.lastBit q + 52) = 2 ^ Double.lastBit q * 2 ^ (52 : Int) := zpow_add₀ (by norm_num) _ _
    _ = ((mantissaLimit / 2 : Nat) : Rat) * 2 ^ Double.lastBit q := by norm_num [mantissaLimit, mul_comm]
    _ ≤ Double.kept q := by unfold Double.kept Double.magnitude; gcongr

end

theorem kept_mono (p q : Rat) (positive : 0 < p) (ordered : p ≤ q) : Double.kept p ≤ Double.kept q := by
  have positiveToo := positive.trans_le ordered
  have bits := leading_bit_mono p q positive ordered
  rcases eq_or_lt_of_le (show Double.lastBit p ≤ Double.lastBit q by unfold Double.lastBit; omega) with same | below
  · have counts : (Double.count p : Int) ≤ Double.count q := by
      rw [count_nearest p positive, count_nearest q positiveToo, same]
      exact nearest_int_mono _ _ (by gcongr)
    have countsToo : (Double.count p : Rat) ≤ Double.count q := by exact_mod_cast counts
    unfold Double.kept Double.magnitude
    rw [same]
    gcongr
  · -- The smaller one is rounded at most to the power of two that the larger one starts from.
    have large : Double.lastBit q ≠ -1074 := by unfold Double.lastBit at below ⊢; omega
    calc
      Double.kept p ≤ 2 ^ (Double.lastBit p + 53) := kept_most p positive
      _ ≤ 2 ^ (Double.lastBit q + 52) := zpow_le_zpow_right₀ (by norm_num) (by omega)
      _ ≤ Double.kept q := kept_least q positiveToo large

theorem kept_carried (q : Rat) (carried : Double.count q = mantissaLimit) :
    Double.kept q = Double.magnitude (mantissaLimit / 2) (Double.lastBit q + 1) ∧
      Double.kept q = 2 ^ (Double.lastBit q + 53) := by
  unfold Double.kept Double.magnitude
  rw [carried, zpow_add₀ (by norm_num), zpow_add₀ (by norm_num)]
  constructor <;> norm_num [mantissaLimit] <;> ring

theorem kept_limit (q : Rat) (positive : 0 < q) (short : Double.count q ≠ mantissaLimit) :
    Double.kept q < 2 ^ (1024 : Int) ↔ Double.lastBit q ≤ 971 := by
  constructor
  · intro bounded
    by_contra beyond
    have least := kept_least q positive (by omega)
    have past : (2 : Rat) ^ (1024 : Int) ≤ 2 ^ (Double.lastBit q + 52) := zpow_le_zpow_right₀ (by norm_num) (by omega)
    linarith
  · intro place
    have most := count_most q positive
    have less : (Double.count q : Rat) < 2 ^ (53 : Int) := by
      have below : Double.count q < mantissaLimit := by omega
      exact_mod_cast below
    calc
      Double.kept q < 2 ^ (53 : Int) * 2 ^ Double.lastBit q := by unfold Double.kept Double.magnitude; gcongr
      _ = 2 ^ (53 + Double.lastBit q) := (zpow_add₀ (by norm_num) _ _).symm
      _ ≤ 2 ^ (1024 : Int) := zpow_le_zpow_right₀ (by norm_num) (by omega)

theorem of_magnitude_kept (q : Rat) (positive : 0 < q) :
    (Double.ofMagnitude false q).extended =
      if Double.kept q < 2 ^ (1024 : Int) then .rational (Double.kept q) else .top := by
  have smallest : -1074 ≤ Double.lastBit q := le_max_right _ _
  have made : Double.ofMagnitude false q =
      if canonical : Canonical (if Double.count q = mantissaLimit then mantissaLimit / 2 else Double.count q)
          (if Double.count q = mantissaLimit then Double.lastBit q + 1 else Double.lastBit q) then
        .finite false _ _ canonical
      else .infinite false := by
    unfold Double.ofMagnitude
    rw [if_neg positive.ne']
    rfl
  rw [made]
  by_cases carried : Double.count q = mantissaLimit
  · obtain ⟨halved, power⟩ := kept_carried q carried
    have place : Canonical (mantissaLimit / 2) (Double.lastBit q + 1) ↔ Double.kept q < 2 ^ (1024 : Int) := by
      rw [power, zpow_lt_zpow_iff_right₀ (by norm_num)]
      unfold Canonical mantissaLimit
      omega
    simp only [carried, if_true, place]
    split
    · simp [Double.extended, halved]
    · rfl
  · have most := count_most q positive
    have least := count_least q positive
    have place : Canonical (Double.count q) (Double.lastBit q) ↔ Double.kept q < 2 ^ (1024 : Int) := by
      rw [kept_limit q positive carried]
      unfold Canonical
      omega
    simp only [carried, if_false, place]
    split
    · rfl
    · rfl

theorem extended_le_refl (x : Extended) (defined : x ≠ .undefined) : x.le x = true := by
  cases x <;> simp_all [Extended.le]

theorem extended_le_trans (x y z : Extended) (first : x.le y = true) (second : y.le z = true) : x.le z = true := by
  cases x <;> cases y <;> cases z <;> simp_all [Extended.le]
  exact first.trans second

theorem extended_le_total (x y : Extended) (left : x ≠ .undefined) (right : y ≠ .undefined) :
    x.le y = true ∨ y.le x = true := by
  cases x <;> cases y <;> simp_all [Extended.le]
  exact le_total _ _

theorem extended_le_antisymm (x y : Extended) (first : x.le y = true) (second : y.le x = true) : x = y := by
  cases x <;> cases y <;> simp_all [Extended.le]
  exact le_antisymm first second

theorem extended_lt_iff (x y : Extended) : x.lt y = true ↔ x ≠ .undefined ∧ y ≠ .undefined ∧ y.le x = false := by
  constructor
  · intro less
    obtain ⟨below, notAbove⟩ := Bool.and_eq_true_iff.mp less
    refine ⟨?_, ?_, by simpa using notAbove⟩
    · rintro rfl
      cases below
    · rintro rfl
      cases x <;> cases below
  · rintro ⟨left, right, notAbove⟩
    have below := (extended_le_total x y left right).resolve_right (by simp [notAbove])
    simp [Extended.lt, below, notAbove]

theorem extended_opposite_le (x y : Extended) : x.opposite.le y.opposite = y.le x := by
  cases x <;> cases y <;> simp [Extended.le, Extended.opposite]

theorem of_magnitude_zero (negative : Bool) : (Double.ofMagnitude negative 0).extended = .rational 0 := by
  cases negative <;> simp [Double.ofMagnitude, Double.zero, Double.extended, Double.magnitude]

theorem of_magnitude_nonneg (q : Rat) (nonneg : 0 ≤ q) : Extended.le (.rational 0) (Double.ofMagnitude false q).extended := by
  rcases nonneg.eq_or_lt with rfl | positive
  · simp [of_magnitude_zero, Extended.le]
  · rw [of_magnitude_kept q positive]
    split
    · exact decide_eq_true (magnitude_nonneg _ _)
    · rfl

theorem of_magnitude_mono (p q : Rat) (nonneg : 0 ≤ p) (ordered : p ≤ q) :
    (Double.ofMagnitude false p).extended.le (Double.ofMagnitude false q).extended = true := by
  rcases nonneg.eq_or_lt with rfl | positive
  · rw [of_magnitude_zero]
    exact of_magnitude_nonneg q ordered
  · have kept := kept_mono p q positive ordered
    rw [of_magnitude_kept p positive, of_magnitude_kept q (positive.trans_le ordered)]
    split
    · split
      · simpa [Extended.le] using kept
      · rfl
    · rename_i beyond
      rw [if_neg fun bounded => beyond (kept.trans_lt bounded)]
      rfl

theorem round_nonneg (q : Rat) (nonneg : 0 ≤ q) : Double.round q = Double.ofMagnitude false q := by
  unfold Double.round
  rw [Rat.abs_of_nonneg nonneg]
  simp [not_lt.mpr nonneg]

theorem round_nonpos (q : Rat) (nonpos : q ≤ 0) :
    (Double.round q).extended = (Double.ofMagnitude false (-q)).extended.opposite := by
  rcases nonpos.eq_or_lt with rfl | negative
  · rw [round_nonneg 0 le_rfl, neg_zero, of_magnitude_zero]
    simp [Extended.opposite]
  · rw [← round_nonneg (-q) (by linarith), ← extended_neg, ← round_neg (-q) (by linarith), neg_neg]

theorem round_mono (p q : Rat) (ordered : p ≤ q) : (Double.round p).extended.le (Double.round q).extended = true := by
  rcases le_total 0 p with nonneg | nonpos
  · rw [round_nonneg p nonneg, round_nonneg q (nonneg.trans ordered)]
    exact of_magnitude_mono p q nonneg ordered
  · rw [round_nonpos p nonpos]
    rcases le_total 0 q with nonneg | nonposToo
    · have below := extended_opposite_le (Double.ofMagnitude false (-p)).extended (.rational 0)
      rw [of_magnitude_nonneg (-p) (by linarith)] at below
      rw [round_nonneg q nonneg]
      exact extended_le_trans _ _ _ (by simpa [Extended.opposite] using below) (of_magnitude_nonneg q nonneg)
    · rw [round_nonpos q nonposToo, extended_opposite_le]
      exact of_magnitude_mono (-q) (-p) (by linarith) (by linarith)

theorem round_defined (q : Rat) : (Double.round q).extended ≠ .undefined := by
  intro undefined
  have reflexive := round_mono q q le_rfl
  rw [undefined] at reflexive
  cases reflexive

def Extended.rounded : Extended → Extended
  | .rational q => (Double.round q).extended
  | x => x

theorem rounded_mono (x y : Extended) (ordered : x.le y = true) : x.rounded.le y.rounded = true := by
  have above : ∀ q, Extended.bottom.le (Double.round q).extended = true := by
    intro q
    cases rounded : (Double.round q).extended <;> simp_all [Extended.le, round_defined q]
  have below : ∀ p, (Double.round p).extended.le .top = true := by
    intro p
    cases rounded : (Double.round p).extended <;> simp_all [Extended.le, round_defined p]
  cases x with
  | undefined => cases ordered
  | bottom =>
      cases y with
      | rational q => exact above q
      | _ => exact ordered
  | top =>
      cases y with
      | top => rfl
      | _ => cases ordered
  | rational p =>
      cases y with
      | rational q => exact round_mono p q (by simpa [Extended.le] using ordered)
      | undefined | bottom => cases ordered
      | top => exact below p

section

variable (m n : Number) (x y : Double)

theorem to_double_rounded (fits : n.toDouble = .ok x) : x.extended = n.extended.rounded := by
  cases n with
  | int n =>
      simp only [Number.toDouble] at fits
      split at fits
      · rw [← Except.ok.inj fits]
        rfl
      · cases fits
  | double z =>
      obtain rfl := Except.ok.inj fits
      cases value : z.extended with
      | rational q => simpa [Number.extended, value, Extended.rounded] using (round_exact q ⟨z, value⟩).symm
      | _ => simp [Number.extended, value, Extended.rounded]

theorem to_double_mono (ordered : m.extended.le n.extended = true) (first : m.toDouble = .ok x)
    (second : n.toDouble = .ok y) : x.extended.le y.extended = true := by
  rw [to_double_rounded m x first, to_double_rounded n y second]
  exact rounded_mono _ _ ordered

theorem to_double_defined (defined : n.extended ≠ .undefined) (fits : n.toDouble = .ok x) : x.extended ≠ .undefined := by
  have reflexive := to_double_mono n n x x (extended_le_refl _ defined) fits fits
  intro undefined
  rw [undefined] at reflexive
  cases reflexive

theorem to_double_same (same : m.extended = n.extended) (fits : m.toDouble = .ok x) :
    ∃ y, n.toDouble = .ok y ∧ y.extended = x.extended := by
  have alike : ∀ y, n.toDouble = .ok y → y.extended = x.extended := by
    intro y second
    rw [to_double_rounded n y second, to_double_rounded m x fits, same]
  cases n with
  | double y => exact ⟨y, rfl, alike y rfl⟩
  | int k =>
      cases m with
      | int j =>
          have whole : j = k := by exact_mod_cast Extended.rational.inj same
          exact ⟨x, whole ▸ fits, rfl⟩
      | double z =>
          obtain ⟨y, second, _⟩ := number_to_double (.int k) k rfl ⟨z, same⟩
          exact ⟨y, second, alike y second⟩

theorem to_double_fault (fault : ArithmeticFault) (failed : n.toDouble = .error fault) : fault = .overflow := by
  cases n with
  | double y => cases failed
  | int n =>
      simp only [Number.toDouble] at failed
      split at failed
      · cases failed
      · exact (Except.error.inj failed).symm

end

def Double.tick : Rat := (2 : Rat) ^ (-1074 : Int)

theorem tick_double : IsDouble Double.tick :=
  ⟨.finite false 1 (-1074) (by decide), by simp [Double.extended, Double.magnitude, Double.tick]⟩

theorem double_in_ticks (x : Double) (p : Rat) (value : x.extended = .rational p) : ∃ k : Int, p = k * Double.tick := by
  obtain ⟨negative, mantissa, exponent, canonical, _, rfl⟩ := double_cases x p value
  obtain ⟨_, least, _, _⟩ := canonical
  have size := (div_eq_iff (zpow_ne_zero _ (by norm_num))).mp (magnitude_shifted mantissa exponent (-1074) least)
  cases negative
  · exact ⟨_, by exact_mod_cast size⟩
  · refine ⟨-(mantissa * 2 ^ (exponent - -1074).toNat : Nat), ?_⟩
    rw [if_pos rfl, Int.cast_neg, Int.cast_natCast, neg_mul, neg_inj]
    exact size

section

variable (r : Rat) (k : Int) (whole : r = k * Double.tick)
include whole

theorem round_positive (positive : 0 < r) : Extended.le (.rational Double.tick) (Double.round r).extended = true := by
  have tick : 0 < Double.tick := by unfold Double.tick; positivity
  have steps : (1 : Rat) ≤ k := by
    have some : (0 : Rat) < k := by
      rw [whole] at positive
      exact pos_of_mul_pos_left positive tick.le
    exact_mod_cast some
  rw [← round_exact _ tick_double]
  apply round_mono
  rw [whole]
  nlinarith

theorem round_nonpos_iff : (Double.round r).extended.le (.rational 0) = true ↔ r ≤ 0 := by
  have zero := round_exact 0 is_double_zero
  constructor
  · intro below
    by_contra above
    have least := extended_le_trans _ _ _ (round_positive r k whole (not_le.mp above)) below
    have tick : 0 < Double.tick := by unfold Double.tick; positivity
    simp only [Extended.le, decide_eq_true_eq] at least
    linarith
  · intro nonpos
    rw [← zero]
    exact round_mono r 0 nonpos

theorem round_nonneg_iff : Extended.le (.rational 0) (Double.round r).extended = true ↔ 0 ≤ r := by
  have turned : Extended.le (.rational 0) (Double.round r).extended =
      (Double.round (-r)).extended.le (.rational 0) := by
    rw [← extended_opposite_le]
    rcases eq_or_ne r 0 with rfl | some
    · simp [round_exact 0 is_double_zero, Extended.opposite]
    · rw [round_neg r some, extended_neg]
      simp [Extended.opposite]
  rw [turned, round_nonpos_iff (-r) (-k) (by rw [whole]; push_cast; ring)]
  exact neg_nonpos

end

section

variable (x y : Double) (p q : Rat) (left : x.extended = .rational p) (right : y.extended = .rational q)
include left right

theorem difference_in_ticks : ∃ k : Int, p - q = k * Double.tick := by
  obtain ⟨i, rfl⟩ := double_in_ticks x p left
  obtain ⟨j, rfl⟩ := double_in_ticks y q right
  exact ⟨i - j, by push_cast; ring⟩

theorem difference_nonpos_iff : (x - y).extended.le (.rational 0) = true ↔ p ≤ q := by
  obtain ⟨k, whole⟩ := difference_in_ticks x y p q left right
  rw [difference_rounded x y p q left right, round_nonpos_iff _ k whole]
  exact sub_nonpos

theorem difference_nonneg_iff : Extended.le (.rational 0) (x - y).extended = true ↔ q ≤ p := by
  obtain ⟨k, whole⟩ := difference_in_ticks x y p q left right
  rw [difference_rounded x y p q left right, round_nonneg_iff _ k whole]
  exact sub_nonneg

end

end LayoutAlgebra
