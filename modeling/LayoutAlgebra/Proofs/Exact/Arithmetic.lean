import LayoutAlgebra.Frame
import LayoutAlgebra.Proofs.Exact.Rounding
import LayoutAlgebra.Proofs.Results
set_option autoImplicit false

namespace LayoutAlgebra

def Extended.rational? : Extended → Option Rat
  | .rational q => some q
  | _ => none

def Value.rational? (v : Value) : Option Rat := v.number?.bind fun n => n.extended.rational?

namespace Operation

def onRationals : Operation → Rat → Rat → Rat
  | add => (· + ·)
  | sub => (· - ·)
  | mul => (· * ·)
  | div => (· / ·)

def onValues : Operation → Value → Value → Fallible Value
  | add => Value.add
  | sub => Value.sub
  | mul => Value.mul
  | div => Value.div

end Operation

theorem extended_rational (x : Extended) (q : Rat) : x.rational? = some q ↔ x = .rational q := by
  cases x <;> simp [Extended.rational?]

theorem rational_iff (v : Value) (q : Rat) :
    v.rational? = some q ↔ ∃ n, v.number? = some n ∧ n.extended = .rational q := by
  simp only [Value.rational?, Option.bind_eq_some_iff, extended_rational]

theorem rational_of_number (mark : Mark) (n : Number) (q : Rat) (value : n.extended = .rational q) :
    (Value.number mark n).rational? = some q := (rational_iff _ q).mpr ⟨n, rfl, value⟩

theorem number_to_double (n : Number) (q : Rat) (value : n.extended = .rational q) (double : IsDouble q) :
    ∃ x, n.toDouble = .ok x ∧ x.extended = .rational q := by
  cases n with
  | double x => exact ⟨x, rfl, value⟩
  | int n =>
      have same : (n : Rat) = q := Extended.rational.inj value
      have rounded := round_exact q double
      rw [← same] at rounded ⊢
      obtain ⟨_, _, _, _, finite, _⟩ := double_cases _ _ rounded
      refine ⟨Double.round n, ?_, rounded⟩
      simp only [Number.toDouble, finite, Double.isFinite, if_true]

-- A quotient of whole numbers is rounded once, whether or not they are doubles themselves.
theorem quotient_exact (m n : Int) (some : (n : Rat) ≠ 0) (double : IsDouble ((m : Rat) / n)) :
    ∃ k, Number.div (.int m) (.int n) = .ok k ∧ k.extended = .rational ((m : Rat) / n) := by
  have size : ∀ i : Int, (i.natAbs : Rat) = if i < 0 then -(i : Rat) else i := by
    intro i
    split
    · rw [← Int.cast_natCast, Int.ofNat_natAbs_of_nonpos (by omega), Int.cast_neg]
    · rw [← Int.cast_natCast, Int.natAbs_of_nonneg (by omega)]
  have signed : (m : Rat) / n = if decide (m < 0) != decide (n < 0) then -((m.natAbs : Rat) / n.natAbs)
      else (m.natAbs : Rat) / n.natAbs := by
    rw [size m, size n]
    by_cases left : m < 0 <;> by_cases right : n < 0 <;> simp [left, right, neg_div, div_neg]
  have magnitude : IsDouble ((m.natAbs : Rat) / n.natAbs) := by
    rw [signed] at double
    split at double
    · exact neg_neg ((m.natAbs : Rat) / _) ▸ is_double_neg _ double
    · exact double
  have rounded := of_magnitude_double (decide (m < 0) != decide (n < 0)) _ (by positivity) magnitude
  rw [← signed] at rounded
  obtain ⟨_, _, _, _, finite, _⟩ := double_cases _ _ rounded
  have nonzero : n ≠ 0 := by simpa using some
  refine ⟨.double (Double.ofMagnitude (decide (m < 0) != decide (n < 0)) ((m.natAbs : Rat) / n.natAbs)), ?_, rounded⟩
  simp only [Number.div, nonzero, if_false, finite, Double.isFinite, if_true]

section

variable (op : Operation) (p q : Rat) (divisor : op = .div → q ≠ 0)
include divisor

theorem on_doubles_exact (x y : Double) (left : x.extended = .rational p) (right : y.extended = .rational q)
    (double : IsDouble (op.onRationals p q)) : (op.onDoubles x y).extended = .rational (op.onRationals p q) := by
  cases op with
  | add => exact double_add x y p q left right double
  | sub => exact double_sub x y p q left right double
  | mul => exact double_mul x y p q left right double
  | div => exact double_div x y p q left right (divisor rfl) double

theorem on_integers_exact (m n : Int) (left : (m : Rat) = p) (right : (n : Rat) = q)
    (double : IsDouble (op.onRationals p q)) :
    ∃ k, op.onNumbers (.int m) (.int n) = .ok k ∧ k.extended = .rational (op.onRationals p q) := by
  subst left right
  cases op with
  | add => exact ⟨_, rfl, by simp [Number.extended, Operation.onRationals]⟩
  | sub => exact ⟨_, rfl, by simp [Number.extended, Operation.onRationals]⟩
  | mul => exact ⟨_, rfl, by simp [Number.extended, Operation.onRationals]⟩
  | div => exact quotient_exact m n (divisor rfl) double

theorem on_numbers_exact (m n : Number) (left : m.extended = .rational p) (right : n.extended = .rational q)
    (first : IsDouble p) (second : IsDouble q) (double : IsDouble (op.onRationals p q)) :
    ∃ k, op.onNumbers m n = .ok k ∧ k.extended = .rational (op.onRationals p q) := by
  obtain ⟨x, readLeft, valueLeft⟩ := number_to_double m p left first
  obtain ⟨y, readRight, valueRight⟩ := number_to_double n q right second
  have rounded := on_doubles_exact op p q divisor x y valueLeft valueRight double
  -- A double on either side makes doubles of both; two whole numbers stay whole.
  have mixed : op.onNumbers m n = .ok (.double (op.onDoubles x y)) ∨ ∃ i j, m = .int i ∧ n = .int j := by
    cases m <;> cases n
    · exact .inr ⟨_, _, rfl, rfl⟩
    all_goals
      refine .inl ?_
      cases op with
      | div =>
          have nonzero : y.extended ≠ .rational 0 := by simpa [valueRight] using divisor rfl
          simp only [Operation.onNumbers, Number.div, readLeft, readRight, nonzero, if_false, bind, Except.bind]
          rfl
      | _ =>
          simp only [Operation.onNumbers, Number.add, Number.sub, Number.mul, Number.combine, readLeft, readRight, bind,
            Except.bind]
          rfl
  rcases mixed with done | ⟨i, j, rfl, rfl⟩
  · exact ⟨_, done, rounded⟩
  · exact on_integers_exact op p q divisor i j (Extended.rational.inj left) (Extended.rational.inj right) double

end

theorem number_cases (v : Value) (n : Number) (number : v.number? = some n) :
    (∃ mark, v = .number mark n) ∨ ∃ b, v = .bool b ∧ n = .ofBool b := by
  cases v with
  | number mark m => exact .inl ⟨mark, by rw [Option.some.inj number]⟩
  | bool b => exact .inr ⟨b, rfl, (Option.some.inj number).symm⟩
  | _ => simp [Value.number?] at number

theorem as_double_sized (mark : Mark) (n : Number) (x : Double) (fits : n.toDouble = .ok x) :
    ∃ size, (Value.number mark n).asDouble = .ok size ∧ size.number? = some (.double x) := by
  cases n with
  | double y => exact ⟨_, rfl, congrArg (some <| Number.double ·) (Except.ok.inj fits)⟩
  | int n =>
      refine ⟨.double x, ?_, rfl⟩
      change (Fallible.ofArithmetic (Number.int n).toDouble >>= fun y => pure (Value.double y)) = _
      rw [fits]
      rfl

theorem on_values_numbers (op : Operation) (v w : Value) (m n : Number) (left : v.number? = some m)
    (right : w.number? = some n) :
    op.onValues v w = (Fallible.ofArithmetic (op.onNumbers m n)).map (.number .new) := by
  rcases number_cases v m left with ⟨_, rfl⟩ | ⟨_, rfl, rfl⟩ <;>
    rcases number_cases w n right with ⟨_, rfl⟩ | ⟨_, rfl, rfl⟩ <;> cases op <;> rfl

theorem on_values_exact (op : Operation) (v w : Value) (p q : Rat) (divisor : op = .div → q ≠ 0)
    (left : v.rational? = some p) (right : w.rational? = some q) (first : IsDouble p) (second : IsDouble q)
    (double : IsDouble (op.onRationals p q)) :
    ∃ u, op.onValues v w = .ok u ∧ u.rational? = some (op.onRationals p q) := by
  obtain ⟨m, numberLeft, valueLeft⟩ := (rational_iff v p).mp left
  obtain ⟨n, numberRight, valueRight⟩ := (rational_iff w q).mp right
  obtain ⟨k, done, value⟩ := on_numbers_exact op p q divisor m n valueLeft valueRight first second double
  refine ⟨.number .new k, ?_, rational_of_number .new k _ value⟩
  rw [on_values_numbers op v w m n numberLeft numberRight, done]
  rfl

theorem calculate_numbers (around : Surroundings) (op : Operation) (v w : Value) (m n : Number)
    (left : v.number? = some m) (right : w.number? = some n) :
    around.calculate op op.onValues v w = op.onValues v w := by
  rcases number_cases v m left with ⟨_, rfl⟩ | ⟨_, rfl, rfl⟩ <;>
    rcases number_cases w n right with ⟨_, rfl⟩ | ⟨_, rfl, rfl⟩ <;> rfl

theorem calculate_exact (around : Surroundings) (op : Operation) (v w : Value) (p q : Rat) (divisor : op = .div → q ≠ 0)
    (left : v.rational? = some p) (right : w.rational? = some q) (first : IsDouble p) (second : IsDouble q)
    (double : IsDouble (op.onRationals p q)) :
    ∃ u, around.calculate op op.onValues v w = .ok u ∧ u.rational? = some (op.onRationals p q) := by
  obtain ⟨m, numberLeft, _⟩ := (rational_iff v p).mp left
  obtain ⟨n, numberRight, _⟩ := (rational_iff w q).mp right
  rw [calculate_numbers around op v w m n numberLeft numberRight]
  exact on_values_exact op v w p q divisor left right first second double

end LayoutAlgebra
