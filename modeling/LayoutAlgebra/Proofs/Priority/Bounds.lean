import LayoutAlgebra.Proofs.Exact.Arithmetic
set_option autoImplicit false

namespace LayoutAlgebra

theorem compare_numbers (around : Surroundings) (c : Comparison) (a b : Value) (m n : Number) (left : a.number? = some m)
    (right : b.number? = some n) : around.compare c a b = .ok (.settled (c.holds m.extended n.extended)) := by
  rcases number_cases a m left with ⟨mark, rfl⟩ | ⟨x, rfl, rfl⟩
  · rcases number_cases b n right with ⟨other, rfl⟩ | ⟨y, rfl, rfl⟩ <;> rfl
  · rcases number_cases b n right with ⟨other, rfl⟩ | ⟨y, rfl, rfl⟩ <;> rfl

theorem related_awaits (c : Comparison) (a b : Value) (verdict : Verdict) (related : Value.related c a b = .ok verdict) :
    ∃ r, verdict = .awaiting r := by
  unfold Value.related at related
  split at related
  · simp at related
  · simp only at related
    split at related
    all_goals
      obtain ⟨fromLeft, _, related⟩ := (Fallible.bind_ok_iff _ _ _).mp related
      split at related
      · exact ⟨_, (Except.ok.inj related).symm⟩
      · obtain ⟨fromRight, _, related⟩ := (Fallible.bind_ok_iff _ _ _).mp related
        split at related
        · exact ⟨_, (Except.ok.inj related).symm⟩
        · cases related
      · cases related

namespace Config

def fields (c : Config Value) : List Value :=
  [c.defaultPriority, c.minPriority, c.maxPriority, c.defaultCompression, c.defaultExpansion, c.defaultMargin]

def Numeric (c : Config Value) : Prop := ∀ field ∈ c.fields, ∃ n, field.number? = some n

def Spans (c : Config Value) (n : Number) : Prop :=
  ∃ low high, c.minPriority.number? = some low ∧ c.maxPriority.number? = some high ∧
    low.extended.le n.extended = true ∧ n.extended.le high.extended = true

def Allows (around : Surroundings) (c : Config Value) (p : Value) : Prop :=
  (around.chain c.minPriority p c.maxPriority >>= Verdict.truth) = .ok true

-- A priority in the range: a number between the bounds, or an array that compares with them as such a number does.
def Admits (c : Config Value) (p : Value) : Prop :=
  (∃ n, p.number? = some n ∧ c.Spans n) ∨ ∃ mark cells around, p = .array mark cells ∧ c.Allows around p

variable {around : Surroundings} {c : Config Value}

theorem chain_numbers (a p b : Value) (low n high : Number) (left : a.number? = some low) (middle : p.number? = some n)
    (right : b.number? = some high) :
    around.chain a p b = .ok (.settled (low.extended.le n.extended && n.extended.le high.extended)) := by
  simp only [Surroundings.chain, compare_numbers around .le a p low n left middle,
    compare_numbers around .le p b n high middle right]
  cases below : low.extended.le n.extended <;> simp [Comparison.holds, below, Verdict.truth, bind, Except.bind, pure,
    Except.pure]

theorem allows_spans (p : Value) (low n high : Number) (left : c.minPriority.number? = some low)
    (middle : p.number? = some n) (right : c.maxPriority.number? = some high) : c.Allows around p ↔ c.Spans n := by
  rw [Allows, chain_numbers _ p _ low n high left middle right]
  simp [Spans, left, right, Verdict.truth]

theorem allows_least (p : Value) (allowed : c.Allows around p) :
    (around.compare .le c.minPriority p >>= Verdict.truth) = .ok true := by
  simp only [Allows, Surroundings.chain, Fallible.bind_ok_iff] at allowed ⊢
  obtain ⟨verdict, ⟨first, compared, below, settled, rest⟩, truth⟩ := allowed
  cases below with
  | true => exact ⟨first, compared, settled⟩
  | false =>
      have same : first = verdict := Except.ok.inj rest
      rw [same, truth] at settled
      cases settled

theorem ordered_sort (a b : Value) (m : Number) (number : a.number? = some m)
    (ordered : (around.compare .le a b >>= Verdict.truth) = .ok true) :
    (∃ n, b.number? = some n) ∨ ∃ mark cells, b = .array mark cells := by
  cases b with
  | number mark n => exact .inl ⟨n, rfl⟩
  | bool x => exact .inl ⟨.ofBool x, rfl⟩
  | array mark cells => exact .inr ⟨mark, cells, rfl⟩
  | linear mark e =>
      have awaits : around.compare .le a (.linear mark e) = Value.related .le a (.linear mark e) := by
        rcases number_cases a m number with ⟨_, rfl⟩ | ⟨_, rfl, _⟩ <;> rfl
      rw [awaits] at ordered
      obtain ⟨verdict, related, truth⟩ := (Fallible.bind_ok_iff _ _ _).mp ordered
      obtain ⟨r, rfl⟩ := related_awaits .le a _ verdict related
      cases truth
  | _ => rcases number_cases a m number with ⟨_, rfl⟩ | ⟨_, rfl, _⟩ <;> cases ordered

theorem numeric_bounds (numeric : c.Numeric) :
    ∃ low high, c.minPriority.number? = some low ∧ c.maxPriority.number? = some high := by
  obtain ⟨low, left⟩ := numeric c.minPriority (by simp [fields])
  obtain ⟨high, right⟩ := numeric c.maxPriority (by simp [fields])
  exact ⟨low, high, left, right⟩

theorem allowed_admits (numeric : c.Numeric) (p : Value) (allowed : c.Allows around p) : c.Admits p := by
  obtain ⟨low, high, left, right⟩ := numeric_bounds numeric
  rcases ordered_sort c.minPriority p low left (allows_least p allowed) with ⟨n, middle⟩ | ⟨mark, cells, rfl⟩
  · exact .inl ⟨n, middle, (allows_spans p low n high left middle right).mp allowed⟩
  · exact .inr ⟨mark, cells, around, rfl, allowed⟩

theorem spans_defined (n : Number) (spans : c.Spans n) : n.extended ≠ .undefined := by
  obtain ⟨low, high, _, _, least, _⟩ := spans
  intro undefined
  rw [undefined] at least
  cases below : low.extended <;> simp [below, Extended.le] at least

theorem check_priority_ok_iff (p what q : Value) :
    c.checkPriority around p what = .ok q ↔ c.Allows around p ∧ q = p := by
  simp only [checkPriority, Allows, Fallible.bind_ok_iff]
  constructor
  · rintro ⟨verdict, compared, holds, settled, kept⟩
    cases holds with
    | true => exact ⟨⟨verdict, compared, settled⟩, (Except.ok.inj kept).symm⟩
    | false => cases kept
  · rintro ⟨⟨verdict, compared, settled⟩, rfl⟩
    exact ⟨verdict, compared, true, settled, rfl⟩

theorem check_priority_number (numeric : c.Numeric) (p what : Value) (n : Number) (number : p.number? = some n) :
    c.Spans n ∧ c.checkPriority around p what = .ok p ∨
      ¬ c.Spans n ∧ c.checkPriority around p what = .error (.outsideBounds what c.minPriority c.maxPriority p) := by
  obtain ⟨low, high, left, right⟩ := numeric_bounds numeric
  have within : c.Allows around p ↔ c.Spans n := allows_spans p low n high left number right
  rw [← within]
  by_cases allowed : c.Allows around p
  · exact .inl ⟨allowed, (check_priority_ok_iff p what p).mpr ⟨allowed, rfl⟩⟩
  · refine .inr ⟨allowed, ?_⟩
    rw [Allows, chain_numbers _ p _ low n high left number right] at allowed
    have outside : (low.extended.le n.extended && n.extended.le high.extended) = false := by
      simpa [Verdict.truth] using allowed
    rw [checkPriority, chain_numbers _ p _ low n high left number right, outside]
    rfl

theorem check_ok (checked : Config Value) (passed : c.check around = .ok checked) :
    checked = c ∧ c.Allows around c.defaultPriority ∧ c.Allows around c.defaultCompression ∧
      c.Allows around c.defaultExpansion := by
  simp only [check, Fallible.bind_ok_iff] at passed
  obtain ⟨crossed, _, isCrossed, _, passed⟩ := passed
  split at passed
  · cases passed
  · simp only [Fallible.bind_ok_iff] at passed
    obtain ⟨_, priority, _, compression, _, expansion, negative, _, isNegative, _, passed⟩ := passed
    split at passed
    · cases passed
    · rw [check_priority_ok_iff] at priority compression expansion
      exact ⟨(Except.ok.inj passed).symm, priority.1, compression.1, expansion.1⟩

end Config

end LayoutAlgebra
