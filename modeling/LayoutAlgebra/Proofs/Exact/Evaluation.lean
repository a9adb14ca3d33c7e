import LayoutAlgebra.Proofs.Exact.Measurement
import LayoutAlgebra.Report
set_option autoImplicit false

namespace LayoutAlgebra

def Table.objectMeasured (keep : Precision) (frames : Table) (r : ConstraintRecord Value) : Option Rat :=
  if r.object.isNone then some 0 else frames.measured keep r.object r.objectAttribute

def ConstraintRecord.residual? (keep : Precision) (frames : Table) (r : ConstraintRecord Value) : Option Rat := do
  let lhs ← frames.measured keep r.subject r.subjectAttribute
  let rhs ← frames.objectMeasured keep r
  let multiplier ← r.multiplier.rational?.bind keep
  let constant ← r.constant.rational?.bind keep
  let product ← keep (multiplier * rhs)
  let sum ← keep (product + constant)
  keep (lhs - sum)

def Cells.Reads (cells : Cells Value) (q : Rat) : Prop := ∃ v, cells.values = ⟨[1], [v]⟩ ∧ v.Reads q

-- Cells whose entries meet other entries as doubles or one by one, so that nothing is computed in words.
def Cells.Wide (cells : Cells Value) : Prop := cells.kind = .double ∨ cells.kind = .general

theorem reads_number (v : Value) (q : Rat) (reads : v.Reads q) :
    ∃ n, v.number? = some n ∧ n.extended = .rational q := (rational_iff v q).mp reads.1

theorem to_double_reads (v : Value) (q : Rat) (reads : v.Reads q) : ∃ x, v.toDouble = .ok x ∧ x.extended = .rational q := by
  obtain ⟨n, number, value⟩ := reads_number v q reads
  obtain ⟨x, read, double⟩ := number_to_double n q value reads.2
  refine ⟨x, ?_, double⟩
  rcases number_cases v n number with ⟨mark, rfl⟩ | ⟨b, rfl, rfl⟩ <;> simp [Value.toDouble, read, Fallible.ofArithmetic]

theorem number_layout (around : Surroundings) (v : Value) (n : Number) (number : v.number? = some n) :
    Layout.ofColumn around.opened [v] = .ok ⟨some v.cellKind, ⟨[1], [v]⟩⟩ := by
  rcases number_cases v n number with ⟨mark, rfl⟩ | ⟨b, rfl, rfl⟩ <;> rfl

theorem own_cells_read (v : Value) (q : Rat) (reads : v.Reads q) : (Cells.ofValues v.cellKind ⟨[1], [v]⟩).Reads q := by
  obtain ⟨n, number, value⟩ := reads_number v q reads
  rcases number_cases v n number with ⟨mark, rfl⟩ | ⟨b, rfl, rfl⟩
  · cases n with
    | double x => exact ⟨.double x, rfl, rational_of_number .new _ q value, reads.2⟩
    | int n =>
        have whole : (Value.int n).Reads q := ⟨rational_of_number .new _ q value, reads.2⟩
        simp only [Value.cellKind]
        by_cases word : isWord n = true
        · exact ⟨.int n, by simp only [word, if_true]; rfl, whole⟩
        · by_cases natural : isNaturalWord n = true
          · have nonneg : (n.toNat : Int) = n := by
              simp only [isNaturalWord, Bool.and_eq_true, decide_eq_true_eq] at natural
              exact Int.toNat_of_nonneg natural.1
            refine ⟨.int n, ?_, whole⟩
            simp only [word, natural, if_true]
            exact congrArg (fun m => (⟨[1], [Value.int m]⟩ : Grid Value)) nonneg
          · exact ⟨_, by simp only [word, natural]; rfl, reads⟩
  · cases b <;> exact ⟨_, rfl, reads⟩

theorem column_reads (around : Surroundings) (v : Value) (q : Rat) (reads : v.Reads q) :
    ∃ cells, around.column [v] = .ok cells ∧ cells.Reads q := by
  obtain ⟨n, number, _⟩ := reads_number v q reads
  refine ⟨_, ?_, own_cells_read v q reads⟩
  rw [Surroundings.column, number_layout around v n number]
  rfl

theorem coefficients_read (around : Surroundings) (v : Value) (n : Number) (number : v.number? = some n) (x : Double)
    (read : v.toDouble = .ok x) : around.coefficients [v] = .ok ⟨[1], [x]⟩ := by
  rw [Surroundings.coefficients, number_layout around v n number]
  have coefficient : v.coefficient = .ok x := by
    rcases number_cases v n number with ⟨mark, rfl⟩ | ⟨b, rfl, rfl⟩ <;> exact read
  simp [Grid.mapM, coefficient]

theorem map_single {α β : Type} (f : α → β) (g : Grid α) (b : β) (same : g.map f = ⟨[1], [b]⟩) :
    ∃ a, g = ⟨[1], [a]⟩ ∧ f a = b := by
  obtain ⟨shape, entries⟩ := g
  simp only [Grid.map, Grid.mk.injEq, List.map_eq_singleton_iff] at same
  obtain ⟨rfl, a, rfl, here⟩ := same
  exact ⟨a, rfl, here⟩

theorem text_no_number (s : String) : (Value.ofText s).number? = none := by
  unfold Value.ofText
  split <;> rfl

theorem as_doubles_read (cells : Cells Value) (q : Rat) (reads : cells.Reads q) (special : cells.kind ≠ .general) :
    ∃ x, cells.asDoubles = ⟨[1], [x]⟩ ∧ x.extended = .rational q := by
  obtain ⟨v, entries, reads⟩ := reads
  obtain ⟨n, number, value⟩ := reads_number v q reads
  have rounded := round_exact q reads.2
  cases cells with
  | truths g =>
      obtain ⟨b, rfl, rfl⟩ := map_single _ g v entries
      refine ⟨_, rfl, ?_⟩
      rw [← Option.some.inj number] at value
      cases b <;> exact (Extended.rational.inj value) ▸ rounded
  | wholes g =>
      obtain ⟨i, rfl, rfl⟩ := map_single _ g v entries
      refine ⟨_, rfl, ?_⟩
      rw [← Option.some.inj number] at value
      exact (Extended.rational.inj value) ▸ rounded
  | naturals g =>
      obtain ⟨i, rfl, rfl⟩ := map_single _ g v entries
      refine ⟨_, rfl, ?_⟩
      rw [← Option.some.inj number] at value
      have same : ((i : Int) : Rat) = q := Extended.rational.inj value
      rw [← same] at rounded ⊢
      exact_mod_cast rounded
  | doubles g =>
      obtain ⟨x, rfl, rfl⟩ := map_single _ g v entries
      rw [← Option.some.inj number] at value
      exact ⟨x, rfl, value⟩
  | texts g =>
      obtain ⟨s, rfl, rfl⟩ := map_single _ g v entries
      simp [text_no_number] at number
  | general g => exact absurd rfl special

theorem reads_no_text (cells : Cells Value) (q : Rat) (reads : cells.Reads q) : cells.kind ≠ .text := by
  obtain ⟨v, entries, reads⟩ := reads
  obtain ⟨n, number, _⟩ := reads_number v q reads
  cases cells with
  | texts g =>
      obtain ⟨s, rfl, rfl⟩ := map_single _ g v entries
      simp [text_no_number] at number
  | _ => simp [Cells.kind]

theorem join_wide (a b : CellKind) (left : a ≠ .text) (right : b ≠ .text)
    (wide : (a = .double ∨ a = .general) ∨ b = .double ∨ b = .general) :
    (a.join b = .general ∨ a.join b = .double ∧ a ≠ .general ∧ b ≠ .general) := by
  cases a <;> cases b <;> simp_all [CellKind.join, CellKind.rank]

theorem combine_reads (op : Operation) (a b : Cells Value) (p q : Rat) (divisor : op = .div → q ≠ 0) (left : a.Reads p)
    (right : b.Reads q) (wide : a.Wide ∨ b.Wide) (double : IsDouble (op.onRationals p q)) :
    ∃ cells, a.combine op op.onValues b = .ok cells ∧ cells.Reads (op.onRationals p q) ∧ cells.Wide := by
  unfold Cells.combine
  -- Entries of the same kind of words would be computed in words, which have other bounds than doubles.
  rcases join_wide a.kind b.kind (reads_no_text a p left) (reads_no_text b q right) wide with
    general | ⟨doubles, specialLeft, specialRight⟩
  · obtain ⟨v, entriesLeft, readsLeft⟩ := left
    obtain ⟨w, entriesRight, readsRight⟩ := right
    obtain ⟨u, done, value⟩ :=
      on_values_exact op v w p q divisor readsLeft.1 readsRight.1 readsLeft.2 readsRight.2 double
    refine ⟨.general ⟨[1], [u]⟩, ?_, ⟨u, rfl, value, double⟩, .inr rfl⟩
    simp [general, entriesLeft, entriesRight, Grid.paired, Grid.pair?, Grid.mapM, done]
  · obtain ⟨x, entriesLeft, valueLeft⟩ := as_doubles_read a p left specialLeft
    obtain ⟨y, entriesRight, valueRight⟩ := as_doubles_read b q right specialRight
    have exact := on_doubles_exact op p q divisor x y valueLeft valueRight double
    refine ⟨.doubles ⟨[1], [op.onDoubles x y]⟩, ?_, ⟨_, rfl, rational_of_number .new (.double _) _ exact, double⟩, .inl rfl⟩
    simp [doubles, entriesLeft, entriesRight, Grid.paired, Grid.pair?, Grid.map]

theorem object_computed (around : Surroundings) (frames : Table) (r : ConstraintRecord Value) (q : Rat)
    (measured : frames.objectMeasured .double r = some q) : ∃ v, frames.objectValue around r = .ok v ∧ v.Reads q := by
  unfold Table.objectMeasured at measured
  unfold Table.objectValue
  split at measured
  · rename_i none
    refine ⟨_, by rw [if_pos none], ?_⟩
    rw [← Option.some.inj measured]
    exact (ruler_follows around).zero
  · rename_i some
    obtain ⟨v, computed, reads⟩ := measured_computed around frames _ _ q measured
    exact ⟨v, by rw [if_neg some, computed], reads⟩

theorem terms_read (around : Surroundings) (frames : Table) (mark : Mark) (r : ConstraintRecord Value) (v w : Value)
    (lhs rhs multiplier constant : Rat) (subject : frames.attributeValue around r.subject r.subjectAttribute = .ok v)
    (object : frames.objectValue around r = .ok w) (readsSubject : v.Reads lhs) (readsObject : w.Reads rhs)
    (scale : r.multiplier.Reads multiplier) (offset : r.constant.Reads constant) :
    ∃ t : Terms, Terms.ofRecords around frames [.record mark r] = .ok t ∧ t.lhs.Reads lhs ∧ t.rhs.Reads rhs ∧
      (Cells.doubles t.multipliers).Reads multiplier ∧ (Cells.doubles t.constants).Reads constant := by
  have column : ∀ (u : Value) (q : Rat), u.Reads q →
      ∃ x, around.coefficients [u] = .ok ⟨[1], [x]⟩ ∧ (Cells.doubles ⟨[1], [x]⟩).Reads q := by
    intro u q reads
    obtain ⟨n, number, _⟩ := reads_number u q reads
    obtain ⟨x, read, value⟩ := to_double_reads u q reads
    exact ⟨x, coefficients_read around u n number x read, .double x, rfl, rational_of_number .new (.double x) q value,
      reads.2⟩
  obtain ⟨left, leftColumn, leftReads⟩ := column_reads around v lhs readsSubject
  obtain ⟨right, rightColumn, rightReads⟩ := column_reads around w rhs readsObject
  obtain ⟨x, scaleColumn, scaleReads⟩ := column r.multiplier multiplier scale
  obtain ⟨y, offsetColumn, offsetReads⟩ := column r.constant constant offset
  refine ⟨⟨left, ⟨[1], [x]⟩, right, ⟨[1], [y]⟩⟩, ?_, leftReads, rightReads, scaleReads, offsetReads⟩
  simp [Terms.ofRecords, Value.asRecord, subject, object, leftColumn, rightColumn, scaleColumn, offsetColumn]

theorem residual_computed (around : Surroundings) (frames : Table) (mark : Mark) (r : ConstraintRecord Value) (q : Rat)
    (exact : r.residual? .double frames = some q) :
    ∃ cells, residuals around frames [.record mark r] = .ok cells ∧ cells.Reads q := by
  simp only [ConstraintRecord.residual?, Option.bind_eq_bind, Option.bind_eq_some_iff] at exact
  obtain ⟨lhs, subject, rhs, object, multiplier, ⟨_, scale, keptScale⟩, constant, ⟨_, offset, keptOffset⟩, product, scaled,
    sum, moved, kept⟩ := exact
  obtain ⟨rfl, multiplierDouble⟩ := (Precision.double_iff _ _).mp keptScale
  obtain ⟨rfl, constantDouble⟩ := (Precision.double_iff _ _).mp keptOffset
  obtain ⟨rfl, productDouble⟩ := (Precision.double_iff _ _).mp scaled
  obtain ⟨rfl, sumDouble⟩ := (Precision.double_iff _ _).mp moved
  obtain ⟨rfl, double⟩ := (Precision.double_iff _ _).mp kept
  obtain ⟨v, computedSubject, readsSubject⟩ := measured_computed around frames _ _ lhs subject
  obtain ⟨w, computedObject, readsObject⟩ := object_computed around frames r rhs object
  obtain ⟨t, terms, readsLeft, readsRight, readsScale, readsOffset⟩ := terms_read around frames mark r v w lhs rhs _ _
    computedSubject computedObject readsSubject readsObject ⟨scale, multiplierDouble⟩ ⟨offset, constantDouble⟩
  obtain ⟨products, multiplied, readsProducts, wide⟩ :=
    combine_reads .mul _ t.rhs _ rhs (by simp) readsScale readsRight (.inl (.inl rfl)) productDouble
  obtain ⟨sums, added, readsSums, wide⟩ :=
    combine_reads .add products _ _ _ (by simp) readsProducts readsOffset (.inl wide) sumDouble
  obtain ⟨cells, subtracted, reads, _⟩ :=
    combine_reads .sub t.lhs sums lhs _ (by simp) readsLeft readsSums (.inr wide) double
  refine ⟨cells, ?_, reads⟩
  simp only [Operation.onValues] at multiplied added subtracted
  simp [residuals, terms, Terms.residuals, multiplied, added, subtracted]

theorem tolerance_zero (rounded : Bool) (tolerance : Value) (zero : tolerance.rational? = some 0) :
    ∃ n, tolerance.number? = some n ∧ toleranceAs rounded n = .ok (.rational 0) := by
  obtain ⟨n, number, value⟩ := (rational_iff tolerance 0).mp zero
  obtain ⟨x, read, double⟩ := number_to_double n 0 value is_double_zero
  refine ⟨n, number, ?_⟩
  cases rounded
  · simp [toleranceAs, value]
  · simp [toleranceAs, read, Fallible.ofArithmetic, double]

theorem violations_computed (around : Surroundings) (frames : Table) (mark : Mark) (r : ConstraintRecord Value)
    (tolerance : Value) (q : Rat) (exact : r.residual? .double frames = some q) (zero : tolerance.rational? = some 0)
    (priority : Number) (number : r.priority.number? = some priority) (x : Double) (read : r.priority.toDouble = .ok x) :
    ∃ report, violations around frames [.record mark r] tolerance = .ok report ∧
      report.marks = [r.relation.sign.violated (.rational q) (.rational 0)] := by
  obtain ⟨cells, computed, v, entries, reads⟩ := residual_computed around frames mark r q exact
  obtain ⟨n, numberV, value⟩ := reads_number v q reads
  obtain ⟨t, numberT, none⟩ := tolerance_zero (cells.kind = .double) tolerance zero
  have along : Value.along cells = [v] := by
    have shape : cells.shape = [1] := by
      have same : cells.values.shape = cells.shape := by cases cells <;> rfl
      rw [← same, entries]
    simp [Value.along, shape, entries]
  have priorities := coefficients_read around r.priority priority number x read
  have marked : marks around cells tolerance [r] = .ok [r.relation.sign.violated (.rational q) (.rational 0)] := by
    simp [marks, along, isMarked, numberV, numberT, none, value]
  let violated := r.relation.sign.violated (.rational q) (.rational 0)
  refine ⟨⟨cells, [violated], [violated && isRequired x]⟩, ?_, rfl⟩
  simp [violations, computed, Value.asRecord, marked, priorities, Grid.column, Grid.paired, Grid.pair?, Grid.map, violated]

end LayoutAlgebra
