import LayoutAlgebra.Proofs.Exact.Evaluation
set_option autoImplicit false

namespace LayoutAlgebra

def Value.Sized (v : Value) (x : Double) : Prop := ∃ n, v.number? = some n ∧ n.toDouble = .ok x

def columnKind : List Value → Option CellKind
  | [] => none
  | v :: rest => rest.foldl (fun kind w => kind.merge CellKind.join (some w.cellKind)) (some v.cellKind)

theorem sized_double (mark : Mark) (x : Double) : (Value.number mark (.double x)).Sized x := ⟨.double x, rfl, rfl⟩

theorem sized_coefficient (v : Value) (x : Double) (sized : v.Sized x) : v.coefficient = .ok x := by
  obtain ⟨n, number, read⟩ := sized
  rcases number_cases v n number with ⟨mark, rfl⟩ | ⟨b, rfl, rfl⟩ <;>
    simp [Value.coefficient, Value.toDouble, read, Fallible.ofArithmetic]

section

variable (around : Surroundings)

theorem numbers_layout (vs : List Value) (numbers : ∀ v ∈ vs, ∃ n, v.number? = some n) :
    Layout.ofColumn around.opened vs = .ok ⟨columnKind vs, ⟨[vs.length], vs⟩⟩ := by
  have parts : vs.mapM (Layout.ofValue around.opened (Grid.mostAxes - 1)) =
      .ok (vs.map fun v => ⟨some v.cellKind, .single v⟩) := by
    have each := Fallible.mapM_map (Layout.ofValue around.opened (Grid.mostAxes - 1)) (fun v : Value => v)
      (fun v => ⟨some v.cellKind, .single v⟩) vs ?_
    · rwa [List.map_id'] at each
    · intro v member
      obtain ⟨n, number⟩ := numbers v member
      rcases number_cases v n number with ⟨mark, rfl⟩ | ⟨b, rfl, rfl⟩ <;> rfl
  have entries : ((vs.map fun v => (⟨some v.cellKind, .single v⟩ : Layout)).map fun part => part.grid.entries).flatten = vs := by
    rw [List.map_map]
    exact List.flatMap_singleton' vs
  rw [Layout.ofColumn, parts, Fallible.ok_bind]
  cases vs with
  | nil => rfl
  | cons v rest =>
      simp only [List.map_cons, Layout.stack] at entries ⊢
      rw [if_pos (by simp [Grid.single]), entries]
      simp [columnKind, Grid.single, List.foldl_map]

theorem column_kind_uniform (kind : CellKind) (v : Value) (rest : List Value)
    (uniform : ∀ w ∈ v :: rest, w.cellKind = kind) : columnKind (v :: rest) = some kind := by
  have self : kind.join kind = kind := by cases kind <;> rfl
  obtain ⟨here, later⟩ := List.forall_mem_cons.mp uniform
  simp only [columnKind, here]
  induction rest with
  | nil => rfl
  | cons w rest ih =>
      obtain ⟨next, later⟩ := List.forall_mem_cons.mp later
      simp only [List.foldl_cons, next, Option.merge_some_some, self]
      exact ih (fun u member => uniform u (by simp at member ⊢; tauto)) later

end

theorem sized_cases (v : Value) (x : Double) (sized : v.Sized x) :
    (∃ b : Bool, v = .bool b ∧ x = Double.round (if b then 1 else 0)) ∨
      (∃ mark, ∃ n : Int, v = .number mark (.int n) ∧ x = Double.round n) ∨ ∃ mark, v = .number mark (.double x) := by
  obtain ⟨n, number, read⟩ := sized
  have whole : ∀ k : Int, (Number.int k).toDouble = .ok x → x = Double.round k := by
    intro k read
    simp only [Number.toDouble] at read
    split at read
    · exact (Except.ok.inj read).symm
    · cases read
  rcases number_cases v n number with ⟨mark, rfl⟩ | ⟨b, rfl, rfl⟩
  · cases n with
    | int k => exact .inr (.inl ⟨mark, k, rfl, whole k read⟩)
    | double y => exact .inr (.inr ⟨mark, by rw [Except.ok.inj read]⟩)
  · refine .inl ⟨b, rfl, ?_⟩
    rw [whole _ read]
    cases b <;> simp

def Value.cellDouble (kind : CellKind) (v : Value) : Double :=
  match kind with
  | .truth => Double.round (if v.number?.any fun n => !n.isZero then 1 else 0)
  | .whole => Double.round ((v.count?).getD 0 : Int)
  | .natural => Double.round (((v.count?).getD 0).toNat : Nat)
  | .double =>
    match v.number? with
    | some n => (n.toDouble.toOption).getD .nan
    | Option.none => .nan
  | _ => .nan

theorem cell_double (kind : CellKind) (special : kind ≠ .general) (v : Value) (x : Double) (sized : v.Sized x)
    (own : v.cellKind = kind) : v.cellDouble kind = x := by
  subst own
  rcases sized_cases v x sized with ⟨b, rfl, rfl⟩ | ⟨mark, n, rfl, rfl⟩ | ⟨mark, rfl⟩
  · cases b <;> rfl
  · by_cases word : isWord n = true
    · simp [Value.cellKind, word, Value.cellDouble, Value.count?]
    · by_cases natural : isNaturalWord n = true
      · have nonneg : (n.toNat : Int) = n := by
          simp only [isNaturalWord, Bool.and_eq_true, decide_eq_true_eq] at natural
          exact Int.toNat_of_nonneg natural.1
        simp only [Value.cellKind, word, natural, Value.cellDouble, Value.count?, if_true, Option.getD_some,
          Bool.false_eq_true, if_false]
        exact congrArg (fun k : Int => Double.round k) nonneg
      · simp [Value.cellKind, word, natural] at special
  · rfl

section

variable {α : Type} (rows : List α)

theorem coefficients_sized (around : Surroundings) (v : α → Value) (x : α → Double)
    (sized : ∀ row ∈ rows, (v row).Sized (x row)) :
    around.coefficients (rows.map v) = .ok ⟨[rows.length], rows.map x⟩ := by
  have layout := numbers_layout around (rows.map v) fun w member => by
    obtain ⟨row, found, rfl⟩ := List.mem_map.mp member
    obtain ⟨n, number, _⟩ := sized row found
    exact ⟨n, number⟩
  have read := Fallible.mapM_map Value.coefficient v x rows fun row member => sized_coefficient _ _ (sized row member)
  simp [Surroundings.coefficients, layout, Grid.mapM, read]

theorem column_uniform (around : Surroundings) (kind : CellKind) (v : α → Value) (filled : rows ≠ [])
    (numbers : ∀ row ∈ rows, ∃ n, (v row).number? = some n) (uniform : ∀ row ∈ rows, (v row).cellKind = kind) :
    around.column (rows.map v) = .ok (.ofValues kind ⟨[rows.length], rows.map v⟩) := by
  have layout := numbers_layout around (rows.map v) fun w member => by
    obtain ⟨row, found, rfl⟩ := List.mem_map.mp member
    exact numbers row found
  have one : columnKind (rows.map v) = some kind := by
    cases rows with
    | nil => exact absurd rfl filled
    | cons row rest =>
        refine column_kind_uniform kind (v row) (rest.map v) fun w member => ?_
        rw [← List.map_cons] at member
        obtain ⟨row, found, rfl⟩ := List.mem_map.mp member
        exact uniform row found
  simp [Surroundings.column, layout, one, Layout.cells]

theorem own_doubles (kind : CellKind) (special : kind ≠ .general) (v : α → Value) (x : α → Double)
    (sized : ∀ row ∈ rows, (v row).Sized (x row)) (uniform : ∀ row ∈ rows, (v row).cellKind = kind) (shape : List Nat) :
    (Cells.ofValues kind ⟨shape, rows.map v⟩).asDoubles = ⟨shape, rows.map x⟩ := by
  have entries : (Cells.ofValues kind ⟨shape, rows.map v⟩).asDoubles = ⟨shape, rows.map fun row => (v row).cellDouble kind⟩ := by
    cases kind <;> simp only [Cells.ofValues, Cells.asDoubles, Grid.map, List.map_map] <;> rfl
  rw [entries]
  congr 1
  exact List.map_congr_left fun row member => cell_double kind special (v row) (x row) (sized row member) (uniform row member)

theorem pair_rows {β γ : Type} (a : α → β) (b : α → γ) (shape : List Nat) :
    Grid.paired ⟨shape, rows.map a⟩ ⟨shape, rows.map b⟩ = .ok ⟨shape, rows.map fun row => (a row, b row)⟩ := by
  simp [Grid.paired, Grid.pair?, List.zip_map']

theorem doubles_combine (op : Operation) (general : Value → Value → Fallible Value) (x y : α → Double) (shape : List Nat) :
    (Cells.doubles ⟨shape, rows.map x⟩).combine op general (.doubles ⟨shape, rows.map y⟩) =
      .ok (.doubles ⟨shape, rows.map fun row => op.onDoubles (x row) (y row)⟩) := by
  simp [Cells.combine, Cells.kind, CellKind.join, CellKind.rank, Cells.asDoubles, pair_rows, Grid.map, Function.comp_def]

theorem number_less (v : Value) (x y : Double) (sized : v.Sized x) :
    Value.sub v (.double y) = .ok (.double (x - y)) := by
  obtain ⟨n, number, read⟩ := sized
  have computed := on_values_numbers .sub v (.double y) n (.double y) number rfl
  have done : Operation.sub.onNumbers n (.double y) = .ok (.double (x - y)) := by
    cases n with
    | int k => simp only [Operation.onNumbers, Number.sub, Number.combine, read]; rfl
    | double z => rw [← Except.ok.inj read]; rfl
  rw [done] at computed
  exact computed

theorem column_less (kind : CellKind) (v : α → Value) (x y : α → Double) (shape : List Nat)
    (sized : ∀ row ∈ rows, (v row).Sized (x row)) (uniform : ∀ row ∈ rows, (v row).cellKind = kind) (text : kind ≠ .text) :
    ∃ cells, (Cells.ofValues kind ⟨shape, rows.map v⟩).combine .sub Value.sub (.doubles ⟨shape, rows.map y⟩) = .ok cells ∧
      cells.shape = shape ∧ cells.values = ⟨shape, rows.map fun row => .double (x row - y row)⟩ := by
  have own : (Cells.ofValues kind ⟨shape, rows.map v⟩).kind = kind := by cases kind <;> rfl
  by_cases general : kind = .general
  · subst general
    have each := Fallible.mapM_map (fun pair : Value × Value => pair.1.sub pair.2) (fun row => (v row, .double (y row)))
      (fun row => .double (x row - y row)) rows fun row member => number_less (v row) (x row) (y row) (sized row member)
    refine ⟨.general ⟨shape, rows.map fun row => .double (x row - y row)⟩, ?_, rfl, rfl⟩
    simp [Cells.combine, Cells.kind, CellKind.join, CellKind.rank, Cells.ofValues, Cells.values, Grid.map, pair_rows,
      Grid.mapM, each, Function.comp_def]
  · have join : kind.join .double = .double := by cases kind <;> simp_all [CellKind.join, CellKind.rank]
    have doubles := own_doubles rows kind general v x sized uniform shape
    refine ⟨.doubles ⟨shape, rows.map fun row => x row - y row⟩, ?_, rfl, ?_⟩
    · have other : (Cells.doubles (α := Value) ⟨shape, rows.map y⟩).asDoubles = ⟨shape, rows.map y⟩ := rfl
      have met : (Cells.ofValues kind ⟨shape, rows.map v⟩).kind.join (Cells.doubles (α := Value) ⟨shape, rows.map y⟩).kind =
          .double := by rw [own, ← join]; rfl
      unfold Cells.combine
      simp only [met]
      rw [doubles, other, pair_rows]
      simp only [Fallible.ok_bind, Fallible.pure_eq, Grid.map, List.map_map]
      rfl
    · simp [Cells.values, Grid.map, Function.comp_def]

theorem doubles_column (around : Surroundings) (v : α → Value) (x : α → Double) (filled : rows ≠ [])
    (doubles : ∀ row ∈ rows, ∃ mark, v row = .number mark (.double (x row))) :
    around.column (rows.map v) = .ok (.doubles ⟨[rows.length], rows.map x⟩) := by
  rw [column_uniform rows around .double v filled]
  · refine congrArg (fun entries => Except.ok (Cells.doubles ⟨[rows.length], entries⟩)) ?_
    rw [List.map_map]
    refine List.map_congr_left fun row member => ?_
    obtain ⟨mark, same⟩ := doubles row member
    simp only [Function.comp_apply, same]
    rfl
  · intro row member
    obtain ⟨mark, same⟩ := doubles row member
    exact ⟨.double (x row), by rw [same]; rfl⟩
  · intro row member
    obtain ⟨mark, same⟩ := doubles row member
    rw [same]
    rfl

end

structure Row where
  mark : Mark
  record : ConstraintRecord Value
  subject : Value
  object : Value
  lhs : Double
  multiplier : Double
  rhs : Double
  constant : Double

namespace Row

def item (row : Row) : Value := .record row.mark row.record

def residual (row : Row) : Double := LayoutAlgebra.residual row.lhs row.multiplier row.rhs row.constant

structure Read (around : Surroundings) (frames : Table) (kind : CellKind) (row : Row) : Prop where
  subject : frames.attributeValue around row.record.subject row.record.subjectAttribute = .ok row.subject
  object : frames.objectValue around row.record = .ok row.object
  kind : row.subject.cellKind = kind
  lhs : row.subject.Sized row.lhs
  rhs : ∃ mark, row.object = .number mark (.double row.rhs)
  multiplier : row.record.multiplier.Sized row.multiplier
  constant : row.record.constant.Sized row.constant

end Row

section

variable (around : Surroundings) (frames : Table) (kind : CellKind) (rows : List Row) (filled : rows ≠ [])
  (read : ∀ row ∈ rows, row.Read around frames kind)

-- What stands on the right of a residual is computed in doubles.
theorem terms_residuals (lhs : Cells Value) :
    Terms.residuals ⟨lhs, ⟨[rows.length], rows.map Row.multiplier⟩, .doubles ⟨[rows.length], rows.map Row.rhs⟩,
        ⟨[rows.length], rows.map Row.constant⟩⟩ =
      lhs.combine .sub Value.sub
        (.doubles ⟨[rows.length], rows.map fun row => row.multiplier * row.rhs + row.constant⟩) := by
  have products : (Cells.doubles ⟨[rows.length], rows.map Row.multiplier⟩).combine .mul Value.mul
      (.doubles ⟨[rows.length], rows.map Row.rhs⟩) =
        .ok (.doubles ⟨[rows.length], rows.map fun row => row.multiplier * row.rhs⟩) := doubles_combine rows .mul _ _ _ _
  have sums : (Cells.doubles ⟨[rows.length], rows.map fun row => row.multiplier * row.rhs⟩).combine .add Value.add
      (.doubles ⟨[rows.length], rows.map Row.constant⟩) =
        .ok (.doubles ⟨[rows.length], rows.map fun row => row.multiplier * row.rhs + row.constant⟩) :=
    doubles_combine rows .add _ _ _ _
  simp only [Terms.residuals, products, sums, Fallible.ok_bind]

include read filled in
theorem rows_terms :
    Terms.ofRecords around frames (rows.map Row.item) =
      .ok { lhs := .ofValues kind ⟨[rows.length], rows.map Row.subject⟩
            multipliers := ⟨[rows.length], rows.map Row.multiplier⟩
            rhs := .doubles ⟨[rows.length], rows.map Row.rhs⟩
            constants := ⟨[rows.length], rows.map Row.constant⟩ } := by
  have subjects := Fallible.mapM_map (fun item : Value => do
      let r ← item.asRecord
      return (r, ← frames.attributeValue around r.subject r.subjectAttribute)) Row.item (fun row => (row.record, row.subject))
    rows fun row member => by simp [Row.item, Value.asRecord, (read row member).subject]
  have objects := Fallible.mapM_map (frames.objectValue around) Row.record Row.object rows fun row member =>
    (read row member).object
  have left := column_uniform rows around kind Row.subject filled
    (fun row member => by
      obtain ⟨n, number, _⟩ := (read row member).lhs
      exact ⟨n, number⟩) fun row member => (read row member).kind
  have right := doubles_column rows around Row.object Row.rhs filled fun row member => (read row member).rhs
  have multipliers := coefficients_sized rows around (fun row => row.record.multiplier) Row.multiplier fun row member =>
    (read row member).multiplier
  have constants := coefficients_sized rows around (fun row => row.record.constant) Row.constant fun row member =>
    (read row member).constant
  rw [Terms.ofRecords, subjects, Fallible.ok_bind]
  simp only [List.map_map, Function.comp_def]
  rw [left, Fallible.ok_bind, objects, Fallible.ok_bind, right, Fallible.ok_bind, multipliers, Fallible.ok_bind, constants,
    Fallible.ok_bind, Fallible.pure_eq]

include read filled in
theorem rows_residuals :
    ∃ cells, residuals around frames (rows.map Row.item) = .ok cells ∧ cells.shape = [rows.length] ∧
      cells.values = ⟨[rows.length], rows.map fun row => .double row.residual⟩ := by
  have text : kind ≠ .text := by
    obtain ⟨row, rest, rfl⟩ := List.exists_cons_of_ne_nil filled
    have first := read row (by simp)
    rintro rfl
    rcases sized_cases row.subject row.lhs first.lhs with ⟨b, same, _⟩ | ⟨mark, n, same, _⟩ | ⟨mark, same⟩
    all_goals
      have own := first.kind
      rw [same] at own
      unfold Value.cellKind at own
      grind
  obtain ⟨cells, differences, shape, values⟩ := column_less rows kind Row.subject Row.lhs
    (fun row => row.multiplier * row.rhs + row.constant) [rows.length] (fun row member => (read row member).lhs)
    (fun row member => (read row member).kind) text
  refine ⟨cells, ?_, shape, values⟩
  rw [residuals, rows_terms around frames kind rows filled read, Fallible.ok_bind, terms_residuals, differences]

theorem rows_doubles (read : ∀ row ∈ rows, row.Read around frames .double) :
    residuals around frames (rows.map Row.item) = .ok (.doubles ⟨[rows.length], rows.map Row.residual⟩) := by
  by_cases filled : rows = []
  · subst filled
    rfl
  · have subjects : Cells.ofValues .double ⟨[rows.length], rows.map Row.subject⟩ =
        .doubles ⟨[rows.length], rows.map Row.lhs⟩ :=
      congrArg Cells.doubles (own_doubles rows .double (by simp) Row.subject Row.lhs
        (fun row member => (read row member).lhs) (fun row member => (read row member).kind) _)
    rw [residuals, rows_terms around frames .double rows filled read, Fallible.ok_bind, subjects, terms_residuals]
    exact doubles_combine rows .sub _ _ _ _

theorem rows_marks (cells : Cells Value) (shape : cells.shape = [rows.length])
    (values : cells.values = ⟨[rows.length], rows.map fun row => .double row.residual⟩) (tolerance : Value) (t : Number)
    (number : tolerance.number? = some t) (bound : Extended) (taken : toleranceAs (cells.kind = .double) t = .ok bound) :
    marks around cells tolerance (rows.map Row.record) =
      .ok (rows.map fun row => row.record.relation.sign.violated row.residual.extended bound) := by
  have along : Value.along cells = rows.map fun row => .double row.residual := by
    unfold Value.along
    rw [shape, values]
  rw [marks, along, List.zip_map']
  exact Fallible.mapM_map (fun pair : ConstraintRecord Value × Value =>
      isMarked around (cells.kind = .double) pair.1.relation pair.2 tolerance) (fun row : Row => (row.record, .double row.residual))
    _ rows fun row _ => by
      have double : (Value.double row.residual).number? = some (.double row.residual) := rfl
      simp only [isMarked, double, number, taken, Fallible.ok_bind, Fallible.pure_eq]
      rfl

theorem rows_report (cells : Cells Value) (computed : residuals around frames (rows.map Row.item) = .ok cells)
    (shape : cells.shape = [rows.length])
    (values : cells.values = ⟨[rows.length], rows.map fun row => .double row.residual⟩) (tolerance : Value) (t : Number)
    (number : tolerance.number? = some t) (bound : Extended) (taken : toleranceAs (cells.kind = .double) t = .ok bound)
    (priority : Row → Double) (priorities : ∀ row ∈ rows, row.record.priority.Sized (priority row)) :
    violations around frames (rows.map Row.item) tolerance =
      .ok { residuals := cells
            marks := rows.map fun row => row.record.relation.sign.violated row.residual.extended bound
            requiredMarks := rows.map fun row =>
              row.record.relation.sign.violated row.residual.extended bound && isRequired (priority row) } := by
  have records := Fallible.mapM_map Value.asRecord Row.item Row.record rows fun row _ => rfl
  have marked := rows_marks around rows cells shape values tolerance t number bound taken
  have required := coefficients_sized rows around (fun row => row.record.priority) priority priorities
  have pairs := pair_rows rows (fun row => row.record.relation.sign.violated row.residual.extended bound)
    (fun row => isRequired (priority row)) [rows.length]
  simp only [violations, computed, records, marked, required, Grid.column, Grid.map, List.map_map, Function.comp_def,
    List.length_map, Fallible.ok_bind, Fallible.pure_eq]
  rw [pairs, Fallible.ok_bind, List.map_map]
  rfl

include read filled in
theorem rows_violations (tolerance : Value) (t : Number) (number : tolerance.number? = some t) (bound : Extended)
    (taken : ∀ rounded, toleranceAs rounded t = .ok bound) (priority : Row → Double)
    (priorities : ∀ row ∈ rows, row.record.priority.Sized (priority row)) :
    ∃ report, violations around frames (rows.map Row.item) tolerance = .ok report ∧
      report.marks = rows.map fun row => row.record.relation.sign.violated row.residual.extended bound := by
  obtain ⟨cells, computed, shape, values⟩ := rows_residuals around frames kind rows filled read
  exact ⟨_, rows_report around frames rows cells computed shape values tolerance t number bound (taken _) priority priorities,
    rfl⟩

end

end LayoutAlgebra
