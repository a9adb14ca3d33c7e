import LayoutAlgebra.Proofs.Meaning
import LayoutAlgebra.Proofs.Report.Entries
import LayoutAlgebra.Proofs.Report.Residuals
set_option autoImplicit false

namespace LayoutAlgebra

def Relation.Within (residual tolerance : Extended) : Relation → Prop
  | .equal => tolerance.opposite.le residual = true ∧ residual.le tolerance = true
  | .lessOrEqual => residual.le tolerance = true
  | .greaterOrEqual => tolerance.opposite.le residual = true

structure ConstraintRecord.Sized (r : ConstraintRecord Value) : Prop where
  typed : r.Typed
  multiplier : ∃ x, r.multiplier.Sized x
  constant : ∃ x, r.constant.Sized x
  priority : ∃ x, r.priority.Sized x

def ConstraintRecord.isRequired (r : ConstraintRecord Value) : Bool :=
  r.priority.number?.any fun n => Extended.le (.rational Config.required) n.extended

section

variable (x t u : Extended)

theorem opposite_defined : x.opposite ≠ .undefined ↔ x ≠ .undefined := by
  cases x <;> simp [Extended.opposite]

theorem distance_le_iff : x.distance.le t = true ↔ t.opposite.le x = true ∧ x.le t = true := by
  cases x <;> cases t <;> simp [Extended.distance, Extended.opposite, Extended.le]
  rename_i q p
  rw [← abs_le]
  rcases le_total 0 q with nonneg | nonpos
  · rw [Rat.abs_of_nonneg nonneg, abs_of_nonneg nonneg]
  · rw [Rat.abs_of_nonpos nonpos, abs_of_nonpos nonpos]

theorem violated_iff (sign : Relation) (defined : t ≠ .undefined) :
    sign.violated x t = true ↔ x ≠ .undefined ∧ ¬ sign.Within x t := by
  cases sign with
  | equal =>
      have place : x.distance ≠ .undefined ↔ x ≠ .undefined := by cases x <;> simp [Extended.distance]
      rw [Relation.violated, extended_lt_iff, place, ← Bool.not_eq_true, distance_le_iff]
      simp [defined, Relation.Within]
  | lessOrEqual =>
      rw [Relation.violated, extended_lt_iff]
      simp [defined, Relation.Within]
  | greaterOrEqual =>
      rw [Relation.violated, extended_lt_iff, opposite_defined]
      simp [defined, Relation.Within]

theorem violated_mono (sign : Relation) (greater : t.le u = true) (violated : sign.violated x u = true) :
    sign.violated x t = true := by
  have left : t ≠ .undefined := by
    rintro rfl
    cases greater
  have right : u ≠ .undefined := by
    rintro rfl
    cases t <;> cases greater
  obtain ⟨defined, outside⟩ := (violated_iff x u sign right).mp violated
  refine (violated_iff x t sign left).mpr ⟨defined, fun within => outside ?_⟩
  have turned : u.opposite.le t.opposite = true := by rwa [extended_opposite_le]
  cases sign with
  | equal => exact ⟨extended_le_trans _ _ _ turned within.1, extended_le_trans _ _ _ within.2 greater⟩
  | lessOrEqual => exact extended_le_trans _ _ _ within greater
  | greaterOrEqual => exact extended_le_trans _ _ _ turned within

theorem violated_sides (nonneg : Extended.le (.rational 0) t = true) :
    Relation.equal.violated x t = (Relation.lessOrEqual.violated x t || Relation.greaterOrEqual.violated x t) ∧
      (Relation.lessOrEqual.violated x t && Relation.greaterOrEqual.violated x t) = false := by
  have defined : t ≠ .undefined := by
    rintro rfl
    cases nonneg
  have nonpos : t.opposite.le (.rational 0) = true := by
    have turned := extended_opposite_le t (.rational 0)
    rw [nonneg] at turned
    simpa [Extended.opposite] using turned
  have equal := violated_iff x t .equal defined
  have less := violated_iff x t .lessOrEqual defined
  have greater := violated_iff x t .greaterOrEqual defined
  constructor
  · rw [Bool.eq_iff_iff, Bool.or_eq_true, equal, less, greater]
    unfold Relation.Within
    tauto
  · rw [Bool.and_eq_false_iff, ← Bool.not_eq_true, ← Bool.not_eq_true, less, greater]
    by_contra both
    obtain ⟨⟨place, above⟩, _, below⟩ := not_or.mp both |>.imp not_not.mp not_not.mp
    -- Below the lower end is below zero, and so below the upper end.
    have lower := (extended_le_total _ x ((opposite_defined t).mpr defined) place).resolve_left below
    exact above (extended_le_trans _ _ _ lower (extended_le_trans _ _ _ nonpos nonneg))

end

theorem required_exact (n : Number) (x : Double) (read : n.toDouble = .ok x) :
    isRequired x = Extended.le (.rational Config.required) n.extended := by
  cases n with
  | double y =>
      obtain rfl := Except.ok.inj read
      rfl
  | int k =>
      have least : (Number.int Config.required).toDouble = .ok (.round Config.required) := by decide +kernel
      have before : (Number.int (Config.required - 1)).toDouble = .ok (.round (Config.required - 1 : Int)) := by decide +kernel
      have leastExact := round_exact Config.required (by decide +kernel)
      have beforeExact := round_exact (Config.required - 1 : Int) (by decide +kernel)
      rw [Bool.eq_iff_iff]
      constructor
      · intro required
        by_contra below
        have under : (Number.int k).extended.le (Number.int (Config.required - 1)).extended = true := by
          simp only [Number.extended, Extended.le, decide_eq_true_eq, not_le] at below ⊢
          have less : k < Config.required := by exact_mod_cast below
          exact_mod_cast (by omega : k ≤ Config.required - 1)
        have crossed := extended_le_trans _ _ _ required (to_double_mono _ _ x _ under read before)
        rw [beforeExact] at crossed
        exact absurd crossed (by decide +kernel)
      · intro above
        have reached := to_double_mono (.int Config.required) (.int k) _ x above least read
        rwa [leastExact] at reached

theorem required_read (r : ConstraintRecord Value) (x : Double) (sized : r.priority.Sized x) : isRequired x = r.isRequired := by
  obtain ⟨n, number, read⟩ := sized
  simp [ConstraintRecord.isRequired, number, required_exact n x read]

section

variable (around : Surroundings) (frames : Table) (batch : RecordList) (sized : ∀ r ∈ batch.records, r.Sized)
  (xs : List Double) (given : batch.records.map frames.residual? = xs.map some) (tolerance : Value) (t : Double)
  (bound : tolerance.Sized t)
include sized given bound

theorem violations_given :
    violations around frames batch.items tolerance =
      .ok { residuals := .doubles ⟨[batch.length], xs⟩
            marks := List.zipWith (fun r x => r.relation.sign.violated x.extended t.extended) batch.records xs
            requiredMarks := List.zipWith (fun r x => r.relation.sign.violated x.extended t.extended && r.isRequired)
              batch.records xs } := by
  obtain ⟨rows, items, records, rfl, read⟩ := rows_read around frames batch (fun r member => (sized r member).typed) xs given
  obtain ⟨n, number, fits⟩ := bound
  have size : rows.length = batch.length := by simpa [RecordList.items] using congrArg List.length items
  have member : ∀ row ∈ rows, row.record ∈ batch.records := fun row listed => records ▸ List.mem_map_of_mem listed
  have priority : ∀ row ∈ rows, ∃ x, row.record.priority.amount? = some x ∧ isRequired x = row.record.isRequired := by
    intro row listed
    obtain ⟨x, read⟩ := (sized _ (member row listed)).priority
    exact ⟨x, (amount_sized _ _).mpr read, required_read _ x read⟩
  have report := rows_report around frames rows (.doubles ⟨[rows.length], rows.map Row.residual⟩)
    (rows_doubles around frames rows read) rfl (by simp [Cells.values, Grid.map, Function.comp_def]) tolerance n number
    t.extended (by simp [Cells.kind, toleranceAs, fits, Fallible.ofArithmetic])
    (fun row => row.record.priority.amount?.getD .nan) fun row listed => by
      obtain ⟨x, amount, _⟩ := priority row listed
      simpa [amount] using (amount_sized _ _).mp amount
  rw [items, size] at report
  rw [report, ← records, List.zipWith_map, List.zipWith_map, List.zipWith_self, List.zipWith_self]
  congr 2
  refine List.map_congr_left fun row listed => ?_
  obtain ⟨x, amount, required⟩ := priority row listed
  simp [amount, required]

theorem marks_at (i : Nat) (r : ConstraintRecord Value) (x : Double) (listed : batch.records[i]? = some r)
    (residual : xs[i]? = some x) (report : ViolationReport)
    (reported : violations around frames batch.items tolerance = .ok report) :
    report.marks[i]? = some (r.relation.sign.violated x.extended t.extended) := by
  have done := violations_given around frames batch sized xs given tolerance t bound
  rw [Except.ok.inj (reported.symm.trans done)]
  simp [List.getElem?_zipWith, listed, residual]

end

theorem extended_defined (x : Double) : x.extended = .undefined ↔ x = .nan := by
  cases x with
  | infinite negative => cases negative <;> simp [Double.extended]
  | _ => simp [Double.extended]

theorem sized_given (frames : Table) (batch : RecordList) (doubles : frames.OfDoubles)
    (sized : ∀ r ∈ batch.records, r.Sized) (covered : ∀ r ∈ batch.records, frames.Covers r) :
    ∃ xs : List Double, batch.records.map frames.residual? = xs.map some :=
  covered_given frames doubles batch (fun r member => (sized r member).typed) covered fun r member => by
    obtain ⟨x, scale⟩ := (sized r member).multiplier
    obtain ⟨y, offset⟩ := (sized r member).constant
    exact ⟨x, y, scale, offset⟩

theorem given_length (frames : Table) (batch : RecordList) (xs : List Double)
    (given : batch.records.map frames.residual? = xs.map some) : xs.length = batch.length := by
  simpa [RecordList.records] using (congrArg List.length given).symm

theorem marks_length (frames : Table) (batch : RecordList) (xs : List Double)
    (given : batch.records.map frames.residual? = xs.map some) (t : Extended) :
    (List.zipWith (fun r x => r.relation.sign.violated x.extended t) batch.records xs).length = batch.length := by
  simp [RecordList.records, given_length frames batch xs given]

section

variable (marks : List Bool)

theorem marked_positions_iff (i : Nat) : i ∈ markedPositions marks ↔ marks[i]? = some true := by
  simp only [markedPositions, List.mem_map, List.mem_filter, Prod.exists, List.mk_mem_zipIdx_iff_getElem?]
  constructor
  · rintro ⟨mark, position, ⟨there, marked⟩, rfl⟩
    rw [there, marked]
  · intro there
    exact ⟨true, i, ⟨there, rfl⟩, rfl⟩

theorem marked_positions_increase : (markedPositions marks).Pairwise (· < ·) := by
  have positions : marks.zipIdx.map Prod.snd = List.range' 0 marks.length := List.zipIdx_map_snd 0 marks
  have increasing : (marks.zipIdx.map Prod.snd).Pairwise (· < ·) := by
    rw [positions]
    exact List.pairwise_lt_range'
  exact increasing.sublist (List.filter_sublist.map Prod.snd)

theorem marked_positions_count : (markedPositions marks).length = marks.count true := by
  have kept : marks.zipIdx.map Prod.fst = marks := List.zipIdx_map_fst 0 marks
  rw [markedPositions, List.length_map, ← List.countP_eq_length_filter]
  calc
    marks.zipIdx.countP (fun mark => mark.1) = (marks.zipIdx.map Prod.fst).countP id := by rw [List.countP_map]; rfl
    _ = marks.count true := by
      rw [kept, List.count]
      exact List.countP_congr fun mark _ => by cases mark <;> simp

end

section

variable {α : Type} (violated : α → Double → Bool) (required : α → Bool) (rs : List α) (xs : List Double)

theorem required_counted :
    (List.zipWith (fun r x => violated r x && required r) rs xs).count true =
      (rs.zip (List.zipWith violated rs xs)).countP fun entry => entry.2 && required entry.1 := by
  induction rs generalizing xs with
  | nil => rfl
  | cons r rs ih =>
      cases xs with
      | nil => rfl
      | cons x xs => simp [List.count_cons, List.countP_cons, ih]

theorem required_most :
    (List.zipWith (fun r x => violated r x && required r) rs xs).count true ≤ (List.zipWith violated rs xs).count true := by
  induction rs generalizing xs with
  | nil => exact le_rfl
  | cons r rs ih =>
      cases xs with
      | nil => exact le_rfl
      | cons x xs =>
          have rest := ih xs
          cases marked : violated r x <;> cases needed : required r <;> simp [marked, needed] <;> omega

end

structure ViolationReport.Consistent (report : ViolationReport) (batch : RecordList) (xs : List Double) : Prop where
  residuals : report.toValue.named? "residuals" = some (.array .new (.doubles ⟨[batch.length], xs⟩))
  given : xs.length = batch.length
  violated : report.toValue.named? "violated" = some (.array .new (.truths ⟨[batch.length], report.marks⟩))
  marks : report.marks.length = batch.length
  indices : report.toValue.named? "violated_indices" = some (.list .new (report.indices.map fun i : Nat => .int i))
  increasing : report.indices.Pairwise (· < ·)
  positions : ∀ i : Nat, i ∈ report.indices ↔ report.marks[i]? = some true
  total : report.toValue.named? "total_violations" = some (.int report.indices.length)
  required : report.toValue.named? "required_violations" = some (.int report.totalRequired)
  counted : report.totalRequired = (batch.records.zip report.marks).countP fun entry => entry.2 && entry.1.isRequired
  fewer : report.totalRequired ≤ report.indices.length
  rate : report.toValue.named? "violation_rate" =
    some (.double (if batch.length = 0 then .zero false else .round (report.indices.length / batch.length : Rat)))

theorem report_consistent (frames : Table) (batch : RecordList) (xs : List Double)
    (given : batch.records.map frames.residual? = xs.map some) (t : Extended) :
    ViolationReport.Consistent
      { residuals := .doubles ⟨[batch.length], xs⟩
        marks := List.zipWith (fun r x => r.relation.sign.violated x.extended t) batch.records xs
        requiredMarks := List.zipWith (fun r x => r.relation.sign.violated x.extended t && r.isRequired) batch.records xs }
      batch xs := by
  generalize made : ViolationReport.mk _ _ _ = report
  have shown := report_shown report
  have length : report.marks.length = batch.length := by
    rw [← made]
    exact marks_length frames batch xs given t
  have total : report.total = report.indices.length := (marked_positions_count report.marks).symm
  exact
    { residuals := by rw [shown.residuals, ← made]
      given := given_length frames batch xs given
      violated := by rw [shown.violated, length]
      marks := length
      indices := shown.indices
      increasing := marked_positions_increase _
      positions := marked_positions_iff _
      total := by rw [shown.total, total]
      required := shown.required
      counted := by
        rw [← made]
        exact required_counted _ _ _ _
      fewer := by
        rw [← total, ← made]
        exact required_most _ _ _ _
      rate := by rw [shown.rate, ViolationReport.rate, share, length, total] }

/-- A report tells, for each record, whether its residual is a number that is not within the tolerance, on the side or the
sides that its relation speaks of. What is not marked is within the tolerance, or it is no number at all. -/
theorem marks_tell_violations (around : Surroundings) (frames : Table) (batch : RecordList) (doubles : frames.OfDoubles)
    (sized : ∀ r ∈ batch.records, r.Sized) (covered : ∀ r ∈ batch.records, frames.Covers r) (tolerance : Value) (t : Double)
    (bound : tolerance.Sized t) (defined : t ≠ .nan) :
    ∃ (report : ViolationReport) (xs : List Double), violations around frames batch.items tolerance = .ok report ∧
      report.residuals = .doubles ⟨[batch.length], xs⟩ ∧
      report.toValue.named? "residuals" = some (.array .new (.doubles ⟨[batch.length], xs⟩)) ∧
      report.toValue.named? "violated" = some (.array .new (.truths ⟨[batch.length], report.marks⟩)) ∧
      batch.records.map frames.residual? = xs.map some ∧ report.marks.length = batch.length ∧
      ∀ (i : Nat) (r : ConstraintRecord Value) (x : Double), batch.records[i]? = some r → xs[i]? = some x →
        (report.marks[i]? = some true ↔ x ≠ .nan ∧ ¬ r.relation.sign.Within x.extended t.extended) ∧
        (report.marks[i]? = some false ↔ x = .nan ∨ r.relation.sign.Within x.extended t.extended) := by
  obtain ⟨xs, given⟩ := sized_given frames batch doubles sized covered
  have reported := violations_given around frames batch sized xs given tolerance t bound
  have parts := report_consistent frames batch xs given t.extended
  refine ⟨_, xs, reported, rfl, parts.residuals, parts.violated, given, parts.marks, ?_⟩
  · intro i r x listed residual
    have marked := marks_at around frames batch sized xs given tolerance t bound i r x listed residual _
      (violations_given around frames batch sized xs given tolerance t bound)
    have beyond := violated_iff x.extended t.extended r.relation.sign ((extended_defined t).not.mpr defined)
    rw [ne_eq, extended_defined] at beyond
    rw [marked]
    cases verdict : r.relation.sign.violated x.extended t.extended <;> simp [verdict] at beyond ⊢ <;> tauto

theorem beside_records_sized : ∀ r ∈ besideRecords.records, r.Sized := by
  have typed := beside_records_typed
  simp only [besideRecords, RecordList.records, List.map_cons, List.map_nil, List.forall_mem_cons, List.not_mem_nil,
    false_implies, implies_true, and_true] at typed ⊢
  have whole : ∀ n : Int, (Number.int n).toDouble = .ok (.round n) → ∃ x, (Value.int n).Sized x :=
    fun n read => ⟨_, .int n, rfl, read⟩
  exact ⟨⟨typed.1, whole 2 (by decide +kernel), whole 0 (by decide +kernel), whole 1000 (by decide +kernel)⟩,
    typed.2, whole 1 (by decide +kernel), whole 140 (by decide +kernel), whole 250 (by decide +kernel)⟩

theorem beside_covered : ∀ r ∈ besideRecords.records, besideFrames.Covers r := (missing_none_iff _ _).mp rfl

theorem beside_marked :
    besideFrames.OfDoubles ∧ (∀ r ∈ besideRecords.records, r.Sized) ∧ (∀ r ∈ besideRecords.records, besideFrames.Covers r) ∧
      (Value.int 1).Sized (.round 1) ∧ Double.round 1 ≠ .nan ∧
      ∃ report, violations Scene.empty.surroundings besideFrames besideRecords.items (.int 1) = .ok report ∧
        report.marks[0]? = some false ∧ report.marks[1]? = some true := by
  have one : (Value.int 1).Sized (.round 1) := ⟨.int 1, rfl, by decide +kernel⟩
  have defined : Double.round 1 ≠ .nan := by decide +kernel
  obtain ⟨report, xs, reported, _, _, _, given, _, told⟩ := marks_tell_violations Scene.empty.surroundings besideFrames besideRecords
    beside_frames_doubles beside_records_sized beside_covered (.int 1) (.round 1) one defined
  have exact : besideRecords.records.map besideFrames.residual? = [some (.zero false), some (.round 10)] := by decide +kernel
  obtain rfl : xs = [.zero false, .round 10] :=
    List.map_injective_iff.mpr (Option.some_injective Double) (given.symm.trans exact)
  have first := (told 0 _ _ rfl rfl).2.mpr (.inr ⟨by decide +kernel, by decide +kernel⟩)
  have second := (told 1 _ _ rfl rfl).1.mpr ⟨by decide +kernel, show ¬ _ = true by decide +kernel⟩
  exact ⟨beside_frames_doubles, beside_records_sized, beside_covered, one, defined, report, reported, first, second⟩

-- Two right edges that are apart, both past the largest double.
def farFrames : Table :=
  [(.view 0, .frame .new (plainFrame (.round (2 ^ 1023)) (.zero false) (.round (2 ^ 1023)) (.zero false))),
    (.view 1, .frame .new (plainFrame (.round (2 ^ 1023)) (.zero false) (.round (3 * 2 ^ 1022)) (.zero false)))]

def farRecords : RecordList :=
  [(.new, ⟨.view 0, .attr .right, .relation .equal, .view 1, .attr .right, .double (.round 1), .double (.zero false),
    .int 1000⟩)]

theorem overflow_unmarked :
    farFrames.OfDoubles ∧ (∀ r ∈ farRecords.records, r.Sized) ∧ (∀ r ∈ farRecords.records, farFrames.Covers r) ∧
      (Value.int 0).Sized (.zero false) ∧
      ∃ report, violations Scene.empty.surroundings farFrames farRecords.items (.int 0) = .ok report ∧
        report.residuals = .doubles ⟨[1], [.nan]⟩ ∧ report.marks[0]? = some false ∧
        ¬ Relation.equal.Within Double.nan.extended (Double.zero false).extended := by
  have doubles : farFrames.OfDoubles := by
    unfold farFrames Table.OfDoubles
    simp only [List.forall_mem_cons, List.not_mem_nil, false_implies, implies_true, and_true]
    exact ⟨⟨_, _, rfl, plain_frame_doubles _ _ _ _⟩, _, _, rfl, plain_frame_doubles _ _ _ _⟩
  have sized : ∀ r ∈ farRecords.records, r.Sized := by
    simp only [farRecords, RecordList.records, List.map_cons, List.map_nil, List.forall_mem_cons, List.not_mem_nil,
      false_implies, implies_true, and_true]
    exact ⟨⟨rfl, ⟨_, rfl⟩, rfl, ⟨_, rfl⟩, ⟨_, rfl⟩, ⟨_, rfl⟩⟩, ⟨_, sized_double _ _⟩, ⟨_, sized_double _ _⟩,
      ⟨.round 1000, .int 1000, rfl, by decide +kernel⟩⟩
  have given : farRecords.records.map farFrames.residual? = [some .nan] := by decide +kernel
  have none : (Value.int 0).Sized (.zero false) := ⟨.int 0, rfl, by decide +kernel⟩
  exact ⟨doubles, sized, (missing_none_iff _ _).mp rfl, none, _,
    violations_given Scene.empty.surroundings farFrames farRecords sized [.nan] given (.int 0) (.zero false) none, rfl, rfl,
    fun within => by cases within.1⟩

def ConstraintRecord.relatedBy (r : ConstraintRecord Value) (sign : Relation) : ConstraintRecord Value :=
  { r with relation := .relation sign }

section

variable (around : Surroundings) (frames : Table) (before after : RecordList) (mark : Mark) (r : ConstraintRecord Value)
  (sized : ∀ q ∈ RecordList.records (before ++ (mark, r) :: after), q.Sized) (xs : List Double)
  (given : (RecordList.records (before ++ (mark, r) :: after)).map frames.residual? = xs.map some) (tolerance : Value)
  (t : Double) (bound : tolerance.Sized t)
include sized given bound

theorem related_report (sign : Relation) :
    ∃ x report, frames.residual? r = some x ∧
      violations around frames (RecordList.items (before ++ (mark, r.relatedBy sign) :: after)) tolerance = .ok report ∧
      report.marks[before.length]? = some (sign.violated x.extended t.extended) := by
  have sizedToo : ∀ q ∈ RecordList.records (before ++ (mark, r.relatedBy sign) :: after), q.Sized := by
    simp only [RecordList.records, List.map_append, List.map_cons] at sized ⊢
    obtain ⟨first, rest⟩ := List.forall_mem_append.mp sized
    obtain ⟨here, later⟩ := List.forall_mem_cons.mp rest
    refine List.forall_mem_append.mpr ⟨first, List.forall_mem_cons.mpr ⟨?_, later⟩⟩
    exact ⟨⟨here.typed.subject, here.typed.subjectAttribute, here.typed.object, here.typed.objectAttribute,
      here.typed.multiplier, here.typed.constant⟩, here.multiplier, here.constant, here.priority⟩
  have givenToo : (RecordList.records (before ++ (mark, r.relatedBy sign) :: after)).map frames.residual? = xs.map some := by
    rw [← given]
    simp only [RecordList.records, List.map_append, List.map_cons]
    rfl
  have place : (RecordList.records (before ++ (mark, r.relatedBy sign) :: after))[before.length]? =
      some (r.relatedBy sign) := by simp [RecordList.records]
  have reported := violations_given around frames _ sizedToo xs givenToo tolerance t bound
  have residual : xs[before.length]?.map some = some (frames.residual? r) := by
    rw [← List.getElem?_map, ← given]
    simp [RecordList.records]
  obtain ⟨x, there, same⟩ := Option.map_eq_some_iff.mp residual
  have marked := marks_at around frames _ sizedToo xs givenToo tolerance t bound _ _ x place there _ reported
  exact ⟨x, _, same.symm, reported, marked⟩

end

/-- The parts of a report agree. There is a residual and a mark for each record; the positions are those of the marks, in
their order; the total is their number, and the rate is their share; and the required ones are those whose priority has to be
met. A greater tolerance marks nothing new. For a tolerance that is not negative, an equality is marked where one of the two
inequalities would be, and they never are both. -/
theorem report_agrees (around : Surroundings) (frames : Table) (batch : RecordList) (doubles : frames.OfDoubles)
    (sized : ∀ r ∈ batch.records, r.Sized) (covered : ∀ r ∈ batch.records, frames.Covers r) (tolerance : Value) (t : Double)
    (bound : tolerance.Sized t) :
    ∃ (report : ViolationReport) (xs : List Double), violations around frames batch.items tolerance = .ok report ∧
      report.Consistent batch xs ∧
      (∀ higher u, higher.Sized u → t.extended.le u.extended = true →
        ∃ looser : ViolationReport, violations around frames batch.items higher = .ok looser ∧
          ∀ i, looser.toValue.markAt? i = some true → report.toValue.markAt? i = some true) ∧
      (Extended.le (.rational 0) t.extended = true → ∀ before mark r after, batch = before ++ (mark, r) :: after →
        r.relation = .relation .equal →
        ∃ (lower upper : ViolationReport) (below above : Bool),
          violations around frames (RecordList.items (before ++ (mark, r.relatedBy .lessOrEqual) :: after)) tolerance =
            .ok lower ∧
          violations around frames (RecordList.items (before ++ (mark, r.relatedBy .greaterOrEqual) :: after)) tolerance =
            .ok upper ∧
          lower.toValue.markAt? before.length = some below ∧ upper.toValue.markAt? before.length = some above ∧
          report.toValue.markAt? before.length = some (below || above) ∧ (below && above) = false) := by
  obtain ⟨xs, given⟩ := sized_given frames batch doubles sized covered
  have reported := violations_given around frames batch sized xs given tolerance t bound
  refine ⟨_, xs, reported, report_consistent frames batch xs given t.extended, ?_, ?_⟩
  · intro higher u boundToo greater
    refine ⟨_, violations_given around frames batch sized xs given higher u boundToo, fun i marked => ?_⟩
    rw [mark_at_report, List.getElem?_zipWith_eq_some] at marked ⊢
    obtain ⟨r, x, listed, residual, violated⟩ := marked
    exact ⟨r, x, listed, residual, violated_mono _ _ _ _ greater violated⟩
  · rintro nonneg before mark r after rfl equal
    obtain ⟨x, lower, residual, below, lowerMark⟩ :=
      related_report around frames before after mark r sized xs given tolerance t bound .lessOrEqual
    obtain ⟨y, upper, residualToo, above, upperMark⟩ :=
      related_report around frames before after mark r sized xs given tolerance t bound .greaterOrEqual
    obtain ⟨z, own, residualHere, here, ownMark⟩ :=
      related_report around frames before after mark r sized xs given tolerance t bound .equal
    obtain rfl := Option.some.inj (residual.symm.trans residualToo)
    obtain rfl := Option.some.inj (residual.symm.trans residualHere)
    have same : r.relatedBy .equal = r := by rw [ConstraintRecord.relatedBy, ← equal]
    rw [same, reported] at here
    rw [← Except.ok.inj here] at ownMark
    obtain ⟨either, both⟩ := violated_sides x.extended t.extended nonneg
    simp only [mark_at_report]
    exact ⟨lower, upper, _, _, below, above, lowerMark, upperMark, by rw [ownMark, either], both⟩

theorem beside_report :
    besideFrames.OfDoubles ∧ (∀ r ∈ besideRecords.records, r.Sized) ∧ (∀ r ∈ besideRecords.records, besideFrames.Covers r) ∧
      (Value.int 1).Sized (.round 1) ∧
      ∃ report looser : ViolationReport,
        violations Scene.empty.surroundings besideFrames besideRecords.items (.int 1) = .ok report ∧
        report.toValue.named? "total_violations" = some (.int report.indices.length) ∧
        report.toValue.named? "violation_rate" = some (.double (.round (report.indices.length / 2 : Rat))) ∧
        report.totalRequired ≤ report.indices.length ∧
        violations Scene.empty.surroundings besideFrames besideRecords.items (.int 10) = .ok looser ∧
        ∀ i, looser.toValue.markAt? i = some true → report.toValue.markAt? i = some true := by
  have one : (Value.int 1).Sized (.round 1) := ⟨.int 1, rfl, by decide +kernel⟩
  have ten : (Value.int 10).Sized (.round 10) := ⟨.int 10, rfl, by decide +kernel⟩
  obtain ⟨report, _, reported, parts, raised, _⟩ := report_agrees Scene.empty.surroundings besideFrames besideRecords
    beside_frames_doubles beside_records_sized beside_covered (.int 1) (.round 1) one
  obtain ⟨looser, reportedToo, fewer⟩ := raised (.int 10) (.round 10) ten (by decide +kernel)
  exact ⟨beside_frames_doubles, beside_records_sized, beside_covered, one, report, looser, reported, parts.total, parts.rate,
    parts.fewer, reportedToo, fewer⟩

end LayoutAlgebra
