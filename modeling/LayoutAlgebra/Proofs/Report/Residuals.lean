import LayoutAlgebra.Proofs.Acceptance
import LayoutAlgebra.Proofs.Exact.Columns
import LayoutAlgebra.Proofs.Exact.Order
import LayoutAlgebra.Proofs.Report.Places
set_option autoImplicit false

/-!
Residuals in frames whose measures are doubles. Although whole columns are computed, there is a residual for each record, made
from the record and the frames of its own two elements; and an element without a frame is told before anything is computed.
-/
namespace LayoutAlgebra

def Value.amount? (v : Value) : Option Double := v.number?.bind fun n => n.toDouble.toOption

namespace Table

variable (frames : Table)

def Covers (r : ConstraintRecord Value) : Prop :=
  frames.lacks r.subject = false ∧ (r.object.isNone = false → frames.lacks r.object = false)

def objectPlace? (r : ConstraintRecord Value) : Option Double :=
  if r.object.isNone then some (.zero false) else frames.place? r.object r.objectAttribute

def residual? (r : ConstraintRecord Value) : Option Double := do
  let lhs ← frames.place? r.subject r.subjectAttribute
  let rhs ← frames.objectPlace? r
  let multiplier ← r.multiplier.amount?
  let constant ← r.constant.amount?
  return LayoutAlgebra.residual lhs multiplier rhs constant

-- The element that is looked for in vain: the first subject without a frame, or else the first object without one.
def missing? (records : List (ConstraintRecord Value)) : Option Value :=
  ((records.find? fun r => frames.lacks r.subject).map ConstraintRecord.subject).or
    ((records.find? fun r => !r.object.isNone && frames.lacks r.object).map ConstraintRecord.object)

end Table

structure ConstraintRecord.Typed (r : ConstraintRecord Value) : Prop where
  subject : r.subject.isKey = true
  subjectAttribute : ∃ attr, r.subjectAttribute = .attr attr
  object : r.object.isKey = true
  objectAttribute : ∃ attr, r.objectAttribute = .attr attr
  multiplier : ∃ n, r.multiplier.number? = some n
  constant : ∃ n, r.constant.number? = some n

abbrev RecordList := List (Mark × ConstraintRecord Value)

namespace RecordList

def records (batch : RecordList) : List (ConstraintRecord Value) := batch.map Prod.snd

def items (batch : RecordList) : List Value := batch.map fun (mark, r) => .record mark r

end RecordList

def Table.Gives (around : Surroundings) (frames : Table) (batch : RecordList) (xs : List Double) : Prop :=
  residuals around frames batch.items = .ok (.doubles ⟨[batch.length], xs⟩)

theorem amount_sized (v : Value) (x : Double) : v.amount? = some x ↔ v.Sized x := by
  simp only [Value.amount?, Option.bind_eq_some_iff, Value.Sized]
  refine exists_congr fun n => and_congr_right fun _ => ?_
  cases n.toDouble <;> simp [Except.toOption]

-- The only number that is not read is a whole one that no double can hold.
theorem number_coefficient (v : Value) (n : Number) (number : v.number? = some n) :
    (v.amount?.isNone = true ∧ v.coefficient = .error (.arithmetic .overflow)) ∨
      v.amount?.isNone = false ∧ ∃ x, v.coefficient = .ok x := by
  cases read : n.toDouble with
  | ok x =>
      have sized : v.Sized x := ⟨n, number, read⟩
      exact .inr ⟨by rw [(amount_sized v x).mpr sized]; rfl, x, sized_coefficient v x sized⟩
  | error fault =>
      obtain rfl := to_double_fault n fault read
      refine .inl ⟨by simp [Value.amount?, number, read, Except.toOption], ?_⟩
      rcases number_cases v n number with ⟨mark, rfl⟩ | ⟨b, rfl, rfl⟩ <;>
        simp [Value.coefficient, Value.toDouble, read, Fallible.ofArithmetic]

theorem missing_none_iff (frames : Table) (records : List (ConstraintRecord Value)) :
    frames.missing? records = none ↔ ∀ r ∈ records, frames.Covers r := by
  simp only [Table.missing?, Option.or_eq_none_iff, Option.map_eq_none_iff, List.find?_eq_none, Table.Covers,
    Bool.and_eq_true, Bool.not_eq_true', not_and, Bool.not_eq_true]
  exact ⟨fun ⟨subjects, objects⟩ r member => ⟨subjects r member, objects r member⟩,
    fun covered => ⟨fun r member => (covered r member).1, fun r member => (covered r member).2⟩⟩

section

variable (around : Surroundings) (frames : Table)

theorem row_read (mark : Mark) (r : ConstraintRecord Value) (typed : r.Typed) (x : Double)
    (computed : frames.residual? r = some x) :
    ∃ row : Row, row.item = .record mark r ∧ row.record = r ∧ row.residual = x ∧ row.Read around frames .double := by
  simp only [Table.residual?, Option.bind_eq_bind, Option.bind_eq_some_iff, Option.pure_def, Option.some.injEq] at computed
  obtain ⟨lhs, subject, rhs, object, multiplier, scale, constant, offset, rfl⟩ := computed
  obtain ⟨_, read, first, rfl⟩ := place_read around frames r.subject r.subjectAttribute lhs typed.subject subject
  have other : ∃ u, frames.objectValue around r = .ok u ∧ ∃ second, u = .number second (.double rhs) := by
    unfold Table.objectPlace? at object
    unfold Table.objectValue
    split at object <;> rename_i absent
    · obtain rfl := Option.some.inj object
      exact ⟨.noMeasure, by rw [if_pos absent], _, rfl⟩
    · rw [if_neg absent]
      exact place_read around frames r.object r.objectAttribute rhs typed.object object
  obtain ⟨_, found, second, rfl⟩ := other
  exact ⟨⟨mark, r, .number first (.double lhs), .number second (.double rhs), lhs, multiplier, rhs, constant⟩, rfl, rfl, rfl,
    { subject := read, object := found, kind := rfl, lhs := sized_double _ _, rhs := ⟨second, rfl⟩
      multiplier := (amount_sized _ _).mp scale, constant := (amount_sized _ _).mp offset }⟩

theorem rows_read (batch : RecordList) (typed : ∀ r ∈ batch.records, r.Typed) (xs : List Double)
    (computed : batch.records.map frames.residual? = xs.map some) :
    ∃ rows : List Row, rows.map Row.item = batch.items ∧ rows.map Row.record = batch.records ∧
      rows.map Row.residual = xs ∧ ∀ row ∈ rows, row.Read around frames .double := by
  induction batch generalizing xs with
  | nil =>
      obtain rfl := List.map_eq_nil_iff.mp computed.symm
      exact ⟨[], rfl, rfl, rfl, by simp⟩
  | cons entry rest ih =>
      obtain ⟨mark, r⟩ := entry
      cases xs with
      | nil => cases computed
      | cons x xs =>
          obtain ⟨here, later⟩ := List.cons.inj computed
          obtain ⟨first, others⟩ := List.forall_mem_cons.mp typed
          obtain ⟨row, item, record, residual, read⟩ := row_read around frames mark r first x here
          obtain ⟨rows, items, records, residuals, reads⟩ := ih others xs later
          exact ⟨row :: rows, congrArg₂ List.cons item items, congrArg₂ List.cons record records,
            congrArg₂ List.cons residual residuals, List.forall_mem_cons.mpr ⟨read, reads⟩⟩

theorem zip_given (batch : RecordList) (xs : List Double) (given : batch.records.map frames.residual? = xs.map some) :
    batch.zip xs = batch.filterMap fun entry => (frames.residual? entry.2).map fun x => (entry, x) := by
  induction batch generalizing xs with
  | nil => rfl
  | cons entry rest ih =>
      cases xs with
      | nil => cases given
      | cons x xs =>
          obtain ⟨here, later⟩ := List.cons.inj given
          simp only [List.zip_cons_cons, List.filterMap_cons, here, Option.map_some, ih xs later]

theorem residuals_defined (batch : RecordList) (defined : ∀ r ∈ batch.records, ∃ x, frames.residual? r = some x) :
    ∃ xs : List Double, batch.records.map frames.residual? = xs.map some := by
  refine ⟨batch.records.map fun r => (frames.residual? r).getD .nan, ?_⟩
  rw [List.map_map]
  refine List.map_congr_left fun r member => ?_
  obtain ⟨x, residual⟩ := defined r member
  simp [residual]

theorem residuals_read (batch : RecordList) (typed : ∀ r ∈ batch.records, r.Typed) (xs : List Double)
    (computed : batch.records.map frames.residual? = xs.map some) :
    frames.Gives around batch xs := by
  obtain ⟨rows, items, _, rfl, read⟩ := rows_read around frames batch typed xs computed
  have size : rows.length = batch.length := by simpa [RecordList.items] using congrArg List.length items
  rw [Table.Gives, ← items, rows_doubles around frames rows read, size]

theorem coefficients_read_or_fail {α : Type} (rows : List α) (v : α → Value)
    (numbers : ∀ row ∈ rows, ∃ n, (v row).number? = some n) :
    ((∀ row ∈ rows, ∃ x, (v row).amount? = some x) ∧ ∃ g, around.coefficients (rows.map v) = .ok g) ∨
      around.coefficients (rows.map v) = .error (.arithmetic .overflow) := by
  have layout := numbers_layout around (rows.map v) fun w member => by
    obtain ⟨row, found, rfl⟩ := List.mem_map.mp member
    exact numbers row found
  have column : around.coefficients (rows.map v) =
      (rows.mapM fun row => (v row).coefficient) >>= fun entries => .ok ⟨[rows.length], entries⟩ := by
    simp [Surroundings.coefficients, layout, Grid.mapM, List.mapM_map, Function.comp_def]
  rw [column]
  rcases Fallible.mapM_first (fun row => (v row).coefficient) (fun row => (v row).amount?.isNone)
    (fun _ => .arithmetic .overflow) rows (fun row member => by
      obtain ⟨n, number⟩ := numbers row member
      exact number_coefficient (v row) n number) with ⟨_, _, failed⟩ | ⟨none, entries, done⟩
  · exact .inr (by rw [failed, Fallible.error_bind])
  · refine .inl ⟨fun row member => ?_, _, by rw [done, Fallible.ok_bind]⟩
    simpa [Option.ne_none_iff_exists'] using List.find?_eq_none.mp none row member

theorem column_looked_up (records : List (ConstraintRecord Value)) (lacks : ConstraintRecord Value → Bool)
    (element : ConstraintRecord Value → Value) (read : ConstraintRecord Value → Fallible Value)
    (each : ∀ r ∈ records, (lacks r = true ∧ read r = .error (.noFrame (element r))) ∨
      lacks r = false ∧ ∃ v n, read r = .ok v ∧ v.number? = some n) :
    (∃ r, records.find? lacks = some r ∧ records.mapM read = .error (.noFrame (element r))) ∨
      records.find? lacks = none ∧ ∃ values cells, records.mapM read = .ok values ∧ around.column values = .ok cells := by
  rcases Fallible.mapM_first read lacks (fun r => .noFrame (element r)) records fun r member =>
    (each r member).imp_right fun ⟨has, v, _, found, _⟩ => ⟨has, v, found⟩ with ⟨r, first, failed⟩ | ⟨none, values, done⟩
  · exact .inl ⟨r, first, failed⟩
  · have numbers : ∀ v ∈ values, ∃ n, v.number? = some n := by
      intro v member
      obtain ⟨r, listed, found⟩ := Fallible.mapM_source _ _ _ done v member
      rcases each r listed with ⟨_, failed⟩ | ⟨_, w, n, foundToo, number⟩
      · rw [found] at failed
        cases failed
      · exact ⟨n, by rwa [Except.ok.inj (found.symm.trans foundToo)]⟩
    exact .inr ⟨none, values, _, done, by rw [Surroundings.column, numbers_layout around values numbers]; rfl⟩

theorem items_looked_up (batch : RecordList) :
    batch.items.mapM (fun item => do
      let r ← item.asRecord
      return (r, ← frames.attributeValue around r.subject r.subjectAttribute)) =
      (batch.records.mapM fun r => frames.attributeValue around r.subject r.subjectAttribute) >>=
        fun values => .ok (batch.records.zip values) := by
  rw [← Fallible.mapM_beside, RecordList.items, RecordList.records, List.mapM_map, List.mapM_map]
  rfl

section

variable (doubles : frames.OfDoubles)
include doubles

theorem residual_defined (r : ConstraintRecord Value) (typed : r.Typed) (covered : frames.Covers r)
    (scale : ∃ x, r.multiplier.amount? = some x) (offset : ∃ x, r.constant.amount? = some x) :
    ∃ x, frames.residual? r = some x := by
  obtain ⟨multiplier, scale⟩ := scale
  obtain ⟨constant, offset⟩ := offset
  obtain ⟨lhs, left⟩ := place_defined frames doubles r.subject r.subjectAttribute typed.subjectAttribute covered.1
  have right : ∃ rhs, frames.objectPlace? r = some rhs := by
    unfold Table.objectPlace?
    cases absent : r.object.isNone with
    | true => exact ⟨_, rfl⟩
    | false => exact place_defined frames doubles r.object r.objectAttribute typed.objectAttribute (covered.2 absent)
  obtain ⟨rhs, right⟩ := right
  exact ⟨_, by simp only [Table.residual?, left, right, scale, offset, Option.bind_eq_bind, Option.bind_some]; rfl⟩

theorem object_read (r : ConstraintRecord Value) (typed : r.Typed) :
    ((!r.object.isNone && frames.lacks r.object) = true ∧ frames.objectValue around r = .error (.noFrame r.object)) ∨
      (!r.object.isNone && frames.lacks r.object) = false ∧
        ∃ v n, frames.objectValue around r = .ok v ∧ v.number? = some n := by
  unfold Table.objectValue
  cases absent : r.object.isNone with
  | true => exact .inr ⟨rfl, _, _, rfl, rfl⟩
  | false => exact attribute_read around frames doubles r.object r.objectAttribute typed.object typed.objectAttribute

-- The frames of all elements are looked for in the order of the records, those of the subjects first, and only where all
-- are there the coefficients are read.
theorem residuals_outcome (batch : RecordList) (typed : ∀ r ∈ batch.records, r.Typed) :
    (∃ element, frames.missing? batch.records = some element ∧
        residuals around frames batch.items = .error (.noFrame element)) ∨
      frames.missing? batch.records = none ∧
        (residuals around frames batch.items = .error (.arithmetic .overflow) ∨
          ∀ r ∈ batch.records, ∃ x, frames.residual? r = some x) := by
  unfold residuals Terms.ofRecords Table.missing?
  rw [items_looked_up]
  have subjects := fun r member => attribute_read around frames doubles r.subject r.subjectAttribute (typed r member).subject
    (typed r member).subjectAttribute
  have objects := fun r member => object_read around frames doubles r (typed r member)
  rcases column_looked_up around batch.records _ _ _ subjects with ⟨r, first, failed⟩ | ⟨none, values, lhs, read, left⟩
  · exact .inl ⟨r.subject, by rw [first]; rfl, by rw [failed]; rfl⟩
  · have sizes := Fallible.mapM_length _ _ _ read
    rw [none, read, Fallible.ok_bind, Fallible.ok_bind, List.map_fst_zip sizes.le, List.map_snd_zip sizes.ge, left,
      Fallible.ok_bind]
    rcases column_looked_up around batch.records _ _ _ objects with ⟨r, first, failed⟩ | ⟨noneToo, values, rhs, read, right⟩
    · exact .inl ⟨r.object, by rw [first]; rfl, by rw [failed]; rfl⟩
    · have covered := (missing_none_iff frames batch.records).mp (by unfold Table.missing?; rw [none, noneToo]; rfl)
      rw [noneToo, read, Fallible.ok_bind, right, Fallible.ok_bind]
      refine .inr ⟨rfl, ?_⟩
      rcases coefficients_read_or_fail around batch.records ConstraintRecord.multiplier
        fun r member => (typed r member).multiplier with ⟨scales, _, multipliers⟩ | failed
      · rcases coefficients_read_or_fail around batch.records ConstraintRecord.constant
          fun r member => (typed r member).constant with ⟨offsets, _, constants⟩ | failed
        · refine .inr fun r member => ?_
          exact residual_defined frames doubles r (typed r member) (covered r member) (scales r member) (offsets r member)
        · exact .inl (by rw [multipliers, Fallible.ok_bind, failed]; rfl)
      · exact .inl (by rw [failed]; rfl)

theorem gives_iff (batch : RecordList) (typed : ∀ r ∈ batch.records, r.Typed) (xs : List Double) :
    frames.Gives around batch xs ↔ batch.records.map frames.residual? = xs.map some := by
  refine ⟨fun gives => ?_, residuals_read around frames batch typed xs⟩
  rcases residuals_outcome around frames doubles batch typed with ⟨_, _, failed⟩ | ⟨_, failed | defined⟩
  · cases gives.symm.trans failed
  · cases gives.symm.trans failed
  · obtain ⟨ys, same⟩ := residuals_defined frames batch defined
    rw [same]
    have given := gives.symm.trans (residuals_read around frames batch typed ys same)
    simp only [Except.ok.injEq, Cells.doubles.injEq, Grid.mk.injEq, true_and] at given
    rw [given]

theorem covered_given (batch : RecordList) (typed : ∀ r ∈ batch.records, r.Typed)
    (covered : ∀ r ∈ batch.records, frames.Covers r)
    (sized : ∀ r ∈ batch.records, ∃ x y, r.multiplier.Sized x ∧ r.constant.Sized y) :
    ∃ xs : List Double, batch.records.map frames.residual? = xs.map some :=
  residuals_defined frames batch fun r member => by
    obtain ⟨x, y, scale, offset⟩ := sized r member
    exact residual_defined frames doubles r (typed r member) (covered r member) ⟨x, (amount_sized _ _).mpr scale⟩
      ⟨y, (amount_sized _ _).mpr offset⟩

theorem missing_iff (batch : RecordList) (typed : ∀ r ∈ batch.records, r.Typed) (element : Value) :
    residuals around frames batch.items = .error (.noFrame element) ↔ frames.missing? batch.records = some element := by
  rcases residuals_outcome around frames doubles batch typed with ⟨_, missing, failed⟩ | ⟨none, failed | defined⟩
  · rw [missing, failed]
    simp
  · rw [none, failed]
    simp
  · obtain ⟨xs, same⟩ := residuals_defined frames batch defined
    have given : residuals around frames batch.items = _ := residuals_read around frames batch typed xs same
    rw [none, given]
    simp

theorem gives_append (first second : RecordList) (typed : ∀ r ∈ (first ++ second).records, r.Typed) (xs ys : List Double) :
    (frames.Gives around (first ++ second) (xs ++ ys) ∧ xs.length = first.length) ↔
      frames.Gives around first xs ∧ frames.Gives around second ys := by
  have joined : (first ++ second).records = first.records ++ second.records := List.map_append
  rw [joined] at typed
  rw [gives_iff around frames doubles _ (by rwa [joined]), joined,
    gives_iff around frames doubles first fun r member => typed r (List.mem_append_left _ member),
    gives_iff around frames doubles second fun r member => typed r (List.mem_append_right _ member), List.map_append,
    List.map_append]
  constructor
  · rintro ⟨same, length⟩
    exact List.append_inj same (by simpa [RecordList.records] using length.symm)
  · rintro ⟨left, right⟩
    exact ⟨by rw [left, right], by simpa [RecordList.records] using (congrArg List.length left).symm⟩

theorem gives_permuted (batch other : RecordList) (typed : ∀ r ∈ batch.records, r.Typed) (permuted : batch.Perm other)
    (xs : List Double) (gives : frames.Gives around batch xs) :
    ∃ ys, frames.Gives around other ys ∧ (batch.zip xs).Perm (other.zip ys) := by
  have records : batch.records.Perm other.records := permuted.map Prod.snd
  have typedToo : ∀ r ∈ other.records, r.Typed := fun r member => typed r (records.mem_iff.mpr member)
  have given := (gives_iff around frames doubles batch typed xs).mp gives
  have defined : ∀ r ∈ other.records, ∃ x, frames.residual? r = some x := by
    intro r member
    have listed := List.mem_map_of_mem (f := frames.residual?) (records.mem_iff.mpr member)
    rw [given] at listed
    obtain ⟨x, _, same⟩ := List.mem_map.mp listed
    exact ⟨x, same.symm⟩
  obtain ⟨ys, same⟩ := residuals_defined frames other defined
  refine ⟨ys, residuals_read around frames other typedToo ys same, ?_⟩
  rw [zip_given frames batch xs given, zip_given frames other ys same]
  exact permuted.filterMap _

end

end

section

variable (around : Surroundings) (frames others : Table)

def Table.Shares (frames others : Table) (r : ConstraintRecord Value) : Prop :=
  others.get? r.subject = frames.get? r.subject ∧ (r.object.isNone = false → others.get? r.object = frames.get? r.object)

theorem residual_shared (r : ConstraintRecord Value) (shared : frames.Shares others r) :
    others.residual? r = frames.residual? r := by
  obtain ⟨subject, object⟩ := shared
  unfold Table.residual? Table.objectPlace? Table.place?
  rw [subject]
  cases absent : r.object.isNone with
  | true => rfl
  | false => rw [object absent]

theorem residuals_shared (batch : RecordList) (shared : ∀ r ∈ batch.records, frames.Shares others r) :
    residuals around others batch.items = residuals around frames batch.items := by
  have subjects := Fallible.mapM_same (fun r => others.attributeValue around r.subject r.subjectAttribute)
    (fun r => frames.attributeValue around r.subject r.subjectAttribute) batch.records fun r member => by
      unfold Table.attributeValue
      rw [(shared r member).1]
  have objects := Fallible.mapM_same (others.objectValue around) (frames.objectValue around) batch.records
    fun r member => by
      unfold Table.objectValue Table.attributeValue
      cases absent : r.object.isNone with
      | true => rfl
      | false => rw [(shared r member).2 absent]
  unfold residuals Terms.ofRecords
  rw [items_looked_up, items_looked_up, subjects]
  cases read : batch.records.mapM fun r => frames.attributeValue around r.subject r.subjectAttribute with
  | error failure => rfl
  | ok values =>
      rw [Fallible.ok_bind, Fallible.ok_bind, Fallible.ok_bind, List.map_fst_zip (Fallible.mapM_length _ _ _ read).le]
      dsimp only
      rw [objects]

end

def besideRecords : RecordList :=
  [(.new, ⟨.view 1, .attr .width, .relation .equal, .view 0, .attr .width, .int 2, .int 0, .int 1000⟩),
    (.new, ⟨.view 1, .attr .right, .relation .lessOrEqual, .none, .attr .notAnAttribute, .int 1, .int 140, .int 250⟩)]

theorem beside_records_typed : ∀ r ∈ besideRecords.records, r.Typed := by
  simp only [besideRecords, RecordList.records, List.map_cons, List.map_nil, List.forall_mem_cons, List.not_mem_nil,
    false_implies, implies_true, and_true]
  exact ⟨⟨rfl, ⟨_, rfl⟩, rfl, ⟨_, rfl⟩, ⟨_, rfl⟩, ⟨_, rfl⟩⟩, ⟨rfl, ⟨_, rfl⟩, rfl, ⟨_, rfl⟩, ⟨_, rfl⟩, ⟨_, rfl⟩⟩⟩

namespace Scene

theorem raised_no_frame (s : Scene) (element : Value) (text : String) (written : s.surroundings.full element = .ok text) :
    s.raised (.noFrame element) = .noKey := by
  simp [raised, Script.worded, Failure.message?, written, Failure.category]

structure RecordByRecord (s : Scene) (frames : Table) (batch : RecordList) : Prop where
  missing : ∀ element, residuals s.surroundings frames batch.items = .error (.noFrame element) ↔
    frames.missing? batch.records = some element
  covered : frames.missing? batch.records = none ↔ ∀ r ∈ batch.records, frames.Covers r
  -- The only other failure is a coefficient that no double can hold.
  failures : ∀ failure, residuals s.surroundings frames batch.items = .error failure →
    failure = .arithmetic .overflow ∨ ∃ element, failure = .noFrame element
  told : ∀ element, (∃ text, s.surroundings.full element = .ok text) ∨ (s.Titled ∧ ∃ v, element = .view v) →
    s.raised (.noFrame element) = .noKey
  succeeds : (∀ r ∈ batch.records, frames.Covers r) →
    (∀ r ∈ batch.records, ∃ x y, r.multiplier.Sized x ∧ r.constant.Sized y) → ∃ xs, frames.Gives s.surroundings batch xs
  computed : ∀ cells, residuals s.surroundings frames batch.items = .ok cells →
    ∃ xs, cells = .doubles ⟨[batch.length], xs⟩ ∧ batch.records.map frames.residual? = xs.map some
  -- A residual depends on the frames of the two elements of its record alone.
  own : ∀ (xs ys : List Double) (others : Table) (i : Nat) (r : ConstraintRecord Value),
    frames.Gives s.surroundings batch xs → others.OfDoubles → others.Gives s.surroundings batch ys →
    batch.records[i]? = some r → frames.Shares others r → ys[i]? = xs[i]?
  joined : ∀ first second xs ys, batch = first ++ second →
    ((frames.Gives s.surroundings batch (xs ++ ys) ∧ xs.length = first.length) ↔
      frames.Gives s.surroundings first xs ∧ frames.Gives s.surroundings second ys)
  permuted : ∀ other xs, batch.Perm other → frames.Gives s.surroundings batch xs →
    ∃ ys, frames.Gives s.surroundings other ys ∧ (batch.zip xs).Perm (other.zip ys)
  shared : ∀ others, (∀ r ∈ batch.records, frames.Shares others r) →
    residuals s.surroundings others batch.items = residuals s.surroundings frames batch.items
  elsewhere : ∀ v content, (∀ r ∈ batch.records, r.subject ≠ .view v ∧ r.object ≠ .view v) →
    residuals s.surroundings (frames.put (.view v) content) batch.items = residuals s.surroundings frames batch.items

/-- Residuals are computed record by record. They fail for a missing frame exactly if a subject or an object has none, and
name the first such subject or else the first such object, as a missing key; and otherwise only for a coefficient that no
double can hold. Each residual depends on its record and on the frames of the two elements of that record: so residuals of
joined lists are joined, those of permuted records are permuted alike, and frames of other elements change nothing. -/
theorem residuals_by_record (s : Scene) (frames : Table) (batch : RecordList) (doubles : frames.OfDoubles)
    (typed : ∀ r ∈ batch.records, r.Typed) : s.RecordByRecord frames batch := by
  have outcome := residuals_outcome s.surroundings frames doubles batch typed
  have given := gives_iff s.surroundings frames doubles batch typed
  have shared := fun others => residuals_shared s.surroundings frames others batch
  refine
    { missing := missing_iff s.surroundings frames doubles batch typed
      covered := missing_none_iff frames batch.records
      failures := ?failures
      told := ?told
      succeeds := ?succeeds
      computed := ?computed
      own := ?own
      joined := ?joined
      permuted := fun other xs permuted gives =>
        gives_permuted s.surroundings frames doubles batch other typed permuted xs gives
      shared := shared
      elsewhere := ?elsewhere }
  case failures =>
    intro failure failed
    rcases outcome with ⟨element, _, missing⟩ | ⟨_, overflow | defined⟩
    · exact .inr ⟨element, Except.error.inj (failed.symm.trans missing)⟩
    · exact .inl (Except.error.inj (failed.symm.trans overflow))
    · obtain ⟨xs, same⟩ := residuals_defined frames batch defined
      cases failed.symm.trans ((given xs).mpr same)
  case told =>
    rintro element (⟨text, written⟩ | ⟨titled, v, rfl⟩)
    · exact raised_no_frame s element text written
    · obtain ⟨text, written⟩ := titled_written titled v
      exact raised_no_frame s (.view v) text written
  case succeeds =>
    intro covered sized
    obtain ⟨xs, same⟩ := covered_given frames doubles batch typed covered sized
    exact ⟨xs, (given xs).mpr same⟩
  case computed =>
    intro cells done
    rcases outcome with ⟨_, _, failed⟩ | ⟨_, failed | defined⟩
    · cases done.symm.trans failed
    · cases done.symm.trans failed
    · obtain ⟨xs, same⟩ := residuals_defined frames batch defined
      exact ⟨xs, Except.ok.inj (done.symm.trans ((given xs).mpr same)), same⟩
  case own =>
    intro xs ys others i r here doublesToo there listed alike
    have left := congrArg (fun l : List (Option Double) => l[i]?) ((given xs).mp here)
    have right := congrArg (fun l : List (Option Double) => l[i]?)
      ((gives_iff s.surroundings others doublesToo batch typed ys).mp there)
    simp only [List.getElem?_map, listed, Option.map_some, residual_shared frames others r alike] at left right
    exact Option.map_injective (Option.some_injective Double) (right.symm.trans left)
  case joined =>
    rintro first second xs ys rfl
    exact gives_append s.surroundings frames doubles first second typed xs ys
  case elsewhere =>
    intro v content elsewhere
    exact shared _ fun r member => ⟨put_elsewhere frames v content _ (elsewhere r member).1,
      fun _ => put_elsewhere frames v content _ (elsewhere r member).2⟩

theorem beside_residuals :
    besideFrames.OfDoubles ∧ (∀ r ∈ besideRecords.records, r.Typed) ∧
      besideFrames.Gives Scene.empty.surroundings besideRecords [.zero false, .round 10] ∧
      besideFrames.Gives Scene.empty.surroundings (besideRecords.drop 1) [.round 10] := by
  have parts := residuals_by_record Scene.empty besideFrames besideRecords beside_frames_doubles beside_records_typed
  have sized : ∀ r ∈ besideRecords.records, ∃ x y, r.multiplier.Sized x ∧ r.constant.Sized y := by
    simp only [besideRecords, RecordList.records, List.map_cons, List.map_nil, List.forall_mem_cons, List.not_mem_nil,
      false_implies, implies_true, and_true]
    exact ⟨⟨.round 2, .round 0, ⟨.int 2, rfl, by decide +kernel⟩, .int 0, rfl, by decide +kernel⟩,
      .round 1, .round 140, ⟨.int 1, rfl, by decide +kernel⟩, .int 140, rfl, by decide +kernel⟩
  obtain ⟨xs, gives⟩ := parts.succeeds (parts.covered.mp rfl) sized
  obtain ⟨ys, same, residuals⟩ := parts.computed _ gives
  have exact : besideRecords.records.map besideFrames.residual? = [some (.zero false), some (.round 10)] := by decide +kernel
  obtain rfl : xs = ys := by simpa using same
  obtain rfl : xs = [.zero false, .round 10] :=
    List.map_injective_iff.mpr (Option.some_injective Double) (residuals.symm.trans exact)
  obtain ⟨_, alone⟩ := (parts.joined (besideRecords.take 1) (besideRecords.drop 1) [.zero false] [.round 10] rfl).mp ⟨gives, rfl⟩
  exact ⟨beside_frames_doubles, beside_records_typed, gives, alone⟩

end Scene

end LayoutAlgebra
