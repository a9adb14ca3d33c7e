import LayoutAlgebra.Frame
set_option autoImplicit false

namespace LayoutAlgebra

namespace Value

def ofNat (n : Nat) : Value := .int n

def ofTally (entries : List (Value × Nat)) : Value := .dict .new (entries.map fun (key, n) => (key, ofNat n))

def ofEntries (entries : List (String × Value)) : Value :=
  .dict .new (entries.map fun (name, v) => (.ofText name, v))

end Value

def share (part whole : Nat) : Double := if whole = 0 then .zero false else .round (part / whole : Rat)

def isRequired (priority : Double) : Bool := (Extended.rational Config.required).le priority.extended

def markedPositions (marks : List Bool) : List Nat :=
  (marks.zipIdx.filter fun mark => mark.1).map Prod.snd

-- How often each key occurs, in the order in which the keys first occur; `same` tells which keys are one.
def tallyInto {α : Type} (same : α → α → Bool) (key : α) : List (α × Nat) → List (α × Nat)
  | [] => [(key, 1)]
  | (other, n) :: rest =>
    if same other key then (other, n + 1) :: rest else (other, n) :: tallyInto same key rest

def tally {α : Type} (same : α → α → Bool) (keys : List α) : List (α × Nat) :=
  keys.foldl (fun entries key => tallyInto same key entries) []

structure ViolationReport where
  residuals : Cells Value
  marks : List Bool
  -- For each priority, whether it has to be met and the record is marked.
  requiredMarks : List Bool

namespace ViolationReport

def total (r : ViolationReport) : Nat := r.marks.count true

def totalRequired (r : ViolationReport) : Nat := r.requiredMarks.count true

def rate (r : ViolationReport) : Double := share r.total r.marks.length

def indices (r : ViolationReport) : List Nat := markedPositions r.marks

def toValue (r : ViolationReport) : Value :=
  .ofEntries [("residuals", .array .new r.residuals), ("violated", .ofTruths (.column r.marks)),
    ("total_violations", .ofNat r.total), ("required_violations", .ofNat r.totalRequired),
    ("violation_rate", .double r.rate), ("violated_indices", .ofList (r.indices.map .ofNat))]

end ViolationReport

def defaultTolerance : Double := .round (1 / 1000000)

-- A tolerance beside doubles is rounded to one of them; beside other values it is taken exactly.
def toleranceAs (rounded : Bool) (tolerance : Number) : Fallible Extended :=
  if rounded then do return (← Fallible.ofArithmetic tolerance.toDouble).extended else .ok tolerance.extended

-- The sign that a record is checked by. What is no relation counts as a lower bound.
def Value.sign : Value → Relation
  | .relation sign => sign
  | _ => .greaterOrEqual

-- An entry of doubles compares like an array of that entry alone.
def Value.asEntry : Value → Value
  | .number _ (.double x) => .array .new (.doubles (.single x))
  | v => v

def isPast (around : Surroundings) (sign : Relation) (residual tolerance : Value) : Fallible Bool := do
  let verdict ← match sign with
    | .equal => do around.compare .gt (← residual.absolute) tolerance
    | .lessOrEqual => around.compare .gt residual tolerance
    | .greaterOrEqual => do around.compare .lt residual (← tolerance.negated)
  verdict.truth

def isMarked (around : Surroundings) (rounded : Bool) (relation residual tolerance : Value) : Fallible Bool :=
  match residual.number?, tolerance.number? with
  | some n, some t => do return relation.sign.violated n.extended (← toleranceAs rounded t)
  | _, _ => isPast around relation.sign (if rounded then residual.asEntry else residual) tolerance

-- Marks the records whose residual passes the tolerance. The tolerance matters only once there is something to compare
-- with it.
def marks (around : Surroundings) (residuals : Cells Value) (tolerance : Value)
    (records : List (ConstraintRecord Value)) : Fallible (List Bool) :=
  (records.zip (Value.along residuals)).mapM fun (r, residual) =>
    isMarked around (residuals.kind = .double) r.relation residual tolerance

def violations (around : Surroundings) (frames : Table) (items : List Value) (tolerance : Value) :
    Fallible ViolationReport := do
  let residuals ← residuals around frames items
  let records ← items.mapM Value.asRecord
  let marks ← marks around residuals tolerance records
  let priorities ← around.coefficients (records.map ConstraintRecord.priority)
  let pairs ← (Grid.column marks).paired (priorities.map isRequired)
  return { residuals, marks, requiredMarks := pairs.entries.map fun (marked, required) => marked && required }

structure Summary where
  total : Nat
  byRelation : List (Value × Nat)
  byAttribute : List (Value × Nat)
  priorityMean : Double
  priorityMin : Double
  priorityMax : Double
  requiredFraction : Double

namespace Summary

def empty : Summary := ⟨0, [], [], .zero false, .zero false, .zero false, .zero false⟩

def countedBy : Value → Fallible Value
  | .member m => .ok (.standingText m.text)
  | .frame mark f => .ok (.reader (.frame mark f))
  | _ => .error .noMember

-- The priorities of all records count alike, those in rows as well; without any there is no least one.
def of (around : Surroundings) (records : List (ConstraintRecord Value)) : Fallible Summary := do
  let priorities := (← around.coefficients (records.map ConstraintRecord.priority)).entries
  let relations ← records.mapM fun r => countedBy r.relation
  let attributes ← records.mapM fun r => countedBy r.subjectAttribute
  if priorities.isEmpty then throw .wrongContent
  return { total := records.length,
           byRelation := tally Value.sameKey relations, byAttribute := tally Value.sameKey attributes,
           priorityMean := .mean priorities, priorityMin := .minimum priorities, priorityMax := .maximum priorities,
           requiredFraction := share ((priorities.map isRequired).count true) priorities.length }

def toValue (s : Summary) : Value :=
  .ofEntries [("total", .ofNat s.total), ("by_relation", .ofTally s.byRelation),
    ("by_attribute", .ofTally s.byAttribute), ("priority_mean", .double s.priorityMean),
    ("priority_min", .double s.priorityMin), ("priority_max", .double s.priorityMax),
    ("required_fraction", .double s.requiredFraction)]

end Summary

def summary (around : Surroundings) (items : List Value) : Fallible Summary := do
  if items.isEmpty then return .empty
  Summary.of around (← items.mapM Value.asRecord)

end LayoutAlgebra
