import LayoutAlgebra.Proofs.Keys
import LayoutAlgebra.Report
set_option autoImplicit false

namespace LayoutAlgebra

namespace Value

def named? : Value → String → Option Value
  | .dict _ table, name => Table.get? table (.ofText name)
  | _, _ => Option.none

def Spells (key : Value) (text : String) : Prop := key = .standingText text ∨ key = .text .new text

end Value

theorem standing_spells (text : String) : (Value.standingText text).Spells text := .inl rfl

theorem of_text_spells (text : String) : (Value.ofText text).Spells text := by
  unfold Value.ofText
  split
  · exact .inl rfl
  · exact .inr rfl

theorem spelled_same_key (a b : Value) (s t : String) (first : a.Spells s) (second : b.Spells t) :
    a.sameKey b = (s == t) := by
  have compared : ∀ m n : Mark, m.same n = (s == t) ∨ m.same n = false →
      (Value.text m s).sameKey (.text n t) = (s == t) := by
    intro m n marked
    have opened : (Value.text m s).sameKey (.text n t) =
        match if m.same n || false then (.ok true : Fallible Bool) else .ok (s == t) with
        | .ok same => same
        | .error _ => false := rfl
    rw [opened]
    rcases marked with marked | marked <;> rw [marked] <;> cases s == t <;> rfl
  rcases first with rfl | rfl <;> rcases second with rfl | rfl
  · have marked : (Mark.standing s).same (.standing t) = (s == t) := by
      rw [Bool.eq_iff_iff]
      simp [Mark.same, Mark.isKept]
    exact compared _ _ (.inl marked)
  · exact compared _ _ (.inr rfl)
  · exact compared _ _ (.inr rfl)
  · exact compared _ _ (.inr rfl)

theorem get_spelled (key : String → Value) (spells : ∀ text, (key text).Spells text) (entries : List (String × Value))
    (name : String) :
    Table.get? (entries.map fun entry => (key entry.1, entry.2)) (.ofText name) =
      (entries.find? fun entry => entry.1 == name).map Prod.snd := by
  have same : ∀ entry : String × Value, (key entry.1).sameKey (.ofText name) = (entry.1 == name) :=
    fun entry => spelled_same_key _ _ _ _ (spells entry.1) (of_text_spells name)
  rw [Table.get?, List.find?_map, Option.map_map]
  simp only [Function.comp_def, same]

theorem named_of_entries (entries : List (String × Value)) (name : String) :
    (Value.ofEntries entries).named? name = (entries.find? fun entry => entry.1 == name).map Prod.snd := by
  rw [Value.ofEntries, Value.named?]
  exact get_spelled .ofText of_text_spells entries name

structure ViolationReport.Shown (r : ViolationReport) (answer : Value) : Prop where
  residuals : answer.named? "residuals" = some (.array .new r.residuals)
  violated : answer.named? "violated" = some (.array .new (.truths ⟨[r.marks.length], r.marks⟩))
  total : answer.named? "total_violations" = some (.int r.total)
  required : answer.named? "required_violations" = some (.int r.totalRequired)
  rate : answer.named? "violation_rate" = some (.double r.rate)
  indices : answer.named? "violated_indices" = some (.list .new (r.indices.map fun i : Nat => .int i))

theorem report_shown (r : ViolationReport) : r.Shown r.toValue := by
  constructor <;> (rw [ViolationReport.toValue, named_of_entries]; rfl)

def Value.markAt? (answer : Value) (i : Nat) : Option Bool :=
  match answer.named? "violated" with
  | some (.array _ (.truths marks)) => marks.entries[i]?
  | _ => Option.none

theorem mark_at_report (r : ViolationReport) (i : Nat) : r.toValue.markAt? i = r.marks[i]? := by
  rw [Value.markAt?, (report_shown r).violated]

structure Summary.Shown (s : Summary) (answer : Value) : Prop where
  total : answer.named? "total" = some (.int s.total)
  byRelation : answer.named? "by_relation" = some (.dict .new (s.byRelation.map fun entry => (entry.1, .int entry.2)))
  byAttribute : answer.named? "by_attribute" = some (.dict .new (s.byAttribute.map fun entry => (entry.1, .int entry.2)))
  priorityMean : answer.named? "priority_mean" = some (.double s.priorityMean)
  priorityMin : answer.named? "priority_min" = some (.double s.priorityMin)
  priorityMax : answer.named? "priority_max" = some (.double s.priorityMax)
  requiredFraction : answer.named? "required_fraction" = some (.double s.requiredFraction)

theorem summary_shown (s : Summary) : s.Shown s.toValue := by
  constructor <;> (rw [Summary.toValue, named_of_entries]; rfl)

end LayoutAlgebra
