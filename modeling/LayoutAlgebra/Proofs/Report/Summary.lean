import LayoutAlgebra.Proofs.Exact.First
import LayoutAlgebra.Proofs.Report.Tally
import LayoutAlgebra.Proofs.Report.Violations
import Mathlib.Algebra.BigOperators.Ring.Finset
set_option autoImplicit false

namespace LayoutAlgebra

def Value.word : Value → String
  | .member m => m.text
  | _ => ""

structure ConstraintRecord.Countable (r : ConstraintRecord Value) : Prop where
  relationWord : ∃ m, r.relation = .member m
  attributeWord : ∃ m, r.subjectAttribute = .member m
  priority : ∃ n, r.priority.number? = some n ∧ n.extended ≠ .undefined

def ConstraintRecord.rank (r : ConstraintRecord Value) : Double := r.priority.amount?.getD (.zero false)

def RecordList.summarised (around : Surroundings) (batch : RecordList) : Fallible Value :=
  (summary around batch.items).map Summary.toValue

def textCounts (texts : List String) : Table := texts.eraseDups.map fun text => (.standingText text, .int (texts.count text))

-- How often a text was counted under a name; a text that is not there counts as zero.
def Value.countAt (answer : Value) (name text : String) : Int :=
  (((answer.named? name).bind fun counted => counted.named? text).bind Value.count?).getD 0

def Value.countedAt (answer : Value) (name : String) : Int :=
  match answer.named? name with
  | some (.dict _ table) => (table.filterMap fun entry => entry.2.count?).sum
  | _ => 0

structure Value.Tallies (answer : Value) (name : String) (texts : List String) : Prop where
  table : answer.named? name = some (.dict .new (textCounts texts))
  total : answer.countedAt name = texts.length

def Value.Leads (answer : Value) (name : String) (before : Extended → Extended → Bool) (xs : List Double) : Prop :=
  ∃ m, answer.named? name = some (.double m) ∧ First before m xs

structure Value.Summarises (answer : Value) (records : List (ConstraintRecord Value)) : Prop where
  total : answer.named? "total" = some (.int records.length)
  relations : answer.Tallies "by_relation" (records.map fun r => r.relation.word)
  attributes : answer.Tallies "by_attribute" (records.map fun r => r.subjectAttribute.word)
  required : answer.named? "required_fraction" = some (.double
    (if records.length = 0 then .zero false else .round ((records.countP fun r => r.isRequired) / records.length : Rat)))
  nothing : records = [] → ∀ name ∈ ["priority_mean", "priority_min", "priority_max"],
    answer.named? name = some (.double (.zero false))
  mean : records ≠ [] → answer.named? "priority_mean" = some (.double (.mean (records.map fun r => r.rank)))
  least : records ≠ [] → answer.Leads "priority_min" (fun x y => x.le y) (records.map fun r => r.rank)
  greatest : records ≠ [] → answer.Leads "priority_max" (fun x y => y.le x) (records.map fun r => r.rank)

section

variable (texts others : List String)

theorem tally_texts : tally Value.sameKey (texts.map .standingText) =
    (tally (· == ·) texts).map fun entry => (.standingText entry.1, entry.2) :=
  tally_map Value.sameKey Value.standingText
    (fun s t => spelled_same_key _ _ s t (standing_spells s) (standing_spells t)) texts

theorem table_of_tally : textCounts texts = (tally (· == ·) texts).map fun entry => (.standingText entry.1, .int entry.2) := by
  rw [tally_counts, List.map_map]
  rfl

theorem table_of_texts :
    (tally Value.sameKey (texts.map .standingText)).map (fun entry => (entry.1, (.int entry.2 : Value))) = textCounts texts := by
  rw [tally_texts, table_of_tally, List.map_map]
  rfl

theorem counts_total : ((textCounts texts).filterMap fun entry => entry.2.count?).sum = texts.length := by
  have numbers : (textCounts texts).filterMap (fun entry => entry.2.count?) =
      ((tally (· == ·) texts).map Prod.snd).map fun n : Nat => (n : Int) := by
    rw [table_of_tally, List.filterMap_map, List.map_map, ← List.filterMap_eq_map]
    rfl
  rw [numbers, ← Nat.cast_list_sum, tally_total]

theorem count_read (text : String) :
    ((Table.get? (textCounts texts) (.ofText text)).bind Value.count?).getD 0 = texts.count text := by
  have found := get_spelled .standingText standing_spells
    ((tally (· == ·) texts).map fun entry => (entry.1, (.int entry.2 : Value))) text
  rw [List.map_map] at found
  rw [table_of_tally, ← tally_read texts text]
  refine (congrArg (fun v : Option Value => (v.bind Value.count?).getD 0) found).trans ?_
  rw [List.find?_map]
  simp only [Function.comp_def]
  cases (tally (· == ·) texts).find? fun entry => entry.1 == text <;> rfl

theorem counts_permuted (same : texts.Perm others) : (textCounts texts).Perm (textCounts others) := by
  rw [table_of_tally, table_of_tally]
  exact (tally_permuted texts others same).map _

end

section

variable {answer : Value} {name : String} {texts : List String}

theorem tallies_of_table (table : answer.named? name = some (.dict .new (textCounts texts))) : answer.Tallies name texts where
  table := table
  total := by
    rw [Value.countedAt, table]
    exact counts_total texts

theorem count_of_tallies (tallies : answer.Tallies name texts) (text : String) :
    answer.countAt name text = texts.count text := by
  rw [Value.countAt, tallies.table]
  exact count_read texts text

end

theorem items_read (batch : RecordList) : batch.items.mapM Value.asRecord = .ok batch.records :=
  Fallible.mapM_map Value.asRecord _ Prod.snd batch fun _ _ => rfl

theorem words_counted (records : List (ConstraintRecord Value)) (field : ConstraintRecord Value → Value)
    (words : ∀ r ∈ records, ∃ m, field r = .member m) :
    records.mapM (fun r => Summary.countedBy (field r)) =
      .ok ((records.map fun r => (field r).word).map .standingText) := by
  have counted := Fallible.mapM_map Summary.countedBy field (fun r => .standingText (field r).word) records
    fun r member => by
      obtain ⟨m, word⟩ := words r member
      rw [word]
      rfl
  rw [List.mapM_map] at counted
  rw [List.map_map]
  exact counted

section

variable (around : Surroundings) (batch : RecordList) (countable : ∀ r ∈ batch.records, r.Countable)
include countable

section

variable (sized : ∀ r ∈ batch.records, ∃ x, r.priority.Sized x)
include sized

omit countable in
theorem ranks_read : ∀ r ∈ batch.records, r.priority.Sized r.rank := by
  intro r member
  obtain ⟨x, read⟩ := sized r member
  rwa [ConstraintRecord.rank, (amount_sized _ _).mpr read]

theorem ranks_defined : ∀ x ∈ batch.records.map ConstraintRecord.rank, x.extended ≠ .undefined := by
  intro x listed
  obtain ⟨r, member, rfl⟩ := List.mem_map.mp listed
  obtain ⟨n, number, defined⟩ := (countable r member).priority
  obtain ⟨m, numberToo, read⟩ := ranks_read batch sized r member
  obtain rfl := Option.some.inj (number.symm.trans numberToo)
  exact to_double_defined n r.rank defined read

omit countable in
theorem ranks_required :
    ((batch.records.map ConstraintRecord.rank).map isRequired).count true = batch.records.countP fun r => r.isRequired := by
  rw [List.map_map, List.count, List.countP_map]
  refine List.countP_congr fun r member => ?_
  simp [required_read r _ (ranks_read batch sized r member)]

theorem summary_filled (filled : batch ≠ []) :
    summary around batch.items =
      .ok { total := batch.records.length
            byRelation := tally Value.sameKey ((batch.records.map fun r => r.relation.word).map .standingText)
            byAttribute := tally Value.sameKey ((batch.records.map fun r => r.subjectAttribute.word).map .standingText)
            priorityMean := .mean (batch.records.map ConstraintRecord.rank)
            priorityMin := .minimum (batch.records.map ConstraintRecord.rank)
            priorityMax := .maximum (batch.records.map ConstraintRecord.rank)
            requiredFraction := share (batch.records.countP fun r => r.isRequired) batch.records.length } := by
  have some : batch.items.isEmpty = false := by
    rw [List.isEmpty_eq_false_iff]
    exact List.map_eq_nil_iff.not.mpr filled
  have ranked : (batch.records.map ConstraintRecord.rank).isEmpty = false := by
    rw [List.isEmpty_eq_false_iff]
    exact List.map_eq_nil_iff.not.mpr (List.map_eq_nil_iff.not.mpr filled)
  have priorities := coefficients_sized batch.records around ConstraintRecord.priority ConstraintRecord.rank
    (ranks_read batch sized)
  have relations := words_counted batch.records ConstraintRecord.relation fun r member => (countable r member).relationWord
  have attributes := words_counted batch.records ConstraintRecord.subjectAttribute
    fun r member => (countable r member).attributeWord
  rw [summary, some, items_read, Fallible.ok_bind, Summary.of, priorities, Fallible.ok_bind, relations, Fallible.ok_bind,
    attributes, Fallible.ok_bind, ranked, ← ranks_required batch sized]
  simp

theorem summary_told : ∃ answer, batch.summarised around = .ok answer ∧ answer.Summarises batch.records := by
  by_cases filled : batch = []
  · subst filled
    have shown := summary_shown .empty
    exact ⟨_, rfl,
      { total := shown.total
        relations := tallies_of_table shown.byRelation
        attributes := tallies_of_table shown.byAttribute
        required := shown.requiredFraction
        nothing := fun _ => by
          simp only [List.forall_mem_cons, List.not_mem_nil, false_implies, implies_true, and_true]
          exact ⟨shown.priorityMean, shown.priorityMin, shown.priorityMax⟩
        mean := fun some => absurd rfl some
        least := fun some => absurd rfl some
        greatest := fun some => absurd rfl some }⟩
  · have listed : batch.records ≠ [] := List.map_eq_nil_iff.not.mpr filled
    have ranked : batch.records.map ConstraintRecord.rank ≠ [] := List.map_eq_nil_iff.not.mpr listed
    have defined := ranks_defined batch countable sized
    have made := summary_filled around batch countable sized filled
    generalize told : Summary.mk _ _ _ _ _ _ _ = s at made
    have shown := summary_shown s
    refine ⟨s.toValue, by rw [RecordList.summarised, made]; rfl,
      { total := by rw [shown.total, ← told]
        relations := tallies_of_table (by rw [shown.byRelation, ← told, table_of_texts])
        attributes := tallies_of_table (by rw [shown.byAttribute, ← told, table_of_texts])
        required := by rw [shown.requiredFraction, ← told, share]
        nothing := fun none => absurd none listed
        mean := fun _ => by rw [shown.priorityMean, ← told]
        least := fun _ => ⟨_, shown.priorityMin, ?_⟩
        greatest := fun _ => ⟨_, shown.priorityMax, ?_⟩ }⟩
    · rw [← told]
      exact minimum_first _ ranked defined
    · rw [← told]
      exact maximum_first _ ranked defined

end

theorem summary_overflow (large : ∃ r ∈ batch.records, ∀ x, ¬ r.priority.Sized x) :
    batch.summarised around = .error (.arithmetic .overflow) := by
  obtain ⟨r, member, large⟩ := large
  have some : batch.items.isEmpty = false := by
    rw [List.isEmpty_eq_false_iff]
    intro none
    obtain rfl := List.map_eq_nil_iff.mp none
    cases member
  have numbers : ∀ q ∈ batch.records, ∃ n, q.priority.number? = .some n := fun q listed => by
    obtain ⟨n, number, _⟩ := (countable q listed).priority
    exact ⟨n, number⟩
  rcases coefficients_read_or_fail around batch.records ConstraintRecord.priority numbers with ⟨read, _⟩ | failed
  · obtain ⟨x, amount⟩ := read r member
    exact absurd ((amount_sized _ _).mp amount) (large x)
  · rw [RecordList.summarised, summary, some, items_read, Fallible.ok_bind, Summary.of, failed]
    rfl

theorem summary_outcome :
    ((∀ r ∈ batch.records, ∃ x, r.priority.Sized x) ∧
        ∃ answer, batch.summarised around = .ok answer ∧ answer.Summarises batch.records) ∨
      (∃ r ∈ batch.records, ∀ x, ¬ r.priority.Sized x) ∧ batch.summarised around = .error (.arithmetic .overflow) := by
  by_cases sized : ∀ r ∈ batch.records, ∃ x, r.priority.Sized x
  · exact .inl ⟨sized, summary_told around batch countable sized⟩
  · push Not at sized
    exact .inr ⟨sized, summary_overflow around batch countable sized⟩

end

namespace Value

structure Joins (whole left right : Value) (first second : RecordList) : Prop where
  total : ∃ m n : Nat, left.named? "total" = some (.int m) ∧ right.named? "total" = some (.int n) ∧
    whole.named? "total" = some (.int (m + n : Nat))
  relations : ∀ text,
    whole.countAt "by_relation" text = left.countAt "by_relation" text + right.countAt "by_relation" text
  attributes : ∀ text,
    whole.countAt "by_attribute" text = left.countAt "by_attribute" text + right.countAt "by_attribute" text
  least : first ≠ [] → second ≠ [] → ∃ k m n, whole.named? "priority_min" = some (.double k) ∧
    left.named? "priority_min" = some (.double m) ∧ right.named? "priority_min" = some (.double n) ∧
    k.extended = m.extended.lesser n.extended
  greatest : first ≠ [] → second ≠ [] → ∃ k m n, whole.named? "priority_max" = some (.double k) ∧
    left.named? "priority_max" = some (.double m) ∧ right.named? "priority_max" = some (.double n) ∧
    k.extended = m.extended.greater n.extended

-- Answers with the same number under a name, though perhaps not the same zero.
def EqualAt (a b : Value) (name : String) : Prop :=
  ∃ x y, a.named? name = some (.double x) ∧ b.named? name = some (.double y) ∧ x.extended = y.extended

def Rearranges (a b : Value) (name : String) : Prop :=
  ∃ these those : Table, a.named? name = some (.dict .new these) ∧ b.named? name = some (.dict .new those) ∧ these.Perm those

-- Answers that differ in nothing but the order of their keys and the mean.
structure Agrees (a b : Value) : Prop where
  total : ∃ n : Nat, a.named? "total" = some (.int n) ∧ b.named? "total" = some (.int n)
  relations : a.Rearranges b "by_relation"
  attributes : a.Rearranges b "by_attribute"
  least : a.EqualAt b "priority_min"
  greatest : a.EqualAt b "priority_max"
  required : ∃ x, a.named? "required_fraction" = some (.double x) ∧ b.named? "required_fraction" = some (.double x)

end Value

section

variable {a b whole left right : Value} {name : String} {records others first second : List (ConstraintRecord Value)}
  {choose : Double → Double → Double} {before : Extended → Extended → Bool} (keeping : Keeping choose before)

theorem tallies_joined {texts others : List String} (all : whole.Tallies name (texts ++ others))
    (one : left.Tallies name texts) (other : right.Tallies name others) (text : String) :
    whole.countAt name text = left.countAt name text + right.countAt name text := by
  rw [count_of_tallies all, count_of_tallies one, count_of_tallies other, List.count_append, Nat.cast_add]

theorem tallies_rearranged {texts others : List String} (one : a.Tallies name texts) (other : b.Tallies name others)
    (same : texts.Perm others) : a.Rearranges b name :=
  ⟨_, _, one.table, other.table, counts_permuted texts others same⟩

include keeping

theorem leads_joined {xs ys : List Double} (all : whole.Leads name before (xs ++ ys)) (one : left.Leads name before xs)
    (other : right.Leads name before ys) :
    ∃ k m n, whole.named? name = some (.double k) ∧ left.named? name = some (.double m) ∧
      right.named? name = some (.double n) ∧
      k.extended = if before m.extended n.extended then m.extended else n.extended := by
  obtain ⟨k, wholeEntry, overall⟩ := all
  obtain ⟨m, leftEntry, leads⟩ := one
  obtain ⟨n, rightEntry, leadsToo⟩ := other
  exact ⟨k, m, n, wholeEntry, leftEntry, rightEntry, first_joined keeping m n k xs ys leads leadsToo overall⟩

theorem leads_equal {xs ys : List Double} (one : a.Leads name before xs) (other : b.Leads name before ys)
    (same : ∀ x, x ∈ xs ↔ x ∈ ys) : a.EqualAt b name := by
  obtain ⟨m, entry, leads⟩ := one
  obtain ⟨n, entryToo, leadsToo⟩ := other
  exact ⟨m, n, entry, entryToo, first_unique keeping m n xs ys leads leadsToo same⟩

omit keeping

theorem summaries_joined {first second : RecordList} (all : whole.Summarises (first.records ++ second.records))
    (one : left.Summarises first.records) (other : right.Summarises second.records) : whole.Joins left right first second where
  total := ⟨_, _, one.total, other.total, by rw [all.total, List.length_append]⟩
  relations := tallies_joined (by rw [← List.map_append]; exact all.relations) one.relations other.relations
  attributes := tallies_joined (by rw [← List.map_append]; exact all.attributes) one.attributes other.attributes
  least filled filledToo := by
    have some : first.records ≠ [] := List.map_eq_nil_iff.not.mpr filled
    have least := all.least (List.append_ne_nil_of_left_ne_nil some second.records)
    rw [List.map_append] at least
    exact leads_joined least_keeps least (one.least some) (other.least (List.map_eq_nil_iff.not.mpr filledToo))
  greatest filled filledToo := by
    have some : first.records ≠ [] := List.map_eq_nil_iff.not.mpr filled
    have greatest := all.greatest (List.append_ne_nil_of_left_ne_nil some second.records)
    rw [List.map_append] at greatest
    exact leads_joined greatest_keeps greatest (one.greatest some) (other.greatest (List.map_eq_nil_iff.not.mpr filledToo))

theorem summaries_agree (one : a.Summarises records) (other : b.Summarises others) (same : records.Perm others) :
    a.Agrees b := by
  have ranks : ∀ x, x ∈ records.map ConstraintRecord.rank ↔ x ∈ others.map ConstraintRecord.rank :=
    fun x => (same.map ConstraintRecord.rank).mem_iff
  have priorities : a.EqualAt b "priority_min" ∧ a.EqualAt b "priority_max" := by
    by_cases filled : records = []
    · have none := (filled ▸ same).symm.eq_nil
      have zero (name : String) (listed : name ∈ ["priority_mean", "priority_min", "priority_max"]) : a.EqualAt b name :=
        ⟨_, _, one.nothing filled name listed, other.nothing none name listed, rfl⟩
      exact ⟨zero _ (by simp), zero _ (by simp)⟩
    · have filledToo : others ≠ [] := fun none => filled (none ▸ same).eq_nil
      exact ⟨leads_equal least_keeps (one.least filled) (other.least filledToo) ranks,
        leads_equal greatest_keeps (one.greatest filled) (other.greatest filledToo) ranks⟩
  exact
    { total := ⟨_, one.total, by rw [other.total, same.length_eq]⟩
      relations := tallies_rearranged one.relations other.relations (same.map _)
      attributes := tallies_rearranged one.attributes other.attributes (same.map _)
      least := priorities.1
      greatest := priorities.2
      required := ⟨_, one.required, by rw [other.required, same.length_eq, same.countP_eq]⟩ }

end

structure RecordList.Additive (around : Surroundings) (batch : RecordList) : Prop where
  told : (∀ r ∈ batch.records, ∃ x, r.priority.Sized x) →
    ∃ answer, batch.summarised around = .ok answer ∧ answer.Summarises batch.records
  -- The only failure is a priority that no double can hold.
  overflow : (∃ r ∈ batch.records, ∀ x, ¬ r.priority.Sized x) → batch.summarised around = .error (.arithmetic .overflow)
  joined : ∀ first second : RecordList, batch = first ++ second →
    (∃ whole left right, batch.summarised around = .ok whole ∧ first.summarised around = .ok left ∧
        second.summarised around = .ok right ∧ whole.Joins left right first second) ∨
      batch.summarised around = .error (.arithmetic .overflow) ∧
        (first.summarised around = .error (.arithmetic .overflow) ∨
          second.summarised around = .error (.arithmetic .overflow))
  permuted : ∀ other : RecordList, batch.Perm other →
    (∃ a b, batch.summarised around = .ok a ∧ other.summarised around = .ok b ∧ a.Agrees b) ∨
      batch.summarised around = .error (.arithmetic .overflow) ∧ other.summarised around = .error (.arithmetic .overflow)

/-- Summaries add up. The total and the count of each text are the sums of those of two parts, the texts are listed as they
first occur, and their counts add up to the total; the least and the greatest priority are those of the parts, and the
fraction is that of the records whose priority has to be met. So the order of the records has no part in a summary, other
than in the order of the texts and in the mean. Only where no double can hold a priority there is no summary. -/
theorem summaries_add_up (around : Surroundings) (batch : RecordList) (countable : ∀ r ∈ batch.records, r.Countable) :
    batch.Additive around where
  told := summary_told around batch countable
  overflow := summary_overflow around batch countable
  joined := by
    rintro first second rfl
    have records : (first ++ second).records = first.records ++ second.records := List.map_append
    obtain ⟨one, other⟩ := List.forall_mem_append.mp (records ▸ countable)
    have fails (r : ConstraintRecord Value) (member : r ∈ first.records ++ second.records)
        (large : ∀ x, ¬ r.priority.Sized x) := summary_overflow around _ countable ⟨r, records ▸ member, large⟩
    rcases summary_outcome around first one with ⟨sized, left, told, tells⟩ | ⟨⟨r, member, large⟩, failed⟩
    · rcases summary_outcome around second other with ⟨sizedToo, right, toldToo, tellsToo⟩ | ⟨⟨r, member, large⟩, failed⟩
      · obtain ⟨whole, all, tellsAll⟩ := summary_told around _ countable
          (records ▸ List.forall_mem_append.mpr ⟨sized, sizedToo⟩)
        exact .inl ⟨whole, left, right, all, told, toldToo, summaries_joined (records ▸ tellsAll) tells tellsToo⟩
      · exact .inr ⟨fails r (List.mem_append_right _ member) large, .inr failed⟩
    · exact .inr ⟨fails r (List.mem_append_left _ member) large, .inl failed⟩
  permuted := by
    intro other permuted
    have records : batch.records.Perm other.records := permuted.map Prod.snd
    have countableToo : ∀ r ∈ other.records, r.Countable := fun r member => countable r (records.mem_iff.mpr member)
    rcases summary_outcome around batch countable with ⟨sized, a, told, tells⟩ | ⟨⟨r, member, large⟩, failed⟩
    · obtain ⟨b, toldToo, tellsToo⟩ := summary_told around other countableToo
        fun r member => sized r (records.mem_iff.mpr member)
      exact .inl ⟨a, b, told, toldToo, summaries_agree tells tellsToo records⟩
    · exact .inr ⟨failed, summary_overflow around other countableToo ⟨r, records.mem_iff.mp member, large⟩⟩

theorem beside_records_countable : ∀ r ∈ besideRecords.records, r.Countable := by
  simp only [besideRecords, RecordList.records, List.map_cons, List.map_nil, List.forall_mem_cons, List.not_mem_nil,
    false_implies, implies_true, and_true]
  exact ⟨⟨⟨_, rfl⟩, ⟨_, rfl⟩, ⟨_, rfl, Extended.noConfusion⟩⟩, ⟨_, rfl⟩, ⟨_, rfl⟩, ⟨_, rfl, Extended.noConfusion⟩⟩

theorem beside_summed :
    (∀ r ∈ besideRecords.records, r.Countable) ∧
      ∃ a b, besideRecords.summarised Scene.empty.surroundings = .ok a ∧
        RecordList.summarised Scene.empty.surroundings besideRecords.reverse = .ok b ∧
        a.named? "total" = some (.int 2) ∧
        a.named? "by_relation" = some (.dict .new [(.standingText "==", .int 1), (.standingText "<=", .int 1)]) ∧
        a.named? "required_fraction" = some (.double (.round (1 / 2 : Rat))) ∧ a.EqualAt b "priority_min" := by
  have parts := summaries_add_up Scene.empty.surroundings besideRecords beside_records_countable
  obtain ⟨a, told, tells⟩ := parts.told fun r member => (beside_records_sized r member).priority
  rcases parts.permuted besideRecords.reverse besideRecords.reverse_perm.symm with
    ⟨_, b, again, toldToo, agrees⟩ | ⟨failed, _⟩
  · obtain rfl := Except.ok.inj (told.symm.trans again)
    exact ⟨beside_records_countable, a, b, told, toldToo, tells.total, tells.relations.table, tells.required, agrees.least⟩
  · cases told.symm.trans failed

end LayoutAlgebra
