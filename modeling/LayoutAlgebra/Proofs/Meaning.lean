import LayoutAlgebra.Proofs.Compilation
import LayoutAlgebra.Proofs.Exact.Evaluation
set_option autoImplicit false

/-!
What compilation keeps of a relation. In rationals, a relation holds between two sides exactly when the record that it is
compiled to is not marked, unless the compilation told that it ignores a transform; and it tells that once whenever it
does.
-/
namespace LayoutAlgebra

def Relation.Holds : Relation → Rat → Rat → Prop
  | .equal, p, q => p = q
  | .lessOrEqual, p, q => p ≤ q
  | .greaterOrEqual, p, q => q ≤ p

def Linear.amount? (frames : Table) (e : Expression) : Option Rat := do
  let constant ← e.constant.rational?
  let multiplier ← e.multiplier.rational?
  if e.hasElement then (frames.measured .exact e.element e.attr).map (multiplier * · + constant) else some constant

-- What the sides of a relation come to. A proportion compares the width of one element with the height of another.
def amounts? (frames : Table) (lhs rhs : Expression) : Option (Rat × Rat) :=
  if lhs.kind = .ratio then do
    let width ← frames.measured .exact lhs.element (.attr .width)
    let height ← frames.measured .exact rhs.element (.attr .height)
    let multiplier ← rhs.multiplier.rational?
    let constant ← rhs.constant.rational?
    return (width, multiplier * height + constant)
  else do
    let left ← lhs.amount? frames
    let right ← rhs.amount? frames
    return (left, right)

def ConstraintRecord.marked? (frames : Table) (r : ConstraintRecord Value) : Option Bool :=
  (r.residual? .exact frames).map fun q => r.relation.sign.violated (.rational q) (.rational 0)

def Logged.warnings {α : Type} (logged : Logged α) : Nat := logged.events.countP fun event => event.level = .warning

theorem extended_lt (p q : Rat) : (Extended.rational p).lt (.rational q) = decide (p < q) := by
  by_cases less : p < q
  · simp [Extended.lt, Extended.le, less, less.le]
  · simp [Extended.lt, Extended.le, less, not_lt.mp less]

theorem violated_difference (sign : Relation) (p q : Rat) :
    sign.violated (.rational (p - q)) (.rational 0) = false ↔ sign.Holds p q := by
  cases sign with
  | equal =>
      simp only [Relation.violated, Extended.distance, extended_lt, decide_eq_false_iff_not, Rat.abs_pos_iff, not_not]
      exact sub_eq_zero
  | lessOrEqual =>
      simp only [Relation.violated, extended_lt, decide_eq_false_iff_not, not_lt]
      exact sub_nonpos
  | greaterOrEqual =>
      simp only [Relation.violated, Extended.opposite, neg_zero, extended_lt, decide_eq_false_iff_not, not_lt]
      exact sub_nonneg

theorem mirrored_holds (sign : Relation) (p q : Rat) : sign.mirrored.Holds q p ↔ sign.Holds p q := by
  cases sign with
  | equal => exact eq_comm
  | lessOrEqual => exact Iff.rfl
  | greaterOrEqual => exact Iff.rfl

theorem equality_number (around : Surroundings) (v : Value) (n : Number) (k : Int) (number : v.number? = some n) :
    around.equality true v (.int k) = .ok (.settled (n.equals (.int k))) := by
  rcases number_cases v n number with ⟨mark, rfl⟩ | ⟨b, rfl, rfl⟩
  · change Except.ok (Verdict.settled (n.equals (.int k) == true)) = _
    rw [beq_true]
  · change Except.ok (Verdict.settled ((Number.ofBool b).equals (.int k) == true)) = _
    rw [beq_true]

theorem equals_rational (n : Number) (k : Int) : n.equals (.int k) = true ↔ n.extended = .rational k := by
  simp only [Number.equals, Extended.same, Bool.and_eq_true]
  cases n.extended with
  | rational q =>
      simp only [Number.extended, Extended.le, decide_eq_true_eq, Extended.rational.injEq]
      exact le_antisymm_iff.symm
  | _ => simp [Number.extended, Extended.le]

theorem identity_settled (around : Surroundings) (e : Expression) (constant multiplier : Number)
    (offset : e.constant.number? = some constant) (scale : e.multiplier.number? = some multiplier) :
    (e.isIdentity around >>= Verdict.truth) = .ok (constant.equals (.int 0) && multiplier.equals (.int 1)) := by
  simp only [Linear.isIdentity, equality_number around _ _ _ offset, equality_number around _ _ _ scale,
    Fallible.ok_bind, Verdict.truth]
  cases constant.equals (.int 0) <;> rfl

theorem tell_ignored_events (around : Surroundings) (e : Expression) (constant multiplier : Number)
    (offset : e.constant.number? = some constant) (scale : e.multiplier.number? = some multiplier)
    (told : (e.tellIgnored around).result = .ok ()) :
    (e.tellIgnored around).events =
      if constant.equals (.int 0) && multiplier.equals (.int 1) then []
      else [.ignoredTransform e.constant e.multiplier e.attr] := by
  have settled := identity_settled around e constant multiplier offset scale
  have asked : (Logged.of (e.isIdentity around >>= Verdict.truth)).result =
      .ok (constant.equals (.int 0) && multiplier.equals (.int 1)) := settled
  unfold Linear.tellIgnored at told ⊢
  rw [Logged.bind_events _ _ _ asked]
  rw [Logged.bind_result, asked] at told
  cases identity : (constant.equals (.int 0) && multiplier.equals (.int 1)) with
  | true => simp
  | false =>
      rw [identity, Fallible.ok_bind] at told
      by_cases word : e.attr.hasWord = true
      · simp [word, Logged.tell]
      · simp [word] at told

theorem residual_exact (frames : Table) (r : ConstraintRecord Value) (q : Rat)
    (unrounded : r.residual? .double frames = some q) : r.residual? .exact frames = some q := by
  simp only [ConstraintRecord.residual?, Option.bind_eq_bind, Option.bind_eq_some_iff] at unrounded ⊢
  obtain ⟨lhs, subject, rhs, object, multiplier, ⟨_, scale, keptScale⟩, constant, ⟨_, offset, keptOffset⟩, product, scaled,
    sum, moved, kept⟩ := unrounded
  obtain ⟨rfl, _⟩ := (Precision.double_iff _ _).mp keptScale
  obtain ⟨rfl, _⟩ := (Precision.double_iff _ _).mp keptOffset
  obtain ⟨rfl, _⟩ := (Precision.double_iff _ _).mp scaled
  obtain ⟨rfl, _⟩ := (Precision.double_iff _ _).mp moved
  obtain ⟨rfl, _⟩ := (Precision.double_iff _ _).mp kept
  have objectExact : frames.objectMeasured .exact r = some rhs := by
    unfold Table.objectMeasured at object ⊢
    split at object <;> rename_i missing
    · rw [if_pos missing, object]
    · rw [if_neg missing, measured_exact frames _ _ rhs object]
  exact ⟨lhs, measured_exact frames _ _ lhs subject, rhs, objectExact, _, ⟨_, scale, rfl⟩, _, ⟨_, offset, rfl⟩, _, rfl, _,
    rfl, rfl⟩

structure ConstraintRecord.Unrounded (frames : Table) (r : ConstraintRecord Value) : Prop where
  residual : ∃ q, r.residual? .double frames = some q
  priority : ∃ q, r.priority.Reads q

theorem marks_computed (around : Surroundings) (frames : Table) (mark : Mark) (r : ConstraintRecord Value)
    (tolerance : Value) (zero : tolerance.rational? = some 0) (unrounded : r.Unrounded frames) (marked : Bool)
    (exact : r.marked? frames = some marked) :
    ∃ report, violations around frames [.record mark r] tolerance = .ok report ∧ report.marks = [marked] := by
  obtain ⟨q, residual⟩ := unrounded.residual
  obtain ⟨p, priority⟩ := unrounded.priority
  obtain ⟨n, number, _⟩ := reads_number r.priority p priority
  obtain ⟨x, read, _⟩ := to_double_reads r.priority p priority
  have same : r.relation.sign.violated (.rational q) (.rational 0) = marked := by
    simpa [ConstraintRecord.marked?, residual_exact frames r q residual] using exact
  rw [← same]
  exact violations_computed around frames mark r tolerance q residual zero n number x read

theorem marked_holds (frames : Table) (r : ConstraintRecord Value) (sign : Relation) (related : r.relation = .relation sign)
    (a b : Rat) (subject : frames.measured .exact r.subject r.subjectAttribute = some a) (v m c : Rat)
    (object : frames.objectMeasured .exact r = some v) (scale : r.multiplier.rational? = some m)
    (offset : r.constant.rational? = some c) (side : m * v + c = b) :
    ∃ marked, r.marked? frames = some marked ∧ (sign.Holds a b ↔ marked = false) := by
  have residual : r.residual? .exact frames = some (a - b) := by
    simp only [ConstraintRecord.residual?, subject, object, scale, offset, Option.bind_eq_bind, Option.bind_some,
      Precision.exact_keeps, side]
  refine ⟨sign.violated (.rational (a - b)) (.rational 0), ?_, (violated_difference sign a b).symm⟩
  simp only [ConstraintRecord.marked?, residual, Option.map_some, related, Value.sign]

theorem subject_amount (frames : Table) (e : Expression) (a : Rat) (present : e.hasElement = true)
    (silent : e.constant.rational? = some 0 ∧ e.multiplier.rational? = some 1) (amount : e.amount? frames = some a) :
    frames.measured .exact e.element e.attr = some a := by
  simpa [Linear.amount?, silent, present] using amount

theorem object_amount (frames : Table) (o : Oriented) (priority : Value) (b : Rat)
    (amount : o.object.amount? frames = some b) :
    ∃ v m c, frames.objectMeasured .exact (o.record priority) = some v ∧ o.object.multiplier.rational? = some m ∧
      o.object.constant.rational? = some c ∧ m * v + c = b := by
  simp only [Linear.amount?, Option.bind_eq_bind, Option.bind_eq_some_iff] at amount
  obtain ⟨c, offset, m, scale, amount⟩ := amount
  split at amount <;> rename_i present
  · obtain ⟨v, measured, side⟩ := Option.map_eq_some_iff.mp amount
    refine ⟨v, m, c, ?_, scale, offset, side⟩
    have some : o.object.element.isNone = false := by simpa [Linear.hasElement] using present
    simp only [Table.objectMeasured, Oriented.record, some, measured]
    rfl
  · refine ⟨0, m, c, ?_, scale, offset, ?_⟩
    · have none : o.object.element.isNone = true := by simpa [Linear.hasElement] using present
      simp only [Table.objectMeasured, Oriented.record, none, if_true]
    · rw [mul_zero, zero_add]
      exact Option.some.inj amount

theorem plain_amounts (frames : Table) (lhs rhs : Expression) (a b : Rat) (plain : lhs.kind ≠ .ratio)
    (sides : amounts? frames lhs rhs = some (a, b)) : lhs.amount? frames = some a ∧ rhs.amount? frames = some b := by
  simp only [amounts?, plain, if_false, Option.bind_eq_bind, Option.bind_eq_some_iff, Option.pure_def, Option.some.injEq,
    Prod.mk.injEq] at sides
  obtain ⟨_, left, _, right, rfl, rfl⟩ := sides
  exact ⟨left, right⟩

theorem oriented_marked (frames : Table) (o : Oriented) (priority : Value) (sign : Relation)
    (related : o.relation = .relation sign) (present : o.subject.hasElement = true)
    (silent : o.subject.constant.rational? = some 0 ∧ o.subject.multiplier.rational? = some 1) (a b : Rat)
    (left : o.subject.amount? frames = some a) (right : o.object.amount? frames = some b) :
    ∃ marked, (o.record priority).marked? frames = some marked ∧ (sign.Holds a b ↔ marked = false) := by
  obtain ⟨v, m, c, object, scale, offset, side⟩ := object_amount frames o priority b right
  exact marked_holds frames (o.record priority) sign related a b (subject_amount frames o.subject a present silent left) v m
    c object scale offset side

theorem proportion_marked (frames : Table) (lhs rhs : Expression) (priority : Value) (sign : Relation)
    (present : rhs.hasElement = true) (ratio : lhs.kind = .ratio) (a b : Rat)
    (sides : amounts? frames lhs rhs = some (a, b)) :
    ∃ marked, ((Oriented.proportion lhs rhs (.relation sign)).record priority).marked? frames = some marked ∧
      (sign.Holds a b ↔ marked = false) := by
  simp only [amounts?, ratio, if_true, Option.bind_eq_bind, Option.bind_eq_some_iff, Option.pure_def, Option.some.injEq,
    Prod.mk.injEq] at sides
  obtain ⟨width, measured, height, object, m, scale, c, offset, rfl, side⟩ := sides
  have some : rhs.element.isNone = false := by simpa [Linear.hasElement] using present
  apply marked_holds frames _ sign rfl width b measured height m c _ scale offset side
  simp only [Table.objectMeasured, Oriented.record, Oriented.proportion, some, object]
  rfl

namespace Scene

variable {s : Scene}

theorem compile_warnings (config : Value) (mark first second : Mark) (lhs rhs : Expression) (sign : Relation)
    (pending : List (Pending Value))
    (compiled : (s.compile config (.relationship mark ⟨.linear first lhs, .linear second rhs, .relation sign⟩)).result =
      .ok pending) (constant multiplier : Number) (offset : (subjectSide lhs rhs).constant.number? = some constant)
    (scale : (subjectSide lhs rhs).multiplier.number? = some multiplier) :
    (s.compile config (.relationship mark ⟨.linear first lhs, .linear second rhs, .relation sign⟩)).warnings =
      if constant.equals (.int 0) && multiplier.equals (.int 1) then 0 else 1 := by
  obtain ⟨_, _, _, _, _, _, p, same, _, made, events⟩ := compile_record config _ pending compiled
  cases same
  obtain ⟨_, told, o, priority, anchor, _, _, _, logged, _⟩ := compile_sides_record config lhs rhs _ p made
  rw [tell_ignored_events s.surroundings _ constant multiplier offset scale told] at logged
  unfold Logged.warnings
  rw [events, logged]
  split <;> simp [Event.level]

theorem amount_numbers (frames : Table) (e : Expression) (a : Rat) (amount : e.amount? frames = some a) :
    ∃ constant multiplier, e.constant.number? = some constant ∧ e.multiplier.number? = some multiplier := by
  simp only [Linear.amount?, Option.bind_eq_bind, Option.bind_eq_some_iff] at amount
  obtain ⟨c, offset, m, scale, _⟩ := amount
  obtain ⟨constant, offset, _⟩ := (rational_iff _ c).mp offset
  obtain ⟨multiplier, scale, _⟩ := (rational_iff _ m).mp scale
  exact ⟨constant, multiplier, offset, scale⟩

theorem silent_identity (config : Value) (mark first second : Mark) (lhs rhs : Expression) (sign : Relation)
    (pending : List (Pending Value))
    (compiled : (s.compile config (.relationship mark ⟨.linear first lhs, .linear second rhs, .relation sign⟩)).result =
      .ok pending)
    (silent : (s.compile config (.relationship mark ⟨.linear first lhs, .linear second rhs, .relation sign⟩)).warnings = 0)
    (frames : Table) (a : Rat) (amount : (subjectSide lhs rhs).amount? frames = some a) :
    (subjectSide lhs rhs).constant.rational? = some 0 ∧ (subjectSide lhs rhs).multiplier.rational? = some 1 := by
  obtain ⟨constant, multiplier, offset, scale⟩ := amount_numbers frames _ a amount
  rw [compile_warnings config mark first second lhs rhs sign pending compiled constant multiplier offset scale] at silent
  split at silent
  · rename_i identity
    obtain ⟨zero, one⟩ := Bool.and_eq_true_iff.mp identity
    refine ⟨(rational_iff _ 0).mpr ⟨constant, offset, ?_⟩, (rational_iff _ 1).mpr ⟨multiplier, scale, ?_⟩⟩
    · exact_mod_cast (equals_rational constant 0).mp zero
    · exact_mod_cast (equals_rational multiplier 1).mp one
  · simp at silent

theorem silent_marked (config : Value) (mark first second : Mark) (lhs rhs : Expression) (sign : Relation)
    (checked : rhs.check = .ok rhs) (pending : List (Pending Value))
    (compiled : (s.compile config (.relationship mark ⟨.linear first lhs, .linear second rhs, .relation sign⟩)).result =
      .ok pending)
    (silent : (s.compile config (.relationship mark ⟨.linear first lhs, .linear second rhs, .relation sign⟩)).warnings = 0)
    (frames : Table) (a b : Rat) (sides : amounts? frames lhs rhs = some (a, b)) :
    ∃ r anchor marked, pending = [⟨.record .new r, anchor⟩] ∧ r.marked? frames = some marked ∧
      (sign.Holds a b ↔ marked = false) := by
  obtain ⟨_, _, _, _, _, _, p, same, rfl, made, _⟩ := compile_record config _ pending compiled
  cases same
  obtain ⟨kinds, _, o, priority, anchor, order, rfl, _⟩ := compile_sides_record config lhs rhs _ p made
  have identity := fun c => silent_identity config mark first second lhs rhs sign _ compiled silent frames c
  cases order with
  | proportion ratio =>
      obtain ⟨marked, exact, holds⟩ :=
        proportion_marked frames lhs rhs priority sign (checked_ratio rhs checked (kinds ▸ ratio)) ratio a b sides
      exact ⟨_, anchor, marked, rfl, exact, holds⟩
  | straight plain present =>
      obtain ⟨left, right⟩ := plain_amounts frames lhs rhs a b plain sides
      have side : subjectSide lhs rhs = lhs := by simp [subjectSide, present]
      rw [side] at identity
      obtain ⟨marked, exact, holds⟩ := oriented_marked frames ⟨lhs, rhs, .relation sign⟩ priority sign rfl present
        (identity a left) a b left right
      exact ⟨_, anchor, marked, rfl, exact, holds⟩
  | swapped turned plain literal present mirrored =>
      obtain ⟨left, right⟩ := plain_amounts frames lhs rhs a b plain sides
      have side : subjectSide lhs rhs = rhs := by simp [subjectSide, literal, plain]
      rw [side] at identity
      -- The relation turns around with the sides.
      obtain ⟨marked, exact, holds⟩ := oriented_marked frames ⟨rhs, lhs, turned⟩ priority sign.mirrored
        (Except.ok.inj mirrored).symm present (identity b right) b a right left
      exact ⟨_, anchor, marked, rfl, exact, (mirrored_holds sign a b).symm.trans holds⟩

/-- A relation that is compiled in silence holds in frames exactly when its record is not marked in them, and a report that
needs no rounding says so. A transform on the side of the subject is told once. -/
theorem compile_keeps_meaning (s : Scene) (config : Value) (mark first second : Mark) (lhs rhs : Expression)
    (sign : Relation) (checked : rhs.check = .ok rhs) (pending : List (Pending Value))
    (compiled : (s.compile config (.relationship mark ⟨.linear first lhs, .linear second rhs, .relation sign⟩)).result =
      .ok pending) :
    ∃ r anchor, pending = [⟨.record .new r, anchor⟩] ∧
      ((s.compile config (.relationship mark ⟨.linear first lhs, .linear second rhs, .relation sign⟩)).warnings = 0 →
        ∀ frames a b, amounts? frames lhs rhs = some (a, b) → ∃ marked, r.marked? frames = some marked ∧
          (sign.Holds a b ↔ marked = false) ∧
          ∀ around tolerance, tolerance.rational? = some 0 → r.Unrounded frames →
            ∃ report, violations around frames [.record .new r] tolerance = .ok report ∧ report.marks = [marked]) ∧
      ∀ constant multiplier, (subjectSide lhs rhs).constant.number? = some constant →
        (subjectSide lhs rhs).multiplier.number? = some multiplier →
        (s.compile config (.relationship mark ⟨.linear first lhs, .linear second rhs, .relation sign⟩)).warnings =
          if constant.equals (.int 0) && multiplier.equals (.int 1) then 0 else 1 := by
  obtain ⟨_, _, _, _, _, _, p, same, single, made, _⟩ := compile_record config _ pending compiled
  cases same
  obtain ⟨_, _, o, priority, anchor, _, record, _⟩ := compile_sides_record config lhs rhs _ p made
  refine ⟨o.record priority, anchor, by rw [single, record], ?_,
    compile_warnings config mark first second lhs rhs sign pending compiled⟩
  intro silent frames a b sides
  obtain ⟨r, other, marked, same, exact, holds⟩ :=
    silent_marked config mark first second lhs rhs sign checked pending compiled silent frames a b sides
  have here : r = o.record priority := by
    rw [single, record, List.singleton_inj] at same
    simpa using (congrArg Pending.record same).symm
  rw [here] at exact
  exact ⟨marked, exact, holds, fun around tolerance zero unrounded =>
    marks_computed around frames .new _ tolerance zero unrounded marked exact⟩

def onlyRecord? : Fallible (List (Pending Value)) → Option (ConstraintRecord Value)
  | .ok [⟨.record _ r, _⟩] => some r
  | _ => none

def literalBelowWidth : Logged (List (Pending Value)) :=
  (Scene.empty.construct {}).2.compile .standardConfig (.relationship .new
    ⟨.linear .new (literalOf (.int 44)), .linear .new (.reading .length (.view 0) .width), .relation .lessOrEqual⟩)

def wideFrame : Table :=
  [(.view 0, .frame .new ⟨.int 0, .int 0, .int 50, .int 20, .insets .new (.uniform .noDistance)⟩)]

theorem literal_below_width :
    literalBelowWidth.warnings = 0 ∧
      amounts? wideFrame (literalOf (.int 44)) (.reading .length (.view 0) .width) = some (44, 50) ∧
      ∃ r anchor report, literalBelowWidth.result = .ok [⟨.record .new r, anchor⟩] ∧ r.Unrounded wideFrame ∧
        violations (Scene.empty.construct {}).2.surroundings wideFrame [.record .new r] (.int 0) = .ok report ∧
        report.marks = [false] := by
  have silent : literalBelowWidth.warnings = 0 := by decide +kernel
  have sides : amounts? wideFrame (literalOf (.int 44)) (.reading .length (.view 0) .width) = some (44, 50) := by
    decide +kernel
  have residual : ((onlyRecord? literalBelowWidth.result).bind fun r => r.residual? .double wideFrame) = some 6 := by
    decide +kernel
  have priority : ((onlyRecord? literalBelowWidth.result).bind fun r => r.priority.rational?) = some 1000 := by
    decide +kernel
  refine ⟨silent, sides, ?_⟩
  cases compiled : literalBelowWidth.result with
  | error failure => simp [compiled, onlyRecord?] at residual
  | ok pending =>
      obtain ⟨r, anchor, rfl, keeps, _⟩ := compile_keeps_meaning (Scene.empty.construct {}).2 .standardConfig .new .new .new
        (literalOf (.int 44)) (.reading .length (.view 0) .width) .lessOrEqual rfl pending compiled
      rw [compiled] at residual priority
      obtain ⟨marked, _, holds, reports⟩ := keeps silent wideFrame 44 50 sides
      have unmarked : marked = false := holds.mp (by norm_num [Relation.Holds])
      have unrounded : r.Unrounded wideFrame := ⟨⟨6, residual⟩, ⟨1000, priority, by decide +kernel⟩⟩
      obtain ⟨report, reported, marks⟩ := reports _ (.int 0) (rational_of_number .new (.int 0) 0 (by simp [Number.extended]))
        unrounded
      exact ⟨r, anchor, report, rfl, unrounded, reported, by rw [marks, unmarked]⟩

end Scene

end LayoutAlgebra
