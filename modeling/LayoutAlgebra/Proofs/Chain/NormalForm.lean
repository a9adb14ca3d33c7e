import LayoutAlgebra.Proofs.Acceptance
import LayoutAlgebra.Proofs.Agreement
import LayoutAlgebra.Proofs.Chain.Figures
import LayoutAlgebra.Proofs.Combinators
set_option autoImplicit false

namespace LayoutAlgebra

def Step.apply (around : Surroundings) (v : Value) (step : Step) : Fallible Value :=
  step.transform.apply around v (.number step.amount.mark step.amount.number)

def Step.applyAll (around : Surroundings) (v : Value) (steps : List Step) : Fallible Value :=
  steps.foldlM (Step.apply around) v

theorem apply_all_cons (around : Surroundings) (v : Value) (step : Step) (rest : List Step) :
    Step.applyAll around v (step :: rest) = step.apply around v >>= fun w => Step.applyAll around w rest := rfl

structure Linear.HasFigures (e : Expression) (figures : Figures) : Prop where
  constant : ∃ mark, e.constant = .number mark (.double figures.offset)
  multiplier : ∃ mark, e.multiplier = .number mark (.double figures.scale)
  priority : figures.priority = none ∧ e.priority = .none ∨
    ∃ mark n, figures.priority = some n ∧ e.priority = .number mark n

inductive Value.Source : Value → Prop where
  | read (v : ViewId) (name : String) (accessor : Accessor) (listed : (name, accessor) ∈ Accessor.named)
      (relates : accessor.relates = true) : Source (accessor.read (.view v))
  | literal (amount : Value) (e : Expression) (mark : Mark) (x : Double) (sized : Linear.literal amount = .ok e)
      (constant : e.constant = .number mark (.double x)) (finite : x.isFinite = true) : Source (.linear .new e)
  | kept (v w : Value) (earlier : Source v) (as : v.KeptAs w) : Source w

theorem figures_unique (e : Expression) (figures others : Figures) (figured : e.HasFigures figures)
    (figuredToo : e.HasFigures others) : figures = others := by
  obtain ⟨offset, scale, priority⟩ := figures
  obtain ⟨offset', scale', priority'⟩ := others
  obtain ⟨⟨_, first⟩, ⟨_, second⟩, third⟩ := figured
  obtain ⟨⟨_, firstToo⟩, ⟨_, secondToo⟩, thirdToo⟩ := figuredToo
  grind

theorem bounded_defined (n : Number) (x : Double) (fits : n.toDouble = .ok x) (finite : x.isFinite = true) :
    n.extended ≠ .undefined := by
  cases n with
  | int k => exact Extended.noConfusion
  | double y =>
      obtain rfl := Except.ok.inj fits
      obtain ⟨q, place⟩ := finite_place y finite
      exact fun undefined => Extended.noConfusion (place.symm.trans undefined)

theorem digits_beyond : (Double.round (Nat.pow 10 mostDigits : Nat)).extended = .top := by decide +kernel

-- A number that a double can hold has few enough digits to be written.
theorem number_full (n : Number) (x : Double) (fits : n.toDouble = .ok x) : ∃ text, n.full = .ok text := by
  cases n with
  | double y => exact ⟨_, rfl⟩
  | int k =>
      have short := whole_bounded k x fits _ digits_beyond
      rw [Number.full, if_pos short]
      exact ⟨_, rfl⟩

theorem combined_amount (whole : Int → Int → Int) (rounded : Double → Double → Double) (c : Double) (amount : Amount) :
    Number.combine whole rounded (.double c) amount.number = .ok (.double (rounded c amount.size)) := by
  change (amount.number.toDouble >>= fun y => pure (Number.double (rounded c y))) = _
  rw [amount.fits]
  rfl

theorem shifted_amount (back : Bool) (inner : Mark) (c : Double) (amount : Amount) :
    (Value.number inner (.double c)).shifted back amount.mark amount.number =
      .ok (.number .new (.double (if back then c - amount.size else c + amount.size))) := by
  cases back with
  | false =>
      have sum : (Number.double c).add amount.number = _ := combined_amount (· + ·) (· + ·) c amount
      change Fallible.ofArithmetic ((Number.double c).add amount.number) >>= _ = _
      rw [sum]
      rfl
  | true =>
      have difference : (Number.double c).sub amount.number = _ := combined_amount (· - ·) (· - ·) c amount
      change Fallible.ofArithmetic ((Number.double c).sub amount.number) >>= _ = _
      rw [difference]
      rfl

theorem divided_amount (inner : Mark) (c : Double) (amount : Amount) (some : amount.number.isZero = false) :
    (Value.number inner (.double c)).dividedBy amount.number = .ok (.number .new (.double (c / amount.size))) := by
  have nonzero : amount.size.extended ≠ .rational 0 := by
    rw [Ne, ← amount_zero_iff, some]
    exact Bool.noConfusion
  have quotient : (Number.double c).div amount.number = .ok (.double (c / amount.size)) := by
    change (amount.number.toDouble >>= fun y =>
      if y.extended = .rational 0 then throw ArithmeticFault.zeroDivision else pure (Number.double (c / y))) = _
    rw [amount.fits]
    exact if_neg nonzero
  change Fallible.ofArithmetic ((Number.double c).div amount.number) >>= _ = _
  rw [quotient]
  rfl

theorem factor_amount (amount : Amount) :
    ∃ mark, (Value.number amount.mark amount.number).asDouble = .ok (.number mark (.double amount.size)) := by
  obtain ⟨size, read, number⟩ := as_double_sized amount.mark amount.number amount.size amount.fits
  obtain ⟨mark, x, rfl⟩ := as_double_double _ size read
  obtain rfl : x = amount.size := Number.double.inj (Option.some.inj number)
  exact ⟨mark, read⟩

section

variable (around : Surroundings) (mark : Mark) (e : Expression) {figures : Figures} (figured : e.HasFigures figures)
  (step : Step)

include figured in
theorem figures_numeric : e.Numeric where
  constant := figured.constant.imp fun _ same => ⟨_, same⟩
  multiplier := figured.multiplier.imp fun _ same => ⟨_, same⟩
  priority := by
    rcases figured.priority with ⟨_, none⟩ | ⟨mark, n, _, number⟩
    · exact .inl none
    · exact .inr ⟨mark, n, number⟩

theorem step_by_zero (zero : step.DividesByZero) :
    step.apply around (.linear mark e) = .error (.zeroDivisor (.linear mark e)) := by
  obtain ⟨transform, amount⟩ := step
  obtain ⟨rfl, none⟩ : transform = .divided ∧ amount.number.isZero = true := zero
  exact (quotient_linear around mark e amount.mark amount.number).trans (if_pos none)

include figured in
theorem step_figures (safe : ¬ step.DividesByZero) :
    ∃ changed, step.apply around (.linear mark e) = .ok (.linear .new changed) ∧
      changed.HasFigures (figures.after step) ∧ e.Turns changed := by
  obtain ⟨transform, amount⟩ := step
  obtain ⟨inner, offset⟩ := figured.constant
  obtain ⟨outer, scale⟩ := figured.multiplier
  cases transform with
  | plus | plusAfter =>
      have moved : Linear.HasFigures { e with constant := .number .new (.double (figures.offset + amount.size)) }
          (figures.after ⟨.plus, amount⟩) := ⟨⟨_, rfl⟩, figured.multiplier, figured.priority⟩
      refine ⟨_, ?_, moved, ⟨rfl, rfl, rfl, figures_numeric _ moved⟩⟩
      refine (sum_linear around mark e amount.mark amount.number).trans ?_
      rw [offset, shifted_amount]
      rfl
  | minus =>
      have moved : Linear.HasFigures { e with constant := .number .new (.double (figures.offset - amount.size)) }
          (figures.after ⟨.minus, amount⟩) := ⟨⟨_, rfl⟩, figured.multiplier, figured.priority⟩
      refine ⟨_, ?_, moved, ⟨rfl, rfl, rfl, figures_numeric _ moved⟩⟩
      refine (difference_linear around mark e amount.mark amount.number).trans ?_
      rw [offset, shifted_amount]
      rfl
  | times | timesAfter =>
      obtain ⟨other, read⟩ := factor_amount amount
      have scaled : Linear.HasFigures { e with multiplier := .number other (.double amount.size) }
          (figures.after ⟨.times, amount⟩) := ⟨figured.constant, ⟨_, rfl⟩, figured.priority⟩
      refine ⟨_, ?_, scaled, ⟨rfl, rfl, rfl, figures_numeric _ scaled⟩⟩
      refine (product_linear around mark e amount.mark amount.number).trans ?_
      rw [read]
      rfl
  | divided =>
      have some : amount.number.isZero = false := Bool.eq_false_iff.mpr fun zero => safe ⟨rfl, zero⟩
      have scaled : Linear.HasFigures { e with multiplier := .number .new (.double (figures.scale / amount.size)) }
          (figures.after ⟨.divided, amount⟩) := ⟨figured.constant, ⟨_, rfl⟩, figured.priority⟩
      refine ⟨_, ?_, scaled, ⟨rfl, rfl, rfl, figures_numeric _ scaled⟩⟩
      refine (quotient_linear around mark e amount.mark amount.number).trans ?_
      rw [if_neg (by simp [some]), scale, divided_amount outer figures.scale amount some]
      rfl
  | prioritized =>
      have given : Linear.HasFigures { e with priority := .number amount.mark amount.number }
          (figures.after ⟨.prioritized, amount⟩) := ⟨figured.constant, figured.multiplier, .inr ⟨_, _, rfl, rfl⟩⟩
      exact ⟨_, rfl, given, ⟨rfl, rfl, rfl, figures_numeric _ given⟩⟩

end

section

variable (around : Surroundings) (mark : Mark) (e : Expression) (figures : Figures) (figured : e.HasFigures figures)
  (steps : List Step)
include figured

-- Induction on the chain, for every expression at its start.
theorem chain_figures (safe : ∀ step ∈ steps, ¬ step.DividesByZero) :
    ∃ other changed, Step.applyAll around (.linear mark e) steps = .ok (.linear other changed) ∧
      changed.HasFigures (figures.through steps) ∧ e.Turns changed := by
  induction steps generalizing mark e figures with
  | nil => exact ⟨mark, e, rfl, figured, rfl, rfl, rfl, figures_numeric e figured⟩
  | cons step rest ih =>
      obtain ⟨middle, done, middle_figured, first⟩ := step_figures around mark e figured step (safe step (by simp))
      obtain ⟨other, changed, ran, changed_figured, second⟩ :=
        ih .new middle _ middle_figured fun later member => safe later (by simp [member])
      refine ⟨other, changed, ?_, through_cons figures step rest ▸ changed_figured, turns_trans e middle changed first second⟩
      rw [apply_all_cons, done]
      exact ran

theorem chain_by_zero (sound : figures.Sound) (zero : ∃ step ∈ steps, step.DividesByZero) :
    ∃ other reached last, Step.applyAll around (.linear mark e) steps = .error (.zeroDivisor (.linear other reached)) ∧
      reached.HasFigures last ∧ last.Sound ∧ e.Turns reached := by
  induction steps generalizing mark e figures with
  | nil => simp at zero
  | cons step rest ih =>
      by_cases here : step.DividesByZero
      · refine ⟨mark, e, figures, ?_, figured, sound, rfl, rfl, rfl, figures_numeric e figured⟩
        rw [apply_all_cons, step_by_zero around mark e step here]
        rfl
      · have later : ∃ step ∈ rest, step.DividesByZero := by simpa [here] using zero
        obtain ⟨middle, done, middle_figured, first⟩ := step_figures around mark e figured step here
        obtain ⟨other, reached, _, ran, reached_figured, reached_sound, second⟩ :=
          ih .new middle _ middle_figured (after_sound figures step sound here) later
        refine ⟨other, reached, _, ?_, reached_figured, reached_sound, turns_trans e middle reached first second⟩
        rw [apply_all_cons, done]
        exact ran

end

section

variable (e : Expression) (figures : Figures) (topic : e.Topic) (figured : e.HasFigures figures) (sound : figures.Sound)
include topic figured sound

theorem figures_agree (follow : Value → Value → Fallible Bool) (first second : Mark) (o : Expression) (others : Figures)
    (kind : o.kind = e.kind) (element : o.element = e.element) (attr : o.attr = e.attr) (figuredToo : o.HasFigures others)
    (same : others.Same figures) : (Value.linear first o).agree follow (.linear second e) = .ok true := by
  obtain ⟨_, offset⟩ := figured.constant
  obtain ⟨_, scale⟩ := figured.multiplier
  obtain ⟨_, offsetToo⟩ := figuredToo.constant
  obtain ⟨_, scaleToo⟩ := figuredToo.multiplier
  refine expressions_agree follow first second o e kind ?_ ?_ ?_ ?_ ?_
  · rw [element]
    rcases Scene.topic_element e topic with ⟨absent, _⟩ | ⟨v, about, _⟩
    · exact absent ▸ none_matches follow
    · exact about ▸ view_matches follow v
  · obtain ⟨a, named⟩ := Scene.topic_attr e topic
    rw [attr, named]
    exact attribute_matches follow a
  · rw [offset, offsetToo]
    exact numbers_match follow _ _ _ _ rfl rfl same.offset sound.offset
  · rw [scale, scaleToo]
    exact numbers_match follow _ _ _ _ rfl rfl same.scale sound.scale
  · have place := same.priority
    rcases figured.priority with ⟨absent, none⟩ | ⟨_, n, given, number⟩ <;>
      rcases figuredToo.priority with ⟨absentToo, noneToo⟩ | ⟨_, m, givenToo, numberToo⟩
    · rw [none, noneToo]
      exact none_matches follow
    · simp [absent, givenToo] at place
    · simp [given, absentToo] at place
    · obtain ⟨x, fits, finite⟩ := sound.priority n given
      have defined : n.extended ≠ .undefined := bounded_defined n x fits finite
      rw [number, numberToo]
      exact numbers_match follow _ _ m n rfl rfl (by simpa [given, givenToo] using place) defined

theorem expression_written {s : Scene} (titled : s.Titled) (mark : Mark) :
    ∃ text, s.surroundings.full (.linear mark e) = .ok text := by
  obtain ⟨kind, element, what, constant, multiplier, priority⟩ := e
  obtain ⟨⟨first, rfl⟩, ⟨second, rfl⟩, weight⟩ := figured
  let whole : Value := .linear mark ⟨kind, element, what, .number first (.double figures.offset),
    .number second (.double figures.scale), priority⟩
  let follow := s.surroundings.behind Surroundings.depth
  have elementText : ∃ text, element.full follow [whole] = .ok text := by
    rcases Scene.topic_element _ topic with ⟨absent, _⟩ | ⟨v, about, _⟩
    · obtain rfl : element = .none := absent
      exact ⟨_, rfl⟩
    · obtain rfl : element = .view v := about
      exact Scene.titled_behind titled v 999 [whole]
  have attrText : ∃ text, what.full follow [whole] = .ok text := by
    obtain ⟨a, named⟩ := Scene.topic_attr _ topic
    obtain rfl : what = .attr a := named
    exact ⟨_, rfl⟩
  have priorityText : ∃ text, priority.full follow [whole] = .ok text := by
    rcases weight with ⟨_, none⟩ | ⟨_, n, given, number⟩
    · obtain rfl : priority = .none := none
      exact ⟨_, rfl⟩
    · obtain rfl : priority = .number _ n := number
      obtain ⟨x, fits, _⟩ := sound.priority n given
      exact number_full n x fits
  have written : s.surroundings.full whole = (do
      let element ← element.full follow [whole]
      let what ← what.full follow [whole]
      let priority ← priority.full follow [whole]
      return fieldsText kind.className [("element", element), ("attribute", what), ("constant", figures.offset.full),
        ("multiplier", figures.scale.full), ("priority", priority)]) := rfl
  obtain ⟨elementText, here⟩ := elementText
  obtain ⟨attrText, named⟩ := attrText
  obtain ⟨priorityText, given⟩ := priorityText
  exact ⟨_, by rw [written, here, named, given]; rfl⟩

end

theorem raised_zero_divisor {s : Scene} (titled : s.Titled) (mark : Mark) (e : Expression) (figures : Figures)
    (topic : e.Topic) (figured : e.HasFigures figures) (sound : figures.Sound) :
    s.raised (.zeroDivisor (.linear mark e)) = .divisionByZero := by
  obtain ⟨text, written⟩ := expression_written e figures topic figured sound titled mark
  simp [Scene.raised, Script.worded, Failure.message?, written, Failure.category]

theorem turns_checked (e changed : Expression) (checked : e.check = .ok e) (turns : e.Turns changed) :
    changed.check = .ok changed := by
  obtain ⟨kind, element, what, constant, multiplier, priority⟩ := e
  obtain ⟨kind', element', what', constant', multiplier', priority'⟩ := changed
  obtain ⟨rfl, rfl, rfl, _⟩ := turns
  unfold Linear.check Linear.hasElement at *
  simp only at *
  split at checked <;> simp_all <;> grind

structure Linear.Starts (e : Expression) (figures : Figures) : Prop where
  topic : e.Topic
  checked : e.check = .ok e
  figured : e.HasFigures figures
  sound : figures.Sound

theorem reading_starts (v : ViewId) (accessor : Accessor) (fits : accessor.fits = true) (relates : accessor.relates = true) :
    ∃ e, accessor.read (.view v) = .linear .new e ∧ e.Starts ⟨.zero false, .round 1, none⟩ := by
  have sound : Figures.Sound ⟨.zero false, .round 1, none⟩ :=
    ⟨by decide +kernel, round_defined 1, fun _ given => nomatch given⟩
  cases accessor with
  | line a =>
      have sort : a.isPosition = true := fits
      refine ⟨_, rfl, .line v a rfl rfl rfl fits, ?_, ⟨⟨_, rfl⟩, ⟨_, rfl⟩, .inl ⟨rfl, rfl⟩⟩, sound⟩
      simp [Linear.check, Linear.reading, Linear.hasElement, Value.isNone, sort]
  | length a =>
      have sort : a.isDimension = true := fits
      refine ⟨_, rfl, .dimension v a (.inl rfl) rfl rfl fits, ?_, ⟨⟨_, rfl⟩, ⟨_, rfl⟩, .inl ⟨rfl, rfl⟩⟩, sound⟩
      simp [Linear.check, Linear.reading, Linear.hasElement, Value.isNone, sort]
  | ratio => exact ⟨_, rfl, .dimension v .height (.inr rfl) rfl rfl rfl, rfl, ⟨⟨_, rfl⟩, ⟨_, rfl⟩, .inl ⟨rfl, rfl⟩⟩, sound⟩
  | edges _ | middle => cases relates

theorem literal_starts (amount : Value) (e : Expression) (mark : Mark) (x : Double)
    (sized : Linear.literal amount = .ok e) (constant : e.constant = .number mark (.double x)) (finite : x.isFinite = true) :
    e.Starts ⟨x, .round 1, none⟩ := by
  obtain ⟨size, _, same⟩ := (Fallible.bind_ok_iff _ _ _).mp sized
  obtain rfl : literalOf size = e := Except.ok.inj same
  obtain ⟨q, place⟩ := finite_place x finite
  refine ⟨.literal rfl rfl rfl, rfl, ⟨⟨mark, constant⟩, ⟨_, rfl⟩, .inl ⟨rfl, rfl⟩⟩, ?_, round_defined 1, ?_⟩
  · simp [place]
  · exact fun _ given => nomatch given

theorem kept_starts (mark : Mark) (e : Expression) (figures : Figures) (w : Value) (starts : e.Starts figures)
    (kept : Value.KeptAs (.linear mark e) w) : ∃ other q, w = .linear other q ∧ q.Starts figures := by
  obtain ⟨other, q, rfl, _, _, _, constant, multiplier, priority⟩ := Value.kept_as_linear mark e w kept
  obtain ⟨_, _, same, turns⟩ := turns_kept mark e _ starts.topic (figures_numeric e starts.figured) kept
  obtain ⟨rfl, rfl⟩ := Value.linear.inj same
  refine ⟨other, q, rfl, turns_topic e q starts.topic turns, turns_checked e q starts.checked turns, ⟨?_, ?_, ?_⟩,
    starts.sound⟩
  · obtain ⟨first, offset⟩ := starts.figured.constant
    exact Value.kept_as_number first _ _ (offset ▸ constant)
  · obtain ⟨first, scale⟩ := starts.figured.multiplier
    exact Value.kept_as_number first _ _ (scale ▸ multiplier)
  · rcases starts.figured.priority with ⟨absent, none⟩ | ⟨first, n, given, number⟩
    · exact .inl ⟨absent, Value.kept_as_none _ (none ▸ priority)⟩
    · obtain ⟨again, same⟩ := Value.kept_as_number first n _ (number ▸ priority)
      exact .inr ⟨again, n, given, same⟩

theorem source_starts (v : Value) (source : v.Source) : ∃ mark e figures, v = .linear mark e ∧ e.Starts figures := by
  induction source with
  | read v name accessor listed relates =>
      obtain ⟨e, reads, starts⟩ := reading_starts v accessor (named_accessors_fit _ listed) relates
      exact ⟨.new, e, _, reads, starts⟩
  | literal amount e mark x sized constant finite =>
      exact ⟨.new, e, _, rfl, literal_starts amount e mark x sized constant finite⟩
  | kept v w _ as ih =>
      obtain ⟨mark, e, figures, rfl, starts⟩ := ih
      obtain ⟨other, q, same, startsToo⟩ := kept_starts mark e figures w starts as
      exact ⟨other, q, figures, same, startsToo⟩

/-- Whatever operators with finite numbers are applied one after the other to an expression that is read from a view or
made as a finite literal: if none of them divides by zero, the chain succeeds, the result speaks of the same and passes its
check, its offset is the one of the expression with the offsets of the chain added from left to right, its scale is the
last factor, or the one of the expression, divided in order by the divisors after that, and its priority is the last
priority, or the one of the expression; and any other chain of the same offsets, scalings and priorities, however
interleaved, succeeds with an equal expression. If one of them divides by zero, the chain fails for that. -/
theorem chain_normal_form (s : Scene) (mark : Mark) (e : Expression) (source : Value.Source (.linear mark e))
    (steps : List Step) :
    ∃ figures, e.HasFigures figures ∧
      ((∀ step ∈ steps, ¬ step.DividesByZero) →
        ∃ other changed, Step.applyAll s.surroundings (.linear mark e) steps = .ok (.linear other changed) ∧
          e.Turns changed ∧ changed.check = .ok changed ∧ changed.HasFigures (figures.through steps) ∧
          ∀ others, Interleaved steps others →
            ∃ v, Step.applyAll s.surroundings (.linear mark e) others = .ok v ∧
              s.surroundings.equal (.linear other changed) v = .ok true) ∧
      ((∃ step ∈ steps, step.DividesByZero) →
        ∃ v, Step.applyAll s.surroundings (.linear mark e) steps = .error (.zeroDivisor v) ∧
          (s.Titled → s.raised (.zeroDivisor v) = .divisionByZero)) := by
  obtain ⟨_, _, figures, same, starts⟩ := source_starts _ source
  obtain ⟨rfl, rfl⟩ := Value.linear.inj same
  refine ⟨figures, starts.figured, fun safe => ?_, fun zero => ?_⟩
  · obtain ⟨other, changed, ran, figured, turns⟩ := chain_figures s.surroundings mark e figures starts.figured steps safe
    refine ⟨other, changed, ran, turns, turns_checked e changed starts.checked turns, figured, fun others same => ?_⟩
    have safeToo := interleaved_safe steps others same safe
    obtain ⟨again, o, ranToo, figuredToo, turnsToo⟩ :=
      chain_figures s.surroundings mark e figures starts.figured others safeToo
    exact ⟨_, ranToo, figures_agree o (figures.through others) (turns_topic e o starts.topic turnsToo) figuredToo
      (through_sound figures others starts.sound safeToo) _ other again changed _ (turns.kind.trans turnsToo.kind.symm)
      (turns.element.trans turnsToo.element.symm) (turns.attr.trans turnsToo.attr.symm) figured
      (through_same figures steps others same safe)⟩
  · obtain ⟨other, reached, last, ran, figured, sound, turns⟩ :=
      chain_by_zero s.surroundings mark e figures starts.figured steps starts.sound zero
    exact ⟨_, ran, fun titled =>
      raised_zero_divisor titled other reached last (turns_topic e reached starts.topic turns) figured sound⟩

namespace Amount

def whole (k : Int) (finite : (Double.round k).isFinite = true) : Amount where
  mark := .new
  number := .int k
  size := .round k
  fits := if_pos finite
  finite := finite

def zero : Amount := .whole 0 (by decide +kernel)
def one : Amount := .whole 1 (by decide +kernel)
def two : Amount := .whole 2 (by decide +kernel)
def three : Amount := .whole 3 (by decide +kernel)
def ten : Amount := .whole 10 (by decide +kernel)

end Amount

-- Offsets, scalings and a priority in turns, and the same ones sorted.
def mixedSteps : List Step :=
  [⟨.divided, .ten⟩, ⟨.times, .two⟩, ⟨.plus, .ten⟩, ⟨.timesAfter, .three⟩, ⟨.divided, .two⟩, ⟨.prioritized, .ten⟩,
    ⟨.minus, .one⟩, ⟨.divided, .two⟩]

def sortedSteps : List Step :=
  [⟨.plusAfter, .ten⟩, ⟨.minus, .one⟩, ⟨.divided, .ten⟩, ⟨.timesAfter, .two⟩, ⟨.times, .three⟩, ⟨.divided, .two⟩,
    ⟨.divided, .two⟩, ⟨.prioritized, .ten⟩]

def stalledSteps : List Step := [⟨.times, .three⟩, ⟨.divided, .zero⟩, ⟨.plus, .one⟩]

theorem mixed_width :
    Value.Source firstWidth ∧ (∀ step ∈ mixedSteps, ¬ step.DividesByZero) ∧ Interleaved mixedSteps sortedSteps ∧
      (∃ step ∈ stalledSteps, step.DividesByZero) ∧ Scene.nested.Titled ∧
      (∃ mark e v, Step.applyAll Scene.nested.surroundings firstWidth mixedSteps = .ok (.linear mark e) ∧
        e.HasFigures ⟨.round 9, .round (3 / 4), some (.int 10)⟩ ∧
        Step.applyAll Scene.nested.surroundings firstWidth sortedSteps = .ok v ∧
        Scene.nested.surroundings.equal (.linear mark e) v = .ok true) ∧
      ∃ v, Step.applyAll Scene.nested.surroundings firstWidth stalledSteps = .error (.zeroDivisor v) ∧
        Scene.nested.raised (.zeroDivisor v) = .divisionByZero := by
  have source : Value.Source firstWidth := .read 0 "width" (.length .width) (by decide) rfl
  have safe : ∀ step ∈ mixedSteps, ¬ step.DividesByZero := by decide +kernel
  have same : Interleaved mixedSteps sortedSteps := ⟨rfl, rfl, rfl⟩
  have stalled : ∃ step ∈ stalledSteps, step.DividesByZero := by decide +kernel
  obtain ⟨figures, figured, runs, _⟩ := chain_normal_form Scene.nested .new _ source mixedSteps
  obtain ⟨_, _, _, fails⟩ := chain_normal_form Scene.nested .new _ source stalledSteps
  obtain ⟨mark, e, ran, _, _, mixed, equal⟩ := runs safe
  obtain ⟨v, ranToo, agree⟩ := equal sortedSteps same
  obtain ⟨w, failed, raised⟩ := fails stalled
  refine ⟨source, safe, same, stalled, Scene.nested_titled, ⟨mark, e, v, ran, ?_, ranToo, agree⟩, w, failed,
    raised Scene.nested_titled⟩
  obtain rfl : figures = ⟨.zero false, .round 1, none⟩ :=
    figures_unique _ _ _ figured ⟨⟨_, rfl⟩, ⟨_, rfl⟩, .inl ⟨rfl, rfl⟩⟩
  have settled : Figures.through ⟨.zero false, .round 1, none⟩ mixedSteps = ⟨.round 9, .round (3 / 4), some (.int 10)⟩ := by
    decide +kernel
  exact settled ▸ mixed

end LayoutAlgebra
