import LayoutAlgebra.Proofs.Compilation
import LayoutAlgebra.Proofs.Priority.Bounds
set_option autoImplicit false

namespace LayoutAlgebra

namespace Value

def carried : Value → Value
  | .linear _ e => e.priority
  | .tuple _ [.linear _ e, _] => e.priority
  | _ => .none

def bringing (v priority : Value) : Value :=
  match v with
  | .linear mark e => .linear mark (e.withPriority priority)
  | .tuple mark [.linear inner e, denominator] => .tuple mark [.linear inner (e.withPriority priority), denominator]
  | v => v

def relieved (v : Value) : Value := v.bringing .none

theorem brings_cases (v : Value) :
    (∃ mark e, v = .linear mark e) ∨ (∃ mark inner e denominator, v = .tuple mark [.linear inner e, denominator]) ∨
      v.carried = .none ∧ ∀ p, v.bringing p = v := by
  fun_cases carried v with
  | case1 mark e => exact .inl ⟨mark, e, rfl⟩
  | case2 mark inner e denominator => exact .inr (.inl ⟨mark, inner, e, denominator, rfl⟩)
  | case3 =>
      rename_i single pair
      refine .inr (.inr ⟨rfl, fun p => ?_⟩)
      unfold bringing
      split
      · exact absurd rfl (single _ _)
      · exact absurd rfl (pair _ _ _ _)
      · rfl

theorem bringing_carried (v : Value) : v.bringing v.carried = v := by
  rcases brings_cases v with ⟨_, _, rfl⟩ | ⟨_, _, _, _, rfl⟩ | ⟨_, same⟩
  · rfl
  · rfl
  · exact same _

theorem bringing_again (v p q : Value) : (v.bringing p).bringing q = v.bringing q := by
  rcases brings_cases v with ⟨_, _, rfl⟩ | ⟨_, _, _, _, rfl⟩ | ⟨_, same⟩
  · rfl
  · rfl
  · rw [same]

end Value

def Config.chosen (c : Config Value) (carried : Value) : Value := if carried.isNone then c.defaultPriority else carried

namespace Accessor

def relates : Accessor → Bool
  | .line _ | .length _ | .ratio => true
  | .edges _ | .middle => false

def reading (v : ViewId) : Accessor → Expression
  | .line attr => .reading .position (.view v) attr
  | .length attr => .reading .length (.view v) attr
  | _ => .reading .ratio (.view v) .height

def side (around : Surroundings) (accessor : Accessor) (value : Value) : Fallible Value :=
  match accessor with
  | .ratio => Scene.ratioSide around value
  | _ => .ok value

end Accessor

namespace Scene

variable {s : Scene} {mark : Mark} {c : Config Value}

-- Whether two sides compile does not depend on their priorities, but for the one that the record gets.
theorem compile_linear_by_priority (config : Value) (o : Oriented) (p : Pending Value)
    (compiled : (s.compileLinear config o).result = .ok p) (a b : Value) :
    (s.compileLinear config ⟨o.subject.withPriority a, o.object.withPriority b, o.relation⟩).result =
      (resolvePriority s.surroundings config (o.subject.withPriority a) (o.object.withPriority b)).map
        fun q => ⟨.record .new (o.record q), p.anchor⟩ := by
  simp only [compileLinear, Logged.bind_ok_iff] at compiled
  obtain ⟨_, told, anchor, found, _, _, emitted⟩ := compiled
  have here : p.anchor = anchor := by rw [← Except.ok.inj emitted]
  have toldToo : ((o.subject.withPriority a).tellIgnored s.surroundings).result = .ok () := told
  have foundToo : (if (o.object.withPriority b).hasElement then
      s.commonAncestor (o.subject.withPriority a).element (o.object.withPriority b).element
    else .ok (o.subject.withPriority a).element) = .ok anchor := found
  simp only [compileLinear, Logged.bind_result, Logged.of_result, toldToo, foundToo, Fallible.ok_bind, here]
  cases resolvePriority s.surroundings config (o.subject.withPriority a) (o.object.withPriority b) <;> rfl

theorem compile_ratio_by_priority (config relation : Value) (lhs rhs : Expression) (p : Pending Value)
    (compiled : (s.compileRatio config lhs rhs relation).result = .ok p) (a b : Value) :
    (s.compileRatio config (lhs.withPriority a) (rhs.withPriority b) relation).result =
      (resolvePriority s.surroundings config (lhs.withPriority a) (rhs.withPriority b)).map
        fun q => ⟨.record .new ((Oriented.proportion lhs rhs relation).record q), p.anchor⟩ := by
  simp only [compileRatio, Logged.bind_ok_iff] at compiled
  obtain ⟨_, told, _, _, anchor, found, emitted⟩ := compiled
  have here : p.anchor = anchor := by rw [← Except.ok.inj emitted]
  have toldToo : ((lhs.withPriority a).tellIgnored s.surroundings).result = .ok () := told
  have foundToo : s.commonAncestor (lhs.withPriority a).element (rhs.withPriority b).element = .ok anchor := found
  simp only [compileRatio, Logged.bind_result, Logged.of_result, toldToo, foundToo, Fallible.ok_bind, here]
  cases resolvePriority s.surroundings config (lhs.withPriority a) (rhs.withPriority b) <;> rfl

theorem orient_by_priority (lhs rhs : Expression) (relation : Value) (o : Oriented)
    (oriented : orient lhs rhs relation = .ok o) :
    (∀ a b, orient (lhs.withPriority a) (rhs.withPriority b) relation =
        .ok ⟨o.subject.withPriority a, o.object.withPriority b, o.relation⟩) ∨
      ∀ a b, orient (lhs.withPriority a) (rhs.withPriority b) relation =
        .ok ⟨o.subject.withPriority b, o.object.withPriority a, o.relation⟩ := by
  unfold orient at oriented
  split at oriented
  · rename_i present
    refine .inl fun a b => ?_
    rw [← Except.ok.inj oriented]
    exact if_pos present
  · rename_i literal
    split at oriented
    · rename_i present
      obtain ⟨turned, mirrored, same⟩ := (Fallible.bind_ok_iff _ _ _).mp oriented
      refine .inr fun a b => ?_
      rw [← Except.ok.inj same, orient, if_neg (show ¬ (lhs.withPriority a).hasElement = true from literal),
        if_pos (show (rhs.withPriority b).hasElement = true from present), mirrored]
      rfl
    · simp at oriented

def given (a b : Value) : Value := if b.isNone then a else b

theorem given_either (a b : Value) (one : a = .none ∨ b = .none) : given b a = given a b := by
  unfold given
  split <;> split <;> rename_i first second
  · rw [(is_none_iff a).mp first, (is_none_iff b).mp second]
  · rfl
  · rfl
  · rcases one with none | none
    · simp [none, Value.isNone] at first
    · simp [none, Value.isNone] at second

theorem given_second (b : Value) : given .none b = b := by
  unfold given
  split
  · rename_i none
    exact ((is_none_iff b).mp none).symm
  · rfl

theorem compile_sides_by_priority (lhs rhs : Expression) (relation : Value) (p : Pending Value)
    (compiled : (s.compileSides (.config mark c) lhs rhs relation).result = .ok p) :
    ∃ record : Value → ConstraintRecord Value, (∀ q, (record q).priority = q) ∧
      ∀ a b, (a = .none ∨ b = .none) →
        (s.compileSides (.config mark c) (lhs.withPriority a) (rhs.withPriority b) relation).result =
          (c.checkPriority s.surroundings (c.chosen (given a b)) (.ofText "priority")).map
            fun q => ⟨.record .new (record q), p.anchor⟩ := by
  unfold compileSides at compiled
  split at compiled
  · simp at compiled
  · rename_i kinds
    have kindsToo : ∀ a b, ¬ (lhs.withPriority a).kind ≠ (rhs.withPriority b).kind := fun _ _ => kinds
    split at compiled
    · rename_i ratio
      refine ⟨(Oriented.proportion lhs rhs relation).record, fun _ => rfl, fun a b _ => ?_⟩
      rw [compileSides, if_neg (kindsToo a b), if_pos (show (lhs.withPriority a).kind = .ratio from ratio)]
      exact compile_ratio_by_priority _ relation lhs rhs p compiled a b
    · rename_i plain
      split at compiled
      · simp at compiled
      · rename_i o oriented
        refine ⟨o.record, fun _ => rfl, fun a b one => ?_⟩
        rw [compileSides, if_neg (kindsToo a b), if_neg (show ¬ (lhs.withPriority a).kind = .ratio from plain)]
        rcases orient_by_priority lhs rhs relation o oriented with straight | swapped
        · rw [straight a b]
          exact compile_linear_by_priority _ o p compiled a b
        · rw [swapped a b, ← given_either a b one]
          exact compile_linear_by_priority _ o p compiled b a

theorem compile_by_priority (outer first second : Mark) (lhs rhs : Expression) (relation : Value)
    (pending : List (Pending Value))
    (compiled : (s.compile (.config mark c) (.relationship outer ⟨.linear first lhs, .linear second rhs, relation⟩)).result =
      .ok pending) :
    ∃ (record : Value → ConstraintRecord Value) (anchor : Value), (∀ q, (record q).priority = q) ∧
      ∀ a b, (a = .none ∨ b = .none) →
        (s.compile (.config mark c) (.relationship outer
          ⟨.linear first (lhs.withPriority a), .linear second (rhs.withPriority b), relation⟩)).result =
          (c.checkPriority s.surroundings (c.chosen (given a b)) (.ofText "priority")).map
            fun q => [⟨.record .new (record q), anchor⟩] := by
  obtain ⟨p, made, _⟩ := (Logged.bind_ok_iff _ _ _).mp compiled
  obtain ⟨record, ranks, each⟩ := compile_sides_by_priority lhs rhs relation p made
  refine ⟨record, p.anchor, ranks, fun a b one => ?_⟩
  simp only [compile, Logged.bind_result, each a b one]
  cases c.checkPriority s.surroundings (c.chosen (given a b)) (.ofText "priority") <;> rfl

theorem coerce_linear (e o : Expression) (mark : Mark) (kinds : o.kind = e.kind) :
    e.coerce (.linear mark o) = .ok (some (.linear mark o)) := by
  have found : e.coerce (.linear mark o) = .ok (if o.kind = e.kind then some (.linear mark o) else none) := by
    unfold Linear.coerce
    cases e.kind <;> rfl
  rw [found, if_pos kinds]

theorem coerced_bringing (e : Expression) (value rhs : Value) (coerced : e.coerce value = .ok (some rhs)) :
    (∃ mark n o, value = .number mark n ∧ rhs = .linear .new o ∧ o.priority = .none) ∨
      ∃ mark o, value = .linear mark o ∧ rhs = .linear mark o ∧
        ∀ p, e.coerce (.linear mark (o.withPriority p)) = .ok (some (.linear mark (o.withPriority p))) := by
  rcases coerced_cases e value rhs coerced with ⟨⟨mark, n, rfl⟩, size, rfl | rfl⟩ | ⟨rfl, mark, o, rfl, kinds⟩
  · exact .inl ⟨mark, n, _, rfl, rfl, rfl⟩
  · exact .inl ⟨mark, n, _, rfl, rfl, rfl⟩
  · exact .inr ⟨mark, o, rfl, rfl, fun p => coerce_linear e (o.withPriority p) mark kinds⟩

theorem linear_div (mark : Mark) (e : Expression) (b v : Value) (divided : (Value.linear mark e).div b = .ok v) :
    ∃ other n k, b = .number other n ∧ n.isZero = false ∧ e.multiplier.dividedBy n = .ok k ∧
      v = .linear .new { e with multiplier := k } := by
  obtain ⟨kind, element, what, constant, multiplier, priority⟩ := e
  unfold Value.div at divided
  split at divided
  · rename_i other n
    simp only [Value.dividedBy] at divided
    split at divided
    · cases divided
    · rename_i zero
      obtain ⟨k, scaled, same⟩ := (Fallible.bind_ok_iff _ _ _).mp divided
      exact ⟨other, n, k, rfl, by simpa using zero, scaled, (Except.ok.inj same).symm⟩
  · cases divided

theorem div_linear (a b : Value) (mark : Mark) (o : Expression) (divided : a.div b = .ok (.linear mark o)) :
    ∃ inner e, a = .linear inner e := by
  unfold Value.div at divided
  split at divided
  · unfold Value.dividedBy at divided
    split at divided
    · obtain ⟨_, _, same⟩ := (Fallible.bind_ok_iff _ _ _).mp divided
      cases same
    · obtain ⟨_, _, same⟩ := (Fallible.bind_ok_iff _ _ _).mp divided
      cases same
    · exact ⟨_, _, rfl⟩
    · obtain ⟨_, _, same⟩ := (Fallible.bind_ok_iff _ _ _).mp divided
      cases same
    · obtain ⟨_, _, same⟩ := (Fallible.bind_ok_iff _ _ _).mp divided
      cases same
    · cases divided
  · unfold Value.arithmetic at divided
    split at divided
    · obtain ⟨_, _, same⟩ := (Fallible.bind_ok_iff _ _ _).mp divided
      cases same
    · cases divided

theorem opened_linear (around : Surroundings) (v : Value) (mark : Mark) (e : Expression)
    (opened : around.opened v = .linear mark e) : v = .linear mark e := by
  cases v with
  | shared l => cases opened
  | _ => exact opened

theorem linear_divided (around : Surroundings) (mark other : Mark) (e : Expression) (b k : Value) (n : Number)
    (opened : around.opened b = .number other n) (some : n.isZero = false)
    (scaled : e.multiplier.dividedBy n = .ok k) :
    around.div (.linear mark e) b = .ok (.linear .new { e with multiplier := k }) := by
  have alone : around.betweenCells Operation.div.purpose (Cells.combine .div Value.div) (.linear mark e) b = none := by
    simp only [Surroundings.betweenCells, opened]
    rfl
  obtain ⟨kind, element, what, constant, multiplier, priority⟩ := e
  simp only [Surroundings.div, Surroundings.calculate, alone, opened]
  change Value.dividedBy n (.linear mark ⟨kind, element, what, constant, multiplier, priority⟩) = _
  rw [Value.dividedBy, if_neg (by simp [some]), scaled]
  rfl

theorem proportion_bringing (around : Surroundings) (e : Expression) (numerator denominator side rhs : Value)
    (found : proportion around numerator denominator = .ok side) (coerced : e.coerce side = .ok (some rhs)) :
    ((∀ mark o, numerator ≠ .linear mark o) ∧ ∃ o, rhs = .linear .new o ∧ o.priority = .none) ∨
      ∃ mark o quotient, numerator = .linear mark o ∧ rhs = .linear .new quotient ∧ quotient.priority = o.priority ∧
        ∀ p, proportion around (.linear mark (o.withPriority p)) denominator =
            .ok (.linear .new (quotient.withPriority p)) ∧
          e.coerce (.linear .new (quotient.withPriority p)) = .ok (some (.linear .new (quotient.withPriority p))) := by
  obtain ⟨zero, isZero, found⟩ := (Fallible.bind_ok_iff _ _ _).mp found
  cases zero with
  | true => cases found
  | false =>
      simp only [Bool.false_eq_true, if_false, Surroundings.div, Surroundings.calculate] at found
      cases beside : around.betweenCells Operation.div.purpose (Cells.combine .div Value.div) numerator denominator with
      | some cells =>
          -- Beside an array there is an array, which stands for nothing beside an expression.
          rw [beside] at found
          obtain ⟨places, _, found⟩ := (Fallible.bind_ok_iff _ _ _).mp found
          rw [← Except.ok.inj found] at coerced
          rcases coerced_bringing e _ rhs coerced with ⟨_, _, _, same, _⟩ | ⟨_, _, same, _⟩ <;> cases same
      | none =>
          rw [beside] at found
          by_cases linear : ∃ mark o, numerator = .linear mark o
          · obtain ⟨mark, o, rfl⟩ := linear
            obtain ⟨other, n, k, divisor, some, scaled, rfl⟩ := linear_div mark o _ side found
            rcases coerced_bringing e _ rhs coerced with ⟨_, _, _, same, _⟩ | ⟨_, _, same, rfl, coerces⟩
            · cases same
            · cases same
              refine .inr ⟨mark, o, _, rfl, rfl, rfl, fun p => ⟨?_, coerces p⟩⟩
              have divided := linear_divided around mark other (o.withPriority p) denominator k n divisor some scaled
              simp only [proportion, isZero, Fallible.ok_bind, Bool.false_eq_true, if_false, divided]
              rfl
          · refine .inl ⟨fun mark o same => linear ⟨mark, o, same⟩, ?_⟩
            rcases coerced_bringing e side rhs coerced with ⟨_, _, o, _, rfl, none⟩ | ⟨mark, o, rfl, _, _⟩
            · exact ⟨o, rfl, none⟩
            · obtain ⟨inner, dividend, opened⟩ := div_linear _ _ mark o found
              exact absurd ⟨inner, dividend, opened_linear around _ _ _ opened⟩ linear

theorem with_own_priority (e : Expression) (p : Value) (own : e.priority = p) : e.withPriority p = e := by
  subst own
  rfl

theorem coerced_side (e : Expression) (value rhs : Value) (coerced : e.coerce value = .ok (some rhs)) :
    ∃ mark o, rhs = .linear mark o ∧ o.priority = value.carried ∧
      ∀ p, e.coerce (value.bringing p) = .ok (some (.linear mark (o.withPriority (value.bringing p).carried))) := by
  rcases coerced_bringing e value rhs coerced with ⟨mark, n, o, rfl, rfl, none⟩ | ⟨mark, o, rfl, rfl, each⟩
  · exact ⟨.new, o, rfl, none, fun p => (with_own_priority o _ none).symm ▸ coerced⟩
  · exact ⟨mark, o, rfl, rfl, each⟩

theorem ratio_side_bringing (around : Surroundings) (e : Expression) (value side rhs : Value)
    (found : ratioSide around value = .ok side) (coerced : e.coerce side = .ok (some rhs)) :
    ∃ mark o, rhs = .linear mark o ∧ o.priority = value.carried ∧
      ∀ p, ∃ other, ratioSide around (value.bringing p) = .ok other ∧
        e.coerce other = .ok (some (.linear mark (o.withPriority (value.bringing p).carried))) := by
  unfold ratioSide at found
  split at found
  · rename_i outer numerator denominator
    rcases proportion_bringing around e numerator denominator side rhs found coerced with
      ⟨plain, o, rfl, none⟩ | ⟨mark, o, quotient, rfl, rfl, kept, each⟩
    · rcases Value.brings_cases (.tuple outer [numerator, denominator]) with ⟨_, _, same⟩ | ⟨_, mark, o, _, same⟩ | fixed
      · cases same
      · cases same
        exact absurd rfl (plain mark o)
      · refine ⟨.new, o, rfl, none.trans fixed.1.symm, fun p => ?_⟩
        rw [fixed.2 p, fixed.1, with_own_priority o .none none]
        exact ⟨side, found, coerced⟩
    · exact ⟨.new, quotient, rfl, kept, fun p => ⟨_, each p⟩⟩
  · cases found
  · cases found
    obtain ⟨mark, o, same, carried, each⟩ := coerced_side e value rhs coerced
    refine ⟨mark, o, same, carried, fun p => ⟨_, ?_, each p⟩⟩
    rcases coerced_bringing e value rhs coerced with ⟨_, _, _, rfl, _⟩ | ⟨_, _, rfl, _⟩ <;> rfl

theorem side_bringing (around : Surroundings) (accessor : Accessor) (e : Expression) (value side rhs : Value)
    (found : accessor.side around value = .ok side) (coerced : e.coerce side = .ok (some rhs)) :
    ∃ mark o, rhs = .linear mark o ∧ o.priority = value.carried ∧
      ∀ p, ∃ other, accessor.side around (value.bringing p) = .ok other ∧
        e.coerce other = .ok (some (.linear mark (o.withPriority (value.bringing p).carried))) := by
  have plain : side = value → ∃ mark o, rhs = .linear mark o ∧ o.priority = value.carried ∧
      ∀ p, ∃ other, (.ok (value.bringing p) : Fallible Value) = .ok other ∧
        e.coerce other = .ok (some (.linear mark (o.withPriority (value.bringing p).carried))) := by
    rintro rfl
    obtain ⟨mark, o, same, carried, each⟩ := coerced_side e side rhs coerced
    exact ⟨mark, o, same, carried, fun p => ⟨_, rfl, each p⟩⟩
  cases accessor with
  | ratio => exact ratio_side_bringing around e value side rhs found coerced
  | line _ | length _ | edges _ | middle => exact plain (Except.ok.inj found).symm

theorem compile_pair (config first second : Value) :
    (s.compileAll config [first, second]).result =
      (s.compile config first).result >>= fun a => (s.compile config second).result.map (a ++ ·) := by
  simp only [compileAll, Logged.bind_result, Logged.map_result]
  cases (s.compile config first).result with
  | error failure => rfl
  | ok a => cases (s.compile config second).result <;> simp [Except.map]

theorem range_by_priority (around : Surroundings) (mark : Mark) (e : Expression) (low high : Value)
    (range : List (Relationship Value)) (made : around.range (.linear mark e) low high = .ok range) :
    ∃ below above : Expression, below.priority = .none ∧ above.priority = .none ∧
      ∀ p, around.range (.linear mark (e.withPriority p)) low high =
        .ok [⟨.linear .new below, .linear mark (e.withPriority p), .relation .lessOrEqual⟩,
          ⟨.linear mark (e.withPriority p), .linear .new above, .relation .lessOrEqual⟩] := by
  obtain ⟨kind, element, what, constant, multiplier, priority⟩ := e
  cases kind with
  | length =>
      simp only [Surroundings.range, Value.between, Fallible.bind_ok_iff] at made
      obtain ⟨least, isLeast, greatest, isGreatest, below, lower, above, upper, _⟩ := made
      have plain : ∀ v e, Linear.literal v = .ok e → e.priority = .none := by
        intro v e literal
        obtain ⟨_, _, same⟩ := (Fallible.bind_ok_iff _ _ _).mp literal
        rw [← Except.ok.inj same]
        rfl
      refine ⟨below, above, plain _ _ lower, plain _ _ upper, fun p => ?_⟩
      simp only [Linear.withPriority, Surroundings.range, Value.between, isLeast, isGreatest, lower, upper,
        Fallible.ok_bind, Fallible.pure_eq]
  | linear | position | ratio => cases made

end Scene

end LayoutAlgebra
