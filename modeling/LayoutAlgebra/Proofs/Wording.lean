import LayoutAlgebra.Proofs.Meaning
import LayoutAlgebra.Proofs.Priority.Carried
set_option autoImplicit false

namespace LayoutAlgebra

-- The ways to relate a number to a length by operators and functions. Some of them name the length first, and the relation is
-- then the mirrored one; equality has no operator.
inductive Wording (around : Surroundings) (n e : Value) (sign : Relation) : Fallible Value → Prop where
  | compared (c : Comparison) (means : c.relation? = some sign) :
      Wording around n e sign ((around.compare c n e).map Verdict.toValue)
  | comparedAfter (c : Comparison) (means : c.relation? = some sign.mirrored) :
      Wording around n e sign ((around.compare c e n).map Verdict.toValue)
  | related : Wording around n e sign ((n.relate e sign).map (.relationship .new))
  | relatedAfter : Wording around n e sign ((e.relate n sign.mirrored).map (.relationship .new))
  | literalRelated : Wording around n e sign do
      let literal ← Linear.literal n
      return .relationship .new (← (Value.linear .new literal).relate e sign)
  | relatedLiteral : Wording around n e sign do
      let literal ← Linear.literal n
      return .relationship .new (← e.relate (.linear .new literal) sign.mirrored)
  | equated (equal : sign = .equal) : Wording around n e sign ((e.equalTo n).map (.relationship .new))
  | made : Wording around n e sign do
      let literal ← Linear.literal n
      return .relationship .new ⟨.linear .new literal, e, .relation sign⟩

inductive EitherWay (lhs rhs : Value) (sign : Relation) : Value → Prop where
  | straight : EitherWay lhs rhs sign (.relationship .new ⟨lhs, rhs, .relation sign⟩)
  | turned : EitherWay lhs rhs sign (.relationship .new ⟨rhs, lhs, .relation sign.mirrored⟩)

section

variable (around : Surroundings) (mark other : Mark) (n : Number) (e : Expression) (sign : Relation) (size : Value)

theorem coerce_number (length : e.kind = .length) (read : (Value.number mark n).asDouble = .ok size) :
    e.coerce (.number mark n) = .ok (some (.linear .new (literalOf size))) := by
  unfold Linear.coerce
  rw [length, read]
  rfl

theorem relate_number (length : e.kind = .length) (read : (Value.number mark n).asDouble = .ok size) :
    (Value.linear other e).relate (.number mark n) sign =
      .ok ⟨.linear other e, .linear .new (literalOf size), .relation sign⟩ := by
  change e.coerce (.number mark n) >>= _ = _
  rw [coerce_number mark n e size length read]
  rfl

theorem relate_expressions (o : Expression) (kinds : o.kind = e.kind) (inner : Mark) :
    (Value.linear other e).relate (.linear inner o) sign = .ok ⟨.linear other e, .linear inner o, .relation sign⟩ := by
  change e.coerce (.linear inner o) >>= _ = _
  rw [Scene.coerce_linear e o inner kinds]
  rfl

theorem compare_after (c : Comparison) (means : c.relation? = some sign) (length : e.kind = .length)
    (read : (Value.number mark n).asDouble = .ok size) :
    around.compare c (.linear other e) (.number mark n) =
      .ok (.awaiting ⟨.linear other e, .linear .new (literalOf size), .relation sign⟩) := by
  change Value.related c (.linear other e) (.number mark n) = _
  simp only [Value.related, means, coerce_number mark n e size length read, Fallible.ok_bind]
  rfl

-- A number has no comparison of its own with an expression, so the expression compares itself the other way round.
theorem compare_before (c : Comparison) (means : c.relation? = some sign) (length : e.kind = .length)
    (read : (Value.number mark n).asDouble = .ok size) :
    around.compare c (.number mark n) (.linear other e) =
      .ok (.awaiting ⟨.linear other e, .linear .new (literalOf size), .relation sign.mirrored⟩) := by
  change Value.related c (.number mark n) (.linear other e) = _
  simp only [Value.related, means, Fallible.pure_eq, Fallible.ok_bind, coerce_number mark n e size length read]

end

theorem wording_relates (around : Surroundings) (mark other : Mark) (n : Number) (e : Expression) (sign : Relation)
    (size : Value) (length : e.kind = .length) (read : (Value.number mark n).asDouble = .ok size) (worded : Fallible Value)
    (wording : Wording around (.number mark n) (.linear other e) sign worded) :
    ∃ v, worded = .ok v ∧ EitherWay (.linear .new (literalOf size)) (.linear other e) sign v := by
  have literal : Linear.literal (.number mark n) = .ok (literalOf size) := by
    rw [Linear.literal, read]
    rfl
  have kinds : e.kind = (literalOf size).kind := length
  cases wording with
  | compared c means => exact ⟨_, by rw [compare_before around mark other n e sign size c means length read]; rfl, .turned⟩
  | comparedAfter c means => exact ⟨_, by rw [compare_after around mark other n e _ size c means length read]; rfl, .turned⟩
  | related =>
      refine ⟨_, ?_, .straight⟩
      change ((Linear.literal (.number mark n) >>= fun l => (Value.linear .new l).relate (.linear other e) sign)).map _ = _
      rw [literal, Fallible.ok_bind, relate_expressions .new (literalOf size) sign e kinds other]
      rfl
  | relatedAfter => exact ⟨_, by rw [relate_number mark other n e _ size length read]; rfl, .turned⟩
  | literalRelated =>
      refine ⟨_, ?_, .straight⟩
      rw [literal, Fallible.ok_bind, relate_expressions .new (literalOf size) sign e kinds other]
      rfl
  | relatedLiteral =>
      refine ⟨_, ?_, .turned⟩
      rw [literal, Fallible.ok_bind, relate_expressions other e _ (literalOf size) kinds.symm .new]
      rfl
  | equated equal =>
      subst equal
      refine ⟨_, ?_, .turned⟩
      change ((Value.linear other e).relate (.number mark n) .equal).map _ = _
      rw [relate_number mark other n e _ size length read]
      rfl
  | made => exact ⟨_, by rw [literal]; rfl, .straight⟩

namespace Scene

theorem mirrored_relation (sign : Relation) : (Value.relation sign).mirrored = .ok (.relation sign.mirrored) := rfl

theorem orient_turned (lhs rhs : Expression) (sign : Relation) (one : lhs.hasElement ≠ rhs.hasElement) :
    orient lhs rhs (.relation sign) = orient rhs lhs (.relation sign.mirrored) := by
  unfold orient
  cases first : lhs.hasElement with
  | true =>
      have second : rhs.hasElement = false := by simpa [first] using one.symm
      simp only [second, mirrored_relation, Relation.mirrored_mirrored]
      rfl
  | false =>
      have second : rhs.hasElement = true := by simpa [first] using one.symm
      simp only [second, mirrored_relation]
      rfl

theorem compile_turned (s : Scene) (config : Value) (outer outer' first first' second second' : Mark)
    (lhs rhs : Expression) (sign : Relation) (length : lhs.kind = .length) (lengthToo : rhs.kind = .length)
    (one : lhs.hasElement ≠ rhs.hasElement) :
    s.compile config (.relationship outer ⟨.linear first lhs, .linear second rhs, .relation sign⟩) =
      s.compile config (.relationship outer' ⟨.linear second' rhs, .linear first' lhs, .relation sign.mirrored⟩) := by
  have sides : s.compileSides config lhs rhs (.relation sign) = s.compileSides config rhs lhs (.relation sign.mirrored) := by
    unfold compileSides
    simp only [length, lengthToo, ne_eq, not_true_eq_false, if_false, reduceCtorEq, orient_turned lhs rhs sign one]
  simp only [compile, sides]

/-- A relation between two lengths of which exactly one is about an element compiles as the mirrored one with the sides
changed does: to the same result and with the same events. So, for a number that a double can hold, all the wordings of one
relation between it and such a length are relations that compile alike. -/
theorem sides_change_nothing (s : Scene) (config : Value) (sign : Relation) :
    (∀ (outer outer' first first' second second' : Mark) (lhs rhs : Expression), lhs.kind = .length → rhs.kind = .length →
        lhs.hasElement ≠ rhs.hasElement →
        s.compile config (.relationship outer ⟨.linear first lhs, .linear second rhs, .relation sign⟩) =
          s.compile config (.relationship outer' ⟨.linear second' rhs, .linear first' lhs, .relation sign.mirrored⟩)) ∧
      ∀ (around : Surroundings) (mark other : Mark) (n : Number) (x : Double) (e : Expression), n.toDouble = .ok x →
        e.kind = .length → e.hasElement = true →
        ∃ size, size.number? = some (.double x) ∧
          ∀ worded, Wording around (.number mark n) (.linear other e) sign worded → ∃ v, worded = .ok v ∧
            s.compile config v =
              s.compile config (.relationship .new ⟨.linear .new (literalOf size), .linear other e, .relation sign⟩) := by
  refine ⟨fun outer outer' first first' second second' lhs rhs length lengthToo one =>
    compile_turned s config outer outer' first first' second second' lhs rhs sign length lengthToo one, ?_⟩
  intro around mark other n x e fits length present
  obtain ⟨size, read, number⟩ := as_double_sized mark n x fits
  refine ⟨size, number, fun worded wording => ?_⟩
  obtain ⟨v, same, way⟩ := wording_relates around mark other n e sign size length read worded wording
  refine ⟨v, same, ?_⟩
  cases way with
  | straight => rfl
  | turned =>
      have literal : (literalOf size).hasElement ≠ e.hasElement := by
        rw [present]
        exact Bool.false_ne_true
      exact (compile_turned s config .new .new .new .new other other (literalOf size) e sign rfl length literal).symm

def onlyView : Scene := (empty.construct {}).2

def onlyWidth : Expression := .reading .length (.view 0) .width

theorem twelve_below_width :
    Linear.hasElement (literalOf (.int 12)) ≠ onlyWidth.hasElement ∧
      onlyView.compile .standardConfig
          (.relationship .new ⟨.linear .new (literalOf (.int 12)), .linear .new onlyWidth, .relation .lessOrEqual⟩) =
        onlyView.compile .standardConfig
          (.relationship .new ⟨.linear .new onlyWidth, .linear .new (literalOf (.int 12)), .relation .greaterOrEqual⟩) ∧
      ∃ first second : Value,
        (onlyView.surroundings.compare .le (.int 12) (.linear .new onlyWidth)).map Verdict.toValue = .ok first ∧
          ((Value.linear .new onlyWidth).relate (.int 12) .greaterOrEqual).map (.relationship .new) = .ok second ∧
          onlyView.compile .standardConfig first = onlyView.compile .standardConfig second := by
  obtain ⟨turned, wordings⟩ := sides_change_nothing onlyView .standardConfig .lessOrEqual
  obtain ⟨size, _, alike⟩ := wordings onlyView.surroundings .new .new (.int 12) (.round 12) onlyWidth (by decide +kernel)
    rfl rfl
  obtain ⟨first, compared, compiled⟩ := alike _ (.compared .le rfl)
  obtain ⟨second, related, compiledToo⟩ := alike _ .relatedAfter
  have one : Linear.hasElement (literalOf (.int 12)) ≠ onlyWidth.hasElement := Bool.false_ne_true
  exact ⟨one, turned .new .new .new .new .new .new _ _ rfl rfl one, first, second, compared, related,
    compiled.trans compiledToo.symm⟩

end Scene

end LayoutAlgebra
