import LayoutAlgebra.Proofs.Built
import LayoutAlgebra.Proofs.Exact.Order
import LayoutAlgebra.Proofs.Priority.Bounds
import LayoutAlgebra.Scene
set_option autoImplicit false

namespace LayoutAlgebra

namespace Value

def isExpression : Value → Bool
  | .linear _ _ => true
  | _ => false

def isOperand : Value → Bool
  | .none | .bool _ | .number _ _ | .text _ _ | .view _ | .linear _ _ | .edges _ _ | .center _ _ => true
  | _ => false

def Exceeds (v : Value) : Prop := ∃ n, v.number? = some n ∧ n.toDouble = .error .overflow

end Value

theorem expression_cases (v : Value) (expression : v.isExpression = true) : ∃ mark e, v = .linear mark e := by
  cases v with
  | linear mark e => exact ⟨mark, e, rfl⟩
  | _ => cases expression

section

variable (c : Comparison) (a b : Value)

theorem operand_opened (around : Surroundings) (v : Value) (operand : v.isOperand = true) : around.opened v = v := by
  cases v <;> first
    | rfl
    | cases operand

theorem compare_operands (around : Surroundings) (left : a.isOperand = true) (right : b.isOperand = true) :
    around.compare c a b = Value.comparePlain c a b := by
  have apart : ∀ {α : Type} (purpose : Purpose) (ask : Cells Value → Cells Value → Fallible α),
      around.betweenCells purpose ask a b = none := by
    intro α purpose ask
    rw [Surroundings.betweenCells, operand_opened around a left, operand_opened around b right]
    split
    · cases left
    · cases left
    · cases right
    · rfl
  rw [Surroundings.compare, Surroundings.depth, Surroundings.compareTo, apart, operand_opened around a left,
    operand_opened around b right]
  simp only
  split
  · cases left
  · cases left
  · rfl

theorem plain_related (either : a.isExpression = true ∨ b.isExpression = true) :
    Value.comparePlain c a b = Value.related c a b := by
  rcases either with left | right
  · obtain ⟨mark, e, rfl⟩ := expression_cases a left
    rfl
  · obtain ⟨mark, e, rfl⟩ := expression_cases b right
    cases a <;> rfl

theorem related_ordinary (left : a.isExpression = false) (right : b.isExpression = false) :
    Value.related c a b = .error .wrongType := by
  unfold Value.related
  cases c.relation? with
  | none => rfl
  | some sign =>
      simp only
      split
      · cases left
      · rw [Fallible.pure_eq, Fallible.ok_bind]
        split
        · rename_i found
          cases found
        · cases right
        · rfl

theorem plain_settled (left : a.isExpression = false) (right : b.isExpression = false) (verdict : Verdict)
    (compared : Value.comparePlain c a b = .ok verdict) : ∃ holds, verdict = .settled holds := by
  unfold Value.comparePlain at compared
  split at compared
  · exact ⟨_, (Except.ok.inj compared).symm⟩
  · split at compared
    · exact ⟨_, (Except.ok.inj compared).symm⟩
    · rw [related_ordinary c a b left right] at compared
      cases compared

end

section

variable (e : Expression) (v : Value) (failure : Failure)

theorem as_double_failure (mark : Mark) (n : Number) (failed : (Value.number mark n).asDouble = .error failure) :
    failure = .arithmetic .overflow ∧ n.toDouble = .error .overflow := by
  cases n with
  | double x => cases failed
  | int k =>
      cases read : (Number.int k).toDouble with
      | ok x => simp [Value.asDouble, Value.toDouble, read, Fallible.ofArithmetic] at failed
      | error fault =>
          obtain rfl := to_double_fault _ fault read
          simp [Value.asDouble, Value.toDouble, read, Fallible.ofArithmetic] at failed
          exact ⟨failed.symm, rfl⟩

theorem coerce_failure (failed : e.coerce v = .error failure) : failure = .arithmetic .overflow ∧ v.Exceeds := by
  have sized : ∀ mark n (place : Value → Option Value),
      ((Value.number mark n).asDouble >>= fun size => .ok (place size)) = .error failure →
        failure = .arithmetic .overflow ∧ (Value.number mark n).Exceeds := by
    intro mark n place failed
    cases read : (Value.number mark n).asDouble with
    | ok size => simp [read] at failed
    | error other =>
        rw [read, Fallible.error_bind] at failed
        obtain rfl := Except.error.inj failed
        obtain ⟨overflow, large⟩ := as_double_failure other mark n read
        exact ⟨overflow, n, rfl, large⟩
  unfold Linear.coerce at failed
  split at failed
  · exact sized _ _ _ failed
  · exact sized _ _ _ failed
  · cases failed
  · cases failed

end

section

variable (a b : Value)

def Unsettled (failure : Failure) : Prop :=
  failure.category = .wrongType ∨ failure.category = .overflow ∧ (a.Exceeds ∨ b.Exceeds)

theorem turned_unsettled (mark : Mark) (e : Expression) (sign : Relation) (failure : Failure)
    (failed : (do
      match ← e.coerce a with
      | some rhs => return Verdict.awaiting ⟨.linear mark e, rhs, .relation sign⟩
      | none => throw .wrongType) = Except.error failure) :
    failure = .wrongType ∨ failure = .arithmetic .overflow ∧ a.Exceeds := by
  cases coerced : e.coerce a with
  | error other =>
      rw [coerced, Fallible.error_bind] at failed
      obtain rfl := Except.error.inj failed
      exact .inr (coerce_failure e a other coerced)
  | ok place =>
      rw [coerced, Fallible.ok_bind] at failed
      cases place with
      | some rhs => cases failed
      | none => exact .inl (Except.error.inj failed).symm

theorem related_unsettled (failure : Failure) (failed : Value.related .le a b = .error failure) :
    Unsettled a b failure := by
  have turned : ∀ mark e, b = .linear mark e → (failure = .wrongType ∨ failure = .arithmetic .overflow ∧ a.Exceeds) →
      Unsettled a b failure := by
    rintro mark e _ (rfl | ⟨rfl, large⟩)
    · exact .inl rfl
    · exact .inr ⟨rfl, .inl large⟩
  unfold Value.related at failed
  simp only [Comparison.relation?] at failed
  split at failed
  · rename_i mark e
    cases coerced : e.coerce b with
    | error other =>
        rw [coerced, Fallible.error_bind] at failed
        obtain rfl := Except.error.inj failed
        obtain ⟨rfl, large⟩ := coerce_failure e b other coerced
        exact .inr ⟨rfl, .inr large⟩
    | ok place =>
        rw [coerced, Fallible.ok_bind] at failed
        split at failed
        · cases failed
        · exact turned _ _ rfl (turned_unsettled _ _ _ _ _ failed)
        · exact .inl (by rw [← Except.error.inj failed]; rfl)
  · rw [Fallible.pure_eq, Fallible.ok_bind] at failed
    split at failed
    · cases failed
    · exact turned _ _ rfl (turned_unsettled _ _ _ _ _ failed)
    · exact .inl (by rw [← Except.error.inj failed]; rfl)

theorem expression_unsettled (around : Surroundings) (left : a.isOperand = true) (right : b.isOperand = true)
    (either : a.isExpression = true ∨ b.isExpression = true) :
    ∃ failure, (around.compare .le a b >>= Verdict.truth) = .error failure ∧ Unsettled a b failure := by
  rw [compare_operands .le a b around left right, plain_related .le a b either]
  cases compared : Value.related .le a b with
  | error failure => exact ⟨failure, rfl, related_unsettled a b failure compared⟩
  | ok verdict =>
      obtain ⟨r, rfl⟩ := related_awaits .le a b verdict compared
      exact ⟨.noTruth, rfl, .inl rfl⟩

-- What is no expression leaves it to the expression on its right, which compares itself the other way round.
theorem related_reflected (r : Relationship Value) (ordinary : a.isExpression = false)
    (related : Value.related .le a b = .ok (.awaiting r)) :
    Value.related .ge b a = .ok (.awaiting r) ∧
      ∃ mark e rhs, b = .linear mark e ∧ e.coerce a = .ok (some rhs) ∧ r = ⟨b, rhs, .relation .greaterOrEqual⟩ := by
  unfold Value.related at related
  simp only [Comparison.relation?] at related
  split at related
  · cases ordinary
  · rw [Fallible.pure_eq, Fallible.ok_bind] at related
    split at related
    · rename_i found
      cases found
    · obtain ⟨rhs, coerced, rfl⟩ := turned_source _ _ a _ r related
      refine ⟨?_, _, _, rhs, rfl, coerced, rfl⟩
      simp only [Value.related, Comparison.relation?, coerced]
      rfl
    · cases related

theorem chain_stops (around : Surroundings) (c : Value) (failure : Failure)
    (failed : (around.compare .le a b >>= Verdict.truth) = .error failure) : around.chain a b c = .error failure := by
  unfold Surroundings.chain
  cases compared : around.compare .le a b with
  | error other =>
      rw [compared, Fallible.error_bind] at failed
      obtain rfl := Except.error.inj failed
      rfl
  | ok first =>
      rw [compared, Fallible.ok_bind] at failed
      rw [Fallible.ok_bind, failed]
      rfl

end

/-- A chain of two comparisons, of operands of any kinds, fails if an expression is its first or its middle operand: as a
type error, or because a number does not fit beside the expression. Where it comes to a relation, the first two operands are
plain values that are in order, and the relation is the one that the last operand makes with the middle one. -/
theorem chain_keeps_bounds (around : Surroundings) (a b c : Value) (first : a.isOperand = true) (middle : b.isOperand = true)
    (last : c.isOperand = true) :
    (a.isExpression = true ∨ b.isExpression = true →
      ∃ failure, around.chain a b c = .error failure ∧ Unsettled a b failure) ∧
    ∀ r, around.chain a b c = .ok (.awaiting r) →
      a.isExpression = false ∧ b.isExpression = false ∧ around.compare .le a b = .ok (.settled true) ∧
        around.compare .ge c b = .ok (.awaiting r) ∧
        ∃ mark e rhs, c = .linear mark e ∧ e.coerce b = .ok (some rhs) ∧ r = ⟨c, rhs, .relation .greaterOrEqual⟩ := by
  have fails : a.isExpression = true ∨ b.isExpression = true →
      ∃ failure, around.chain a b c = .error failure ∧ Unsettled a b failure := by
    intro either
    obtain ⟨failure, failed, unsettled⟩ := expression_unsettled a b around first middle either
    exact ⟨failure, chain_stops a b around c failure failed, unsettled⟩
  refine ⟨fails, fun r chained => ?_⟩
  have ordinary : a.isExpression = false ∧ b.isExpression = false := by
    by_contra some
    obtain ⟨failure, failed, _⟩ := fails (by cases left : a.isExpression <;> cases right : b.isExpression <;> simp_all)
    rw [failed] at chained
    cases chained
  obtain ⟨verdict, compared, rest⟩ := (Fallible.bind_ok_iff _ _ _).mp chained
  obtain ⟨holds, rfl⟩ := plain_settled .le a b ordinary.1 ordinary.2 verdict
    (by rw [← compare_operands .le a b around first middle, compared])
  cases holds with
  | false => cases rest
  | true =>
      have related : around.compare .le b c = .ok (.awaiting r) := rest
      rw [compare_operands .le b c around middle last] at related
      have either : b.isExpression = true ∨ c.isExpression = true := by
        by_contra neither
        obtain ⟨holds, settled⟩ := plain_settled .le b c ordinary.2 (by simp_all) _ related
        cases settled
      rw [plain_related .le b c either] at related
      obtain ⟨reflected, found⟩ := related_reflected b c r ordinary.2 related
      refine ⟨ordinary.1, ordinary.2, compared, ?_, found⟩
      rw [compare_operands .ge c b around last middle, plain_related .ge c b either.symm, reflected]

def plainWidth : Value := .linear .new (Linear.reading .length (.view 0) .width)

theorem plain_width_bounded (around : Surroundings) :
    ∃ r, around.chain (.int 1) (.int 2) plainWidth = .ok (.awaiting r) := by
  have below : around.compare .le (.int 1) (.int 2) = .ok (.settled true) :=
    compare_numbers around .le _ _ (.int 1) (.int 2) rfl rfl
  have fits : (Number.int 2).toDouble = .ok (.round 2) := by decide +kernel
  have read : (Value.int 2).asDouble = .ok (.double (.round 2)) := by
    simp only [Value.int, Value.asDouble, Value.toDouble, fits]
    rfl
  have coerced : (Linear.reading .length (.view 0) .width).coerce (.int 2)
      = .ok (some (.linear .new (literalOf (.double (.round 2))))) := by
    simp only [Linear.coerce, Linear.reading, Value.int]
    rw [show (Value.number .new (.int 2)).asDouble = .ok (.double (.round 2)) from read]
    rfl
  have related : Value.related .le (.int 2) plainWidth
      = .ok (.awaiting ⟨plainWidth, .linear .new (literalOf (.double (.round 2))), .relation .greaterOrEqual⟩) := by
    simp only [Value.related, Comparison.relation?, plainWidth, Fallible.pure_eq, Fallible.ok_bind]
    rw [coerced]
    rfl
  exact ⟨_, by rw [Surroundings.chain, below]; exact related⟩

-- `1 <= 2 <= width` is what `width >= 2` is, and `width <= 10 <= 20` fails.
theorem chained_width :
    (Value.int 1).isOperand = true ∧ (Value.int 2).isOperand = true ∧ plainWidth.isOperand = true ∧
      (∃ r, Scene.empty.surroundings.chain (.int 1) (.int 2) plainWidth = .ok (.awaiting r) ∧
        Scene.empty.surroundings.compare .ge plainWidth (.int 2) = .ok (.awaiting r)) ∧
      ∃ failure, Scene.empty.surroundings.chain plainWidth (.int 1) (.int 2) = .error failure ∧
        Unsettled plainWidth (.int 1) failure := by
  obtain ⟨r, chained⟩ := plain_width_bounded Scene.empty.surroundings
  have last := chain_keeps_bounds Scene.empty.surroundings (.int 1) (.int 2) plainWidth rfl rfl rfl
  have first := chain_keeps_bounds Scene.empty.surroundings plainWidth (.int 1) (.int 2) rfl rfl rfl
  exact ⟨rfl, rfl, rfl, ⟨r, chained, (last.2 r chained).2.2.2.1⟩, first.1 (.inl rfl)⟩

end LayoutAlgebra
