import LayoutAlgebra.Proofs.Agreement
import LayoutAlgebra.Proofs.Exact.Columns
import LayoutAlgebra.Proofs.Exact.Order
import LayoutAlgebra.Proofs.Priority.Bounds
import LayoutAlgebra.Proofs.Wording
set_option autoImplicit false

/-!
Lengths between two bounds. The bounds are put in order before they are rounded to doubles, and rounding keeps the order; so
it does not matter in which order they are given. The two relations of a range are compiled on different ways to records that
differ in their relation and their bound alone, and a length satisfies both exactly when it lies between the bounds.
-/
namespace LayoutAlgebra

namespace Number

def lesser (m n : Number) : Number := if n.extended.lt m.extended then n else m

def greater (m n : Number) : Number := if m.extended.lt n.extended then n else m

end Number

section

variable (m n : Number) (left : m.extended ≠ .undefined) (right : n.extended ≠ .undefined)
include left right

theorem lesser_le_greater : (m.lesser n).extended.le (m.greater n).extended = true := by
  unfold Number.lesser Number.greater Extended.lt
  rcases extended_le_total m.extended n.extended left right with ordered | ordered
  · cases n.extended.le m.extended <;> simp [ordered, extended_le_refl _ left]
  · cases m.extended.le n.extended <;> simp [ordered, extended_le_refl _ left]

-- In the other order other numbers may be chosen, but at the same places.
theorem lesser_comm :
    (m.lesser n).extended = (n.lesser m).extended ∧ (m.greater n).extended = (n.greater m).extended := by
  unfold Number.lesser Number.greater Extended.lt
  cases first : m.extended.le n.extended with
  | true =>
      cases second : n.extended.le m.extended with
      | true => simp [extended_le_antisymm _ _ first second]
      | false => simp
  | false =>
      have second := (extended_le_total _ _ left right).resolve_left (by simp [first])
      simp [second]

theorem lesser_defined : (m.lesser n).extended ≠ .undefined ∧ (m.greater n).extended ≠ .undefined := by
  unfold Number.lesser Number.greater
  constructor <;> split <;> assumption

end

def betweenSizes (length low high : Value) : List (Relationship Value) :=
  [⟨.linear .new (literalOf low), length, .relation .lessOrEqual⟩, ⟨length, .linear .new (literalOf high), .relation .lessOrEqual⟩]

section

variable (around : Surroundings) (first second : Mark) (m n : Number)

theorem lesser_number : ∃ mark, around.lesser (.number first m) (.number second n) = .ok (.number mark (m.lesser n)) := by
  have compared := compare_numbers around .lt (.number second n) (.number first m) n m rfl rfl
  simp only [Surroundings.lesser, compared, Fallible.ok_bind, Verdict.truth, Comparison.holds, Number.lesser]
  split
  · exact ⟨second, rfl⟩
  · exact ⟨first, rfl⟩

theorem greater_number : ∃ mark, around.greater (.number first m) (.number second n) = .ok (.number mark (m.greater n)) := by
  have compared := compare_numbers around .gt (.number second n) (.number first m) n m rfl rfl
  simp only [Surroundings.greater, compared, Fallible.ok_bind, Verdict.truth, Comparison.holds, Number.greater]
  split
  · exact ⟨second, rfl⟩
  · exact ⟨first, rfl⟩

theorem literal_read (mark : Mark) (x : Double) (fits : n.toDouble = .ok x) :
    ∃ size : Value, Linear.literal (.number mark n) = .ok (literalOf size) ∧ size.number? = some (.double x) := by
  obtain ⟨size, read, number⟩ := as_double_sized mark n x fits
  exact ⟨size, by rw [Linear.literal, read]; rfl, number⟩

theorem literal_overflow (mark : Mark) (fault : ArithmeticFault) (failed : n.toDouble = .error fault) :
    Linear.literal (.number mark n) = .error (.arithmetic .overflow) := by
  obtain rfl := to_double_fault n fault failed
  cases n with
  | double y => cases failed
  | int k =>
      change (Fallible.ofArithmetic (Number.int k).toDouble >>= fun y => pure (Value.double y)) >>= _ = _
      rw [failed]
      rfl

variable (mark : Mark) (e : Expression) (length : e.kind = .length)
include length

theorem range_steps :
    ∃ j k, around.range (.linear mark e) (.number first m) (.number second n) =
      (Value.linear mark e).between (.number j (m.lesser n)) (.number k (m.greater n)) := by
  obtain ⟨j, lesser⟩ := lesser_number around first second m n
  obtain ⟨k, greater⟩ := greater_number around first second m n
  refine ⟨j, k, ?_⟩
  obtain ⟨kind, element, what, constant, multiplier, priority⟩ := e
  obtain rfl : kind = .length := length
  simp only [Surroundings.range, lesser, greater, Fallible.ok_bind]

theorem range_read (x y : Double) (low : (m.lesser n).toDouble = .ok x) (high : (m.greater n).toDouble = .ok y) :
    ∃ least most : Value, least.number? = some (.double x) ∧ most.number? = some (.double y) ∧
      around.range (.linear mark e) (.number first m) (.number second n) = .ok (betweenSizes (.linear mark e) least most) := by
  obtain ⟨j, k, steps⟩ := range_steps around first second m n mark e length
  obtain ⟨least, lower, least_number⟩ := literal_read (m.lesser n) j x low
  obtain ⟨most, upper, most_number⟩ := literal_read (m.greater n) k y high
  refine ⟨least, most, least_number, most_number, ?_⟩
  rw [steps]
  simp only [Value.between, lower, upper, Fallible.ok_bind]
  rfl

theorem range_overflow (failed : ∀ x y, ¬ ((m.lesser n).toDouble = .ok x ∧ (m.greater n).toDouble = .ok y)) :
    around.range (.linear mark e) (.number first m) (.number second n) = .error (.arithmetic .overflow) := by
  obtain ⟨j, k, steps⟩ := range_steps around first second m n mark e length
  rw [steps, Value.between]
  cases low : (m.lesser n).toDouble with
  | error fault => rw [literal_overflow _ j fault low, Fallible.error_bind]
  | ok x =>
      obtain ⟨least, lower, _⟩ := literal_read (m.lesser n) j x low
      cases high : (m.greater n).toDouble with
      | error fault => rw [lower, Fallible.ok_bind, literal_overflow _ k fault high, Fallible.error_bind]
      | ok y => exact absurd ⟨low, high⟩ (failed x y)

end

structure Linear.Definite (e : Expression) (v : ViewId) (attr : Attribute) : Prop where
  element : e.element = .view v
  attr : e.attr = .attr attr
  constant : ∃ n, e.constant.number? = some n ∧ n.extended ≠ .undefined
  multiplier : ∃ n, e.multiplier.number? = some n ∧ n.extended ≠ .undefined
  priority : e.priority = .none ∨ ∃ n, e.priority.number? = some n ∧ n.extended ≠ .undefined

section

variable (follow : Value → Value → Fallible Bool)

theorem definite_agrees (mark : Mark) (e : Expression) (v : ViewId) (attr : Attribute) (definite : e.Definite v attr) :
    (Value.linear mark e).agree follow (.linear mark e) = .ok true := by
  obtain ⟨element, named, ⟨c, offset, offsetDefined⟩, ⟨k, scale, scaleDefined⟩, weight⟩ := definite
  refine expressions_agree follow mark mark e e rfl (element ▸ view_matches follow v) (named ▸ attribute_matches follow attr)
    (numbers_match follow _ _ c c offset offset rfl offsetDefined)
    (numbers_match follow _ _ k k scale scale rfl scaleDefined) ?_
  rcases weight with none | ⟨p, number, defined⟩
  · exact none ▸ none_matches follow
  · exact numbers_match follow _ _ p p number number rfl defined

theorem literals_agree (low other : Value) (x y : Double) (left : low.number? = some (.double x))
    (right : other.number? = some (.double y)) (same : x.extended = y.extended) (defined : y.extended ≠ .undefined) :
    (Value.linear .new (literalOf low)).agree follow (.linear .new (literalOf other)) = .ok true :=
  expressions_agree follow .new .new (literalOf low) (literalOf other) rfl (none_matches follow) (attribute_matches follow _)
    (numbers_match follow low other (.double x) (.double y) left right same defined)
    (numbers_match follow _ _ (.double (.round 1)) (.double (.round 1)) rfl rfl rfl (round_defined 1)) (none_matches follow)

theorem relationships_agree (lhs rhs left right : Value) (sign : Relation) (first : lhs.agree follow left = .ok true)
    (second : rhs.agree follow right = .ok true) :
    (Value.relationship .new ⟨lhs, rhs, .relation sign⟩).agree follow (.relationship .new ⟨left, right, .relation sign⟩) =
      .ok true := by
  have compared : (Value.relationship .new ⟨lhs, rhs, .relation sign⟩).agree follow
      (.relationship .new ⟨left, right, .relation sign⟩) =
        ((Value.orIdentical lhs left (lhs.agree follow left)).and <|
        (Value.orIdentical rhs right (rhs.agree follow right)).and <|
        Value.orIdentical (.relation sign) (.relation sign) ((Value.relation sign).agree follow (.relation sign))) := rfl
  have signs : Value.orIdentical (.relation sign) (.relation sign) ((Value.relation sign).agree follow (.relation sign)) =
      .ok true := by
    simp [Value.orIdentical, Value.identical]
  rw [compared, alike_of_agree follow _ _ first, alike_of_agree follow _ _ second, signs]
  rfl

theorem pairs_agree (a b c d : Value) (first : a.agree follow c = .ok true) (second : b.agree follow d = .ok true) :
    (Value.ofList [a, b]).agree follow (.ofList [c, d]) = .ok true := by
  have compared : (Value.ofList [a, b]).agree follow (.ofList [c, d]) =
      (Value.orIdentical a c (a.agree follow c)).and ((Value.orIdentical b d (b.agree follow d)).and (.ok true)) := rfl
  rw [compared, alike_of_agree follow _ _ first, alike_of_agree follow _ _ second]
  rfl

end

theorem ranges_agree (around : Surroundings) (mark : Mark) (e : Expression) (v : ViewId) (attr : Attribute)
    (definite : e.Definite v attr) (low high other another : Value) (x y z w : Double)
    (least : low.number? = some (.double x)) (most : high.number? = some (.double y))
    (leastToo : other.number? = some (.double z)) (mostToo : another.number? = some (.double w))
    (lower : x.extended = z.extended) (upper : y.extended = w.extended) (lowerDefined : z.extended ≠ .undefined)
    (upperDefined : w.extended ≠ .undefined) :
    around.equal (.ofList ((betweenSizes (.linear mark e) low high).map (.relationship .new)))
      (.ofList ((betweenSizes (.linear mark e) other another).map (.relationship .new))) = .ok true := by
  have length := definite_agrees (around.follow Surroundings.depth) mark e v attr definite
  have first := literals_agree (around.follow Surroundings.depth) low other x z least leastToo lower lowerDefined
  have second := literals_agree (around.follow Surroundings.depth) high another y w most mostToo upper upperDefined
  exact pairs_agree _ _ _ _ _ (relationships_agree _ _ _ _ _ _ first length) (relationships_agree _ _ _ _ _ _ length second)

theorem difference_violated (sign : Relation) (x y : Double) (p q : Rat) (left : x.extended = .rational p)
    (right : y.extended = .rational q) : sign.violated (x - y).extended (.rational 0) = false ↔ sign.Holds p q := by
  have nonpos := difference_nonpos_iff x y p q left right
  have nonneg := difference_nonneg_iff x y p q left right
  have defined : (x - y).extended ≠ .undefined := by
    rw [difference_rounded x y p q left right]
    exact round_defined (p - q)
  cases place : (x - y).extended with
  | undefined => exact absurd place defined
  | rational r =>
      have exact := violated_difference sign r 0
      rw [place] at nonpos nonneg
      simp only [Extended.le, decide_eq_true_eq] at nonpos nonneg
      rw [sub_zero] at exact
      rw [exact]
      cases sign with
      | equal => rw [Relation.Holds, Relation.Holds, le_antisymm_iff, le_antisymm_iff, nonpos, nonneg]
      | lessOrEqual => exact nonpos
      | greaterOrEqual => exact nonneg
  | bottom =>
      have below : p < q := by simpa [place, Extended.le] using nonneg
      cases sign <;>
        simp [Relation.violated, Extended.lt, Extended.le, Extended.distance, Extended.opposite, Relation.Holds, below, below.le,
          below.ne]
  | top =>
      have above : q < p := by simpa [place, Extended.le] using nonpos
      cases sign <;>
        simp [Relation.violated, Extended.lt, Extended.le, Extended.distance, Extended.opposite, Relation.Holds, above, above.le,
          above.ne']

theorem alone_extended (x : Double) (p : Rat) (value : x.extended = .rational p) :
    (Double.round 1 * Double.zero false + x).extended = .rational p := by
  have one := round_exact 1 (by decide +kernel)
  have zero : (Double.zero false).extended = .rational 0 := by decide +kernel
  have product : (Double.round 1 * Double.zero false).extended = .rational 0 := by
    have exact := double_mul _ _ 1 0 one zero (by rw [mul_zero]; exact is_double_zero)
    rwa [mul_zero] at exact
  have sum := double_add _ x 0 p product value (by rw [zero_add]; exact ⟨x, value⟩)
  rwa [zero_add] at sum

namespace Scene

variable {s : Scene}

def boundRecord (e : Expression) (sign : Relation) (size priority : Value) : ConstraintRecord Value :=
  { subject := e.element, subjectAttribute := e.attr, relation := .relation sign, object := .none,
    objectAttribute := .attr .notAnAttribute, multiplier := .noScale, constant := size, priority }

-- Whatever side the literal was on, it is the object of the record, and the record stays on its subject.
theorem compile_beside (config relation : Value) (outer first second : Mark) (lhs rhs e : Expression) (size : Value)
    (sign : Relation) (v : ViewId) (element : e.element = .view v) (length : lhs.kind = .length)
    (lengthToo : rhs.kind = .length) (oriented : orient lhs rhs relation = .ok ⟨e, literalOf size, .relation sign⟩)
    (pending : List (Pending Value))
    (compiled : (s.compile config (.relationship outer ⟨.linear first lhs, .linear second rhs, relation⟩)).result =
      .ok pending) :
    ∃ priority, resolvePriority s.surroundings config e (literalOf size) = .ok priority ∧
      pending = [⟨.record .new (boundRecord e sign size priority), .view v⟩] := by
  obtain ⟨_, _, _, _, _, _, p, same, rfl, made, _⟩ := compile_record config _ pending compiled
  cases same
  simp only [compileSides, length, lengthToo, ne_eq, not_true_eq_false, if_false, reduceCtorEq, oriented] at made
  obtain ⟨_, priority, anchor, record, anchors, _, resolved⟩ := compile_linear_record config _ p made
  refine ⟨priority, resolved, ?_⟩
  have here : anchor = .view v := by
    rcases anchors with ⟨_, same⟩ | found
    · exact same.trans element
    · rw [show (Oriented.record ⟨e, literalOf size, .relation sign⟩ priority).subject = .view v from element] at found
      cases found
  rw [record, here]
  rfl

-- The lower bound is compiled with its sides changed and its relation turned round, the upper one as it stands.
theorem compile_range (config : Value) (mark : Mark) (e : Expression) (low high : Value) (v : ViewId)
    (element : e.element = .view v) (length : e.kind = .length) (pending : List (Pending Value))
    (compiled : (s.compileAll config ((betweenSizes (.linear mark e) low high).map (.relationship .new))).result =
      .ok pending) :
    ∃ priority, resolvePriority s.surroundings config e (literalOf low) = .ok priority ∧
      pending = [⟨.record .new (boundRecord e .greaterOrEqual low priority), .view v⟩,
        ⟨.record .new (boundRecord e .lessOrEqual high priority), .view v⟩] := by
  have present : e.hasElement = true := by
    rw [Linear.hasElement, element]
    rfl
  have absent : ∀ size : Value, Linear.hasElement (literalOf size) = false := fun _ => rfl
  have turned : orient (literalOf low) e (.relation .lessOrEqual) = .ok ⟨e, literalOf low, .relation .greaterOrEqual⟩ := by
    simp only [orient, absent, present, Bool.false_eq_true, if_false, if_true]
    rfl
  have straight : orient e (literalOf high) (.relation .lessOrEqual) = .ok ⟨e, literalOf high, .relation .lessOrEqual⟩ := by
    simp only [orient, present, if_true]
  simp only [betweenSizes, List.map_cons, List.map_nil, compile_pair, Fallible.bind_ok_iff, Fallible.map_ok_iff] at compiled
  obtain ⟨lower, first, upper, second, rfl⟩ := compiled
  obtain ⟨priority, resolved, rfl⟩ := compile_beside config _ .new .new mark _ _ e low .greaterOrEqual v element rfl length
    turned lower first
  obtain ⟨priorityToo, resolvedToo, rfl⟩ := compile_beside config _ .new mark .new _ _ e high .lessOrEqual v element length rfl
    straight upper second
  -- Neither literal has a priority, so both records get the one that the length brings.
  have same : priorityToo = priority := Except.ok.inj (resolvedToo.symm.trans resolved)
  exact ⟨priority, resolved, by rw [same]; rfl⟩

section

variable (around : Surroundings) (frames : Table) (e : Expression) (priority u : Value) (z : Double)

def boundRow (e : Expression) (sign : Relation) (size priority u : Value) (z x : Double) : Row :=
  { mark := .new, record := boundRecord e sign size priority, subject := u, object := .noMeasure, lhs := z,
    multiplier := .round 1, rhs := .zero false, constant := x }

theorem bound_read (sign : Relation) (size : Value) (x : Double) (measured : frames.attributeValue around e.element e.attr = .ok u)
    (sized : u.Sized z) (number : size.number? = some (.double x)) :
    (boundRow e sign size priority u z x).Read around frames u.cellKind where
  subject := measured
  object := rfl
  kind := rfl
  lhs := sized
  rhs := ⟨_, rfl⟩
  multiplier := sized_double _ _
  constant := ⟨.double x, number, rfl⟩

theorem bound_violated (sign : Relation) (size : Value) (x : Double) (p q : Rat) (value : z.extended = .rational q)
    (bound : x.extended = .rational p) :
    sign.violated (boundRow e sign size priority u z x).residual.extended (.rational 0) = false ↔ sign.Holds q p :=
  difference_violated sign z _ q p value (alone_extended x p bound)

theorem range_satisfied (low high : Value) (x y : Double) (q least most : Rat)
    (measured : frames.attributeValue around e.element e.attr = .ok u) (sized : u.Sized z) (value : z.extended = .rational q)
    (lowNumber : low.number? = some (.double x)) (highNumber : high.number? = some (.double y))
    (lower : x.extended = .rational least) (upper : y.extended = .rational most) (tolerance : Value)
    (none : tolerance.rational? = some 0) :
    ∃ cells marked,
      residuals around frames [.record .new (boundRecord e .greaterOrEqual low priority),
        .record .new (boundRecord e .lessOrEqual high priority)] = .ok cells ∧
      marks around cells tolerance [boundRecord e .greaterOrEqual low priority, boundRecord e .lessOrEqual high priority] =
        .ok marked ∧
      (marked = [false, false] ↔ least ≤ q ∧ q ≤ most) ∧
      ∀ weight, priority.Sized weight →
        ∃ report, violations around frames [.record .new (boundRecord e .greaterOrEqual low priority),
            .record .new (boundRecord e .lessOrEqual high priority)] tolerance = .ok report ∧ report.marks = marked := by
  let rows := [boundRow e .greaterOrEqual low priority u z x, boundRow e .lessOrEqual high priority u z y]
  have filled : rows ≠ [] := List.cons_ne_nil _ _
  have read : ∀ row ∈ rows, row.Read around frames u.cellKind := by
    simp only [rows, List.forall_mem_cons, List.not_mem_nil, false_implies, implies_true, and_true]
    exact ⟨bound_read around frames e priority u z _ low x measured sized lowNumber,
      bound_read around frames e priority u z _ high y measured sized highNumber⟩
  obtain ⟨t, number, _⟩ := tolerance_zero false tolerance none
  have taken : ∀ rounded, toleranceAs rounded t = .ok (.rational 0) := by
    intro rounded
    obtain ⟨other, numberToo, taken⟩ := tolerance_zero rounded tolerance none
    rwa [Option.some.inj (number.symm.trans numberToo)]
  obtain ⟨cells, computed, shape, values⟩ := rows_residuals around frames u.cellKind rows filled read
  refine ⟨cells, _, computed, rows_marks around rows cells shape values tolerance t number _ (taken _), ?_, ?_⟩
  · simp only [rows, List.map_cons, List.map_nil, List.cons.injEq, and_true]
    exact and_congr (bound_violated e priority u z .greaterOrEqual low x least q value lower)
      (bound_violated e priority u z .lessOrEqual high y most q value upper)
  · intro weight important
    exact rows_violations around frames u.cellKind rows filled read tolerance t number _ taken (fun _ => weight) (by
      simp only [rows, List.forall_mem_cons, List.not_mem_nil, false_implies, implies_true, and_true]
      exact ⟨important, important⟩)

end

/-- It does not matter in which order the bounds of a range are given: either both orders overflow or both give equal
relations, and the lesser bound is no greater than the other one when both are read as doubles. The relations compile to two
records that differ in relation and constant alone, the lower bound first. Where the length and the bounds are finite, the
frames satisfy both records exactly when the length lies between the bounds. -/
theorem ranges_ignore_order (s : Scene) (config : Value) (mark first second : Mark) (e : Expression) (v : ViewId)
    (attr : Attribute) (length : e.kind = .length) (definite : e.Definite v attr) (m n : Number)
    (left : m.extended ≠ .undefined) (right : n.extended ≠ .undefined) :
    (s.surroundings.range (.linear mark e) (.number first m) (.number second n) = .error (.arithmetic .overflow) ∧
        s.surroundings.range (.linear mark e) (.number second n) (.number first m) = .error (.arithmetic .overflow)) ∨
      ∃ (x y : Double) (low high : Value) (turned : List (Relationship Value)),
        (m.lesser n).toDouble = .ok x ∧ (m.greater n).toDouble = .ok y ∧ x.extended.le y.extended = true ∧
        low.number? = some (.double x) ∧ high.number? = some (.double y) ∧
        s.surroundings.range (.linear mark e) (.number first m) (.number second n) =
          .ok (betweenSizes (.linear mark e) low high) ∧
        s.surroundings.range (.linear mark e) (.number second n) (.number first m) = .ok turned ∧
        s.surroundings.equal (.ofList ((betweenSizes (.linear mark e) low high).map (.relationship .new)))
          (.ofList (turned.map (.relationship .new))) = .ok true ∧
        ∀ pending, (s.compileAll config ((betweenSizes (.linear mark e) low high).map (.relationship .new))).result =
            .ok pending →
          ∃ priority,
            pending = [⟨.record .new (boundRecord e .greaterOrEqual low priority), .view v⟩,
              ⟨.record .new (boundRecord e .lessOrEqual high priority), .view v⟩] ∧
            ∀ frames u z q least most, Table.attributeValue s.surroundings frames (.view v) (.attr attr) = .ok u →
              u.Sized z → z.extended = .rational q → x.extended = .rational least → y.extended = .rational most →
              ∀ tolerance, tolerance.rational? = some 0 →
              ∃ cells marked,
                residuals s.surroundings frames (pending.map Pending.record) = .ok cells ∧
                marks s.surroundings cells tolerance
                    [boundRecord e .greaterOrEqual low priority, boundRecord e .lessOrEqual high priority] = .ok marked ∧
                (marked = [false, false] ↔ least ≤ q ∧ q ≤ most) ∧
                ∀ weight, priority.Sized weight →
                  ∃ report, violations s.surroundings frames (pending.map Pending.record) tolerance = .ok report ∧
                    report.marks = marked := by
  obtain ⟨sameLow, sameHigh⟩ := lesser_comm m n left right
  have backs : ∀ x y, (n.lesser m).toDouble = .ok x → (n.greater m).toDouble = .ok y →
      ∃ x y, (m.lesser n).toDouble = .ok x ∧ (m.greater n).toDouble = .ok y := by
    intro x y low high
    obtain ⟨z, least, _⟩ := to_double_same _ _ x sameLow.symm low
    obtain ⟨w, most, _⟩ := to_double_same _ _ y sameHigh.symm high
    exact ⟨z, w, least, most⟩
  by_cases fits : ∃ x y, (m.lesser n).toDouble = .ok x ∧ (m.greater n).toDouble = .ok y
  · obtain ⟨x, y, least, most⟩ := fits
    obtain ⟨z, leastToo, lower⟩ := to_double_same _ _ x sameLow least
    obtain ⟨w, mostToo, upper⟩ := to_double_same _ _ y sameHigh most
    obtain ⟨low, high, lowNumber, highNumber, made⟩ :=
      range_read s.surroundings first second m n mark e length x y least most
    obtain ⟨other, another, otherNumber, anotherNumber, turned⟩ :=
      range_read s.surroundings second first n m mark e length z w leastToo mostToo
    obtain ⟨lowDefined, highDefined⟩ := lesser_defined n m right left
    refine .inr ⟨x, y, low, high, _, least, most,
      to_double_mono _ _ x y (lesser_le_greater m n left right) least most, lowNumber, highNumber, made, turned, ?_, ?_⟩
    · exact ranges_agree s.surroundings mark e v attr definite low high other another x y z w lowNumber highNumber
        otherNumber anotherNumber lower.symm upper.symm (to_double_defined _ z lowDefined leastToo)
        (to_double_defined _ w highDefined mostToo)
    · intro pending compiled
      obtain ⟨priority, _, rfl⟩ := compile_range config mark e low high v definite.element length pending compiled
      refine ⟨priority, rfl, fun frames u z q least most measured sized value lower upper tolerance none => ?_⟩
      rw [← definite.element, ← definite.attr] at measured
      exact range_satisfied s.surroundings frames e priority u z low high x y q least most measured sized value lowNumber
        highNumber lower upper tolerance none
  · refine .inl ⟨range_overflow s.surroundings first second m n mark e length fun x y both => fits ⟨x, y, both⟩,
      range_overflow s.surroundings second first n m mark e length fun x y both => fits (backs x y both.1 both.2)⟩

theorem only_width_definite : onlyWidth.Definite 0 .width where
  element := rfl
  attr := rfl
  constant := ⟨.double (.zero false), rfl, by decide +kernel⟩
  multiplier := ⟨.double (.round 1), rfl, by decide +kernel⟩
  priority := .inl rfl

theorem fifty_between :
    onlyWidth.kind = .length ∧ onlyWidth.Definite 0 .width ∧ (Number.int 50).extended ≠ .undefined ∧
      (Number.int 10).extended ≠ .undefined ∧
      ∃ low high turned pending cells, low.number? = some (.double (.round 10)) ∧ high.number? = some (.double (.round 50)) ∧
        onlyView.surroundings.range (.linear .new onlyWidth) (.int 50) (.int 10) =
          .ok (betweenSizes (.linear .new onlyWidth) low high) ∧
        onlyView.surroundings.range (.linear .new onlyWidth) (.int 10) (.int 50) = .ok turned ∧
        onlyView.surroundings.equal
            (.ofList ((betweenSizes (.linear .new onlyWidth) low high).map (.relationship .new)))
            (.ofList (turned.map (.relationship .new))) = .ok true ∧
        (onlyView.compileAll .standardConfig
          ((betweenSizes (.linear .new onlyWidth) low high).map (.relationship .new))).result = .ok pending ∧
        ∃ priority, residuals onlyView.surroundings wideFrame (pending.map Pending.record) = .ok cells ∧
          marks onlyView.surroundings cells (.int 0)
            [boundRecord onlyWidth .greaterOrEqual low priority, boundRecord onlyWidth .lessOrEqual high priority] =
              .ok [false, false] := by
  have defined : ∀ k : Int, (Number.int k).extended ≠ .undefined := by
    intro k undefined
    cases undefined
  have compiles : ((onlyView.surroundings.range (.linear .new onlyWidth) (.int 50) (.int 10)).bind fun relations =>
      (onlyView.compileAll .standardConfig (relations.map (.relationship .new))).result).isOk = true := by decide +kernel
  have measured : Table.attributeValue onlyView.surroundings wideFrame (.view 0) (.attr .width) = .ok (.int 50) := rfl
  have least : ((Number.int 50).lesser (.int 10)).toDouble = .ok (.round 10) := by decide +kernel
  have most : ((Number.int 50).greater (.int 10)).toDouble = .ok (.round 50) := by decide +kernel
  have fifty : (Double.round 50).extended = .rational 50 := round_exact 50 (by decide +kernel)
  have ten : (Double.round 10).extended = .rational 10 := round_exact 10 (by decide +kernel)
  rcases ranges_ignore_order onlyView .standardConfig .new .new .new onlyWidth 0 .width rfl only_width_definite (.int 50)
    (.int 10) (defined 50) (defined 10) with
    ⟨failed, _⟩ | ⟨x, y, low, high, turned, isLeast, isMost, _, lowNumber, highNumber, made, madeToo, equal, satisfied⟩
  · rw [show onlyView.surroundings.range (.linear .new onlyWidth) (.int 50) (.int 10) = _ from failed] at compiles
    cases compiles
  · obtain rfl := Except.ok.inj (isLeast.symm.trans least)
    obtain rfl := Except.ok.inj (isMost.symm.trans most)
    rw [show onlyView.surroundings.range (.linear .new onlyWidth) (.int 50) (.int 10) = _ from made] at compiles
    obtain ⟨pending, compiled⟩ := Fallible.ok_of_is_ok _ compiles
    obtain ⟨priority, _, within⟩ := satisfied pending compiled
    obtain ⟨cells, marked, computed, decided, between, _⟩ := within wideFrame (.int 50) (.round 50) 50 10 50 measured
      ⟨.int 50, rfl, by decide +kernel⟩ fifty ten fifty (.int 0) (rational_of_number .new (.int 0) 0 rfl)
    have inside : marked = [false, false] := between.mpr (by norm_num)
    exact ⟨rfl, only_width_definite, defined 50, defined 10, low, high, turned, pending, cells, lowNumber, highNumber, made,
      madeToo, equal, compiled, priority, computed, inside ▸ decided⟩

end Scene

end LayoutAlgebra
