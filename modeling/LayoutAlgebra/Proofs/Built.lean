import LayoutAlgebra.Proofs.Priority.Carried
import LayoutAlgebra.Proofs.WellFormed
set_option autoImplicit false

namespace LayoutAlgebra

inductive Transform where
  | plus
  | plusAfter
  | minus
  | times
  | timesAfter
  | divided
  | prioritized

def Transform.apply (around : Surroundings) (e amount : Value) : Transform → Fallible Value
  | plus => around.add e amount
  | plusAfter => around.add amount e
  | minus => around.sub e amount
  | times => around.mul e amount
  | timesAfter => around.mul amount e
  | divided => around.div e amount
  | prioritized => around.prioritize e amount

inductive Value.Built : Value → Prop where
  | read (v : ViewId) (name : String) (accessor : Accessor) (listed : (name, accessor) ∈ Accessor.named)
      (relates : accessor.relates = true) : Built (accessor.read (.view v))
  | literal (amount : Value) (e : Expression) (sized : Linear.literal amount = .ok e) : Built (.linear .new e)
  | transformed (around : Surroundings) (t : Transform) (v w : Value) (mark : Mark) (n : Number) (earlier : Built v)
      (done : t.apply around v (.number mark n) = .ok w) : Built w
  | kept (v w : Value) (earlier : Built v) (as : v.KeptAs w) : Built w

def Value.IsDouble (v : Value) : Prop := ∃ mark x, v = .number mark (.double x)

structure Linear.Numeric (e : Expression) : Prop where
  constant : e.constant.IsDouble
  multiplier : e.multiplier.IsDouble
  priority : e.priority = .none ∨ ∃ mark n, e.priority = .number mark n

structure Linear.Turns (e changed : Expression) : Prop where
  kind : changed.kind = e.kind
  element : changed.element = e.element
  attr : changed.attr = e.attr
  numeric : changed.Numeric

theorem as_double_double (v size : Value) (read : v.asDouble = .ok size) : size.IsDouble := by
  unfold Value.asDouble at read
  split at read
  · exact ⟨_, _, (Except.ok.inj read).symm⟩
  · obtain ⟨x, _, same⟩ := (Fallible.bind_ok_iff _ _ _).mp read
    exact ⟨_, x, (Except.ok.inj same).symm⟩

theorem combined_double (whole : Int → Int → Int) (rounded : Double → Double → Double) (x : Double) (n m : Number)
    (combined : Number.combine whole rounded (.double x) n = .ok m) : ∃ y, m = .double y := by
  change (n.toDouble >>= fun y => pure (.double (rounded x y))) = .ok m at combined
  cases read : n.toDouble with
  | error fault =>
      rw [read] at combined
      cases combined
  | ok y =>
      rw [read] at combined
      exact ⟨rounded x y, (Except.ok.inj combined).symm⟩

theorem divided_double (x : Double) (n m : Number) (divided : (Number.double x).div n = .ok m) : ∃ y, m = .double y := by
  change (n.toDouble >>= fun y => if y.extended = .rational 0 then throw .zeroDivision else pure (.double (x / y))) = .ok m
    at divided
  cases read : n.toDouble with
  | error fault =>
      rw [read] at divided
      cases divided
  | ok y =>
      rw [read] at divided
      by_cases zero : y.extended = .rational 0
      · simp only [bind, Except.bind, zero, if_true] at divided
        cases divided
      · simp only [bind, Except.bind, zero, if_false] at divided
        exact ⟨x / y, (Except.ok.inj divided).symm⟩

theorem of_arithmetic_ok_iff {α : Type} (result : Except ArithmeticFault α) (a : α) :
    Fallible.ofArithmetic result = .ok a ↔ result = .ok a := by
  cases result <;> simp [Fallible.ofArithmetic]

theorem shifted_double (v w : Value) (back : Bool) (mark : Mark) (n : Number) (double : v.IsDouble)
    (moved : v.shifted back mark n = .ok w) : w.IsDouble := by
  obtain ⟨_, x, rfl⟩ := double
  obtain ⟨m, sum, same⟩ := (Fallible.bind_ok_iff _ _ _).mp moved
  rw [of_arithmetic_ok_iff] at sum
  obtain ⟨y, rfl⟩ : ∃ y, m = .double y := by
    cases back with
    | false => exact combined_double (· + ·) _ x n m sum
    | true => exact combined_double (· - ·) _ x n m sum
  exact ⟨.new, y, (Except.ok.inj same).symm⟩

theorem divided_by_double (v w : Value) (n : Number) (double : v.IsDouble) (divided : v.dividedBy n = .ok w) :
    w.IsDouble := by
  obtain ⟨_, x, rfl⟩ := double
  obtain ⟨m, quotient, same⟩ := (Fallible.bind_ok_iff _ _ _).mp divided
  rw [of_arithmetic_ok_iff] at quotient
  obtain ⟨y, rfl⟩ := divided_double x n m quotient
  exact ⟨.new, y, (Except.ok.inj same).symm⟩

variable (around : Surroundings) (mark other : Mark) (e : Expression) (n : Number) (w : Value)

theorem shifted_linear (back : Bool) (numeric : e.Numeric)
    (moved : (Value.linear mark e).shifted back other n = .ok w) :
    ∃ changed, w = .linear .new changed ∧ e.Turns changed := by
  obtain ⟨constant, sum, same⟩ := (Fallible.bind_ok_iff _ _ _).mp moved
  exact ⟨_, (Except.ok.inj same).symm, rfl, rfl, rfl, shifted_double _ _ back other n numeric.constant sum,
    numeric.multiplier, numeric.priority⟩

theorem scaled_linear (numeric : e.Numeric) (done : Value.scaled e (.number other n) = .ok w) :
    ∃ changed, w = .linear .new changed ∧ e.Turns changed := by
  obtain ⟨multiplier, read, same⟩ := (Fallible.bind_ok_iff _ _ _).mp done
  exact ⟨_, (Except.ok.inj same).symm, rfl, rfl, rfl, numeric.constant, as_double_double _ _ read, numeric.priority⟩

theorem divided_linear (numeric : e.Numeric) (done : (Value.linear mark e).dividedBy n = .ok w) :
    ∃ changed, w = .linear .new changed ∧ e.Turns changed := by
  obtain ⟨_, _, quotient, same, _, divided, rfl⟩ := Scene.linear_div mark e (.number .new n) w done
  obtain ⟨_, rfl⟩ := Value.number.inj same
  exact ⟨_, rfl, rfl, rfl, rfl, numeric.constant, divided_by_double _ _ _ numeric.multiplier divided, numeric.priority⟩

theorem transformed_linear (t : Transform) (numeric : e.Numeric)
    (done : t.apply around (.linear mark e) (.number other n) = .ok w) :
    ∃ changed, w = .linear .new changed ∧ e.Turns changed := by
  cases t with
  | plus | plusAfter => exact shifted_linear mark other e n w false numeric done
  | minus => exact shifted_linear mark other e n w true numeric done
  | times | timesAfter => exact scaled_linear other e n w numeric done
  | divided => exact divided_linear mark e n w numeric done
  | prioritized =>
      exact ⟨_, (Except.ok.inj done).symm, rfl, rfl, rfl, numeric.constant, numeric.multiplier, .inr ⟨other, n, rfl⟩⟩

namespace Value

theorem kept_as_member (m : Member) (w : Value) (kept : KeptAs (.member m) w) : w = .member m := by
  rcases kept with same | ⟨_, same⟩ <;> exact same

theorem kept_as_number (mark : Mark) (n : Number) (w : Value) (kept : KeptAs (.number mark n) w) :
    ∃ other, w = .number other n := by
  rcases kept with same | ⟨k, same⟩
  · exact ⟨mark, same⟩
  · cases mark with
    | new | joint _ | numbered _ | standing _ => exact ⟨_, same⟩

theorem kept_as_double (v w : Value) (double : v.IsDouble) (kept : KeptAs v w) : w.IsDouble := by
  obtain ⟨mark, x, rfl⟩ := double
  obtain ⟨other, rfl⟩ := kept_as_number mark _ w kept
  exact ⟨other, x, rfl⟩

theorem kept_as_linear (mark : Mark) (e : Expression) (w : Value) (kept : KeptAs (.linear mark e) w) :
    ∃ other q, w = .linear other q ∧ q.kind = e.kind ∧ KeptAs e.element q.element ∧ KeptAs e.attr q.attr ∧
      KeptAs e.constant q.constant ∧ KeptAs e.multiplier q.multiplier ∧ KeptAs e.priority q.priority := by
  rcases kept with same | ⟨n, same⟩
  · exact ⟨mark, e, same, rfl, .inl rfl, .inl rfl, .inl rfl, .inl rfl, .inl rfl⟩
  · cases mark with
    | new => exact ⟨_, _, same, rfl, .inr ⟨_, rfl⟩, .inr ⟨_, rfl⟩, .inr ⟨_, rfl⟩, .inr ⟨_, rfl⟩, .inr ⟨_, rfl⟩⟩
    | joint _ | numbered _ | standing _ =>
        exact ⟨_, e, same, rfl, .inl rfl, .inl rfl, .inl rfl, .inl rfl, .inl rfl⟩

theorem kept_as_relationship (mark : Mark) (r : Relationship Value) (w : Value) (kept : KeptAs (.relationship mark r) w) :
    ∃ other q, w = .relationship other q ∧ KeptAs r.lhs q.lhs ∧ KeptAs r.rhs q.rhs ∧ KeptAs r.relation q.relation := by
  rcases kept with same | ⟨n, same⟩
  · exact ⟨mark, r, same, .inl rfl, .inl rfl, .inl rfl⟩
  · cases mark with
    | new => exact ⟨_, _, same, .inr ⟨_, rfl⟩, .inr ⟨_, rfl⟩, .inr ⟨_, rfl⟩⟩
    | joint _ | numbered _ | standing _ => exact ⟨_, r, same, .inl rfl, .inl rfl, .inl rfl⟩

end Value

theorem turns_kept (topic : e.Topic) (numeric : e.Numeric) (kept : Value.KeptAs (.linear mark e) w) :
    ∃ other changed, w = .linear other changed ∧ e.Turns changed := by
  obtain ⟨other, q, rfl, kind, element, attr, constant, multiplier, priority⟩ := Value.kept_as_linear mark e w kept
  have elementToo : q.element = e.element := by
    cases topic with
    | literal _ absent _ =>
        rw [absent] at element ⊢
        exact Value.kept_as_none _ element
    | dimension v _ _ about _ _ | line v _ _ about _ _ =>
        rw [about] at element ⊢
        exact Value.kept_as_view v _ element
  have attrToo : q.attr = e.attr := by
    cases topic with
    | literal _ _ named | dimension _ _ _ _ named _ | line _ _ _ _ named _ =>
        rw [named] at attr ⊢
        exact Value.kept_as_member _ _ attr
  refine ⟨other, q, rfl, kind, elementToo, attrToo, Value.kept_as_double _ _ numeric.constant constant,
    Value.kept_as_double _ _ numeric.multiplier multiplier, ?_⟩
  rcases numeric.priority with none | ⟨m, k, number⟩
  · rw [none] at priority
    exact .inl (Value.kept_as_none _ priority)
  · rw [number] at priority
    obtain ⟨m, same⟩ := Value.kept_as_number m k _ priority
    exact .inr ⟨m, k, same⟩

theorem turns_trans (e middle changed : Expression) (first : e.Turns middle) (second : middle.Turns changed) :
    e.Turns changed :=
  ⟨second.kind.trans first.kind, second.element.trans first.element, second.attr.trans first.attr, second.numeric⟩

theorem turns_topic (e changed : Expression) (topic : e.Topic) (turns : e.Turns changed) : changed.Topic :=
  topic_same e changed topic turns.kind turns.element turns.attr

def Value.Expresses (v : Value) (e : Expression) : Prop := (∃ mark, v = .linear mark e) ∧ e.Topic ∧ e.Numeric

theorem kept_expresses (v w : Value) (e : Expression) (expresses : v.Expresses e) (kept : v.KeptAs w) :
    ∃ changed, w.Expresses changed ∧ changed.kind = e.kind := by
  obtain ⟨⟨mark, rfl⟩, topic, numeric⟩ := expresses
  obtain ⟨other, changed, rfl, turns⟩ := turns_kept mark e w topic numeric kept
  exact ⟨changed, ⟨⟨other, rfl⟩, turns_topic e changed topic turns, turns.numeric⟩, turns.kind⟩

theorem literal_expresses (amount : Value) (e : Expression) (sized : Linear.literal amount = .ok e) :
    e.Topic ∧ e.Numeric := by
  obtain ⟨size, read, same⟩ := (Fallible.bind_ok_iff _ _ _).mp sized
  rw [← Except.ok.inj same]
  exact ⟨.literal rfl rfl rfl, as_double_double _ _ read, ⟨_, _, rfl⟩, .inl rfl⟩

-- Induction on how the expression came about: every operator leaves its topic alone and puts a double in the place of a
-- double.
theorem built_expresses (v : Value) (built : v.Built) : ∃ e, v.Expresses e := by
  induction built with
  | read v name accessor listed relates =>
      have fits : accessor.fits = true := named_accessors_fit _ listed
      have numeric : (accessor.reading v).Numeric := by
        cases accessor with
        | line _ | length _ | ratio | edges _ | middle => exact ⟨⟨_, _, rfl⟩, ⟨_, _, rfl⟩, .inl rfl⟩
      have reads : accessor.read (.view v) = .linear .new (accessor.reading v) := by
        cases accessor with
        | line _ | length _ | ratio => rfl
        | edges _ | middle => cases relates
      exact ⟨_, ⟨.new, reads⟩, read_topic v accessor fits .new _ reads, numeric⟩
  | literal amount e sized => exact ⟨e, ⟨.new, rfl⟩, literal_expresses amount e sized⟩
  | transformed around t v w mark n _ done ih =>
      obtain ⟨e, ⟨inner, rfl⟩, topic, numeric⟩ := ih
      obtain ⟨changed, rfl, turns⟩ := transformed_linear around inner mark e n w t numeric done
      exact ⟨changed, ⟨.new, rfl⟩, turns_topic e changed topic turns, turns.numeric⟩
  | kept v w _ as ih =>
      obtain ⟨e, expresses⟩ := ih
      obtain ⟨changed, expressesToo, _⟩ := kept_expresses v w e expresses as
      exact ⟨changed, expressesToo⟩

def Value.IsSide (v : Value) : Prop := v.Built ∨ ∃ mark n, v = .number mark n

inductive Value.Relates : Value → Prop where
  | compared (around : Surroundings) (c : Comparison) (a b : Value) (r : Relationship Value) (left : a.IsSide)
      (right : b.IsSide) (done : around.compare c a b = .ok (.awaiting r)) : Relates (.relationship .new r)
  | related (a b : Value) (sign : Relation) (r : Relationship Value) (left : a.IsSide) (right : b.IsSide)
      (done : a.relate b sign = .ok r) : Relates (.relationship .new r)
  | equated (a b : Value) (r : Relationship Value) (left : a.Built) (right : b.IsSide) (done : a.equalTo b = .ok r) :
      Relates (.relationship .new r)
  | kept (v w : Value) (earlier : Relates v) (as : v.KeptAs w) : Relates w

structure Relationship.Between (lhs rhs : Expression) (sign : Relation) (r : Relationship Value) : Prop where
  left : r.lhs.Expresses lhs
  right : r.rhs.Expresses rhs
  kinds : lhs.kind = rhs.kind
  relation : r.relation = .relation sign

theorem side_linear (mark : Mark) (o : Expression) (side : Value.IsSide (.linear mark o)) : o.Topic ∧ o.Numeric := by
  rcases side with built | ⟨_, _, number⟩
  · obtain ⟨_, ⟨_, same⟩, topic, numeric⟩ := built_expresses _ built
    obtain ⟨rfl, rfl⟩ := Value.linear.inj same
    exact ⟨topic, numeric⟩
  · cases number

theorem coerced_expresses (topic : e.Topic) (b rhs : Value) (side : b.IsSide) (coerced : e.coerce b = .ok (some rhs)) :
    ∃ o, rhs.Expresses o ∧ o.kind = e.kind := by
  unfold Linear.coerce at coerced
  split at coerced
  · rename_i length
    obtain ⟨size, read, same⟩ := (Fallible.bind_ok_iff _ _ _).mp coerced
    rw [← Option.some.inj (Except.ok.inj same)]
    exact ⟨literalOf size, ⟨⟨.new, rfl⟩, .literal rfl rfl rfl, as_double_double _ _ read, ⟨_, _, rfl⟩, .inl rfl⟩,
      length.symm⟩
  · rename_i ratio
    obtain ⟨size, read, same⟩ := (Fallible.bind_ok_iff _ _ _).mp coerced
    rw [← Option.some.inj (Except.ok.inj same)]
    have about : (proportionOf e.element size).Topic := by
      cases topic with
      | dimension v a _ about _ _ => exact .dimension v .height (.inr rfl) about rfl rfl
      | literal length _ _ => simp [length] at ratio
      | line _ _ position _ _ _ => simp [position] at ratio
    exact ⟨_, ⟨⟨.new, rfl⟩, about, ⟨_, _, rfl⟩, as_double_double _ _ read, .inl rfl⟩, ratio.symm⟩
  · rename_i mark o
    split at coerced <;> rename_i kinds
    · rw [← Option.some.inj (Except.ok.inj coerced)]
      exact ⟨o, ⟨⟨mark, rfl⟩, side_linear mark o side⟩, kinds⟩
    · cases coerced
  · cases coerced

theorem turned_source (mark : Mark) (a : Value) (sign : Relation) (r : Relationship Value)
    (related : (do
      match ← e.coerce a with
      | some rhs => return Verdict.awaiting ⟨.linear mark e, rhs, .relation sign⟩
      | none => throw .wrongType) = Except.ok (Verdict.awaiting r)) :
    ∃ rhs, e.coerce a = .ok (some rhs) ∧ r = ⟨.linear mark e, rhs, .relation sign⟩ := by
  obtain ⟨coerced, found, related⟩ := (Fallible.bind_ok_iff _ _ _).mp related
  split at related
  · exact ⟨_, found, (Verdict.awaiting.inj (Except.ok.inj related)).symm⟩
  · cases related

theorem related_sides (c : Comparison) (a b : Value) (r : Relationship Value)
    (related : Value.related c a b = .ok (.awaiting r)) :
    (∃ mark e rhs sign, a = .linear mark e ∧ e.coerce b = .ok (some rhs) ∧ r = ⟨.linear mark e, rhs, .relation sign⟩) ∨
      ∃ mark e rhs sign, b = .linear mark e ∧ e.coerce a = .ok (some rhs) ∧ r = ⟨.linear mark e, rhs, .relation sign⟩ := by
  unfold Value.related at related
  split at related
  · cases related
  · rename_i sign _
    simp only at related
    split at related
    all_goals
      obtain ⟨fromLeft, found, related⟩ := (Fallible.bind_ok_iff _ _ _).mp related
      split at related
    · exact .inl ⟨_, _, _, sign, rfl, found, (Verdict.awaiting.inj (Except.ok.inj related)).symm⟩
    · obtain ⟨rhs, foundToo, same⟩ := turned_source _ _ _ sign.mirrored r related
      exact .inr ⟨_, _, rhs, sign.mirrored, rfl, foundToo, same⟩
    · cases related
    · cases found
    · obtain ⟨rhs, foundToo, same⟩ := turned_source _ _ _ sign.mirrored r related
      exact .inr ⟨_, _, rhs, sign.mirrored, rfl, foundToo, same⟩
    · cases related

theorem compared_related (c : Comparison) (a b : Value) (r : Relationship Value) (left : a.IsSide) (right : b.IsSide)
    (done : around.compare c a b = .ok (.awaiting r)) : Value.related c a b = .ok (.awaiting r) := by
  have number : ∀ v : Value, v.IsSide → (∃ mark n, v = .number mark n) ∨ ∃ mark e, v = .linear mark e := by
    rintro v (built | number)
    · obtain ⟨e, ⟨mark, same⟩, _⟩ := built_expresses v built
      exact .inr ⟨mark, e, same⟩
    · exact .inl number
  rcases number a left with ⟨first, m, rfl⟩ | ⟨first, e, rfl⟩
  · rcases number b right with ⟨second, n, rfl⟩ | ⟨second, o, rfl⟩
    · rw [compare_numbers around c _ _ m n rfl rfl] at done
      cases done
    · exact done
  · rcases number b right with ⟨second, n, rfl⟩ | ⟨second, o, rfl⟩ <;> exact done

theorem related_between (mark : Mark) (other rhs : Value) (sign : Relation) (left : Value.IsSide (.linear mark e))
    (right : other.IsSide) (coerced : e.coerce other = .ok (some rhs)) :
    ∃ lhs rhs', Relationship.Between lhs rhs' sign ⟨.linear mark e, rhs, .relation sign⟩ := by
  obtain ⟨topic, numeric⟩ := side_linear mark e left
  obtain ⟨o, expresses, kinds⟩ := coerced_expresses e topic other rhs right coerced
  exact ⟨e, o, ⟨⟨mark, rfl⟩, topic, numeric⟩, expresses, kinds.symm, rfl⟩

theorem equated_between (a b : Value) (sign : Relation) (r : Relationship Value) (left : a.IsSide) (right : b.IsSide)
    (related : a.relatedTo b sign = .ok r) : ∃ lhs rhs, r.Between lhs rhs sign := by
  unfold Value.relatedTo at related
  split at related
  · rename_i mark e
    obtain ⟨coerced, found, related⟩ := (Fallible.bind_ok_iff _ _ _).mp related
    split at related
    · rw [← Except.ok.inj related]
      exact related_between e mark b _ sign left right found
    · cases related
  · cases related

theorem relates_between (v : Value) (relates : v.Relates) :
    ∃ mark r lhs rhs sign, v = .relationship mark r ∧ r.Between lhs rhs sign := by
  induction relates with
  | compared around c a b r left right done =>
      have sides := related_sides c a b r (compared_related around c a b r left right done)
      rcases sides with ⟨mark, e, rhs, sign, rfl, found, rfl⟩ | ⟨mark, e, rhs, sign, rfl, found, rfl⟩
      · obtain ⟨lhs, rhs', between⟩ := related_between e mark b rhs sign left right found
        exact ⟨.new, _, lhs, rhs', sign, rfl, between⟩
      · obtain ⟨lhs, rhs', between⟩ := related_between e mark a rhs sign right left found
        exact ⟨.new, _, lhs, rhs', sign, rfl, between⟩
  | related a b sign r left right done =>
      unfold Value.relate at done
      split at done
      · obtain ⟨e, sized, done⟩ := (Fallible.bind_ok_iff _ _ _).mp done
        obtain ⟨lhs, rhs, between⟩ := equated_between _ b sign r (.inl (.literal _ e sized)) right done
        exact ⟨.new, r, lhs, rhs, sign, rfl, between⟩
      · obtain ⟨lhs, rhs, between⟩ := equated_between a b sign r left right done
        exact ⟨.new, r, lhs, rhs, sign, rfl, between⟩
  | equated a b r left right done =>
      obtain ⟨lhs, rhs, between⟩ := equated_between a b .equal r (.inl left) right done
      exact ⟨.new, r, lhs, rhs, .equal, rfl, between⟩
  | kept v w _ as ih =>
      obtain ⟨mark, r, lhs, rhs, sign, rfl, between⟩ := ih
      obtain ⟨other, q, rfl, left, right, relation⟩ := Value.kept_as_relationship mark r w as
      obtain ⟨lhs', leftToo, kind⟩ := kept_expresses _ _ lhs between.left left
      obtain ⟨rhs', rightToo, kindToo⟩ := kept_expresses _ _ rhs between.right right
      rw [between.relation] at relation
      exact ⟨other, q, lhs', rhs', sign, rfl, leftToo, rightToo, kind.trans (between.kinds.trans kindToo.symm),
        Value.kept_as_member _ _ relation⟩

end LayoutAlgebra
