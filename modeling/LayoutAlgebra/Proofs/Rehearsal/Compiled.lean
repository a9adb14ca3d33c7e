import LayoutAlgebra.Proofs.Priority.Surface
import LayoutAlgebra.Proofs.Rehearsal.Alike
set_option autoImplicit false

namespace LayoutAlgebra

section

variable (around other : Surroundings)

theorem Config.check_priority_alike (c : Config Value) (value what : Value) (low : c.minPriority.standsAlone = true)
    (high : c.maxPriority.standsAlone = true) (alone : value.standsAlone = true) :
    c.checkPriority around value what = c.checkPriority other value what := by
  simp only [checkPriority, Surroundings.chain_alike around other _ _ low alone high]

theorem resolve_alike (config : Value) (subject object : Expression) (settings : config.standsAlone = true)
    (first : subject.priority.standsAlone = true) (second : object.priority.standsAlone = true) :
    resolvePriority around config subject object = resolvePriority other config subject object := by
  cases config with
  | config mark c =>
      simp only [Value.standsAlone, Bool.and_eq_true] at settings
      obtain ⟨⟨⟨⟨⟨default, low⟩, high⟩, _⟩, _⟩, _⟩ := settings
      have carried : (if object.priority.isNone then subject.priority else object.priority).standsAlone = true := by
        split
        · exact first
        · exact second
      have chosen : ∀ v : Value, v.standsAlone = true →
          (if v.isNone then c.defaultPriority else v).standsAlone = true := by
        intro v alone
        split
        · exact default
        · exact alone
      exact Config.check_priority_alike around other c _ _ low high (chosen _ carried)
  | _ => rfl

theorem Linear.tell_ignored_alike (e : Expression) (offset : e.constant.standsAlone = true)
    (scale : e.multiplier.standsAlone = true) : e.tellIgnored around = e.tellIgnored other := by
  simp only [tellIgnored, isIdentity, Surroundings.equality_alike around other true offset (int_alone 0),
    Surroundings.equality_alike around other true scale (int_alone 1)]

theorem Accessor.side_alike (accessor : Accessor) (value : Value) (alone : value.standsAlone = true) :
    accessor.side around value = accessor.side other value := by
  cases accessor with
  | ratio =>
      simp only [side]
      unfold Scene.ratioSide
      split
      · simp only [Value.standsAlone, Value.allStandAlone, Bool.and_eq_true] at alone
        exact Surroundings.proportion_alike around other alone.1 alone.2.1
      · rfl
      · rfl
  | _ => rfl

end

theorem as_double_alone (v size : Value) (read : v.asDouble = .ok size) : size.standsAlone = true := by
  unfold Value.asDouble at read
  split at read
  · exact Except.ok.inj read ▸ rfl
  · obtain ⟨x, _, same⟩ := (Fallible.bind_ok_iff _ _ _).mp read
    exact Except.ok.inj same ▸ rfl

theorem literal_alone (mark : Mark) (v : Value) (e : Expression) (made : Linear.literal v = .ok e) :
    (Value.linear mark e).standsAlone = true := by
  obtain ⟨size, read, same⟩ := (Fallible.bind_ok_iff _ _ _).mp made
  rw [← Except.ok.inj same]
  simp [literalOf, Value.standsAlone, as_double_alone v size read, Value.noScale]

theorem carried_alone (v : Value) (alone : v.standsAlone = true) : v.carried.standsAlone = true := by
  unfold Value.carried
  split
  · simp_all [Value.standsAlone]
  · simp_all [Value.standsAlone, Value.allStandAlone]
  · rfl

namespace Scene

variable {s t : Scene}

-- A relation of which the side that becomes the subject stands alone, and of the other at least the priority.
structure RelationAlone (lhs rhs : Expression) : Prop where
  offset : (subjectSide lhs rhs).constant.standsAlone = true
  scale : (subjectSide lhs rhs).multiplier.standsAlone = true
  left : lhs.priority.standsAlone = true
  right : rhs.priority.standsAlone = true

theorem relation_alone (first second : Mark) (lhs rhs : Expression) (left : (Value.linear first lhs).standsAlone = true)
    (right : (Value.linear second rhs).standsAlone = true) : RelationAlone lhs rhs := by
  simp only [Value.standsAlone, Bool.and_eq_true] at left right
  refine ⟨?_, ?_, left.2, right.2⟩
  · unfold subjectSide
    split
    · exact left.1.1.2
    · exact right.1.1.2
  · unfold subjectSide
    split
    · exact left.1.2
    · exact right.1.2

theorem compile_linear_alike (meets : ∀ a b, s.commonAncestor a b = t.commonAncestor a b) (config : Value) (o : Oriented)
    (settings : config.standsAlone = true) (offset : o.subject.constant.standsAlone = true)
    (scale : o.subject.multiplier.standsAlone = true) (first : o.subject.priority.standsAlone = true)
    (second : o.object.priority.standsAlone = true) : s.compileLinear config o = t.compileLinear config o := by
  simp only [compileLinear, meets, Linear.tell_ignored_alike s.surroundings t.surroundings _ offset scale,
    resolve_alike s.surroundings t.surroundings config _ _ settings first second]

theorem compile_alike (meets : ∀ a b, s.commonAncestor a b = t.commonAncestor a b) (config : Value)
    (settings : config.standsAlone = true) (outer first second : Mark) (lhs rhs : Expression) (relation : Value)
    (alone : RelationAlone lhs rhs) :
    s.compile config (.relationship outer ⟨.linear first lhs, .linear second rhs, relation⟩) =
      t.compile config (.relationship outer ⟨.linear first lhs, .linear second rhs, relation⟩) := by
  have sides : s.compileSides config lhs rhs relation = t.compileSides config lhs rhs relation := by
    unfold compileSides
    split
    · rfl
    · split
      · rename_i ratio
        have side : subjectSide lhs rhs = lhs := by simp [subjectSide, ratio]
        simp only [compileRatio, meets, Linear.tell_ignored_alike s.surroundings t.surroundings lhs
          (side ▸ alone.offset) (side ▸ alone.scale),
          resolve_alike s.surroundings t.surroundings config lhs rhs settings alone.left alone.right]
      · rename_i plain
        cases oriented : orient lhs rhs relation with
        | error failure => rfl
        | ok o =>
            obtain ⟨sides, side⟩ := oriented_sides lhs rhs relation o plain oriented
            apply compile_linear_alike meets config o settings (side ▸ alone.offset) (side ▸ alone.scale)
            · cases sides with
              | proportion | straight => exact alone.left
              | swapped => exact alone.right
            · cases sides with
              | proportion | straight => exact alone.right
              | swapped => exact alone.left
  simp only [compile, sides]

theorem compile_edges_alike (meets : ∀ a b, s.commonAncestor a b = t.commonAncestor a b)
    (config element edges subjectMargins : Value) (alone : edges.standsAlone = true)
    (margins : subjectMargins.standsAlone = true) :
    s.compileEdges config element edges subjectMargins = t.compileEdges config element edges subjectMargins := by
  cases edges with
  | edges mark e =>
      simp only [Value.standsAlone, Bool.and_eq_true] at alone
      simp only [compileEdges, meets, Surroundings.truth_alike s.surroundings t.surroundings margins,
        Surroundings.truth_alike s.surroundings t.surroundings alone.2]
  | _ => simp only [compileEdges, meets]

theorem compile_center_alike (meets : ∀ a b, s.commonAncestor a b = t.commonAncestor a b) (config element center : Value) :
    s.compileCenter config element center = t.compileCenter config element center := by
  simp only [compileCenter, meets]

theorem assigned_alike (meets : ∀ a b, s.commonAncestor a b = t.commonAncestor a b) (v : ViewId) (mark : Mark)
    (c : Config Value) (own : s.config v = .config mark c) (ownToo : t.config v = .config mark c)
    (settings : (Value.config mark c).standsAlone = true) (accessor : Accessor) (value : Value)
    (alone : value.standsAlone = true) : (s.assigned v accessor value).result = (t.assigned v accessor value).result := by
  cases relates : accessor.relates with
  | true =>
      rw [assigned_result own accessor relates, assigned_result ownToo accessor relates]
      refine Fallible.bind_alike _ _ _ _ (accessor.side_alike s.surroundings t.surroundings value alone) ?_
      intro side found
      refine Fallible.bind_alike _ _ _ _ rfl fun r related => ?_
      obtain ⟨rhs, coerced, rfl⟩ := related_coerced .new _ side r related
      obtain ⟨second, o, rfl, carried, _⟩ := side_bringing t.surroundings accessor _ value side rhs found coerced
      have subject : subjectSide (accessor.reading v) o = accessor.reading v := by
        cases accessor <;> simp [subjectSide, Accessor.reading, Linear.reading, Linear.hasElement, Value.isNone]
      rw [compile_alike meets (.config mark c) settings]
      refine ⟨?_, ?_, ?_, carried ▸ carried_alone value alone⟩
      · rw [subject]
        cases accessor <;> rfl
      · rw [subject]
        cases accessor <;> rfl
      · rw [reading_free]
        rfl
  | false =>
      cases accessor with
      | edges usesMargins =>
          cases value with
          | edges mark e =>
              simp only [assigned, ownConfig, own, ownToo, own_configuration,
                compile_edges_alike meets _ _ _ (.bool usesMargins) alone rfl]
          | _ => rfl
      | middle =>
          cases value with
          | center mark e =>
              simp only [assigned, ownConfig, own, ownToo, own_configuration, compile_center_alike meets]
          | _ => rfl
      | line _ | length _ | ratio => cases relates

theorem range_relations (around : Surroundings) (length low high : Value) (range : List (Relationship Value))
    (made : around.range length low high = .ok range) :
    ∃ mark e below above least most, length = .linear mark e ∧ e.kind = .length ∧ Linear.literal least = .ok below ∧
      Linear.literal most = .ok above ∧ range = [⟨.linear .new below, .linear mark e, .relation .lessOrEqual⟩,
        ⟨.linear mark e, .linear .new above, .relation .lessOrEqual⟩] := by
  unfold Surroundings.range at made
  split at made
  · simp only [Value.between, Fallible.bind_ok_iff] at made
    obtain ⟨least, _, most, _, below, lower, above, upper, same⟩ := made
    exact ⟨_, _, below, above, least, most, rfl, rfl, lower, upper, (Except.ok.inj same).symm⟩
  · cases made

theorem range_compiled_alike (meets : ∀ a b, s.commonAncestor a b = t.commonAncestor a b) (config : Value)
    (settings : config.standsAlone = true) (around : Surroundings) (length low high : Value)
    (alone : length.standsAlone = true) (range : List (Relationship Value))
    (made : around.range length low high = .ok range) :
    s.compileAll config (range.map (.relationship .new)) = t.compileAll config (range.map (.relationship .new)) := by
  obtain ⟨mark, e, below, above, _, _, rfl, _, lower, upper, rfl⟩ := range_relations around length low high range made
  have first := relation_alone .new mark below e (literal_alone .new _ below lower) alone
  have second := relation_alone mark .new e above alone (literal_alone .new _ above upper)
  simp only [List.map_cons, List.map_nil, compileAll, compile_alike meets config settings .new .new mark below e _ first,
    compile_alike meets config settings .new mark .new e above _ second]

theorem literal_element (v : Value) (e : Expression) (made : Linear.literal v = .ok e) :
    e.kind = .length ∧ e.element = .none := by
  obtain ⟨size, _, same⟩ := (Fallible.bind_ok_iff _ _ _).mp made
  rw [← Except.ok.inj same]
  exact ⟨rfl, rfl⟩

theorem range_about (around : Surroundings) (config low high : Value) (mark : Mark) (e : Expression)
    (range : List (Relationship Value)) (made : around.range (.linear mark e) low high = .ok range)
    (pending : List (Pending Value))
    (compiled : (s.compileAll config (range.map (.relationship .new))).result = .ok pending) :
    ∀ p ∈ pending, p.About s e.element := by
  obtain ⟨_, _, below, above, _, _, same, length, lower, upper, rfl⟩ := range_relations around _ low high range made
  obtain ⟨rfl, rfl⟩ := Value.linear.inj same
  obtain ⟨plain, absent⟩ := literal_element _ below lower
  have belowSubject : (subjectSide below e).element = e.element := by
    simp [subjectSide, plain, Linear.hasElement, absent, Value.isNone]
  have aboveSubject : (subjectSide e above).element = e.element := by
    unfold subjectSide
    split
    · rfl
    · rename_i literal
      have none : e.element = .none := (is_none_iff _).mp (by simpa [length, Linear.hasElement] using literal)
      rw [none, (literal_element _ above upper).2]
  intro p member
  obtain ⟨relationship, listed, alone⟩ := compile_all_source config _ pending compiled p member
  rcases List.mem_pair.mp listed with rfl | rfl
  · exact belowSubject ▸ compile_about config _ .new .new mark below e [p] alone p (by simp)
  · exact aboveSubject ▸ compile_about config _ .new mark .new e above [p] alone p (by simp)

end Scene

end LayoutAlgebra
