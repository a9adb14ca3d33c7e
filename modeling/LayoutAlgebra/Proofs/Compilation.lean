import LayoutAlgebra.Accessor
import LayoutAlgebra.Proofs.Results
set_option autoImplicit false

namespace LayoutAlgebra

theorem is_none_iff (v : Value) : v.isNone = true ↔ v = .none := by
  cases v <;> simp [Value.isNone]

theorem checked_ratio (e : Expression) (checked : e.check = .ok e) (ratio : e.kind = .ratio) : e.hasElement = true := by
  unfold Linear.check at checked
  simp only [ratio] at checked
  split at checked <;> simp_all

def subjectSide (lhs rhs : Expression) : Expression := if lhs.kind = .ratio ∨ lhs.hasElement then lhs else rhs

def Oriented.record (o : Oriented) (priority : Value) : ConstraintRecord Value :=
  { subject := o.subject.element, subjectAttribute := o.subject.attr, relation := o.relation, object := o.object.element,
    objectAttribute := o.object.attr, multiplier := o.object.multiplier, constant := o.object.constant, priority }

def Oriented.proportion (lhs rhs : Expression) (relation : Value) : Oriented :=
  ⟨{ lhs with attr := .attr .width }, { rhs with attr := .attr .height }, relation⟩

-- How two sides are put in order. Only lengths and positions change places.
inductive Sides (lhs rhs : Expression) (relation : Value) : Oriented → Prop where
  | proportion (ratio : lhs.kind = .ratio) : Sides lhs rhs relation (.proportion lhs rhs relation)
  | straight (plain : lhs.kind ≠ .ratio) (present : lhs.hasElement = true) : Sides lhs rhs relation ⟨lhs, rhs, relation⟩
  | swapped (turned : Value) (plain : lhs.kind ≠ .ratio) (literal : lhs.hasElement = false)
      (present : rhs.hasElement = true) (mirrored : relation.mirrored = .ok turned) :
      Sides lhs rhs relation ⟨rhs, lhs, turned⟩

theorem oriented_sides (lhs rhs : Expression) (relation : Value) (o : Oriented) (plain : lhs.kind ≠ .ratio)
    (oriented : orient lhs rhs relation = .ok o) : Sides lhs rhs relation o ∧ subjectSide lhs rhs = o.subject := by
  unfold orient at oriented
  split at oriented
  · rename_i present
    rw [← Except.ok.inj oriented]
    exact ⟨.straight plain present, by simp [subjectSide, present]⟩
  · rename_i literal
    split at oriented
    · rename_i present
      obtain ⟨turned, mirrored, same⟩ := (Fallible.bind_ok_iff _ _ _).mp oriented
      rw [← Except.ok.inj same]
      exact ⟨.swapped turned plain (by simpa using literal) present mirrored, by simp [subjectSide, plain, literal]⟩
    · simp at oriented

structure ConstraintRecord.Aligns (config element object : Value) (r : ConstraintRecord Value) : Prop where
  subject : r.subject = element
  object : r.object = object
  lines : ∃ a b : Attribute, r.subjectAttribute = .attr a ∧ r.objectAttribute = .attr b ∧ a.isPosition = true ∧
    b.isPosition = true
  priority : Scene.defaultPriority config = .ok r.priority

namespace Scene

variable {s : Scene}

def Anchors (s : Scene) (r : ConstraintRecord Value) (anchor : Value) : Prop :=
  r.object = .none ∧ anchor = r.subject ∨ s.commonAncestor r.subject r.object = .ok anchor

theorem compile_linear_record (config : Value) (o : Oriented) (p : Pending Value)
    (compiled : (s.compileLinear config o).result = .ok p) :
    (o.subject.tellIgnored s.surroundings).result = .ok () ∧ ∃ priority anchor,
      p = ⟨.record .new (o.record priority), anchor⟩ ∧ s.Anchors (o.record priority) anchor ∧
        (s.compileLinear config o).events =
          (o.subject.tellIgnored s.surroundings).events ++ [.compiled (o.record priority)] ∧
        resolvePriority s.surroundings config o.subject o.object = .ok priority := by
  have steps := compiled
  simp only [compileLinear, Logged.bind_ok_iff] at steps
  obtain ⟨_, told, anchor, found, priority, resolved, emitted⟩ := steps
  refine ⟨told, priority, anchor, (Except.ok.inj emitted).symm, ?_, ?_, resolved⟩
  · rw [Logged.of_result] at found
    split at found
    · exact .inr found
    · rename_i absent
      have none : o.object.element = .none := (is_none_iff _).mp (by simpa [Linear.hasElement] using absent)
      exact .inl ⟨none, (Except.ok.inj found).symm⟩
  · unfold compileLinear
    rw [Logged.bind_events _ _ _ told, Logged.bind_events _ _ _ found, Logged.bind_events _ _ _ resolved]
    rfl

theorem compile_ratio_record (config relation : Value) (lhs rhs : Expression) (p : Pending Value)
    (compiled : (s.compileRatio config lhs rhs relation).result = .ok p) :
    (lhs.tellIgnored s.surroundings).result = .ok () ∧ ∃ priority anchor,
      p = ⟨.record .new ((Oriented.proportion lhs rhs relation).record priority), anchor⟩ ∧
        s.Anchors ((Oriented.proportion lhs rhs relation).record priority) anchor ∧
        (s.compileRatio config lhs rhs relation).events =
          (lhs.tellIgnored s.surroundings).events ++
            [.compiled ((Oriented.proportion lhs rhs relation).record priority)] ∧
        resolvePriority s.surroundings config lhs rhs = .ok priority := by
  have steps := compiled
  simp only [compileRatio, Logged.bind_ok_iff] at steps
  obtain ⟨_, told, priority, resolved, anchor, found, emitted⟩ := steps
  refine ⟨told, priority, anchor, (Except.ok.inj emitted).symm, .inr found, ?_, resolved⟩
  unfold compileRatio
  rw [Logged.bind_events _ _ _ told, Logged.bind_events _ _ _ resolved, Logged.bind_events _ _ _ found]
  rfl

theorem compile_sides_record (config : Value) (lhs rhs : Expression) (relation : Value) (p : Pending Value)
    (compiled : (s.compileSides config lhs rhs relation).result = .ok p) :
    lhs.kind = rhs.kind ∧ ((subjectSide lhs rhs).tellIgnored s.surroundings).result = .ok () ∧
      ∃ o priority anchor, Sides lhs rhs relation o ∧ p = ⟨.record .new (o.record priority), anchor⟩ ∧
        s.Anchors (o.record priority) anchor ∧
        (s.compileSides config lhs rhs relation).events =
          ((subjectSide lhs rhs).tellIgnored s.surroundings).events ++ [.compiled (o.record priority)] ∧
        resolvePriority s.surroundings config o.subject o.object = .ok priority := by
  unfold compileSides at compiled ⊢
  split at compiled
  · simp at compiled
  · rename_i other
    rw [if_neg other]
    refine ⟨not_not.mp other, ?_⟩
    by_cases ratio : lhs.kind = .ratio
    · have side : subjectSide lhs rhs = lhs := by simp [subjectSide, ratio]
      rw [if_pos ratio] at compiled ⊢
      rw [side]
      obtain ⟨told, priority, anchor, same, anchored, events, resolved⟩ := compile_ratio_record config _ lhs rhs p compiled
      exact ⟨told, _, priority, anchor, .proportion ratio, same, anchored, events, resolved⟩
    · rw [if_neg ratio] at compiled ⊢
      cases oriented : orient lhs rhs relation with
      | error failure => simp [oriented] at compiled
      | ok o =>
          obtain ⟨sides, side⟩ := oriented_sides lhs rhs relation o ratio oriented
          rw [oriented] at compiled
          rw [side]
          obtain ⟨told, priority, anchor, same, anchored, events, resolved⟩ := compile_linear_record config o p compiled
          exact ⟨told, o, priority, anchor, sides, same, anchored, events, resolved⟩

theorem compile_record (config relationship : Value) (pending : List (Pending Value))
    (compiled : (s.compile config relationship).result = .ok pending) :
    ∃ mark first second lhs rhs relation p,
      relationship = .relationship mark ⟨.linear first lhs, .linear second rhs, relation⟩ ∧
      pending = [p] ∧ (s.compileSides config lhs rhs relation).result = .ok p ∧
      (s.compile config relationship).events = (s.compileSides config lhs rhs relation).events := by
  unfold compile at compiled ⊢
  split at compiled
  · rename_i mark first lhs second rhs relation
    obtain ⟨p, made, same⟩ := (Logged.bind_ok_iff _ _ _).mp compiled
    refine ⟨mark, first, second, lhs, rhs, relation, p, rfl, (Except.ok.inj same).symm, made, ?_⟩
    rw [Logged.bind_events _ _ p made]
    exact List.append_nil _
  · simp at compiled

theorem compile_all_source (config : Value) (relationships : List Value) (pending : List (Pending Value))
    (compiled : (s.compileAll config relationships).result = .ok pending) :
    ∀ p ∈ pending, ∃ relationship ∈ relationships, (s.compile config relationship).result = .ok [p] := by
  induction relationships generalizing pending with
  | nil =>
      rw [← Except.ok.inj compiled]
      simp
  | cons relationship rest ih =>
      simp only [compileAll, Logged.bind_ok_iff, Logged.map_result, Fallible.map_ok_iff] at compiled
      obtain ⟨first, here, later, there, rfl⟩ := compiled
      intro p member
      rcases List.mem_append.mp member with member | member
      · obtain ⟨_, _, _, _, _, _, q, _, rfl, _, _⟩ := compile_record config relationship first here
        rw [List.mem_singleton.mp member]
        exact ⟨relationship, by simp, here⟩
      · obtain ⟨other, found, alone⟩ := ih later there p member
        exact ⟨other, List.mem_cons_of_mem relationship found, alone⟩

theorem emit_all_result (anchor : Value) (records : List (ConstraintRecord Value)) :
    (emitAll anchor records).result = .ok (records.map fun r => ⟨.record .new r, anchor⟩) := by
  induction records with
  | nil => rfl
  | cons r rest ih =>
      simp only [emitAll, Logged.bind_result, Logged.map_result, ih]
      rfl

theorem emit_all_source (anchor : Value) (records : List (ConstraintRecord Value)) (pending : List (Pending Value))
    (emitted : (emitAll anchor records).result = .ok pending) :
    ∀ p ∈ pending, ∃ r ∈ records, p = ⟨.record .new r, anchor⟩ := by
  rw [emit_all_result] at emitted
  rw [← Except.ok.inj emitted]
  intro p member
  obtain ⟨r, found, same⟩ := List.mem_map.mp member
  exact ⟨r, found, same.symm⟩

theorem position_with_margin (a : Attribute) (position : a.isPosition = true) (margin : Bool) :
    (if margin then a.withMargin else a).isPosition = true := by
  cases margin with
  | false => exact position
  | true => cases a <;> exact position

theorem side_positions (inset : Value) (sides : List (Attribute × Value)) (split : sideConstants inset = .ok sides) :
    ∀ side ∈ sides, side.1.isPosition = true := by
  unfold sideConstants at split
  split at split
  · simp only [Fallible.bind_ok_iff] at split
    obtain ⟨right, _, bottom, _, same⟩ := split
    rw [← Except.ok.inj same]
    simp [Attribute.isPosition, Attribute.isDimension]
  · simp at split
  · simp at split

theorem compile_edges_aligned (config element edges margins : Value) (pending : List (Pending Value))
    (compiled : (s.compileEdges config element edges margins).result = .ok pending) :
    ∃ object anchor, elementOf edges = .ok object ∧ s.commonAncestor element object = .ok anchor ∧
      ∀ p ∈ pending, ∃ r, p = ⟨.record .new r, anchor⟩ ∧ r.Aligns config element object := by
  simp only [compileEdges, Logged.bind_ok_iff, Logged.of_result] at compiled
  obtain ⟨object, about, anchor, found, compiled⟩ := compiled
  refine ⟨object, anchor, about, found, ?_⟩
  split at compiled
  · simp only [Logged.bind_ok_iff, Logged.of_result] at compiled
    obtain ⟨sides, split, onMargins, _, ofMargins, _, priority, chosen, emitted⟩ := compiled
    intro p member
    obtain ⟨r, found, same⟩ := emit_all_source anchor _ pending emitted p member
    obtain ⟨side, listed, rfl⟩ := List.mem_map.mp found
    have position := side_positions _ sides split side listed
    exact ⟨_, same, rfl, rfl, ⟨_, _, rfl, rfl, position_with_margin side.1 position onMargins,
      position_with_margin side.1 position ofMargins⟩, chosen⟩
  · simp at compiled

theorem compile_center_aligned (config element center : Value) (pending : List (Pending Value))
    (compiled : (s.compileCenter config element center).result = .ok pending) :
    ∃ object anchor, elementOf center = .ok object ∧ s.commonAncestor element object = .ok anchor ∧
      ∀ p ∈ pending, ∃ r, p = ⟨.record .new r, anchor⟩ ∧ r.Aligns config element object := by
  simp only [compileCenter, Logged.bind_ok_iff, Logged.of_result] at compiled
  obtain ⟨object, about, anchor, found, compiled⟩ := compiled
  refine ⟨object, anchor, about, found, ?_⟩
  split at compiled
  · simp only [Logged.bind_ok_iff, Logged.of_result] at compiled
    obtain ⟨priority, chosen, emitted⟩ := compiled
    intro p member
    obtain ⟨r, found, same⟩ := emit_all_source anchor _ pending emitted p member
    refine ⟨r, same, ?_⟩
    rcases List.mem_pair.mp found with rfl | rfl <;> exact ⟨rfl, rfl, ⟨_, _, rfl, rfl, rfl, rfl⟩, chosen⟩
  · simp at compiled

theorem related_coerced (mark : Mark) (e : Expression) (value : Value) (r : Relationship Value)
    (related : (Value.linear mark e).equalTo value = .ok r) :
    ∃ rhs, e.coerce value = .ok (some rhs) ∧ r = ⟨.linear mark e, rhs, .relation .equal⟩ := by
  obtain ⟨coerced, found, related⟩ := (Fallible.bind_ok_iff _ _ _).mp related
  split at related
  · exact ⟨_, found, (Except.ok.inj related).symm⟩
  · simp at related

theorem related_to_self (mark : Mark) (e : Expression) (value : Value) (r : Relationship Value)
    (related : (Value.linear mark e).equalTo value = .ok r) : r.lhs = .linear mark e := by
  obtain ⟨_, _, rfl⟩ := related_coerced mark e value r related
  rfl

theorem coerced_cases (e : Expression) (value rhs : Value) (coerced : e.coerce value = .ok (some rhs)) :
    ((∃ mark n, value = .number mark n) ∧ ∃ size, rhs = .linear .new (literalOf size) ∨
        rhs = .linear .new (proportionOf e.element size)) ∨
      rhs = value ∧ ∃ mark o, value = .linear mark o ∧ o.kind = e.kind := by
  unfold Linear.coerce at coerced
  split at coerced
  · obtain ⟨size, _, same⟩ := (Fallible.bind_ok_iff _ _ _).mp coerced
    exact .inl ⟨⟨_, _, rfl⟩, size, .inl (Option.some.inj (Except.ok.inj same)).symm⟩
  · obtain ⟨size, _, same⟩ := (Fallible.bind_ok_iff _ _ _).mp coerced
    exact .inl ⟨⟨_, _, rfl⟩, size, .inr (Option.some.inj (Except.ok.inj same)).symm⟩
  · rename_i mark o
    split at coerced <;> rename_i kinds
    · exact .inr ⟨(Option.some.inj (Except.ok.inj coerced)).symm, mark, o, rfl, kinds⟩
    · simp at coerced
  · simp at coerced

theorem assigned_cases (v : ViewId) (accessor : Accessor) (value : Value) (pending : List (Pending Value))
    (compiled : (s.assigned v accessor value).result = .ok pending) :
    (∃ config r mark e, (s.compile config (.relationship .new r)).result = .ok pending ∧ r.lhs = .linear mark e ∧
        e.element = .view v) ∨
      ∃ config object anchor, s.commonAncestor (.view v) object = .ok anchor ∧
        ∀ p ∈ pending, ∃ r, p = ⟨.record .new r, anchor⟩ ∧ r.Aligns config (.view v) object := by
  cases accessor with
  | line attr | length attr =>
      simp only [assigned, Logged.bind_ok_iff, Logged.of_result] at compiled
      obtain ⟨r, related, config, _, compiled⟩ := compiled
      exact .inl ⟨config, r, _, _, compiled, related_to_self _ _ value r related, rfl⟩
  | edges usesMargins =>
      simp only [assigned] at compiled
      split at compiled
      · obtain ⟨config, _, compiled⟩ := (Logged.bind_ok_iff _ _ _).mp compiled
        obtain ⟨object, anchor, _, found, each⟩ := compile_edges_aligned config _ _ _ pending compiled
        exact .inr ⟨config, object, anchor, found, each⟩
      · simp at compiled
  | middle =>
      simp only [assigned] at compiled
      split at compiled
      · obtain ⟨config, _, compiled⟩ := (Logged.bind_ok_iff _ _ _).mp compiled
        obtain ⟨object, anchor, _, found, each⟩ := compile_center_aligned config _ _ pending compiled
        exact .inr ⟨config, object, anchor, found, each⟩
      · simp at compiled
  | ratio =>
      simp only [assigned, Logged.bind_ok_iff, Logged.of_result] at compiled
      obtain ⟨side, _, r, related, config, _, compiled⟩ := compiled
      exact .inl ⟨config, r, _, _, compiled, related_to_self _ _ side r related, rfl⟩

end Scene

end LayoutAlgebra
