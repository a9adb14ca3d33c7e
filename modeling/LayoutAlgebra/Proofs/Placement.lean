import LayoutAlgebra.Proofs.Compilation
import LayoutAlgebra.Proofs.Registration
set_option autoImplicit false

namespace LayoutAlgebra

def Value.KeptAs (v w : Value) : Prop := w = v ∨ ∃ n, w = (v.numbered.run n).1

namespace Value

theorem kept_as_view (h : ViewId) (w : Value) (kept : KeptAs (.view h) w) : w = .view h := by
  rcases kept with same | ⟨_, same⟩ <;> exact same

theorem kept_as_none (w : Value) (kept : KeptAs .none w) : w = .none := by
  rcases kept with same | ⟨_, same⟩ <;> exact same

theorem view_kept_as (v : Value) (h : ViewId) (kept : KeptAs v (.view h)) : v = .view h := by
  rcases kept with same | ⟨n, same⟩
  · exact same.symm
  · cases v with
    | view id => exact same.symm
    | none | bool _ | member _ | accessor _ | recording _ | shared _ | hierarchy _ | compiler _ _ | reader _ =>
        cases same
    | array mark cells => cases mark <;> cases cells <;> cases same
    | _ mark => cases mark <;> cases same

theorem kept_as_record (mark : Mark) (r : ConstraintRecord Value) (w : Value) (kept : KeptAs (.record mark r) w) :
    ∃ other q, w = .record other q ∧ KeptAs r.subject q.subject ∧ KeptAs r.object q.object ∧
      KeptAs r.priority q.priority := by
  rcases kept with same | ⟨n, same⟩
  · exact ⟨mark, r, same, .inl rfl, .inl rfl, .inl rfl⟩
  · cases mark with
    | new => exact ⟨_, _, same, .inr ⟨_, rfl⟩, .inr ⟨_, rfl⟩, .inr ⟨_, rfl⟩⟩
    | joint _ | numbered _ | standing _ => exact ⟨_, r, same, .inl rfl, .inl rfl, .inl rfl⟩

theorem kept_as_pending (mark : Mark) (p : Pending Value) (w : Value) (kept : KeptAs (.pending mark p) w) :
    ∃ other q, w = .pending other q ∧ KeptAs p.record q.record ∧ KeptAs p.anchor q.anchor := by
  rcases kept with same | ⟨n, same⟩
  · exact ⟨mark, p, same, .inl rfl, .inl rfl⟩
  · cases mark with
    | new => exact ⟨_, _, same, .inr ⟨_, rfl⟩, .inr ⟨_, rfl⟩⟩
    | joint _ | numbered _ | standing _ => exact ⟨_, p, same, .inl rfl, .inl rfl⟩

theorem all_numbered_source (items : List Value) (n : Nat) (item : Value)
    (member : item ∈ ((allNumbered items).run n).1) : ∃ v ∈ items, KeptAs v item := by
  induction items generalizing n with
  | nil => cases member
  | cons first rest ih =>
      rcases List.mem_cons.mp member with here | later
      · exact ⟨first, by simp, .inr ⟨n, here⟩⟩
      · obtain ⟨v, found, kept⟩ := ih (first.numbered.run n).2 later
        exact ⟨v, List.mem_cons_of_mem first found, kept⟩

end Value

def Pending.Placed (s : Scene) (p : Pending Value) : Prop :=
  ∃ mark r, p.record = .record mark r ∧ s.Anchors r p.anchor

def Pending.About (s : Scene) (element : Value) (p : Pending Value) : Prop :=
  ∃ r, p.record = .record .new r ∧ r.subject = element ∧ s.Anchors r p.anchor

namespace Scene

variable {s : Scene}

theorem kept_pending_source (pending : List (Pending Value)) (item : Value) (member : item ∈ s.keptPending pending) :
    ∃ p ∈ pending, Value.KeptAs (.pending .new p) item := by
  obtain ⟨v, found, kept⟩ := Value.all_numbered_source _ _ item member
  obtain ⟨p, source, rfl⟩ := List.mem_map.mp found
  exact ⟨p, source, kept⟩

theorem kept_pending_on {allowed : ViewId → Prop} (pending : List (Pending Value))
    (each : ∀ p ∈ pending, ∃ h, allowed h ∧ p.anchor = .view h) :
    ∀ item ∈ s.keptPending pending, ∃ mark p, item = .pending mark p ∧ ∃ h, allowed h ∧ p.anchor = .view h := by
  intro item member
  obtain ⟨p, source, kept⟩ := kept_pending_source pending item member
  obtain ⟨mark, q, rfl, _, anchor⟩ := Value.kept_as_pending .new p item kept
  obtain ⟨h, known, here⟩ := each p source
  exact ⟨mark, q, rfl, h, known, Value.kept_as_view h _ (here ▸ anchor)⟩

theorem common_ancestor_of_view (v : ViewId) (b anchor : Value) (found : s.commonAncestor (.view v) b = .ok anchor) :
    ∃ h, anchor = .view h := by
  unfold commonAncestor at found
  split at found
  · exact ⟨v, (Except.ok.inj found).symm⟩
  · split at found
    · split at found
      · rename_i w _
        exact ⟨w, (Except.ok.inj found).symm⟩
      · simp at found
    · simp at found

theorem identical_view (v : ViewId) (b : Value) (same : Value.identical (.view v) b = true) : b = .view v := by
  cases b with
  | view w =>
      have equal : v = w := by simpa [Value.identical] using same
      rw [equal]
  | _ => simp [Value.identical, Value.mark?] at same

theorem common_ancestor_view (a b : Value) (h : ViewId) (found : s.commonAncestor a b = .ok (.view h)) :
    ∃ v w, a = .view v ∧ b = .view w ∧ s.commonAncestor? v w = some h := by
  unfold commonAncestor at found
  split at found
  · rename_i same
    have here : a = .view h := Except.ok.inj found
    subst here
    exact ⟨h, h, rfl, identical_view h b same, by simp [commonAncestor?]⟩
  · split at found
    · rename_i v w _
      split at found
      · rename_i k near
        have here : k = h := by simpa using found
        exact ⟨v, w, rfl, rfl, here ▸ near⟩
      · simp at found
    · simp at found

theorem common_ancestor_between (a b : ViewId) :
    s.commonAncestor (.view a) (.view b) =
      match s.commonAncestor? a b with
      | some w => .ok (.view w)
      | none => .error (.disjoint (.view a) (.view b)) := by
  unfold commonAncestor
  split
  · rename_i same
    have equal : b = a := by simpa using identical_view a _ same
    simp [commonAncestor?, equal]
  · rfl

theorem common_ancestor_around (v w : ViewId) (anchor : Value)
    (found : s.commonAncestor (.view v) (.view w) = .ok anchor) :
    ∃ h, anchor = .view h ∧ h ∈ s.ancestors v ∧ h ∈ s.ancestors w := by
  obtain ⟨h, rfl⟩ := common_ancestor_of_view v _ anchor found
  obtain ⟨x, y, first, second, near⟩ := common_ancestor_view _ _ h found
  obtain ⟨rfl, rfl⟩ := And.intro (Value.view.inj first) (Value.view.inj second)
  refine ⟨h, rfl, ?_⟩
  unfold commonAncestor? at near
  split at near
  · rename_i same
    rw [← Option.some.inj near]
    exact ⟨self_mem_ancestors s v, same ▸ self_mem_ancestors s v⟩
  · exact ⟨by simpa using List.find?_some near, List.mem_of_find?_eq_some near⟩

theorem sides_subject (lhs rhs : Expression) (relation : Value) (o : Oriented) (sides : Sides lhs rhs relation o) :
    o.subject.element = (subjectSide lhs rhs).element := by
  cases sides with
  | proportion ratio => simp [subjectSide, ratio, Oriented.proportion]
  | straight plain present => simp [subjectSide, present]
  | swapped turned plain literal present mirrored => simp [subjectSide, plain, literal]

theorem compile_about (config relation : Value) (outer first second : Mark) (lhs rhs : Expression)
    (pending : List (Pending Value))
    (compiled : (s.compile config (.relationship outer ⟨.linear first lhs, .linear second rhs, relation⟩)).result =
      .ok pending) : ∀ p ∈ pending, p.About s (subjectSide lhs rhs).element := by
  obtain ⟨_, _, _, _, _, _, p, same, rfl, made, _⟩ := compile_record config _ pending compiled
  cases same
  obtain ⟨_, _, o, priority, anchor, sides, rfl, anchored, _⟩ := compile_sides_record config lhs rhs relation p made
  intro q member
  rw [List.mem_singleton.mp member]
  exact ⟨o.record priority, rfl, sides_subject lhs rhs relation o sides, anchored⟩

theorem assigned_about (v : ViewId) (accessor : Accessor) (value : Value) (pending : List (Pending Value))
    (compiled : (s.assigned v accessor value).result = .ok pending) : ∀ p ∈ pending, p.About s (.view v) := by
  rcases assigned_cases v accessor value pending compiled with
    ⟨config, ⟨_, rhs, relation⟩, mark, e, compiled, rfl, about⟩ | ⟨_, object, anchor, found, each⟩
  · cases rhs with
    | linear second rhs =>
        have present : e.hasElement = true := by simp [Linear.hasElement, about, Value.isNone]
        have subject : (subjectSide e rhs).element = .view v := by simp [subjectSide, present, about]
        exact subject ▸ compile_about config relation .new mark second e rhs pending compiled
    | _ => simp [compile] at compiled
  · intro p member
    obtain ⟨r, same, aligned⟩ := each p member
    rw [same]
    exact ⟨r, rfl, aligned.subject, .inr (by rw [aligned.subject, aligned.object, found])⟩

theorem anchors_around (r : ConstraintRecord Value) (anchor : Value) (v : ViewId) (subject : r.subject = .view v)
    (anchored : s.Anchors r anchor) : ∃ h ∈ s.ancestors v, anchor = .view h := by
  rcases anchored with ⟨_, here⟩ | found
  · exact ⟨v, self_mem_ancestors s v, here.trans subject⟩
  · rw [subject] at found
    obtain ⟨h, anchor⟩ := common_ancestor_of_view v _ _ found
    rw [anchor] at found
    obtain ⟨_, w, _, object, _⟩ := common_ancestor_view _ _ h found
    rw [object] at found
    obtain ⟨other, same, around, _⟩ := common_ancestor_around v w _ found
    exact ⟨other, around, anchor.trans same⟩

theorem about_other (element : Value) (p : Pending Value) (about : p.About s element) (other : ∀ v, element ≠ .view v)
    (h : ViewId) : p.anchor ≠ .view h := by
  intro anchor
  obtain ⟨r, _, subject, ⟨_, here⟩ | found⟩ := about
  · exact other h (subject.symm.trans (here.symm.trans anchor))
  · rw [subject, anchor] at found
    obtain ⟨v, _, same, _⟩ := common_ancestor_view _ _ h found
    exact other v same

theorem compile_placed (config relationship : Value) (pending : List (Pending Value))
    (compiled : (s.compile config relationship).result = .ok pending) : ∀ p ∈ pending, p.Placed s := by
  obtain ⟨_, _, _, lhs, rhs, relation, p, _, rfl, made, _⟩ := compile_record config relationship pending compiled
  obtain ⟨_, _, o, priority, anchor, _, rfl, anchored, _⟩ := compile_sides_record config lhs rhs relation p made
  intro q member
  rw [List.mem_singleton.mp member]
  exact ⟨_, o.record priority, rfl, anchored⟩

theorem compile_all_placed (config : Value) (relationships : List Value) (pending : List (Pending Value))
    (compiled : (s.compileAll config relationships).result = .ok pending) : ∀ p ∈ pending, p.Placed s := by
  intro p member
  obtain ⟨relationship, _, alone⟩ := compile_all_source config relationships pending compiled p member
  exact compile_placed config relationship [p] alone p (by simp)

theorem assigned_placed (v : ViewId) (accessor : Accessor) (value : Value) (pending : List (Pending Value))
    (compiled : (s.assigned v accessor value).result = .ok pending) : ∀ p ∈ pending, p.Placed s := by
  intro p member
  obtain ⟨r, record, _, anchored⟩ := assigned_about v accessor value pending compiled p member
  exact ⟨.new, r, record, anchored⟩

end Scene

end LayoutAlgebra
