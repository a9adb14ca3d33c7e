import LayoutAlgebra.Proofs.Forest.Growth
import LayoutAlgebra.Proofs.History
import LayoutAlgebra.Proofs.Placement
set_option autoImplicit false

namespace LayoutAlgebra

def Linear.OnViews (e : Expression) : Prop := e.check = .ok e ∧ (e.element = .none ∨ ∃ v, e.element = .view v)

-- Only an expression on both sides of a relation gets as far as a tree; anything else is refused before.
def Value.OnViews : Value → Prop
  | .linear _ e => e.OnViews
  | .relationship _ ⟨.linear _ lhs, .linear _ rhs, _⟩ => lhs.OnViews ∧ rhs.OnViews
  | _ => True

def Act.OnViews : Act → Prop
  | .activate relationships _ _ => ∀ relationship ∈ relationships, relationship.OnViews
  | .within length _ _ _ => length.OnViews
  | .submit _ _ => False
  | _ => True

def Value.Takes (sink : Value) : Prop := (∃ n, sink = .hierarchy n) ∨ ∃ k, sink = .recording k

theorem on_views_view (e : Expression) (onViews : e.OnViews) (present : e.hasElement = true) :
    ∃ v, e.element = .view v := by
  rcases onViews.2 with absent | view
  · simp [Linear.hasElement, absent, Value.isNone] at present
  · exact view

namespace Scene

structure Untouched (s t : Scene) : Prop where
  views : t.views = s.views
  recordings : t.recordings = s.recordings

variable {s t : Scene} {failure : Failure}

theorem untouched_refl (s : Scene) : Untouched s s := ⟨rfl, rfl⟩

theorem compile_on_view (config relation : Value) (mark first second : Mark) (lhs rhs : Expression)
    (left : lhs.OnViews) (right : rhs.OnViews) (pending : List (Pending Value))
    (compiled : (s.compile config (.relationship mark ⟨.linear first lhs, .linear second rhs, relation⟩)).result =
      .ok pending) : ∀ p ∈ pending, ∃ h, p.anchor = .view h := by
  obtain ⟨_, _, _, _, _, _, p, same, rfl, made, _⟩ := compile_record config _ pending compiled
  cases same
  obtain ⟨_, _, o, priority, anchor, sides, rfl, anchored, _⟩ := compile_sides_record config lhs rhs relation p made
  have subject : ∃ v, o.subject.element = .view v := by
    cases sides with
    | proportion ratio => exact on_views_view lhs left (checked_ratio lhs left.1 ratio)
    | straight _ present => exact on_views_view lhs left present
    | swapped _ _ _ present _ => exact on_views_view rhs right present
  obtain ⟨v, subject⟩ := subject
  intro q member
  rw [List.mem_singleton.mp member]
  obtain ⟨h, _, here⟩ := anchors_around (o.record priority) anchor v subject anchored
  exact ⟨h, here⟩

theorem compile_all_on_view (config : Value) (relationships : List Value)
    (onViews : ∀ relationship ∈ relationships, relationship.OnViews) (pending : List (Pending Value))
    (compiled : (s.compileAll config relationships).result = .ok pending) : ∀ p ∈ pending, ∃ h, p.anchor = .view h := by
  intro p member
  obtain ⟨relationship, found, alone⟩ := compile_all_source config relationships pending compiled p member
  obtain ⟨mark, first, second, lhs, rhs, relation, _, rfl, _, _, _⟩ := compile_record config relationship [p] alone
  obtain ⟨left, right⟩ := onViews _ found
  exact compile_on_view config relation mark first second lhs rhs left right [p] alone p (by simp)

theorem assigned_on_view (v : ViewId) (accessor : Accessor) (value : Value) (pending : List (Pending Value))
    (compiled : (s.assigned v accessor value).result = .ok pending) : ∀ p ∈ pending, ∃ h, p.anchor = .view h := by
  intro p member
  obtain ⟨r, _, subject, anchored⟩ := assigned_about v accessor value pending compiled p member
  obtain ⟨h, _, here⟩ := anchors_around r p.anchor v subject anchored
  exact ⟨h, here⟩

theorem register_taken (bare : ∀ v, s.givenConstraints v = none) (sink record : Value) (h : ViewId) (takes : sink.Takes) :
    ∃ t, s.register sink record (.view h) = .ok t := by
  rcases takes with ⟨n, rfl⟩ | ⟨k, rfl⟩
  · refine ⟨s.modify h fun view => view.addConstraint record, ?_⟩
    simp only [register, addConstraint, bare h]
  · exact ⟨_, rfl⟩

theorem register_refused (sink record anchor : Value) (refuses : ¬ sink.Takes) :
    s.register sink record anchor = .error .noMember := by
  cases sink with
  | hierarchy n => exact absurd (.inl ⟨n, rfl⟩) refuses
  | recording k => exact absurd (.inr ⟨k, rfl⟩) refuses
  | _ => rfl

theorem register_all_taken (bare : ∀ v, s.givenConstraints v = none) (sink : Value) (takes : sink.Takes)
    (items : List Value) (each : ∀ item ∈ items, ∃ mark p h, item = .pending mark p ∧ p.anchor = .view h) :
    (s.registerAll sink items).1 = .ok () := by
  induction items generalizing s with
  | nil => rfl
  | cons first rest ih =>
      obtain ⟨mark, p, h, rfl, here⟩ := each first (by simp)
      obtain ⟨t, taken⟩ := register_taken bare sink p.record h takes
      rw [← here] at taken
      have outline := register_outline sink p.record p.anchor taken
      -- A list that was given in place of the own one could refuse the next record; none was given meanwhile.
      have bare' := fun v => (given_constraints_same outline (fun _ => rfl) v).trans (bare v)
      simp only [registerAll, taken]
      exact ih bare' fun item member => each item (by simp [member])

-- A sink takes everything that has a view to go to, or nothing at all: there is no batch that it takes a part of.
theorem register_all_refused (bare : ∀ v, s.givenConstraints v = none) (sink : Value) (items : List Value)
    (each : ∀ item ∈ items, ∃ mark p h, item = .pending mark p ∧ p.anchor = .view h)
    (failed : (s.registerAll sink items).1 = .error failure) : (s.registerAll sink items).2 = s := by
  by_cases takes : sink.Takes
  · rw [register_all_taken bare sink takes items each] at failed
    simp at failed
  · cases items with
    | nil => rfl
    | cons first rest =>
        obtain ⟨mark, p, h, rfl, here⟩ := each first (by simp)
        simp only [registerAll, register_refused sink p.record p.anchor takes]

theorem submit_items_refused (sink : Value) (items : List Value)
    (failed : (s.submitItems sink items).result = .error failure) :
    (s.registerAll (sinkOrViews sink) items).1 = .error failure := by
  rw [← submit_items_silent, Outcome.silent, failed]
  rfl

theorem submit_compiled_refused (bare : ∀ v, s.givenConstraints v = none) (sink : Value)
    (compiled : Logged (List (Pending Value)))
    (onView : ∀ pending, compiled.result = .ok pending → ∀ p ∈ pending, ∃ h, p.anchor = .view h)
    (failed : (s.submitCompiled sink compiled).result = .error failure) :
    Untouched s (s.submitCompiled sink compiled).scene := by
  rw [submit_compiled_scene]
  cases done : compiled.result with
  | error _ => exact untouched_refl s
  | ok pending =>
      have refused : ((s.counted pending).registerAll (sinkOrViews sink) (s.keptPending pending)).1 = .error failure := by
        unfold submitCompiled at failed
        rw [done] at failed
        exact submit_items_refused sink _ failed
      have kept : ∀ item ∈ s.keptPending pending, ∃ mark p h, item = .pending mark p ∧ p.anchor = .view h := by
        intro item member
        obtain ⟨p, source, kept⟩ := kept_pending_source pending item member
        obtain ⟨mark, q, same, _, anchor⟩ := Value.kept_as_pending .new p item kept
        obtain ⟨h, here⟩ := onView pending done p source
        exact ⟨mark, q, h, same, Value.kept_as_view h _ (here ▸ anchor)⟩
      simp only
      rw [register_all_refused (s := s.counted pending) bare _ _ kept refused]
      exact ⟨rfl, rfl⟩

theorem activate_refused (bare : ∀ v, s.givenConstraints v = none) (relationships : List Value) (sink config : Value)
    (onViews : ∀ relationship ∈ relationships, relationship.OnViews)
    (failed : (s.activate relationships sink config).result = .error failure) :
    Untouched s (s.activate relationships sink config).scene := by
  unfold activate at failed ⊢
  split
  · exact untouched_refl s
  · rename_i settings chosen
    rw [chosen] at failed
    exact submit_compiled_refused bare sink _ (compile_all_on_view settings relationships onViews) failed

theorem literal_on_views (v : Value) (e : Expression) (made : Linear.literal v = .ok e) : e.OnViews := by
  obtain ⟨size, _, same⟩ := (Fallible.bind_ok_iff _ _ _).mp made
  rw [← Except.ok.inj same]
  exact ⟨rfl, .inl rfl⟩

theorem range_on_views (around : Surroundings) (length low high : Value) (onViews : length.OnViews)
    (range : List (Relationship Value)) (made : around.range length low high = .ok range) :
    ∀ relationship ∈ range.map (.relationship .new), Value.OnViews relationship := by
  unfold Surroundings.range at made
  split at made
  · simp only [Value.between, Fallible.bind_ok_iff] at made
    obtain ⟨_, _, _, _, lower, madeLower, upper, madeUpper, same⟩ := made
    rw [← Except.ok.inj same]
    intro relationship member
    obtain ⟨r, found, rfl⟩ := List.mem_map.mp member
    rcases List.mem_pair.mp found with rfl | rfl
    · exact ⟨literal_on_views _ lower madeLower, onViews⟩
    · exact ⟨onViews, literal_on_views _ upper madeUpper⟩
  · simp at made

theorem within_refused (bare : ∀ v, s.givenConstraints v = none) (length low high sink : Value)
    (onViews : length.OnViews) (failed : (s.within length low high sink).result = .error failure) :
    Untouched s (s.within length low high sink).scene := by
  unfold within at failed ⊢
  simp only at failed ⊢
  split
  · exact untouched_refl s
  · rename_i range made
    rw [made] at failed
    exact activate_refused bare _ _ _ (range_on_views s.surroundings length low high onViews range made) failed

-- The detachment inside a move cannot fail, so a move fails only on the cycle that it would close.
theorem attach_refused (regular : Regular s) (records : HoldsRecords s) (p c : ViewId)
    (failed : (s.attach p c).1 = .error failure) : (s.attach p c).2 = s := by
  rcases attach_cases regular p c with ⟨_, refused⟩ | ⟨_, ⟨_, linked⟩ | ⟨_, stopped, _⟩⟩
  · rw [refused]
  · simp [linked] at failed
  · simp [detach_done regular c fun _ _ h _ => records h] at stopped

theorem add_subview_refused (regular : Regular s) (records : HoldsRecords s) (p : ViewId) (child : Value)
    (failed : (s.addSubview p child).1 = .error failure) : (s.addSubview p child).2 = s := by
  unfold addSubview at failed ⊢
  split
  · rename_i c
    cases attached : s.attach p c with
    | mk done t =>
        cases done with
        | ok _ => simp [attached] at failed
        | error cause =>
            have stopped : (s.attach p c).1 = .error cause := by rw [attached]
            simpa [attached] using attach_refused regular records p c stopped
  · rfl

theorem construct_refused (options : ViewOptions) (failed : (s.construct options).1 = .error failure) :
    (s.construct options).2 = s := by
  rcases construct_cases s options with ⟨_, refused⟩ | ⟨_, _, _, ⟨_, alone⟩ | ⟨_, _, attached⟩⟩
  · rw [refused]
  · simp [alone] at failed
  · simp [attached] at failed

theorem changed_refused (change : Fallible Scene) (failed : (s.changed change).1 = .error failure) :
    (s.changed change).2 = s := by
  cases change with
  | error _ => rfl
  | ok _ => simp [changed] at failed

theorem refused_untouched (regular : Regular s) (records : HoldsRecords s) (act : Act) (onViews : act.OnViews)
    (failed : (act.run s).1 = .error failure) : Untouched s (act.run s).2 := by
  have unchanged : ∀ {t : Scene}, t = s → Untouched s t := fun same => same ▸ untouched_refl s
  cases act with
  | construct options =>
      exact unchanged (construct_refused options ((Fallible.map_error_iff _ _ _).mp failed))
  | addSubview p child =>
      exact unchanged (add_subview_refused regular records p child ((Fallible.map_error_iff _ _ _).mp failed))
  | detach v =>
      rw [Act.run, detach_done regular v fun _ _ h _ => records h] at failed
      simp at failed
  | assign v accessor value =>
      have failed := (Fallible.map_error_iff _ _ _).mp failed
      exact submit_compiled_refused regular.bare _ _ (assigned_on_view v accessor value) failed
  | activate relationships sink config =>
      have failed := (Fallible.map_error_iff _ _ _).mp failed
      exact activate_refused regular.bare relationships sink config onViews failed
  | within length low high sink =>
      have failed := (Fallible.map_error_iff _ _ _).mp failed
      exact within_refused regular.bare length low high sink onViews failed
  | submit pending sink => exact absurd onViews id
  | register _ _ _ | addConstraint _ _ | removeConstraint _ _ | setPriority _ _ _ _ | sendPriority _ _ _ _ _
  | resist _ _ _ _ | setField _ _ _ => exact unchanged (changed_refused _ failed)
  | makeRecording | clear _ | keep _ => simp [Act.run] at failed

/-- Where every constraint that is held is a record, an operation that fails leaves every view and every recording as it
was. -/
theorem refused_acts_change_nothing (s : Scene) (reached : Reached Act.Known s) (records : HoldsRecords s) (act : Act)
    (onViews : act.OnViews) (failure : Failure) (failed : (act.run s).1 = .error failure) :
    (act.run s).2.views = s.views ∧ (act.run s).2.recordings = s.recordings := by
  have untouched := refused_untouched (regular_of_reached reached) records act onViews failed
  exact ⟨untouched.views, untouched.recordings⟩

def nested : Scene := (Act.run (Act.run .empty (.construct {})).2 (.construct { parent := .view 0 })).2

theorem nested_reached : Reached Act.Known nested := by
  refine .step _ (.construct { parent := .view 0 }) (.step _ (.construct {}) .empty ?_) ?_
  · rintro p ⟨⟩
  · rintro p ⟨⟩
    decide

def goodAndBad : List Value :=
  [.relationship .new ⟨(Accessor.length .width).read (.view 1), .linear .new (literalOf (.int 1)), .relation .equal⟩,
    .relationship .new ⟨.linear .new (literalOf (.int 1)), .linear .new (literalOf (.int 2)), .relation .equal⟩]

theorem refused_batch :
    (∃ failure, (Act.run nested (.activate goodAndBad .none .none)).1 = .error failure) ∧
      (Act.run nested (.activate goodAndBad .none .none)).2.views = nested.views ∧
      (Act.run nested (.activate goodAndBad .none .none)).2.recordings = nested.recordings := by
  have records : HoldsRecords nested := by
    intro h item member
    match h with
    | 0 | 1 | h + 2 => cases member
  have onViews : (Act.activate goodAndBad .none .none).OnViews := by
    intro relationship member
    rcases List.mem_pair.mp member with rfl | rfl
    · exact ⟨⟨rfl, .inr ⟨1, rfl⟩⟩, rfl, .inl rfl⟩
    · exact ⟨⟨rfl, .inl rfl⟩, rfl, .inl rfl⟩
  have never : (Act.run nested (.activate goodAndBad .none .none)).1.isOk = false := by decide +kernel
  cases failed : (Act.run nested (.activate goodAndBad .none .none)).1 with
  | error failure => exact ⟨⟨failure, rfl⟩, refused_acts_change_nothing nested nested_reached records _ onViews failure failed⟩
  | ok _ => simp [failed, Except.isOk, Except.toBool] at never

end Scene

end LayoutAlgebra
