import LayoutAlgebra.Proofs.Forest.Nearest
import LayoutAlgebra.Proofs.History
import LayoutAlgebra.Proofs.Placement
set_option autoImplicit false

/-!
Where records are held. A record that was compiled and registered at once stays on the nearest common ancestor of its two
views for as long as it is held, however the views are moved: a record that a move would leave in a wrong place is dropped
by the move.
-/
namespace LayoutAlgebra

-- An act that registers only what it compiles itself.
def Act.Compiled (s : Scene) (act : Act) : Prop :=
  act.Known s ∧
    match act with
    | .submit _ _ | .register _ _ _ | .addConstraint _ _ => False
    | _ => True

namespace Scene

variable {s t : Scene}

def Anchored (s : Scene) (h : ViewId) (item : Value) : Prop :=
  ∃ mark r, item = .record mark r ∧
    (r.object = .none ∧ r.subject = .view h ∨ ∃ a b, r.subject = .view a ∧ r.object = .view b ∧ Nearest s a b h)

-- The forest is part of the invariant: where a record belongs is told by chains of ancestors, and a move is refused by them.
structure Settled (s : Scene) : Prop where
  regular : Regular s
  anchored : ∀ h, ∀ item ∈ s.constraints h, Anchored s h item

theorem anchored_map (h : ViewId) (item : Value) (anchored : Anchored s h item)
    (near : ∀ mark r a b, item = .record mark r → r.subject = .view a → r.object = .view b → Nearest s a b h →
      Nearest t a b h) : Anchored t h item := by
  obtain ⟨mark, r, same, ⟨none, here⟩ | ⟨a, b, first, second, nearest⟩⟩ := anchored
  · exact ⟨mark, r, same, .inl ⟨none, here⟩⟩
  · exact ⟨mark, r, same, .inr ⟨a, b, first, second, near mark r a b same first second nearest⟩⟩

theorem anchored_same_places (forest : Forest s) (same : SamePlaces s t) (h : ViewId) (item : Value)
    (anchored : Anchored s h item) : Anchored t h item :=
  anchored_map h item anchored fun _ _ a b _ _ _ near => nearest_same_places forest same a b h near

theorem involves_false (views : List ViewId) (mark : Mark) (r : ConstraintRecord Value) (a b : ViewId)
    (first : r.subject = .view a) (second : r.object = .view b)
    (apart : (Value.record mark r).involves views = false) : a ∉ views ∧ b ∉ views := by
  simpa [Value.involves, ConstraintRecord.involves, first, second, Value.isIn] using apart

theorem anchored_parted (forest : Forest s) (p v : ViewId) (parted : Parted s t p v) (subtree : List ViewId)
    (within : ∀ x, x ∈ subtree ↔ v ∈ s.ancestors x) (h : ViewId) (item : Value) (anchored : Anchored s h item)
    (kept : h ∈ s.ancestors p → item.involves subtree = false) : Anchored t h item := by
  apply anchored_map h item anchored
  intro mark r a b same first second near
  apply nearest_parted forest p v parted a b h near
  intro around
  have apart := involves_false subtree mark r a b first second (same ▸ kept around)
  rwa [within a, within b] at apart

theorem anchored_joined (forest : Forest s) (p c : ViewId) (joined : Joined s t p c) (h : ViewId) (item : Value)
    (anchored : Anchored s h item) : Anchored t h item :=
  anchored_map h item anchored fun _ _ a b _ _ _ near => nearest_joined forest p c joined a b h near

theorem anchored_of_placed (forest : Forest s) (p q : Pending Value) (mark : Mark) (placed : p.Placed s)
    (kept : Value.KeptAs (.pending .new p) (.pending mark q)) (h : ViewId) (here : q.anchor = .view h) :
    Anchored s h q.record := by
  obtain ⟨_, _, same, keptRecord, keptAnchor⟩ := Value.kept_as_pending .new p _ kept
  obtain ⟨rfl, rfl⟩ := Value.pending.inj same
  obtain ⟨_, r, recorded, place⟩ := placed
  rw [recorded] at keptRecord
  obtain ⟨other, q', sameRecord, subject, object, _⟩ := Value.kept_as_record _ r _ keptRecord
  refine ⟨other, q', sameRecord, ?_⟩
  have anchor := Value.view_kept_as p.anchor h (here ▸ keptAnchor)
  rcases place with ⟨none, self⟩ | found
  · rw [none] at object
    rw [← self, anchor] at subject
    exact .inl ⟨Value.kept_as_none _ object, Value.kept_as_view h _ subject⟩
  · rw [anchor] at found
    obtain ⟨a, b, first, second, found⟩ := common_ancestor_view _ _ h found
    rw [first] at subject
    rw [second] at object
    exact .inr ⟨a, b, Value.kept_as_view a _ subject, Value.kept_as_view b _ object,
      (common_ancestor_nearest forest a b h).mp found⟩

theorem holds_records (settled : Settled s) : HoldsRecords s := by
  intro h item member
  obtain ⟨mark, r, same, _⟩ := settled.anchored h item member
  exact ⟨mark, r, same⟩

theorem settled_same_places (settled : Settled s) (regular : Regular t) (same : SamePlaces s t)
    (fewer : ∀ h, ∀ item ∈ t.constraints h, item ∈ s.constraints h) : Settled t where
  regular := regular
  anchored h item member :=
    anchored_same_places settled.regular.forest same h item (settled.anchored h item (fewer h item member))

theorem submit_compiled_settled (settled : Settled s) (sink : Value) (compiled : Logged (List (Pending Value)))
    (placed : ∀ pending, compiled.result = .ok pending → ∀ p ∈ pending, p.Placed s) :
    Settled (s.submitCompiled sink compiled).scene := by
  have outline := submit_compiled_outline (s := s) sink compiled
  have places := places_same outline (fun _ => rfl) (fun _ => rfl) fun _ => rfl
  have forest := settled.regular.forest
  refine ⟨regular_same_outline settled.regular outline, fun h item member => ?_⟩
  apply anchored_same_places forest places
  rw [submit_compiled_scene] at member
  cases done : compiled.result with
  | error failure =>
      rw [done] at member
      exact settled.anchored h item member
  | ok pending =>
      rw [done] at member
      rcases register_all_constraints (s := s.counted pending) settled.regular.bare _ _ h item member with
        before | ⟨mark, q, found, here, same⟩
      · exact settled.anchored h item before
      · obtain ⟨p, source, kept⟩ := kept_pending_source pending _ found
        exact same ▸ anchored_of_placed forest p q mark (placed pending done p source) kept h here

theorem activate_settled (settled : Settled s) (relationships : List Value) (sink config : Value) :
    Settled (s.activate relationships sink config).scene := by
  unfold activate
  split
  · exact settled
  · exact submit_compiled_settled settled sink _ (compile_all_placed _ relationships)

theorem within_settled (settled : Settled s) (length low high sink : Value) :
    Settled (s.within length low high sink).scene := by
  unfold within
  simp only
  split
  · exact settled
  · exact activate_settled settled _ _ _

theorem detach_settled (settled : Settled s) (v : ViewId) : Settled (s.detach v).2 := by
  have regular := settled.regular
  rcases detach_records regular (holds_records settled) v with ⟨_, stays⟩ | ⟨p, subtree, inside, walked, left, dropped⟩
  · rw [stays]
    exact settled
  · have outline := drop_outline regular.bare subtree (s.ancestors p)
    have places := places_same outline (fun _ => rfl) (fun _ => rfl) fun _ => rfl
    have unchanged := ancestors_same regular.forest places
    have regular' := regular_same_outline regular outline
    have inside' := (places.parent v).trans inside
    rw [left]
    refine ⟨regular_unlinked regular' p v inside', fun h item member => ?_⟩
    rw [constraints_same (unlinked_content _ p v) (fun _ => rfl), dropped h] at member
    have held : item ∈ s.constraints h := by
      split at member
      · exact (List.mem_filter.mp member).1
      · exact member
    -- A record between the part that leaves and what stays was held around both, and what is held there was just filtered.
    apply anchored_parted regular'.forest p v (unlinked_parted p v inside') subtree
    · intro x
      rw [unchanged x]
      exact walk_mem_iff regular.forest v subtree walked x
    · exact anchored_same_places regular.forest places h item (settled.anchored h item held)
    · intro around
      rw [unchanged p] at around
      rw [if_pos around] at member
      simpa using (List.mem_filter.mp member).2

theorem attach_settled (settled : Settled s) (p c : ViewId) (known : p < s.views.length)
    (knownToo : c < s.views.length) : Settled (s.attach p c).2 := by
  have regular := attach_regular settled.regular p c known knownToo
  have detached := detach_settled settled c
  rcases attach_cases settled.regular p c with ⟨_, refused⟩ | ⟨outside, ⟨done, linked⟩ | ⟨_, _, stopped⟩⟩
  · rw [refused]
    exact settled
  -- Once it is detached, the view is a root, and what is left of the move joins two trees.
  · have joined := detach_joined settled.regular p c known knownToo outside done
    rw [linked] at regular ⊢
    refine ⟨regular, fun h item member => ?_⟩
    rw [constraints_same (linked_content _ p c) (fun _ => rfl)] at member
    exact anchored_joined detached.regular.forest p c joined h item (detached.anchored h item member)
  · rw [stopped]
    exact detached

theorem grown_settled (settled : Settled s) (view : View) (fresh : Fresh view) :
    Settled (s.grown view) :=
  settled_same_places settled (grown_regular settled.regular view fresh) (grown_places s view fresh)
    fun h _ member => grown_constraints s view fresh h ▸ member

theorem construct_settled (settled : Settled s) (options : ViewOptions)
    (known : ∀ p, options.parent = .view p → p < s.views.length) : Settled (s.construct options).2 := by
  rcases construct_cases s options with ⟨_, refused⟩ | ⟨view, _, fresh, ⟨_, alone⟩ | ⟨p, inside, attached⟩⟩
  · rw [refused]
    exact settled
  · rw [alone]
    exact grown_settled settled view fresh
  · have count := grown_count s view
    rw [attached]
    exact attach_settled (grown_settled settled view fresh) p s.views.length
      (count ▸ Nat.lt_succ_of_lt (known p inside)) (count ▸ Nat.lt_succ_self s.views.length)

theorem remove_constraint_fewer (bare : ∀ v, s.givenConstraints v = none) (v : ViewId) (record : Value)
    (removed : s.removeConstraint v record = .ok t) (h : ViewId) (item : Value) (member : item ∈ t.constraints h) :
    item ∈ s.constraints h := by
  unfold removeConstraint at removed
  rw [bare v] at removed
  obtain ⟨position, _, removed⟩ := (Fallible.bind_ok_iff _ _ _).mp removed
  split at removed
  · rename_i i _
    rw [← Except.ok.inj removed, constraints, modify, List.getElem?_modify] at member
    by_cases here : v = h
    · subst here
      cases found : s.views[v]? with
      | none => simp [found] at member
      | some view =>
          have erased : item ∈ view.constraints.eraseIdx i := by simpa [found] using member
          simpa [constraints, found] using List.mem_of_mem_eraseIdx erased
    · simpa [here, constraints] using member
  · simp at removed

theorem settled_same_core (settled : Settled s) (same : SameUpTo View.core s t) : Settled t :=
  settled_same_places settled (regular_same_core settled.regular same)
    (places_same same (fun _ => rfl) (fun _ => rfl) fun _ => rfl)
    fun h _ member => constraints_same same (fun _ => rfl) h ▸ member

theorem run_settled (settled : Settled s) (act : Act) (may : act.Compiled s) : Settled (act.run s).2 := by
  cases act with
  | construct options => exact construct_settled settled options may.1
  | addSubview p child =>
      rcases add_subview_scene (s := s) p child with same | ⟨c, joined, attached⟩
      · rw [Act.run, silent, same]
        exact settled
      · rw [Act.run, silent, attached]
        exact attach_settled settled p c may.1.1 (may.1.2 c joined)
  | detach v => exact detach_settled settled v
  | assign v accessor value => exact submit_compiled_settled settled _ _ (assigned_placed v accessor value)
  | activate relationships sink config => exact activate_settled settled relationships sink config
  | within length low high sink => exact within_settled settled length low high sink
  | submit pending sink => exact absurd may.2 id
  | register sink record anchor => exact absurd may.2 id
  | addConstraint v record => exact absurd may.2 id
  | removeConstraint v record =>
      refine changed_keeps settled _ fun t removed => ?_
      have outline := remove_constraint_outline v record removed
      exact settled_same_places settled (regular_same_outline settled.regular outline)
        (places_same outline (fun _ => rfl) (fun _ => rfl) fun _ => rfl)
        (remove_constraint_fewer settled.regular.bare v record removed)
  | setPriority _ _ _ _ | sendPriority _ _ _ _ _ | resist _ _ _ _ | setField _ _ _ | makeRecording | clear _ | keep _ =>
      exact settled_same_core settled (apart_core _ may.1 trivial)

theorem settled_of_reached (reached : Reached Act.Compiled s) : Settled s := by
  induction reached with
  | empty => exact ⟨regular_empty, fun h item member => absurd member (by simp [constraints, empty])⟩
  | step s act _ may ih => exact run_settled ih act may

theorem common_ancestor_of_nearest (forest : Forest s) (a b h : ViewId) (near : Nearest s a b h) :
    s.commonAncestor (.view a) (.view b) = .ok (.view h) := by
  rw [common_ancestor_between, (common_ancestor_nearest forest a b h).mpr near]

/-- Every record that a view holds is about that view alone, or about two views of one tree of which that view is the
nearest common ancestor as the tree is now. -/
theorem records_stay_anchored (s : Scene) (reached : Reached Act.Compiled s) (h : ViewId) (item : Value)
    (held : item ∈ s.constraints h) :
    ∃ mark r, item = .record mark r ∧ (r.object = .none → r.subject = .view h) ∧
      (r.object ≠ .none → ∃ a b, r.subject = .view a ∧ r.object = .view b ∧ s.root a = s.root b ∧
        s.commonAncestor r.subject r.object = .ok (.view h)) := by
  have settled := settled_of_reached reached
  have forest := settled.regular.forest
  obtain ⟨mark, r, same, ⟨none, here⟩ | ⟨a, b, first, second, near⟩⟩ := settled.anchored h item held
  · exact ⟨mark, r, same, fun _ => here, fun some => absurd none some⟩
  · refine ⟨mark, r, same, fun none => ?_, fun _ => ⟨a, b, first, second, nearest_same_root forest a b h near, ?_⟩⟩
    · rw [second] at none
      exact Value.noConfusion none
    · rw [first, second]
      exact common_ancestor_of_nearest forest a b h near

-- A scene in which a view was related to the one around it and to the root, before both were moved to another tree.
def carriedAway : Scene :=
  [.construct {}, .construct { parent := .view 0 }, .construct { parent := .view 1 },
    .assign 2 (.length .width) ((Accessor.length .width).read (.view 1)),
    .assign 2 (.line .top) ((Accessor.line .top).read (.view 0)), .construct {}, .addSubview 3 (.view 1)].foldl
    (fun s act => (Act.run s act).2) .empty

theorem carried_away_anchored :
    Reached Act.Compiled carriedAway ∧ (carriedAway.constraints 0).length = 0 ∧
      ∃ item ∈ carriedAway.constraints 1, ∃ mark r, item = .record mark r ∧ (r.object = .none → r.subject = .view 1) ∧
        (r.object ≠ .none → ∃ a b, r.subject = .view a ∧ r.object = .view b ∧ carriedAway.root a = carriedAway.root b ∧
          carriedAway.commonAncestor r.subject r.object = .ok (.view 1)) := by
  have reached : Reached Act.Compiled carriedAway := by
    refine .step _ (.addSubview 3 (.view 1)) (.step _ (.construct {}) (.step _ (.assign 2 (.line .top) _)
      (.step _ (.assign 2 (.length .width) _) (.step _ (.construct { parent := .view 1 })
        (.step _ (.construct { parent := .view 0 }) (.step _ (.construct {}) .empty ⟨?_, trivial⟩) ⟨?_, trivial⟩)
          ⟨?_, trivial⟩) ⟨trivial, trivial⟩) ⟨trivial, trivial⟩) ⟨?_, trivial⟩) ⟨⟨by decide +kernel, ?_⟩, trivial⟩
    all_goals
      rintro p ⟨⟩
      try decide +kernel
  have one : 0 < (carriedAway.constraints 1).length := by decide +kernel
  have held := List.getElem_mem one
  exact ⟨reached, by decide +kernel, _, held, records_stay_anchored carriedAway reached 1 _ held⟩

end Scene

end LayoutAlgebra
