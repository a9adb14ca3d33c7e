import LayoutAlgebra.Proofs.CommonAncestor
set_option autoImplicit false

namespace LayoutAlgebra.Scene

variable {s : Scene}

@[elab_as_elim]
theorem descent_induction (forest : Forest s) {motive : ViewId → Prop}
    (step : ∀ v, (∀ c ∈ s.children v, motive c) → motive v) (v : ViewId) : motive v := by
  -- The chain of a child is longer by one, and no chain is longer than the scene has views.
  induction room : s.views.length - (s.ancestors v).length using Nat.strong_induction_on generalizing v with
  | _ room ih =>
      subst room
      apply step v
      intro c child
      have inside := (forest_child_iff forest c v).mp child
      have bound := chain_length forest c _ (ancestors_chain forest c) (parent_bound s c v inside)
      have longer := ancestors_child forest c v inside
      refine ih _ ?_ c rfl
      rw [longer, List.length_cons] at bound ⊢
      omega

theorem descend_more (forest : Forest s) (steps : Nat) (v : ViewId) (below : List ViewId)
    (descended : s.descend steps v = .ok below) : s.descend (steps + 1) v = .ok below := by
  induction steps generalizing v below with
  | zero => cases descended
  | succ steps ih =>
      rw [descend_step forest, Fallible.bind_ok_iff] at descended ⊢
      obtain ⟨parts, mapped, same⟩ := descended
      rw [Fallible.mapM_ok_iff] at mapped
      exact ⟨parts, (Fallible.mapM_ok_iff _ _ _).mpr (mapped.imp fun c part => ih c part), same⟩

theorem descend_walk (forest : Forest s) (steps : Nat) (v : ViewId) (below : List ViewId) (known : v < s.views.length)
    (descended : s.descend steps v = .ok below) : s.walk v = .ok below := by
  have grows : ∀ (m n : Nat) (part : List ViewId), m ≤ n → s.descend m v = .ok part → s.descend n v = .ok part := by
    intro m n part fewer done
    induction n, fewer using Nat.le_induction with
    | base => exact done
    | succ n _ ih => exact descend_more forest n v part ih
  obtain ⟨other, walked⟩ := walk_ends forest v known
  have first := grows steps (max steps s.views.length) below (Nat.le_max_left _ _) descended
  have second := grows s.views.length (max steps s.views.length) other (Nat.le_max_right _ _) walked
  rw [walked, Except.ok.inj (second.symm.trans first)]

theorem child_known (forest : Forest s) (v c : ViewId) (child : c ∈ s.children v) : c < s.views.length :=
  parent_bound s c v ((forest_child_iff forest c v).mp child)

def subtree (s : Scene) (v : ViewId) : List ViewId := (s.walk v).toOption.getD []

theorem walk_subtree (forest : Forest s) (v : ViewId) (known : v < s.views.length) : s.walk v = .ok (s.subtree v) := by
  obtain ⟨below, walked⟩ := walk_ends forest v known
  rw [subtree, walked]
  rfl

theorem subtree_mem_iff (forest : Forest s) (v : ViewId) (known : v < s.views.length) (w : ViewId) :
    w ∈ s.subtree v ↔ v ∈ s.ancestors w :=
  walk_mem_iff forest v _ (walk_subtree forest v known) w

theorem subtree_parts (forest : Forest s) (v : ViewId) (known : v < s.views.length) :
    s.subtree v = v :: (s.children v).flatMap s.subtree := by
  obtain ⟨steps, count⟩ : ∃ steps, s.views.length = steps + 1 := Nat.exists_eq_add_one.mpr (Nat.zero_lt_of_lt known)
  have walked := walk_subtree forest v known
  rw [walk, count, descend_step forest, Fallible.bind_ok_iff] at walked
  obtain ⟨parts, mapped, same⟩ := walked
  have each : ∀ c ∈ s.children v, s.descend steps c = .ok (s.subtree c) := by
    intro c child
    obtain ⟨part, _, descended⟩ := Fallible.mapM_each _ _ _ mapped c child
    have known' := child_known forest v c child
    have walked := descend_walk forest steps c part known' descended
    rw [walk_subtree forest c known'] at walked
    rwa [Except.ok.inj walked]
  have blocks : (s.children v).mapM (s.descend steps) = .ok ((s.children v).map s.subtree) := by
    rw [Fallible.mapM_ok_iff, List.forall₂_map_right_iff, List.forall₂_same]
    exact each
  rw [← Except.ok.inj same, Except.ok.inj (mapped.symm.trans blocks), List.flatMap_def]

theorem siblings_apart (forest : Forest s) (p c d w : ViewId) (inside : s.parent c = some p)
    (insideToo : s.parent d = some p) (above : c ∈ s.ancestors w) (aboveToo : d ∈ s.ancestors w) : c = d := by
  have apart : ∀ x y, s.parent x = some p → s.parent y = some p → x ∈ s.ancestors y → x = y := by
    intro x y here there around
    rw [ancestors_child forest y p there, List.mem_cons] at around
    exact around.resolve_right (parent_not_inside forest x p here)
  rcases ancestors_total forest w c d above aboveToo with around | around
  · exact apart c d inside insideToo around
  · exact (apart d c insideToo inside around).symm

theorem subtree_nodup (forest : Forest s) (v : ViewId) (known : v < s.views.length) : (s.subtree v).Nodup := by
  induction v using descent_induction forest with
  | step v ih =>
      have inside := fun c => (forest_child_iff forest c v).mp
      have member : ∀ c ∈ s.children v, ∀ w, w ∈ s.subtree c ↔ c ∈ s.ancestors w := fun c child =>
        subtree_mem_iff forest c (child_known forest v c child)
      rw [subtree_parts forest v known, List.nodup_cons, List.nodup_flatMap]
      refine ⟨fun again => ?_, fun c child => ih c child (child_known forest v c child), ?_⟩
      · obtain ⟨c, child, found⟩ := List.mem_flatMap.mp again
        exact parent_not_inside forest c v (inside c child) ((member c child v).mp found)
      · refine (children_nodup forest v).imp_of_mem fun {c d} child childToo other w first second => other ?_
        exact siblings_apart forest v c d w (inside c child) (inside d childToo) ((member c child w).mp first)
          ((member d childToo w).mp second)

theorem subtree_together (forest : Forest s) (u : ViewId) (known : u < s.views.length) (v : ViewId)
    (member : v ∈ s.subtree u) : s.subtree v <:+: s.subtree u := by
  induction u using descent_induction forest with
  | step u ih =>
      rw [subtree_parts forest u known] at member
      rcases List.mem_cons.mp member with here | later
      · exact here ▸ List.infix_rfl
      · obtain ⟨c, child, found⟩ := List.mem_flatMap.mp later
        have block : s.subtree c <:+: (s.children u).flatMap s.subtree := by
          rw [List.flatMap_def]
          exact List.infix_of_mem_flatten (List.mem_map_of_mem child)
        rw [subtree_parts forest u known]
        exact (ih c child (child_known forest u c child) found).trans (block.trans (List.infix_cons List.infix_rfl))

theorem subtree_known (forest : Forest s) (u v : ViewId) (known : u < s.views.length) (member : v ∈ s.subtree u) :
    v < s.views.length := by
  have above := (subtree_mem_iff forest u known v).mp member
  by_cases alone : s.parent v = none
  · rw [ancestors_root forest v alone, List.mem_singleton] at above
    exact above ▸ known
  · obtain ⟨p, inside⟩ := Option.ne_none_iff_exists'.mp alone
    exact parent_bound s v p inside

theorem subtree_after_parent (forest : Forest s) (u v : ViewId) (known : u < s.views.length) (member : v ∈ s.subtree u)
    (other : v ≠ u) : ∃ p, s.parent v = some p ∧ List.Sublist [p, v] (s.subtree u) := by
  have above := (subtree_mem_iff forest u known v).mp member
  cases inside : s.parent v with
  | none =>
      rw [ancestors_root forest v inside, List.mem_singleton] at above
      exact absurd above.symm other
  | some p =>
      rw [ancestors_child forest v p inside, List.mem_cons] at above
      have around := (subtree_mem_iff forest u known p).mpr (above.resolve_left (Ne.symm other))
      have known' := subtree_known forest u p known around
      have child := (forest_child_iff forest v p).mpr inside
      have block : List.Sublist [p, v] (s.subtree p) := by
        rw [subtree_parts forest p known', List.cons_sublist_cons, List.singleton_sublist, List.mem_flatMap]
        exact ⟨v, child, (subtree_mem_iff forest v (child_known forest p v child) v).mpr (self_mem_ancestors s v)⟩
      exact ⟨p, rfl, block.trans (subtree_together forest u known p around).sublist⟩

theorem walk_blocks (forest : Forest s) (v : ViewId) :
    List.Forall₂ (fun c block => s.walk c = .ok block) (s.children v) ((s.children v).map s.subtree) := by
  rw [List.forall₂_map_right_iff, List.forall₂_same]
  intro c child
  exact walk_subtree forest c (child_known forest v c child)

/-- A walk from a view lists the view and then the walks from its children, in their order. The views that it lists are those
that have the view among their ancestors; each of them is listed once and after its parent, and the walk from it is one piece
of the list. -/
theorem walk_lists_inside (s : Scene) (reached : Reached Act.Known s) (u : ViewId) (known : u < s.views.length) :
    ∃ below, s.walk u = .ok below ∧
      (∀ v, v ∈ below ↔ u ∈ s.ancestors v) ∧
      below.Nodup ∧
      (∃ blocks, List.Forall₂ (fun c block => s.walk c = .ok block) (s.children u) blocks ∧ below = u :: blocks.flatten) ∧
      ∀ v ∈ below,
        (v ≠ u → ∃ p, s.parent v = some p ∧ List.Sublist [p, v] below) ∧ ∃ block, s.walk v = .ok block ∧ block <:+: below := by
  have forest := (regular_of_reached reached).forest
  refine ⟨s.subtree u, walk_subtree forest u known, subtree_mem_iff forest u known, subtree_nodup forest u known,
    ⟨_, walk_blocks forest u, ?_⟩, fun v member => ⟨subtree_after_parent forest u v known member, s.subtree v, ?_⟩⟩
  · rw [subtree_parts forest u known, List.flatMap_def]
  · exact ⟨walk_subtree forest v (subtree_known forest u v known member), subtree_together forest u known v member⟩

theorem grove_walked :
    Reached Act.Known grove ∧ 0 < grove.views.length ∧ ∃ below, grove.walk 0 = .ok below ∧ below = [0, 1, 2, 3] ∧
      3 ∈ below ∧ 4 ∉ below ∧ List.Sublist [1, 3] below ∧ ∃ block, grove.walk 1 = .ok block ∧ block <:+: below := by
  obtain ⟨below, walked, member, _, _, each⟩ := walk_lists_inside grove grove_reached 0 (by decide)
  have deep : 3 ∈ below := (member 3).mpr (by decide)
  obtain ⟨p, inside, after⟩ := (each 3 deep).1 (by decide)
  have parent : p = 1 := Option.some.inj (inside.symm.trans rfl)
  refine ⟨grove_reached, by decide, below, walked, Except.ok.inj (walked.symm.trans rfl), deep, fun apart => ?_,
    parent ▸ after, (each 1 ((member 1).mpr (by decide))).2⟩
  exact absurd ((member 4).mp apart) (by decide)

end LayoutAlgebra.Scene
