import LayoutAlgebra.Proofs.Forest.Chain
set_option autoImplicit false

namespace LayoutAlgebra.Scene

variable {s t : Scene}

structure SamePlaces (s t : Scene) : Prop where
  parent : ∀ x, t.parent x = s.parent x
  children : ∀ x, t.children x = s.children x
  given : ∀ x, t.givenChildren x = s.givenChildren x

structure Parted (s t : Scene) (p v : ViewId) : Prop where
  inside : s.parent v = some p
  parent : ∀ x, t.parent x = if x = v then none else s.parent x
  children : ∀ x, t.children x = if x = p then (s.children x).erase v else s.children x
  given : ∀ x, t.givenChildren x = s.givenChildren x

structure Joined (s t : Scene) (p c : ViewId) : Prop where
  alone : s.parent c = none
  outside : c ∉ s.ancestors p
  parent : ∀ x, t.parent x = if x = c then some p else s.parent x
  children : ∀ x, t.children x = if x = p then s.children x ++ [c] else s.children x
  given : ∀ x, t.givenChildren x = s.givenChildren x

def AlikeBut (c : ViewId) (s t : Scene) : Prop := ∀ x, x ≠ c → t.parent x = s.parent x

theorem alike_but_symm (c : ViewId) (alike : AlikeBut c s t) : AlikeBut c t s := fun x other => (alike x other).symm

theorem chain_elsewhere (c : ViewId) (alike : AlikeBut c s t) (x : ViewId) (chain : List ViewId)
    (up : Chain s x chain) (elsewhere : c ∉ chain) : Chain t x chain := by
  induction up with
  | root x alone =>
      have other : x ≠ c := fun same => elsewhere (by simp [same])
      exact .root x ((alike x other).trans alone)
  | step x p rest inside _ ih =>
      rw [List.mem_cons, not_or] at elsewhere
      exact .step x p rest ((alike x (Ne.symm elsewhere.1)).trans inside) (ih elsewhere.2)

theorem ancestors_elsewhere (forest : Forest s) (after : Forest t) (c : ViewId) (alike : AlikeBut c s t) (x : ViewId)
    (outside : c ∉ s.ancestors x) : t.ancestors x = s.ancestors x :=
  ancestors_eq after x _ (chain_elsewhere c alike x _ (ancestors_chain forest x) outside)

theorem inside_alike (forest : Forest s) (after : Forest t) (c : ViewId) (alike : AlikeBut c s t) (x : ViewId) :
    c ∈ t.ancestors x ↔ c ∈ s.ancestors x := by
  constructor
  · intro within
    by_contra outside
    exact outside (ancestors_elsewhere forest after c alike x outside ▸ within)
  · intro within
    by_contra outside
    exact outside (ancestors_elsewhere after forest c (alike_but_symm c alike) x outside ▸ within)

theorem ancestors_within (forest : Forest s) (after : Forest t) (c : ViewId) (alike : AlikeBut c s t) (x w : ViewId)
    (within : c ∈ s.ancestors x) (withinToo : c ∈ s.ancestors w) : w ∈ t.ancestors x ↔ w ∈ s.ancestors x := by
  have top : ∀ {u : Scene}, Forest u → c ∈ u.ancestors w → (w ∈ u.ancestors c ↔ w = c) := fun {u} forest below =>
    ⟨fun above => ancestors_antisymm forest w c above below, fun same => same ▸ self_mem_ancestors u w⟩
  have here : w ∈ t.ancestors c ↔ w ∈ s.ancestors c := by
    rw [top after ((inside_alike forest after c alike w).mpr withinToo), top forest withinToo]
  induction x using forest_induction forest with
  | root x alone =>
      rw [ancestors_root forest x alone, List.mem_singleton] at within
      exact within ▸ here
  | child x q inside ih =>
      by_cases same : x = c
      · exact same ▸ here
      · have inside' := (alike x same).trans inside
        rw [ancestors_child forest x q inside] at within ⊢
        have above : w ∈ t.ancestors q ↔ w ∈ s.ancestors q := ih ((List.mem_cons.mp within).resolve_left (Ne.symm same))
        rw [ancestors_child after x q inside', List.mem_cons, List.mem_cons, above]

theorem chain_same (same : SamePlaces s t) (x : ViewId) (chain : List ViewId) (up : Chain s x chain) :
    Chain t x chain := by
  induction up with
  | root x alone => exact .root x ((same.parent x).trans alone)
  | step x p rest inside _ ih => exact .step x p rest ((same.parent x).trans inside) ih

theorem forest_same (forest : Forest s) (same : SamePlaces s t) : Forest t where
  plain x := (same.given x).trans (forest.plain x)
  listed c p := by rw [same.children p, same.parent c, forest.listed c p]
  rooted x := by
    obtain ⟨chain, up⟩ := forest.rooted x
    exact ⟨chain, chain_same same x chain up⟩

theorem ancestors_same (forest : Forest s) (same : SamePlaces s t) (x : ViewId) : t.ancestors x = s.ancestors x :=
  ancestors_eq (forest_same forest same) x _ (chain_same same x _ (ancestors_chain forest x))

theorem common_ancestor_same (forest : Forest s) (same : SamePlaces s t) (a b : Value) :
    t.commonAncestor a b = s.commonAncestor a b := by
  simp only [commonAncestor, commonAncestor?, ancestors_same forest same]

theorem parted_alike (p v : ViewId) (parted : Parted s t p v) : AlikeBut v s t := fun x other => by
  rw [parted.parent x, if_neg other]

theorem parted_listed (forest : Forest s) (p v : ViewId) (parted : Parted s t p v) (c x : ViewId) :
    (t.children x).count c = if t.parent c = some x then 1 else 0 := by
  have before := forest.listed c x
  rw [parted.children x, parted.parent c]
  by_cases here : x = p
  · subst here
    rw [if_pos rfl, List.count_erase, before]
    by_cases same : c = v
    · subst same
      simp [parted.inside]
    · simp [same, Ne.symm same]
  · rw [if_neg here, before]
    by_cases same : c = v
    · subst same
      simp [parted.inside, Ne.symm here]
    · simp [same]

theorem parted_rooted (forest : Forest s) (p v : ViewId) (parted : Parted s t p v) (x : ViewId) :
    ∃ chain, Chain t x chain := by
  induction x using forest_induction forest with
  | root x alone => exact ⟨[x], .root x (by simp [parted.parent x, alone])⟩
  | child x q inside ih =>
      by_cases same : x = v
      · exact ⟨[x], .root x (by rw [parted.parent x, if_pos same])⟩
      · obtain ⟨chain, up⟩ := ih
        exact ⟨x :: chain, .step x q chain (by simp [parted.parent x, same, inside]) up⟩

theorem forest_parted (forest : Forest s) (p v : ViewId) (parted : Parted s t p v) : Forest t where
  plain x := (parted.given x).trans (forest.plain x)
  listed := parted_listed forest p v parted
  rooted := parted_rooted forest p v parted

theorem joined_listed (forest : Forest s) (p c : ViewId) (joined : Joined s t p c) (d x : ViewId) :
    (t.children x).count d = if t.parent d = some x then 1 else 0 := by
  have before := forest.listed d x
  rw [joined.children x, joined.parent d]
  by_cases here : x = p
  · subst here
    rw [if_pos rfl, List.count_append, before]
    by_cases same : d = c
    · subst same
      simp [joined.alone]
    · simp [same, Ne.symm same]
  · rw [if_neg here, before]
    by_cases same : d = c
    · subst same
      simp [joined.alone, Ne.symm here]
    · simp [same]

theorem joined_alike (p c : ViewId) (joined : Joined s t p c) : AlikeBut c s t := fun x other => by
  rw [joined.parent x, if_neg other]

theorem joined_rooted (forest : Forest s) (p c : ViewId) (joined : Joined s t p c) (x : ViewId) :
    ∃ chain, Chain t x chain := by
  -- The way up from the new place does not come through the part that comes in, so it stays as it was.
  have around := chain_elsewhere c (joined_alike p c joined) p _ (ancestors_chain forest p) joined.outside
  induction x using forest_induction forest with
  | root x alone =>
      by_cases same : x = c
      · exact ⟨x :: s.ancestors p, .step x p _ (by rw [joined.parent x, if_pos same]) around⟩
      · exact ⟨[x], .root x (by simp [joined.parent x, same, alone])⟩
  | child x q inside ih =>
      have other : x ≠ c := fun same => by simp [same, joined.alone] at inside
      obtain ⟨chain, up⟩ := ih
      exact ⟨x :: chain, .step x q chain (by simp [joined.parent x, other, inside]) up⟩

theorem forest_joined (forest : Forest s) (p c : ViewId) (joined : Joined s t p c) : Forest t where
  plain x := (joined.given x).trans (forest.plain x)
  listed := joined_listed forest p c joined
  rooted := joined_rooted forest p c joined

end LayoutAlgebra.Scene
