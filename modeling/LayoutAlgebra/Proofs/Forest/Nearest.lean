import LayoutAlgebra.Proofs.Forest.Move
set_option autoImplicit false

namespace LayoutAlgebra.Scene

variable {s t : Scene}

structure Nearest (s : Scene) (a b h : ViewId) : Prop where
  first : h ∈ s.ancestors a
  second : h ∈ s.ancestors b
  inmost : ∀ x, x ∈ s.ancestors a → x ∈ s.ancestors b → x ∈ s.ancestors h

theorem nearest_unique (forest : Forest s) (a b h k : ViewId) (near : Nearest s a b h) (again : Nearest s a b k) :
    h = k :=
  ancestors_antisymm forest h k (again.inmost h near.first near.second) (near.inmost k again.first again.second)

theorem nearest_same_root (forest : Forest s) (a b h : ViewId) (near : Nearest s a b h) : s.root a = s.root b :=
  (root_of_ancestor forest a h near.first).symm.trans (root_of_ancestor forest b h near.second)

theorem chain_find_inmost (v h : ViewId) (chain : List ViewId) (up : Chain s v chain) (test : ViewId → Bool)
    (found : chain.find? test = some h) (forest : Forest s) (x : ViewId) (member : x ∈ chain) (passes : test x = true) :
    x ∈ s.ancestors h := by
  induction up with
  | root v _ =>
      rw [List.mem_singleton] at member
      subst member
      simp only [List.find?_cons, passes, Option.some.injEq] at found
      exact found ▸ self_mem_ancestors s x
  | step v p rest inside above ih =>
      by_cases here : test v = true
      · simp only [List.find?_cons, here, Option.some.injEq] at found
        rw [← found, ancestors_eq forest v _ (.step v p rest inside above)]
        exact member
      · simp only [List.find?_cons, here] at found
        have later : x ∈ rest := by
          rcases List.mem_cons.mp member with same | later
          · exact absurd (same ▸ passes) here
          · exact later
        exact ih found later

theorem common_ancestor_nearest (forest : Forest s) (a b h : ViewId) :
    s.commonAncestor? a b = some h ↔ Nearest s a b h := by
  have nearest : ∀ k, s.commonAncestor? a b = some k → Nearest s a b k := by
    intro k found
    by_cases same : a = b
    · subst same
      have here : a = k := by simpa [commonAncestor?] using found
      subst here
      exact ⟨self_mem_ancestors s a, self_mem_ancestors _ a, fun x above _ => above⟩
    · simp only [commonAncestor?, if_neg same] at found
      refine ⟨?_, List.mem_of_find?_eq_some found, fun x above aboveToo => ?_⟩
      · simpa using List.find?_some found
      · exact chain_find_inmost b k _ (ancestors_chain forest b) _ found forest x aboveToo (by simpa using above)
  constructor
  · exact nearest h
  · intro near
    cases found : s.commonAncestor? a b with
    | some k => rw [nearest_unique forest a b k h (nearest k found) near]
    | none =>
        by_cases same : a = b
        · simp [commonAncestor?, same] at found
        · simp only [commonAncestor?, if_neg same, List.find?_eq_none] at found
          exact absurd (by simpa using near.first) (found h near.second)

theorem root_mem_ancestors (s : Scene) (v : ViewId) : s.root v ∈ s.ancestors v := by
  rw [root, List.getLastD_eq_getLast?]
  cases found : (s.ancestors v).getLast? with
  | none => exact self_mem_ancestors s v
  | some r => exact List.mem_of_getLast? found

theorem common_ancestor_none_iff (forest : Forest s) (a b : ViewId) :
    s.commonAncestor? a b = none ↔ s.root a ≠ s.root b := by
  cases found : s.commonAncestor? a b with
  | some h =>
      have near := (common_ancestor_nearest forest a b h).mp found
      exact iff_of_false nofun fun apart => apart (nearest_same_root forest a b h near)
  | none =>
      refine iff_of_true rfl fun same => ?_
      by_cases equal : a = b
      · simp [commonAncestor?, equal] at found
      · simp only [commonAncestor?, if_neg equal, List.find?_eq_none] at found
        have above := found (s.root b) (root_mem_ancestors s b)
        exact above (by simpa [← same] using root_mem_ancestors s a)

theorem nearest_same_places (forest : Forest s) (same : SamePlaces s t) (a b h : ViewId) (near : Nearest s a b h) :
    Nearest t a b h := by
  have unchanged := ancestors_same forest same
  exact ⟨by rw [unchanged a]; exact near.first, by rw [unchanged b]; exact near.second,
    fun x above aboveToo => by
      rw [unchanged] at above aboveToo ⊢
      exact near.inmost x above aboveToo⟩

theorem nearest_within (forest : Forest s) (after : Forest t) (c : ViewId) (alike : AlikeBut c s t) (a b h : ViewId)
    (first : c ∈ s.ancestors a) (second : c ∈ s.ancestors b) (near : Nearest s a b h) : Nearest t a b h := by
  have around := near.inmost c first second
  refine ⟨(ancestors_within forest after c alike a h first around).mpr near.first,
    (ancestors_within forest after c alike b h second around).mpr near.second, fun x above aboveToo => ?_⟩
  have below := inside_alike forest after c alike
  by_cases inner : c ∈ t.ancestors x
  · have inner' := (below x).mp inner
    exact (ancestors_within forest after c alike h x around inner').mpr
      (near.inmost x ((ancestors_within forest after c alike a x first inner').mp above)
        ((ancestors_within forest after c alike b x second inner').mp aboveToo))
  -- A view around the one that is moved is around all that is inside it.
  · have outer := (ancestors_total after a x c above ((below a).mpr first)).resolve_right inner
    exact ancestors_trans after h c x ((below h).mpr around) outer

theorem common_ancestor_within (forest : Forest s) (after : Forest t) (c : ViewId) (alike : AlikeBut c s t)
    (a b : ViewId) (first : c ∈ s.ancestors a) (second : c ∈ s.ancestors b) :
    t.commonAncestor? a b = s.commonAncestor? a b := by
  have below := inside_alike forest after c alike
  ext h
  rw [common_ancestor_nearest after, common_ancestor_nearest forest]
  exact ⟨nearest_within after forest c (alike_but_symm c alike) a b h ((below a).mpr first) ((below b).mpr second),
    nearest_within forest after c alike a b h first second⟩

theorem common_ancestor_elsewhere (forest : Forest s) (after : Forest t) (c : ViewId) (alike : AlikeBut c s t)
    (a b : ViewId) (first : c ∉ s.ancestors a) (second : c ∉ s.ancestors b) :
    t.commonAncestor? a b = s.commonAncestor? a b := by
  simp only [commonAncestor?, ancestors_elsewhere forest after c alike a first,
    ancestors_elsewhere forest after c alike b second]

theorem common_ancestor_alike (forest : Forest s) (after : Forest t) (c : ViewId) (alike : AlikeBut c s t)
    (a b : ViewId) (together : c ∈ s.ancestors a ↔ c ∈ s.ancestors b) :
    t.commonAncestor? a b = s.commonAncestor? a b := by
  by_cases within : c ∈ s.ancestors a
  · exact common_ancestor_within forest after c alike a b within (together.mp within)
  · exact common_ancestor_elsewhere forest after c alike a b within fun second => within (together.mpr second)

theorem nearest_alike (forest : Forest s) (after : Forest t) (c : ViewId) (alike : AlikeBut c s t) (a b h : ViewId)
    (together : c ∈ s.ancestors a ↔ c ∈ s.ancestors b) : Nearest t a b h ↔ Nearest s a b h := by
  rw [← common_ancestor_nearest after, ← common_ancestor_nearest forest,
    common_ancestor_alike forest after c alike a b together]

theorem common_ancestor_across (forest : Forest s) (c p x y : ViewId) (inside : s.parent c = some p)
    (within : c ∈ s.ancestors x) (outside : c ∉ s.ancestors y) : s.commonAncestor? x y = s.commonAncestor? p y := by
  have shared : ∀ w, w ∈ s.ancestors y → (w ∈ s.ancestors x ↔ w ∈ s.ancestors p) := by
    intro w aboveToo
    constructor
    · intro above
      have below : c ∉ s.ancestors w := fun higher => outside (ancestors_trans forest y w c aboveToo higher)
      have around := (ancestors_total forest x w c above within).resolve_right below
      rw [ancestors_child forest c p inside, List.mem_cons] at around
      exact around.resolve_left fun same => outside (same ▸ aboveToo)
    · intro above
      apply ancestors_trans forest x c w within
      rw [ancestors_child forest c p inside]
      exact List.mem_cons_of_mem c above
  ext h
  rw [common_ancestor_nearest forest, common_ancestor_nearest forest]
  constructor
  · intro near
    exact ⟨(shared h near.second).mp near.first, near.second, fun w above aboveToo =>
      near.inmost w ((shared w aboveToo).mpr above) aboveToo⟩
  · intro near
    exact ⟨(shared h near.second).mpr near.first, near.second, fun w above aboveToo =>
      near.inmost w ((shared w aboveToo).mp above) aboveToo⟩

theorem roots_apart (forest : Forest s) (c x y : ViewId) (alone : s.parent c = none) (within : c ∈ s.ancestors x)
    (outside : c ∉ s.ancestors y) : s.root x ≠ s.root y := by
  intro same
  have top : s.root c = c := by simp [root, ancestors_root forest c alone]
  have rooted := root_mem_ancestors s y
  rw [← same, ← root_of_ancestor forest x c within, top] at rooted
  exact outside rooted

theorem outside_of_part (forest : Forest s) (p v h a : ViewId) (inside : s.parent v = some p)
    (above : h ∈ s.ancestors a) (outside : v ∉ s.ancestors h) (apart : h ∉ s.ancestors p) : v ∉ s.ancestors a := by
  intro within
  rcases ancestors_total forest a v h within above with higher | around
  · exact outside higher
  · rw [ancestors_child forest v p inside, List.mem_cons] at around
    rcases around with same | higher
    · exact outside (same ▸ self_mem_ancestors s h)
    · exact apart higher

theorem nearest_parted (forest : Forest s) (p v : ViewId) (parted : Parted s t p v) (a b h : ViewId)
    (near : Nearest s a b h)
    (kept : h ∈ s.ancestors p → v ∉ s.ancestors a ∧ v ∉ s.ancestors b) : Nearest t a b h := by
  -- Either both views are inside the part that leaves, or neither is.
  have together : v ∈ s.ancestors a ↔ v ∈ s.ancestors b := by
    by_cases within : v ∈ s.ancestors h
    · exact iff_of_true (ancestors_trans forest a h v near.first within) (ancestors_trans forest b h v near.second within)
    · by_cases around : h ∈ s.ancestors p
      · exact iff_of_false (kept around).1 (kept around).2
      · exact iff_of_false (outside_of_part forest p v h a parted.inside near.first within around)
          (outside_of_part forest p v h b parted.inside near.second within around)
  exact (nearest_alike forest (forest_parted forest p v parted) v (parted_alike p v parted) a b h together).mpr near

theorem nearest_joined (forest : Forest s) (p c : ViewId) (joined : Joined s t p c) (a b h : ViewId)
    (near : Nearest s a b h) : Nearest t a b h := by
  have oneTree := nearest_same_root forest a b h near
  -- The part that comes in was a tree of its own, so it holds both views or neither.
  have together : c ∈ s.ancestors a ↔ c ∈ s.ancestors b := by
    constructor
    · intro within
      by_contra outside
      exact roots_apart forest c a b joined.alone within outside oneTree
    · intro within
      by_contra outside
      exact roots_apart forest c b a joined.alone within outside oneTree.symm
  exact (nearest_alike forest (forest_joined forest p c joined) c (joined_alike p c joined) a b h together).mpr near

end LayoutAlgebra.Scene
