import LayoutAlgebra.Scene.Tree
import Mathlib.Data.List.Infix
import Mathlib.Data.List.Nodup
import Mathlib.Data.List.Perm.Subperm
import Mathlib.Logic.Relation
set_option autoImplicit false

/-!
Chains of ancestors in a well-formed forest. A chain goes from a view to its root without any bound on its length; the
ancestors that a scene computes within a bound are that chain, so whatever holds of chains holds of them.
-/
namespace LayoutAlgebra.Scene

inductive Chain (s : Scene) : ViewId → List ViewId → Prop where
  | root (v : ViewId) (alone : s.parent v = none) : Chain s v [v]
  | step (v p : ViewId) (rest : List ViewId) (inside : s.parent v = some p) (above : Chain s p rest) :
      Chain s v (v :: rest)

-- `rooted` stands for the absence of cycles: a view on a cycle or below one has no chain.
structure Forest (s : Scene) : Prop where
  plain : ∀ v, s.givenChildren v = none
  listed : ∀ c p, (s.children p).count c = if s.parent c = some p then 1 else 0
  rooted : ∀ v, ∃ chain, Chain s v chain

theorem chain_head (s : Scene) (v : ViewId) (chain : List ViewId) (up : Chain s v chain) :
    ∃ rest, chain = v :: rest := by
  cases up with
  | root _ _ => exact ⟨[], rfl⟩
  | step _ _ rest _ _ => exact ⟨rest, rfl⟩

theorem chain_unique (s : Scene) (v : ViewId) (first second : List ViewId) (up : Chain s v first)
    (again : Chain s v second) : first = second := by
  induction up generalizing second with
  | root v alone =>
      cases again with
      | root _ _ => rfl
      | step _ p _ inside _ => simp [alone] at inside
  | step v p rest inside _ ih =>
      cases again with
      | root _ alone => simp [alone] at inside
      | step _ q other insideToo above =>
          have same : q = p := Option.some.inj (insideToo.symm.trans inside)
          subst same
          rw [ih other above]

theorem chain_suffix (s : Scene) (v w : ViewId) (chain : List ViewId) (up : Chain s v chain) (member : w ∈ chain) :
    ∃ rest, Chain s w rest ∧ rest <:+ chain := by
  induction up with
  | root v alone =>
      have same : w = v := by simpa using member
      exact ⟨[v], same ▸ .root v alone, List.suffix_rfl⟩
  | step v p rest inside above ih =>
      rcases List.mem_cons.mp member with same | later
      · exact ⟨v :: rest, same ▸ .step v p rest inside above, List.suffix_rfl⟩
      · obtain ⟨tail, upTail, suffix⟩ := ih later
        exact ⟨tail, upTail, suffix.trans (List.suffix_cons v rest)⟩

theorem chain_nodup (s : Scene) (v : ViewId) (chain : List ViewId) (up : Chain s v chain) : chain.Nodup := by
  induction up with
  | root v _ => simp
  | step v p rest inside above ih =>
      -- A view that came again above itself would have its whole chain as a proper part of that chain.
      refine List.nodup_cons.mpr ⟨fun again => ?_, ih⟩
      obtain ⟨tail, upTail, suffix⟩ := chain_suffix s p v rest above again
      have same := chain_unique s v tail (v :: rest) upTail (.step v p rest inside above)
      have shorter := suffix.length_le
      rw [same, List.length_cons] at shorter
      omega

theorem parent_bound (s : Scene) (v p : ViewId) (inside : s.parent v = some p) : v < s.views.length := by
  by_cases bound : v < s.views.length
  · exact bound
  · simp [parent, List.getElem?_eq_none (Nat.le_of_not_gt bound)] at inside

theorem children_bound (s : Scene) (p c : ViewId) (child : c ∈ s.children p) : p < s.views.length := by
  by_cases bound : p < s.views.length
  · exact bound
  · simp [children, List.getElem?_eq_none (Nat.le_of_not_gt bound)] at child

theorem self_mem_ancestors (s : Scene) (v : ViewId) : v ∈ s.ancestors v := by
  unfold ancestors
  cases s.views.length with
  | zero => simp [climb]
  | succ steps =>
      rw [climb]
      split <;> simp

section

variable {s : Scene}

theorem forest_child_iff (forest : Forest s) (c p : ViewId) : c ∈ s.children p ↔ s.parent c = some p := by
  rw [← List.count_pos_iff, forest.listed c p]
  by_cases inside : s.parent c = some p <;> simp [inside]

theorem children_nodup (forest : Forest s) (p : ViewId) : (s.children p).Nodup := by
  rw [List.nodup_iff_count_le_one]
  intro c
  rw [forest.listed c p]
  split <;> omega

theorem forest_parent_bound (forest : Forest s) (v p : ViewId) (inside : s.parent v = some p) :
    p < s.views.length :=
  children_bound s p v ((forest_child_iff forest v p).mpr inside)

theorem chain_bound (forest : Forest s) (v : ViewId) (chain : List ViewId) (up : Chain s v chain)
    (known : v < s.views.length) : ∀ w ∈ chain, w < s.views.length := by
  induction up with
  | root v _ => simpa using known
  | step v p rest inside _ ih =>
      intro w member
      rcases List.mem_cons.mp member with same | later
      · exact same ▸ known
      · exact ih (forest_parent_bound forest v p inside) w later

theorem chain_length (forest : Forest s) (v : ViewId) (chain : List ViewId) (up : Chain s v chain)
    (known : v < s.views.length) : chain.length ≤ s.views.length := by
  have among : chain ⊆ List.range s.views.length := fun w member =>
    List.mem_range.mpr (chain_bound forest v chain up known w member)
  simpa using ((chain_nodup s v chain up).subperm among).length_le

theorem climb_chain (v : ViewId) (chain : List ViewId) (up : Chain s v chain) (steps : Nat)
    (enough : chain.length ≤ steps + 1) : s.climb steps v = chain := by
  induction up generalizing steps with
  | root v alone => cases steps <;> simp [climb, alone]
  | step v p rest inside above ih =>
      obtain ⟨tail, rfl⟩ := chain_head s p rest above
      cases steps with
      | zero => simp at enough
      | succ steps =>
          rw [List.length_cons] at enough
          simp only [climb, inside, ih steps (by omega)]

theorem ancestors_chain (forest : Forest s) (v : ViewId) : Chain s v (s.ancestors v) := by
  obtain ⟨chain, up⟩ := forest.rooted v
  -- A view that the scene does not know has no parent, so the bound is enough for it as well.
  have enough : chain.length ≤ s.views.length + 1 := by
    by_cases known : v < s.views.length
    · exact Nat.le_succ_of_le (chain_length forest v chain up known)
    · cases up with
      | root _ _ => simp
      | step _ p _ inside _ => exact absurd (parent_bound s v p inside) known
  rw [ancestors, climb_chain v chain up s.views.length enough]
  exact up

theorem ancestors_eq (forest : Forest s) (v : ViewId) (chain : List ViewId) (up : Chain s v chain) :
    s.ancestors v = chain :=
  chain_unique s v _ _ (ancestors_chain forest v) up

theorem ancestors_root (forest : Forest s) (v : ViewId) (alone : s.parent v = none) : s.ancestors v = [v] :=
  ancestors_eq forest v [v] (.root v alone)

theorem ancestors_child (forest : Forest s) (v p : ViewId) (inside : s.parent v = some p) :
    s.ancestors v = v :: s.ancestors p :=
  ancestors_eq forest v _ (.step v p _ inside (ancestors_chain forest p))

@[elab_as_elim]
theorem forest_induction (forest : Forest s) {motive : ViewId → Prop}
    (root : ∀ v, s.parent v = none → motive v) (child : ∀ v p, s.parent v = some p → motive p → motive v)
    (v : ViewId) : motive v := by
  obtain ⟨chain, up⟩ := forest.rooted v
  induction up with
  | root v alone => exact root v alone
  | step v p _ inside _ ih => exact child v p inside ih

theorem ancestors_suffix (forest : Forest s) (v a : ViewId) (above : a ∈ s.ancestors v) :
    s.ancestors a <:+ s.ancestors v := by
  obtain ⟨rest, up, suffix⟩ := chain_suffix s v a _ (ancestors_chain forest v) above
  rwa [ancestors_eq forest a rest up]

theorem ancestors_trans (forest : Forest s) (v a b : ViewId) (above : a ∈ s.ancestors v) (higher : b ∈ s.ancestors a) :
    b ∈ s.ancestors v :=
  (ancestors_suffix forest v a above).subset higher

theorem ancestors_total (forest : Forest s) (v a b : ViewId) (above : a ∈ s.ancestors v) (aboveToo : b ∈ s.ancestors v) :
    a ∈ s.ancestors b ∨ b ∈ s.ancestors a := by
  rcases List.suffix_or_suffix_of_suffix (ancestors_suffix forest v a above) (ancestors_suffix forest v b aboveToo)
    with first | second
  · exact .inl (first.subset (self_mem_ancestors s a))
  · exact .inr (second.subset (self_mem_ancestors s b))

theorem parent_not_inside (forest : Forest s) (v p : ViewId) (inside : s.parent v = some p) : v ∉ s.ancestors p := by
  have distinct := chain_nodup s v _ (ancestors_chain forest v)
  rw [ancestors_child forest v p inside] at distinct
  exact (List.nodup_cons.mp distinct).1

theorem ancestors_antisymm (forest : Forest s) (a b : ViewId) (above : a ∈ s.ancestors b) (below : b ∈ s.ancestors a) :
    a = b := by
  have same := (ancestors_suffix forest b a above).eq_of_length_le (ancestors_suffix forest a b below).length_le
  obtain ⟨rest, first⟩ := chain_head s a _ (ancestors_chain forest a)
  obtain ⟨other, second⟩ := chain_head s b _ (ancestors_chain forest b)
  rw [first, second] at same
  exact (List.cons.inj same).1

theorem forest_acyclic (forest : Forest s) (v : ViewId) :
    ¬ Relation.TransGen (fun c p => s.parent c = some p) v v := by
  have climbs : ∀ a b, Relation.TransGen (fun c p => s.parent c = some p) a b →
      ∃ p, s.parent a = some p ∧ b ∈ s.ancestors p := by
    intro a b path
    induction path using Relation.TransGen.head_induction_on with
    | single inside => exact ⟨b, inside, self_mem_ancestors s b⟩
    | @head c p inside _ ih =>
        obtain ⟨q, higher, member⟩ := ih
        refine ⟨p, inside, ?_⟩
        rw [ancestors_child forest p q higher]
        exact List.mem_cons_of_mem p member
  intro path
  obtain ⟨p, inside, member⟩ := climbs v v path
  exact parent_not_inside forest v p inside member

end

def root (s : Scene) (v : ViewId) : ViewId := (s.ancestors v).getLastD v

theorem root_of_ancestor {s : Scene} (forest : Forest s) (v a : ViewId) (above : a ∈ s.ancestors v) :
    s.root a = s.root v := by
  obtain ⟨below, split⟩ := ancestors_suffix forest v a above
  obtain ⟨rest, first⟩ := chain_head s a _ (ancestors_chain forest a)
  have last : (s.ancestors v).getLast? = (s.ancestors a).getLast? := by
    rw [← split, first, List.getLast?_append_of_ne_nil below (List.cons_ne_nil a rest)]
  obtain ⟨other, second⟩ := chain_head s v _ (ancestors_chain forest v)
  rw [root, root, List.getLastD_eq_getLast?, List.getLastD_eq_getLast?, last, first]
  simp [List.getLast?_cons]

end LayoutAlgebra.Scene
