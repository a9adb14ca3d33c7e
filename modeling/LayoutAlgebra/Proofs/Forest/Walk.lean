import LayoutAlgebra.Proofs.Forest.Chain
import LayoutAlgebra.Proofs.Results
set_option autoImplicit false

namespace LayoutAlgebra.Scene

variable {s : Scene}

theorem descend_step (forest : Forest s) (steps : Nat) (v : ViewId) :
    s.descend (steps + 1) v = (do let below ← (s.children v).mapM (s.descend steps); return v :: below.flatten) := by
  simp only [descend, childItems, forest.plain v, Fallible.ok_bind, List.mapM_map]
  rfl

theorem descend_ends (forest : Forest s) (steps : Nat) (v : ViewId) (known : v < s.views.length)
    (enough : s.views.length < steps + (s.ancestors v).length) : ∃ below, s.descend steps v = .ok below := by
  induction steps generalizing v with
  | zero =>
      have bound := chain_length forest v _ (ancestors_chain forest v) known
      omega
  | succ steps ih =>
      have each : ∀ c ∈ s.children v, ∃ below, s.descend steps c = .ok below := by
        intro c child
        have inside := (forest_child_iff forest c v).mp child
        apply ih c (parent_bound s c v inside)
        rw [ancestors_child forest c v inside, List.length_cons]
        omega
      obtain ⟨below, descended⟩ := Fallible.mapM_ok (s.descend steps) (s.children v) each
      exact ⟨v :: below.flatten, by simp [descend_step forest, descended]⟩

theorem walk_ends (forest : Forest s) (v : ViewId) (known : v < s.views.length) : ∃ below, s.walk v = .ok below := by
  apply descend_ends forest s.views.length v known
  have here := List.length_pos_of_mem (self_mem_ancestors s v)
  omega

theorem ancestors_through_child (forest : Forest s) (w v : ViewId) (above : v ∈ s.ancestors w) :
    w = v ∨ ∃ c, s.parent c = some v ∧ c ∈ s.ancestors w := by
  induction w using forest_induction forest with
  | root w alone =>
      rw [ancestors_root forest w alone] at above
      exact .inl (List.mem_singleton.mp above).symm
  | child w p inside ih =>
      rw [ancestors_child forest w p inside] at above ⊢
      rcases List.mem_cons.mp above with same | higher
      · exact .inl same.symm
      · rcases ih higher with same | ⟨c, below, member⟩
        · exact .inr ⟨w, same ▸ inside, by simp⟩
        · exact .inr ⟨c, below, List.mem_cons_of_mem w member⟩

theorem descend_mem_iff (forest : Forest s) (steps : Nat) (v : ViewId) (below : List ViewId)
    (descended : s.descend steps v = .ok below) (w : ViewId) : w ∈ below ↔ v ∈ s.ancestors w := by
  -- The steps bound the depth: a step less is left for each child, whichever of them is walked first.
  induction steps generalizing v below with
  | zero => simp [descend] at descended
  | succ steps ih =>
      rw [descend_step forest, Fallible.bind_ok_iff] at descended
      obtain ⟨parts, mapped, same⟩ := descended
      rw [← Except.ok.inj same, List.mem_cons, List.mem_flatten]
      constructor
      · rintro (here | ⟨part, member, found⟩)
        · exact here ▸ self_mem_ancestors s w
        · obtain ⟨c, child, descended⟩ := Fallible.mapM_source _ _ _ mapped part member
          have inside := (forest_child_iff forest c v).mp child
          apply ancestors_trans forest w c v ((ih c part descended).mp found)
          rw [ancestors_child forest c v inside]
          exact List.mem_cons_of_mem c (self_mem_ancestors s v)
      · intro above
        rcases ancestors_through_child forest w v above with here | ⟨c, inside, member⟩
        · exact .inl here
        · have child := (forest_child_iff forest c v).mpr inside
          obtain ⟨part, found, descended⟩ := Fallible.mapM_each _ _ _ mapped c child
          exact .inr ⟨part, found, (ih c part descended).mpr member⟩

theorem walk_mem_iff (forest : Forest s) (v : ViewId) (below : List ViewId) (walked : s.walk v = .ok below)
    (w : ViewId) : w ∈ below ↔ v ∈ s.ancestors w :=
  descend_mem_iff forest s.views.length v below walked w

end LayoutAlgebra.Scene
