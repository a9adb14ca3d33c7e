import LayoutAlgebra.Proofs.Forest.Nearest
import LayoutAlgebra.Proofs.History
import LayoutAlgebra.Proofs.Placement
import LayoutAlgebra.Proofs.Telling
set_option autoImplicit false

namespace LayoutAlgebra.Scene

variable {s : Scene}

theorem nearest_iff_shared (forest : Forest s) (a b h : ViewId) :
    Nearest s a b h ↔ ∀ x, x ∈ s.ancestors h ↔ x ∈ s.ancestors a ∧ x ∈ s.ancestors b := by
  constructor
  · intro near x
    exact ⟨fun above => ⟨ancestors_trans forest a h x near.first above, ancestors_trans forest b h x near.second above⟩,
      fun both => near.inmost x both.1 both.2⟩
  · intro shared
    have both := (shared h).mp (self_mem_ancestors s h)
    exact ⟨both.1, both.2, fun x first second => (shared x).mpr ⟨first, second⟩⟩

theorem nearest_comm (forest : Forest s) (a b h : ViewId) : Nearest s a b h ↔ Nearest s b a h := by
  simp only [nearest_iff_shared forest, and_comm]

theorem nearest_exists (forest : Forest s) (a b : ViewId) : (∃ h, Nearest s a b h) ↔ s.root a = s.root b := by
  cases found : s.commonAncestor? a b with
  | some h =>
      have near := (common_ancestor_nearest forest a b h).mp found
      exact iff_of_true ⟨h, near⟩ (nearest_same_root forest a b h near)
  | none =>
      have apart := (common_ancestor_none_iff forest a b).mp found
      exact iff_of_false (fun ⟨h, near⟩ => apart (nearest_same_root forest a b h near)) apart

theorem nearest_of_three (forest : Forest s) (a b c w : ViewId) :
    (∃ m, Nearest s a b m ∧ Nearest s m c w) ↔
      ∀ x, x ∈ s.ancestors w ↔ x ∈ s.ancestors a ∧ x ∈ s.ancestors b ∧ x ∈ s.ancestors c := by
  constructor
  · rintro ⟨m, near, nearToo⟩ x
    rw [(nearest_iff_shared forest m c w).mp nearToo x, (nearest_iff_shared forest a b m).mp near x, and_assoc]
  · intro shared
    obtain ⟨first, second, _⟩ := (shared w).mp (self_mem_ancestors s w)
    have oneTree : s.root a = s.root b :=
      (root_of_ancestor forest a w first).symm.trans (root_of_ancestor forest b w second)
    obtain ⟨m, near⟩ := (nearest_exists forest a b).mpr oneTree
    refine ⟨m, near, (nearest_iff_shared forest m c w).mpr fun x => ?_⟩
    rw [shared x, (nearest_iff_shared forest a b m).mp near x, and_assoc]

theorem nearest_assoc (forest : Forest s) (a b c w : ViewId) :
    (∃ m, Nearest s a b m ∧ Nearest s m c w) ↔ ∃ m, Nearest s b c m ∧ Nearest s a m w := by
  have turned : (∃ m, Nearest s b c m ∧ Nearest s a m w) ↔ ∃ m, Nearest s b c m ∧ Nearest s m a w := by
    simp only [nearest_comm forest a]
  rw [turned, nearest_of_three forest, nearest_of_three forest]
  refine forall_congr' fun x => iff_congr Iff.rfl ?_
  rw [and_comm, and_assoc]

theorem common_ancestor_ok_iff (forest : Forest s) (a b : ViewId) (w : Value) :
    s.commonAncestor (.view a) (.view b) = .ok w ↔ ∃ h, w = .view h ∧ Nearest s a b h := by
  rw [common_ancestor_between]
  simp only [← common_ancestor_nearest forest]
  cases s.commonAncestor? a b with
  | none => simp
  | some h => simp [eq_comm]

theorem common_ancestor_disjoint_iff (forest : Forest s) (a b : ViewId) :
    s.commonAncestor (.view a) (.view b) = .error (.disjoint (.view a) (.view b)) ↔ s.root a ≠ s.root b := by
  rw [common_ancestor_between, ← common_ancestor_none_iff forest]
  cases s.commonAncestor? a b <;> simp

def asked (s : Scene) (a b : ViewId) : Except Category Value := (s.commonAncestor (.view a) (.view b)).mapError s.raised

theorem asked_between (titled : s.Titled) (a b : ViewId) :
    s.asked a b =
      match s.commonAncestor? a b with
      | some w => .ok (.view w)
      | none => .error .disjoint := by
  rw [asked, common_ancestor_between]
  cases s.commonAncestor? a b with
  | some w => simp only [Except.mapError]
  | none => simp only [Except.mapError, raised_disjoint titled]

theorem asked_disjoint_iff (titled : s.Titled) (a b : ViewId) :
    s.asked a b = .error .disjoint ↔ s.commonAncestor (.view a) (.view b) = .error (.disjoint (.view a) (.view b)) := by
  rw [asked_between titled, common_ancestor_between]
  cases s.commonAncestor? a b <;> simp

theorem common_ancestor_then_iff (forest : Forest s) (a b : ViewId) (next : Value → Fallible Value) (w : Value) :
    (s.commonAncestor (.view a) (.view b) >>= next) = .ok w ↔ ∃ m, Nearest s a b m ∧ next (.view m) = .ok w := by
  simp only [Fallible.bind_ok_iff, common_ancestor_ok_iff forest]
  constructor
  · rintro ⟨_, ⟨m, rfl, near⟩, after⟩
    exact ⟨m, near, after⟩
  · rintro ⟨m, near, after⟩
    exact ⟨.view m, ⟨m, rfl, near⟩, after⟩

theorem common_ancestor_assoc (forest : Forest s) (a b c : ViewId) (w : Value) :
    (s.commonAncestor (.view a) (.view b) >>= fun m => s.commonAncestor m (.view c)) = .ok w ↔
      (s.commonAncestor (.view b) (.view c) >>= fun m => s.commonAncestor (.view a) m) = .ok w := by
  simp only [common_ancestor_then_iff forest, common_ancestor_ok_iff forest]
  constructor
  · rintro ⟨m, near, h, rfl, nearToo⟩
    obtain ⟨k, other, otherToo⟩ := (nearest_assoc forest a b c h).mp ⟨m, near, nearToo⟩
    exact ⟨k, other, h, rfl, otherToo⟩
  · rintro ⟨m, near, h, rfl, nearToo⟩
    obtain ⟨k, other, otherToo⟩ := (nearest_assoc forest a b c h).mpr ⟨m, near, nearToo⟩
    exact ⟨k, other, h, rfl, otherToo⟩

/-- Two views have a common ancestor exactly if they have the same root. It is the one among the ancestors of both that is
inside all others, it is the same whichever view is named first, it is a view itself if that contains the other, and of
three views it does not matter which two come first. Views of two trees are told to be disjoint. -/
theorem common_ancestor_is_nearest (s : Scene) (reached : Reached Act.Known s) (a b : ViewId) :
    ((∃ w, s.commonAncestor (.view a) (.view b) = .ok (.view w)) ↔ s.root a = s.root b) ∧
      (s.commonAncestor (.view a) (.view b) = .error (.disjoint (.view a) (.view b)) ↔ s.root a ≠ s.root b) ∧
      (s.Titled → (s.asked a b = .error .disjoint ↔ s.root a ≠ s.root b)) ∧
      (∀ w, s.commonAncestor (.view a) (.view b) = .ok (.view w) ↔
        w ∈ s.ancestors a ∧ w ∈ s.ancestors b ∧ ∀ x, x ∈ s.ancestors a → x ∈ s.ancestors b → x ∈ s.ancestors w) ∧
      (∀ w, s.commonAncestor (.view a) (.view b) = .ok w ↔ s.commonAncestor (.view b) (.view a) = .ok w) ∧
      (s.commonAncestor (.view a) (.view b) = .error (.disjoint (.view a) (.view b)) ↔
        s.commonAncestor (.view b) (.view a) = .error (.disjoint (.view b) (.view a))) ∧
      (a ∈ s.ancestors b → s.commonAncestor (.view a) (.view b) = .ok (.view a)) ∧
      ∀ c w, (s.commonAncestor (.view a) (.view b) >>= fun m => s.commonAncestor m (.view c)) = .ok w ↔
        (s.commonAncestor (.view b) (.view c) >>= fun m => s.commonAncestor (.view a) m) = .ok w := by
  have forest := (regular_of_reached reached).forest
  have found : ∀ w, s.commonAncestor (.view a) (.view b) = .ok (.view w) ↔ Nearest s a b w := by
    intro w
    simp [common_ancestor_ok_iff forest]
  have apart := common_ancestor_disjoint_iff forest a b
  refine ⟨?_, apart, fun titled => (asked_disjoint_iff titled a b).trans apart, fun w => ?_, fun w => ?_, ?_, fun above => ?_,
    common_ancestor_assoc forest a b⟩
  · simp only [found, nearest_exists forest]
  · rw [found w]
    exact ⟨fun near => ⟨near.first, near.second, near.inmost⟩, fun ⟨first, second, inmost⟩ => ⟨first, second, inmost⟩⟩
  · simp only [common_ancestor_ok_iff forest, nearest_comm forest a b]
  · rw [common_ancestor_disjoint_iff forest, common_ancestor_disjoint_iff forest, ne_comm]
  · exact (found a).mpr ⟨self_mem_ancestors s a, above, fun _ first _ => first⟩

-- A tree of four views, of which the last was moved one level down, and a view of its own.
def grove : Scene :=
  [.construct {}, .construct { parent := .view 0 }, .construct { parent := .view 1 }, .construct { parent := .view 0 },
    .construct {}, .addSubview 1 (.view 3)].foldl (fun s act => (Act.run s act).2) .empty

theorem grove_reached : Reached Act.Known grove := by
  refine .step _ (.addSubview 1 (.view 3)) (.step _ (.construct {}) (.step _ (.construct { parent := .view 0 })
    (.step _ (.construct { parent := .view 1 }) (.step _ (.construct { parent := .view 0 })
      (.step _ (.construct {}) .empty ?_) ?_) ?_) ?_) ?_) ⟨by decide, ?_⟩
  all_goals
    rintro p ⟨⟩
    try decide

theorem grove_titled : grove.Titled := by
  intro v
  match v with
  | 0 | 1 | 2 | 3 | 4 | v + 5 => exact .inl rfl

theorem grove_nearest :
    Reached Act.Known grove ∧ grove.ancestors 2 = [2, 1, 0] ∧ grove.ancestors 3 = [3, 1, 0] ∧
      grove.commonAncestor (.view 2) (.view 3) = .ok (.view 1) ∧
      grove.commonAncestor (.view 3) (.view 2) = .ok (.view 1) ∧
      (grove.commonAncestor (.view 3) (.view 0) >>= fun m => grove.commonAncestor (.view 2) m) = .ok (.view 0) ∧
      grove.commonAncestor (.view 2) (.view 4) = .error (.disjoint (.view 2) (.view 4)) ∧
      grove.asked 2 4 = .error .disjoint := by
  obtain ⟨_, _, _, nearest, turned, _, _, grouped⟩ := common_ancestor_is_nearest grove grove_reached 2 3
  have near : grove.commonAncestor (.view 2) (.view 3) = .ok (.view 1) := by
    refine (nearest 1).mpr ⟨by decide, by decide, ?_⟩
    intro x first second
    have shared : ∀ x ∈ grove.ancestors 2, x ∈ grove.ancestors 3 → x ∈ grove.ancestors 1 := by decide
    exact shared x first second
  obtain ⟨_, apart, told, _⟩ := common_ancestor_is_nearest grove grove_reached 2 4
  exact ⟨grove_reached, rfl, rfl, near, (turned (.view 1)).mp near, (grouped 0 (.view 0)).mp (by rw [near]; rfl),
    apart.mpr (by decide), (told grove_titled).mpr (by decide)⟩

end LayoutAlgebra.Scene
