import LayoutAlgebra.Proofs.CommonAncestor
import LayoutAlgebra.Proofs.Detachment
set_option autoImplicit false

namespace LayoutAlgebra.Scene

variable {s t : Scene}

structure Moved (s t : Scene) (p c : ViewId) (subtree : List ViewId) : Prop where
  outside : c ∉ s.ancestors p
  parent : ∀ x, t.parent x = if x = c then some p else s.parent x
  constraints : ∀ h, t.constraints h =
    if h ∈ s.ancestors c ∧ h ≠ c then (s.constraints h).filter fun item => !item.involves subtree else s.constraints h
  regular : Regular t

theorem add_subview_attached (p c : ViewId) (child : Value) (added : s.addSubview p (.view c) = (.ok child, t)) :
    s.attach p c = (.ok (), t) := by
  simp only [addSubview] at added
  split at added
  · rename_i after done
    rw [done, (Prod.mk.inj added).2]
  · cases added

theorem add_subview_moved (regular : Regular s) (p c : ViewId) (known : p < s.views.length)
    (knownToo : c < s.views.length) (child : Value) (added : s.addSubview p (.view c) = (.ok child, t)) :
    ∃ subtree, s.walk c = .ok subtree ∧ Moved s t p c subtree := by
  have attached := add_subview_attached p c child added
  rcases attach_cases regular p c with ⟨_, refused⟩ | ⟨outside, ⟨done, linked⟩ | ⟨_, _, stopped⟩⟩
  · rw [refused] at attached
    cases attached
  · obtain ⟨subtree, walked, withdrawn⟩ := detach_withdrawn regular c knownToo done
    have joined := detach_joined regular p c known knownToo outside done
    have after := attach_regular regular p c known knownToo
    obtain rfl : (s.detach c).2.linked p c = t := congrArg Prod.snd (linked.symm.trans attached)
    refine ⟨subtree, walked, outside, fun x => ?_, fun h => ?_, by rwa [linked] at after⟩
    · rw [joined.parent x, withdrawn.parent x]
      split <;> rfl
    · rw [constraints_same (linked_content _ p c) (fun _ => rfl), withdrawn.constraints h]
  · rw [stopped] at attached
    cases attached

theorem moved_alike (p c : ViewId) (subtree : List ViewId) (moved : Moved s t p c subtree) : AlikeBut c s t :=
  fun x other => by rw [moved.parent x, if_neg other]

theorem name_same {aspect : View → View} (same : SameUpTo aspect s t) (keeps : ∀ view, (aspect view).name = view.name)
    (v : ViewId) : t.name v = s.name v := by
  rw [name, name, same_up_to_map same View.name keeps v]

theorem detach_name (regular : Regular s) (c v : ViewId) : (s.detach c).2.name v = s.name v := by
  rcases detach_cases regular c with ⟨_, stays⟩ | ⟨p, subtree, _, _, ⟨_, left⟩ | ⟨_, _, stopped⟩⟩
  · rw [stays]
  · rw [left, name_same (unlinked_content _ p c) (fun _ => rfl) v]
    exact name_same (drop_outline regular.bare subtree (s.ancestors p)) (fun _ => rfl) v
  · rw [stopped]
    exact name_same (drop_outline regular.bare subtree (s.ancestors p)) (fun _ => rfl) v

theorem attach_name (regular : Regular s) (p c v : ViewId) : (s.attach p c).2.name v = s.name v := by
  rcases attach_cases regular p c with ⟨_, refused⟩ | ⟨_, ⟨_, linked⟩ | ⟨_, _, stopped⟩⟩
  · rw [refused]
  · rw [linked, name_same (linked_content _ p c) (fun _ => rfl) v]
    exact detach_name regular c v
  · rw [stopped]
    exact detach_name regular c v

theorem titled_same (names : ∀ v, t.name v = s.name v) (titled : s.Titled) : t.Titled := fun v => by
  rw [names v]
  exact titled v

structure Carried (s t : Scene) (c : ViewId) (subtree : List ViewId) : Prop where
  walk : ∃ below, t.walk c = .ok below ∧ ∀ x, x ∈ below ↔ x ∈ subtree
  together : ∀ x y, (x ∈ subtree ↔ y ∈ subtree) →
    t.commonAncestor (.view x) (.view y) = s.commonAncestor (.view x) (.view y)
  told : s.Titled → ∀ x y, (x ∈ subtree ↔ y ∈ subtree) → t.asked x y = s.asked x y

theorem carried_alike (forest : Forest s) (after : Forest t) (c : ViewId) (known : c < t.views.length)
    (alike : AlikeBut c s t) (names : ∀ v, t.name v = s.name v) (subtree : List ViewId) (walked : s.walk c = .ok subtree) :
    Carried s t c subtree := by
  have nearest : ∀ x y, (x ∈ subtree ↔ y ∈ subtree) → t.commonAncestor? x y = s.commonAncestor? x y := by
    intro x y together
    rw [walk_mem_iff forest c subtree walked, walk_mem_iff forest c subtree walked] at together
    exact common_ancestor_alike forest after c alike x y together
  refine ⟨?_, fun x y together => ?_, fun titled x y together => ?_⟩
  · obtain ⟨below, walkedToo⟩ := walk_ends after c known
    refine ⟨below, walkedToo, fun x => ?_⟩
    rw [walk_mem_iff after c below walkedToo, walk_mem_iff forest c subtree walked, inside_alike forest after c alike]
  · rw [common_ancestor_between, common_ancestor_between, nearest x y together]
  · rw [asked_between titled, asked_between (titled_same names titled), nearest x y together]

theorem common_ancestor_answers (a b c d : ViewId) (same : s.commonAncestor? a b = s.commonAncestor? c d) :
    (∀ w, s.commonAncestor (.view a) (.view b) = .ok w ↔ s.commonAncestor (.view c) (.view d) = .ok w) ∧
      (s.commonAncestor (.view a) (.view b) = .error (.disjoint (.view a) (.view b)) ↔
        s.commonAncestor (.view c) (.view d) = .error (.disjoint (.view c) (.view d))) := by
  rw [common_ancestor_between, common_ancestor_between, same]
  cases s.commonAncestor? c d <;> simp

/-- Wherever a view is moved to, the views inside it have with those outside of it the common ancestors that its new parent
has with them, and none once it is taken out of its parent. Two views that are both inside it or both outside keep what they
have. -/
theorem moves_carry_common_ancestors (s : Scene) (reached : Reached Act.Known s) (c : ViewId)
    (known : c < s.views.length) :
    ∃ subtree, s.walk c = .ok subtree ∧
      (∀ p child t, p < s.views.length → s.addSubview p (.view c) = (.ok child, t) →
        Carried s t c subtree ∧
        ∀ x y, x ∈ subtree → y ∉ subtree →
          (∀ w, t.commonAncestor (.view x) (.view y) = .ok w ↔ t.commonAncestor (.view p) (.view y) = .ok w) ∧
          (t.commonAncestor (.view x) (.view y) = .error (.disjoint (.view x) (.view y)) ↔
            t.commonAncestor (.view p) (.view y) = .error (.disjoint (.view p) (.view y))) ∧
          (s.Titled → (t.asked x y = .error .disjoint ↔ t.asked p y = .error .disjoint))) ∧
      ∀ t, s.detach c = (.ok (), t) →
        Carried s t c subtree ∧
        ∀ x y, x ∈ subtree → y ∉ subtree →
          t.commonAncestor (.view x) (.view y) = .error (.disjoint (.view x) (.view y)) ∧
          t.commonAncestor (.view y) (.view x) = .error (.disjoint (.view y) (.view x)) ∧
          (s.Titled → t.asked x y = .error .disjoint ∧ t.asked y x = .error .disjoint) := by
  have regular := regular_of_reached reached
  have forest := regular.forest
  obtain ⟨subtree, walked⟩ := walk_ends forest c known
  have within := walk_mem_iff forest c subtree walked
  refine ⟨subtree, walked, fun p child t knownToo added => ?_, fun t removed => ?_⟩
  · obtain ⟨_, _, moved⟩ := add_subview_moved regular p c knownToo known child added
    have after := moved.regular.forest
    have alike := moved_alike p c _ moved
    have inside : t.parent c = some p := by rw [moved.parent c, if_pos rfl]
    have names : ∀ v, t.name v = s.name v := fun v => by
      rw [← attach_name regular p c v, add_subview_attached p c child added]
    refine ⟨carried_alike forest after c (parent_bound t c p inside) alike names subtree walked, fun x y first second => ?_⟩
    rw [within, ← inside_alike forest after c alike] at first second
    obtain ⟨found, apart⟩ := common_ancestor_answers x y p y (common_ancestor_across after c p x y inside first second)
    refine ⟨found, apart, fun titled => ?_⟩
    have titledToo := titled_same names titled
    rw [asked_disjoint_iff titledToo, asked_disjoint_iff titledToo, apart]
  · have done : (s.detach c).1 = .ok () := by rw [removed]
    have loosened := detach_loosened regular c
    have alone := detach_alone regular c done
    have names := detach_name regular c
    rw [removed] at loosened alone names
    have after := loosened.regular.forest
    have alike := loosened.alike
    refine ⟨carried_alike forest after c (loosened.count ▸ known) alike names subtree walked, fun x y first second => ?_⟩
    rw [within, ← inside_alike forest after c alike] at first second
    have differ := roots_apart after c x y alone first second
    have apart := (common_ancestor_disjoint_iff after x y).mpr differ
    have turned := (common_ancestor_disjoint_iff after y x).mpr differ.symm
    refine ⟨apart, turned, fun titled => ?_⟩
    have titledToo := titled_same names titled
    exact ⟨(asked_disjoint_iff titledToo x y).mpr apart, (asked_disjoint_iff titledToo y x).mpr turned⟩

theorem added_of_is_ok (p : ViewId) (child : Value) (taken : (s.addSubview p child).1.isOk = true) :
    ∃ added, s.addSubview p child = (.ok added, (s.addSubview p child).2) := by
  obtain ⟨added, done⟩ := Fallible.ok_of_is_ok _ taken
  exact ⟨added, Prod.ext done rfl⟩

theorem grove_rehung :
    Reached Act.Known grove ∧ 1 < grove.views.length ∧ 4 < grove.views.length ∧
      (∃ child t, grove.addSubview 4 (.view 1) = (.ok child, t) ∧
        t.commonAncestor (.view 2) (.view 4) = .ok (.view 4) ∧
        t.commonAncestor (.view 2) (.view 0) = .error (.disjoint (.view 2) (.view 0)) ∧
        t.commonAncestor (.view 2) (.view 3) = grove.commonAncestor (.view 2) (.view 3)) ∧
      ∃ t, grove.detach 1 = (.ok (), t) ∧
        t.commonAncestor (.view 2) (.view 0) = .error (.disjoint (.view 2) (.view 0)) ∧
        t.commonAncestor (.view 2) (.view 3) = grove.commonAncestor (.view 2) (.view 3) := by
  obtain ⟨subtree, walked, added, removed⟩ := moves_carry_common_ancestors grove grove_reached 1 (by decide)
  have within : grove.walk 1 = .ok [1, 2, 3] := Fallible.ok_of_to_option _ _ (by decide +kernel)
  obtain rfl := Except.ok.inj (walked.symm.trans within)
  obtain ⟨child, taken⟩ := added_of_is_ok (s := grove) 4 (.view 1) (by decide +kernel)
  obtain ⟨⟨⟩, done⟩ := Fallible.ok_of_is_ok (grove.detach 1).1 (by decide +kernel)
  have left : grove.detach 1 = (.ok (), (grove.detach 1).2) := Prod.ext done rfl
  obtain ⟨carried, across⟩ := added 4 child _ (by decide) taken
  obtain ⟨carriedOut, apart⟩ := removed _ left
  refine ⟨grove_reached, by decide, by decide, ⟨child, _, taken, ?_, ?_, carried.together 2 3 (by decide)⟩, _, left,
    (apart 2 0 (by decide) (by decide)).1, carriedOut.together 2 3 (by decide)⟩
  · exact ((across 2 4 (by decide) (by decide)).1 (.view 4)).mpr rfl
  · have none : (grove.addSubview 4 (.view 1)).2.commonAncestor? 4 0 = none := by decide +kernel
    exact (across 2 0 (by decide) (by decide)).2.1.mpr (by rw [common_ancestor_between, none])

def Covers (s : Scene) (h : ViewId) (r : ConstraintRecord Value) : Prop :=
  (∃ a, r.subject = .view a ∧ h ∈ s.ancestors a) ∧ (r.object = .none ∨ ∃ b, r.object = .view b ∧ h ∈ s.ancestors b)

theorem covers_each (h x : ViewId) (r : ConstraintRecord Value) (covers : s.Covers h r)
    (about : r.subject = .view x ∨ r.object = .view x) : h ∈ s.ancestors x := by
  obtain ⟨⟨a, subject, first⟩, second⟩ := covers
  rcases about with same | same
  · rw [subject] at same
    exact Value.view.inj same ▸ first
  · rcases second with none | ⟨b, object, second⟩
    · simp [none] at same
    · rw [object] at same
      exact Value.view.inj same ▸ second

theorem around_both (forest : Forest s) (p c : ViewId) (subtree : List ViewId) (moved : Moved s t p c subtree)
    (h x : ViewId) (within : c ∈ s.ancestors x) (above : h ∈ t.ancestors x) (around : h ∈ s.ancestors c)
    (other : h ≠ c) : h ∈ s.ancestors p := by
  have after := moved.regular.forest
  have alike := moved_alike p c subtree moved
  have below := inside_alike forest after c alike
  have inside : t.parent c = some p := by rw [moved.parent c, if_pos rfl]
  have apart : c ∉ t.ancestors h := fun inner => other (ancestors_antisymm forest h c around ((below h).mp inner))
  have higher := (ancestors_total after x h c above ((below x).mpr within)).resolve_right apart
  rw [ancestors_child after c p inside, List.mem_cons, ancestors_elsewhere forest after c alike p moved.outside] at higher
  exact higher.resolve_left other

/-- Only the views that were around a view lose records when it is moved, and they lose all that involve it or what is inside
it. So a record about views that are still inside the one that holds it is lost exactly if it involves what moved and is
held around both the old place and the new one. -/
theorem moved_constraints (s t : Scene) (reached : Reached Act.Known s) (p c : ViewId) (known : p < s.views.length)
    (knownToo : c < s.views.length) (child : Value) (added : s.addSubview p (.view c) = (.ok child, t)) :
    ∃ subtree, s.walk c = .ok subtree ∧
      (∀ h, t.constraints h =
        if h ∈ s.ancestors c ∧ h ≠ c then (s.constraints h).filter fun item => !item.involves subtree
        else s.constraints h) ∧
      ∀ h mark r, .record mark r ∈ s.constraints h → t.Covers h r →
        (.record mark r ∉ t.constraints h ↔
          r.involves subtree = true ∧ h ≠ c ∧ h ∈ s.ancestors c ∧ h ∈ s.ancestors p) := by
  have regular := regular_of_reached reached
  have forest := regular.forest
  obtain ⟨subtree, walked, moved⟩ := add_subview_moved regular p c known knownToo child added
  refine ⟨subtree, walked, moved.constraints, fun h mark r held covers => ?_⟩
  rw [moved.constraints h]
  split
  · rename_i around
    have here : (Value.record mark r).involves subtree = r.involves subtree := rfl
    simp only [List.mem_filter, held, here, true_and, Bool.not_eq_true', Bool.not_eq_false]
    refine ⟨fun involves => ⟨involves, around.2, around.1, ?_⟩, And.left⟩
    obtain ⟨x, member, about⟩ := (involves_iff r subtree).mp involves
    exact around_both forest p c subtree moved h x ((walk_mem_iff forest c subtree walked x).mp member)
      (covers_each h x r covers about) around.1 around.2
  · rename_i apart
    exact iff_of_false (fun lost => lost held) fun ⟨_, other, around, _⟩ => apart ⟨around, other⟩

def isBetween (a b : ViewId) : Value → Bool
  | .record _ r => r.subject.isIn [a] && r.object.isIn [b]
  | _ => false

theorem between_record (a b : ViewId) (items : List Value) (found : items.any (isBetween a b) = true) :
    ∃ mark r, .record mark r ∈ items ∧ r.subject = .view a ∧ r.object = .view b := by
  obtain ⟨item, member, between⟩ := List.any_eq_true.mp found
  cases item with
  | record mark r =>
      have both : r.subject = .view a ∧ r.object = .view b := by
        simpa [isBetween, Value.is_in_iff] using between
      exact ⟨mark, r, member, both⟩
  | _ => cases between

-- Three views, each inside the one before, of which each but the first is related to the first.
def shelf : Scene :=
  [.construct {}, .construct { parent := .view 0 }, .construct { parent := .view 1 },
    .assign 1 (.length .width) ((Accessor.length .width).read (.view 0)),
    .assign 2 (.line .top) ((Accessor.line .top).read (.view 0))].foldl (fun s act => (Act.run s act).2) .empty

theorem shelf_reached : Reached Act.Known shelf := by
  refine .step _ (.assign 2 (.line .top) _) (.step _ (.assign 1 (.length .width) _)
    (.step _ (.construct { parent := .view 1 }) (.step _ (.construct { parent := .view 0 })
      (.step _ (.construct {}) .empty ?_) ?_) ?_) trivial) trivial
  all_goals
    rintro p ⟨⟩
    try decide

theorem shelf_moved :
    Reached Act.Known shelf ∧ 0 < shelf.views.length ∧ 2 < shelf.views.length ∧
      ∃ child t, shelf.addSubview 0 (.view 2) = (.ok child, t) ∧
        (∃ mark r, .record mark r ∈ shelf.constraints 0 ∧ t.Covers 0 r ∧ .record mark r ∈ t.constraints 0) ∧
        ∃ mark r, .record mark r ∈ shelf.constraints 0 ∧ t.Covers 0 r ∧ .record mark r ∉ t.constraints 0 := by
  obtain ⟨child, taken⟩ := added_of_is_ok (s := shelf) 0 (.view 2) (by decide +kernel)
  have first : 0 < shelf.views.length := by decide +kernel
  have last : 2 < shelf.views.length := by decide +kernel
  obtain ⟨subtree, walked, _, lost⟩ := moved_constraints shelf _ shelf_reached 0 2 first last child taken
  have within : shelf.walk 2 = .ok [2] := Fallible.ok_of_to_option _ _ (by decide +kernel)
  obtain rfl := Except.ok.inj (walked.symm.trans within)
  obtain ⟨mark, r, held, subject, object⟩ := between_record 1 0 (shelf.constraints 0) (by decide +kernel)
  obtain ⟨markToo, q, heldToo, subjectToo, objectToo⟩ := between_record 2 0 (shelf.constraints 0) (by decide +kernel)
  have covers : (shelf.addSubview 0 (.view 2)).2.Covers 0 r :=
    ⟨⟨1, subject, by decide +kernel⟩, .inr ⟨0, object, by decide +kernel⟩⟩
  have coversToo : (shelf.addSubview 0 (.view 2)).2.Covers 0 q :=
    ⟨⟨2, subjectToo, by decide +kernel⟩, .inr ⟨0, objectToo, by decide +kernel⟩⟩
  refine ⟨shelf_reached, first, last, child, _, taken, ⟨mark, r, held, covers, ?_⟩, markToo, q, heldToo, coversToo, ?_⟩
  · by_contra gone
    simpa [involves_iff, subject, object] using ((lost 0 mark r held covers).mp gone).1
  · exact (lost 0 markToo q heldToo coversToo).mpr
      ⟨by simp [involves_iff, subjectToo], by decide, by decide +kernel, by decide +kernel⟩

theorem readded_view_loses_record :
    Reached Act.Known shelf ∧ shelf.parent 1 = some 0 ∧
      ∃ child t mark r, shelf.addSubview 0 (.view 1) = (.ok child, t) ∧ .record mark r ∈ shelf.constraints 0 ∧
        t.Covers 0 r ∧ .record mark r ∉ t.constraints 0 := by
  obtain ⟨child, taken⟩ := added_of_is_ok (s := shelf) 0 (.view 1) (by decide +kernel)
  obtain ⟨mark, r, held, subject, object⟩ := between_record 1 0 (shelf.constraints 0) (by decide +kernel)
  have empty : (shelf.addSubview 0 (.view 1)).2.constraints 0 = [] := List.isEmpty_iff.mp (by decide +kernel)
  refine ⟨shelf_reached, by decide +kernel, child, _, mark, r, taken, held, ?_, by simp [empty]⟩
  exact ⟨⟨1, subject, by decide +kernel⟩, .inr ⟨0, object, by decide +kernel⟩⟩

end LayoutAlgebra.Scene
