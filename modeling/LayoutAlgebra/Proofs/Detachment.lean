import LayoutAlgebra.Proofs.History
set_option autoImplicit false

namespace LayoutAlgebra

namespace View

def own (view : View) : View := view.content.outline

theorem edition_replaceConstraints (view : View) (kept : List Value) (n : Nat) (earlier : n ≤ view.former.length) :
    (view.replaceConstraints kept).edition n = view.edition n := by
  unfold edition replaceConstraints
  rcases Nat.lt_or_eq_of_le earlier with before | same
  · rw [List.getElem?_append_left before]
    simp [before]
  · subst same
    simp

end View

namespace Scene

variable {s t : Scene}

def editions (s : Scene) (h : ViewId) : Nat := (s.views[h]?.map fun view => view.former.length).getD 0

theorem replaced_listed (holder h : ViewId) (kept : List Value) (n : Nat) (earlier : n ≤ s.editions h) :
    n ≤ (s.modify holder fun view => view.replaceConstraints kept).editions h ∧
      (s.modify holder fun view => view.replaceConstraints kept).listed (.constraints h n) =
        s.listed (.constraints h n) := by
  simp only [editions, listed, modify, List.getElem?_modify] at earlier ⊢
  cases found : s.views[h]? with
  | none => simpa [found] using earlier
  | some view =>
      have earlier : n ≤ view.former.length := by simpa [found] using earlier
      by_cases here : holder = h
      · have longer : n ≤ (view.replaceConstraints kept).former.length :=
          Nat.le_trans earlier (by simp [View.replaceConstraints])
        simpa [here, View.edition_replaceConstraints view kept n earlier] using longer
      · simpa [here] using earlier

theorem drop_listed (views holders : List ViewId) (h : ViewId) (n : Nat) (earlier : n ≤ s.editions h) :
    (s.dropInvolving views holders).2.listed (.constraints h n) = s.listed (.constraints h n) := by
  induction holders generalizing s with
  | nil => rfl
  | cons holder rest ih =>
      rw [dropInvolving]
      split
      · rfl
      · rename_i kept _
        obtain ⟨earlier, unchanged⟩ := replaced_listed holder h kept n earlier
        rw [ih earlier, unchanged]

theorem drop_besides (views holders : List ViewId) :
    (s.dropInvolving views holders).2 = { s with views := (s.dropInvolving views holders).2.views } := by
  induction holders generalizing s with
  | nil => rfl
  | cons holder rest ih =>
      rw [dropInvolving]
      split
      · rfl
      · rw [ih]
        rfl

structure Withdrawn (s t : Scene) (v : ViewId) (subtree : List ViewId) : Prop where
  parent : ∀ x, t.parent x = if x = v then none else s.parent x
  children : ∀ x, t.children x = (s.children x).filter (· != v)
  constraints : ∀ h, t.constraints h =
    if h ∈ s.ancestors v ∧ h ≠ v then (s.constraints h).filter fun item => !item.involves subtree else s.constraints h
  listed : ∀ h n, n ≤ s.editions h → t.listed (.constraints h n) = s.listed (.constraints h n)
  own : SameUpTo View.own s t
  besides : t = { s with views := t.views }

theorem children_elsewhere (forest : Forest s) (x v : ViewId) (elsewhere : s.parent v ≠ some x) :
    (s.children x).filter (· != v) = s.children x := by
  apply List.filter_eq_self.mpr
  intro c child
  rw [bne_iff_ne]
  rintro rfl
  exact elsewhere ((forest_child_iff forest c x).mp child)

theorem withdrawn_alone (forest : Forest s) (v : ViewId) (subtree : List ViewId) (alone : s.parent v = none) :
    Withdrawn s s v subtree where
  parent x := by
    split
    · rename_i same
      rw [same, alone]
    · rfl
  children x := (children_elsewhere forest x v (by simp [alone])).symm
  constraints h := by
    simp [ancestors_root forest v alone]
  listed _ _ _ := rfl
  own := same_up_to_refl s
  besides := rfl

theorem around_iff (forest : Forest s) (v p h : ViewId) (inside : s.parent v = some p) :
    h ∈ s.ancestors v ∧ h ≠ v ↔ h ∈ s.ancestors p := by
  have apart := parent_not_inside forest v p inside
  rw [ancestors_child forest v p inside, List.mem_cons]
  exact ⟨fun ⟨around, other⟩ => around.resolve_left other, fun around => ⟨.inr around, fun same => apart (same ▸ around)⟩⟩

theorem withdrawn_unlinked (regular : Regular s) (v p : ViewId) (inside : s.parent v = some p) (subtree : List ViewId)
    (dropped : (s.dropInvolving subtree (s.ancestors p)).1 = .ok ()) :
    Withdrawn s ((s.dropInvolving subtree (s.ancestors p)).2.unlinked p v) v subtree := by
  have forest := regular.forest
  have bound := around_bound forest v p inside
  have records := drop_holds_records regular.bare subtree (s.ancestors p) bound dropped
  obtain ⟨_, filtered⟩ := drop_records regular.bare subtree (s.ancestors p) bound records
  have outline := drop_outline regular.bare subtree (s.ancestors p)
  have places := places_same outline (fun _ => rfl) (fun _ => rfl) fun _ => rfl
  have listed := drop_listed (s := s) subtree (s.ancestors p)
  have besides := drop_besides (s := s) subtree (s.ancestors p)
  generalize (s.dropInvolving subtree (s.ancestors p)).2 = between at *
  have content := unlinked_content between p v
  have parted := unlinked_parted p v ((places.parent v).trans inside)
  exact
    { parent := fun x => by rw [parted.parent x, places.parent x]
      children := fun x => by
        rw [parted.children x, places.children x]
        split
        · exact (children_nodup forest x).erase_eq_filter v
        · rename_i other
          exact (children_elsewhere forest x v fun same => other (Option.some.inj (same.symm.trans inside))).symm
      constraints := fun h => by
        rw [constraints_same content (fun _ => rfl), filtered h]
        simp only [around_iff forest v p h inside]
      listed := fun h n earlier => by
        rw [← listed h n earlier]
        exact congrArg (Option.getD · []) (same_up_to_map content (View.edition · n) (fun _ => rfl) h)
      own := same_up_to_trans (same_up_to_part outline fun _ => rfl) (same_up_to_part content fun _ => rfl)
      besides := by
        rw [besides]
        rfl }

theorem detach_withdrawn (regular : Regular s) (v : ViewId) (known : v < s.views.length)
    (done : (s.detach v).1 = .ok ()) : ∃ subtree, s.walk v = .ok subtree ∧ Withdrawn s (s.detach v).2 v subtree := by
  rcases detach_cases regular v with ⟨alone, stays⟩ | ⟨p, subtree, inside, walked, ⟨dropped, left⟩ | ⟨_, _, stopped⟩⟩
  · obtain ⟨subtree, walked⟩ := walk_ends regular.forest v known
    exact ⟨subtree, walked, stays ▸ withdrawn_alone regular.forest v subtree alone⟩
  · exact ⟨subtree, walked, left ▸ withdrawn_unlinked regular v p inside subtree dropped⟩
  · simp [stopped] at done

theorem detach_root (v : ViewId) (alone : s.parent v = none) : s.detach v = (.ok (), s) := by
  rw [detach, alone]

/-- Where the views around it hold records, a view that is in a parent is taken out of it, and that again does nothing. The
former parent loses it as a child, the views around it lose the records that involve it or what is inside it, and what is
left keeps its order. No other view has another place or other constraints, no list that was a view's list of constraints is
changed, and nothing else of any view or recording is. -/
theorem detach_exact (s : Scene) (reached : Reached Act.Known s) (v p : ViewId) (inside : s.parent v = some p)
    (records : ∀ h ∈ s.ancestors p, ∀ item ∈ s.constraints h, item.IsRecord) :
    ∃ t subtree, s.detach v = (.ok (), t) ∧ s.walk v = .ok subtree ∧
      t.parent v = none ∧ (∀ x, x ≠ v → t.parent x = s.parent x) ∧
      t.children p = (s.children p).filter (· != v) ∧ (∀ x, x ≠ p → t.children x = s.children x) ∧
      (∀ h ∈ s.ancestors p, t.constraints h = (s.constraints h).filter fun item => !item.involves subtree) ∧
      (∀ h, h ∉ s.ancestors p → t.constraints h = s.constraints h) ∧
      (∀ h n, n ≤ s.editions h → t.listed (.constraints h n) = s.listed (.constraints h n)) ∧
      SameUpTo View.own s t ∧ t = { s with views := t.views } ∧
      t.detach v = (.ok (), t) := by
  have regular := regular_of_reached reached
  have forest := regular.forest
  have done := detach_done regular v fun q insideToo => Option.some.inj (inside.symm.trans insideToo) ▸ records
  obtain ⟨subtree, walked, withdrawn⟩ := detach_withdrawn regular v (parent_bound s v p inside) done
  have alone : (s.detach v).2.parent v = none := by rw [withdrawn.parent v, if_pos rfl]
  have around := around_iff forest v p
  refine ⟨(s.detach v).2, subtree, Prod.ext done rfl, walked, alone, fun x other => ?_, withdrawn.children p,
    fun x other => ?_, fun h above => ?_, fun h apart => ?_, withdrawn.listed, withdrawn.own, withdrawn.besides,
    detach_root v alone⟩
  · rw [withdrawn.parent x, if_neg other]
  · rw [withdrawn.children x]
    exact children_elsewhere forest x v fun same => other (Option.some.inj (same.symm.trans inside))
  · rw [withdrawn.constraints h, if_pos ((around h inside).mpr above)]
  · rw [withdrawn.constraints h, if_neg fun above => apart ((around h inside).mp above)]

-- A view with another one inside it and one beside it, and a record about each of them, one of them added by hand.
def board : Scene :=
  [.construct {}, .construct { parent := .view 0 }, .construct { parent := .view 1 }, .construct { parent := .view 0 },
    .assign 2 (.line .left) ((Accessor.line .left).read (.view 0)),
    .assign 3 (.length .width) ((Accessor.length .width).read (.view 0)),
    .assign 2 (.length .width) ((Accessor.length .width).read (.view 1)),
    .addConstraint 0 (.record .new ⟨.view 3, .none, .none, .view 1, .none, .none, .none, .none⟩)].foldl
    (fun s act => (Act.run s act).2) .empty

theorem board_parted :
    Reached Act.Known board ∧ board.parent 1 = some 0 ∧ (board.constraints 0).length = 3 ∧
      (∀ h ∈ board.ancestors 0, ∀ item ∈ board.constraints h, item.IsRecord) ∧
      ∃ t, board.detach 1 = (.ok (), t) ∧ t.parent 1 = none ∧ t.parent 2 = some 1 ∧ t.children 0 = [3] ∧
        (t.constraints 0).length = 1 ∧ t.constraints 1 = board.constraints 1 ∧ t.recordings = board.recordings ∧
        t.detach 1 = (.ok (), t) := by
  have reached : Reached Act.Known board := by
    refine .step _ (.addConstraint 0 _) (.step _ (.assign 2 (.length .width) _) (.step _ (.assign 3 (.length .width) _)
      (.step _ (.assign 2 (.line .left) _) (.step _ (.construct { parent := .view 0 })
        (.step _ (.construct { parent := .view 1 }) (.step _ (.construct { parent := .view 0 })
          (.step _ (.construct {}) .empty ?_) ?_) ?_) ?_) trivial) trivial) trivial) trivial
    all_goals
      rintro p ⟨⟩
      try decide
  have inside : board.parent 1 = some 0 := by decide +kernel
  have records : ∀ h ∈ board.ancestors 0, ∀ item ∈ board.constraints h, item.IsRecord := by
    have asked : (recordsOutside [] (board.constraints 0)).isOk = true := by decide +kernel
    obtain ⟨kept, outside⟩ := Fallible.ok_of_is_ok _ asked
    have root : board.ancestors 0 = [0] := by decide +kernel
    simpa [root] using records_outside_records [] _ kept outside
  obtain ⟨t, subtree, done, walked, alone, others, children, _, dropped, elsewhere, _, _, besides, again⟩ :=
    detach_exact board reached 1 0 inside records
  have within : board.walk 1 = .ok [1, 2] := Fallible.ok_of_to_option _ _ (by decide +kernel)
  obtain rfl := Except.ok.inj (walked.symm.trans within)
  refine ⟨reached, inside, by decide +kernel, records, t, done, alone, ?_, ?_, ?_, ?_, by rw [besides], again⟩
  · rw [others 2 (by decide)]
    decide +kernel
  · rw [children]
    decide +kernel
  · rw [dropped 0 (by decide +kernel)]
    decide +kernel
  · exact elsewhere 1 (by decide +kernel)

end Scene

end LayoutAlgebra
