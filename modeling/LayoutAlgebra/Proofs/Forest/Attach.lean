import LayoutAlgebra.Proofs.Aspect
import LayoutAlgebra.Proofs.Forest.Walk
set_option autoImplicit false

namespace LayoutAlgebra

def Value.IsRecord (v : Value) : Prop := ∃ mark r, v = .record mark r

def Value.involves (views : List ViewId) : Value → Bool
  | .record _ r => r.involves views
  | _ => false

theorem Value.is_in_iff (views : List ViewId) (v : Value) : v.isIn views = true ↔ ∃ x ∈ views, v = .view x := by
  cases v <;> simp [Value.isIn]

theorem involves_iff (r : ConstraintRecord Value) (views : List ViewId) :
    r.involves views = true ↔ ∃ x ∈ views, r.subject = .view x ∨ r.object = .view x := by
  simp only [ConstraintRecord.involves, Bool.or_eq_true, Value.is_in_iff, and_or_left, exists_or]

theorem records_outside_filter (views : List ViewId) (items : List Value) (records : ∀ item ∈ items, item.IsRecord) :
    recordsOutside views items = .ok (items.filter fun item => !item.involves views) := by
  induction items with
  | nil => rfl
  | cons item rest ih =>
      obtain ⟨mark, r, rfl⟩ := records item (by simp)
      have later := ih fun other member => records other (by simp [member])
      have here : (Value.record mark r).involves views = r.involves views := rfl
      simp only [recordsOutside, later, Fallible.ok_bind, List.filter_cons, here, Fallible.pure_eq]
      cases r.involves views <;> rfl

theorem records_outside_records (views : List ViewId) (items kept : List Value)
    (outside : recordsOutside views items = .ok kept) : ∀ item ∈ items, item.IsRecord := by
  induction items generalizing kept with
  | nil => nofun
  | cons item rest ih =>
      unfold recordsOutside at outside
      split at outside
      · rename_i same
        exact absurd same (List.cons_ne_nil item rest)
      · rename_i mark r tail same
        obtain ⟨rfl, rfl⟩ := List.cons.inj same
        obtain ⟨later, outside, _⟩ := (Fallible.bind_ok_iff _ _ _).mp outside
        exact List.forall_mem_cons.mpr ⟨⟨mark, r, rfl⟩, ih later outside⟩
      · cases outside

namespace Scene

variable {s : Scene}

structure Regular (s : Scene) : Prop where
  forest : Forest s
  bare : ∀ v, s.givenConstraints v = none

def HoldsRecords (s : Scene) : Prop := ∀ h, ∀ item ∈ s.constraints h, item.IsRecord

theorem regular_same_outline {t : Scene} (regular : Regular s) (same : SameUpTo View.outline s t) : Regular t where
  forest := forest_same regular.forest (places_same same (fun _ => rfl) (fun _ => rfl) fun _ => rfl)
  bare v := (given_constraints_same same (fun _ => rfl) v).trans (regular.bare v)

theorem replaced_outline (bare : ∀ v, s.givenConstraints v = none) (holder : ViewId) (kept : List Value) :
    SameUpTo View.outline s (s.modify holder fun view => view.replaceConstraints kept) := by
  apply modify_same_up_to
  intro view found
  have none : view.givenConstraints = none := by simpa [givenConstraints, found] using bare holder
  simp [View.outline, View.replaceConstraints, none]

theorem drop_outline (bare : ∀ v, s.givenConstraints v = none) (views holders : List ViewId) :
    SameUpTo View.outline s (s.dropInvolving views holders).2 := by
  induction holders generalizing s with
  | nil => exact same_up_to_refl s
  | cons holder rest ih =>
      rw [dropInvolving]
      split
      · exact same_up_to_refl s
      · rename_i kept _
        have replaced := replaced_outline bare holder kept
        have bare' := fun v => (given_constraints_same replaced (fun _ => rfl) v).trans (bare v)
        exact same_up_to_trans replaced (ih bare')

theorem replaced_constraints (holder h : ViewId) (kept : List Value) (known : holder < s.views.length) :
    (s.modify holder fun view => view.replaceConstraints kept).constraints h =
      if h = holder then kept else s.constraints h := by
  rw [constraints, modify, List.getElem?_modify]
  by_cases here : h = holder
  · subst here
    simp [List.getElem?_eq_getElem known]
  · simp [here, Ne.symm here, constraints]

theorem drop_records (bare : ∀ v, s.givenConstraints v = none) (views holders : List ViewId)
    (known : ∀ h ∈ holders, h < s.views.length)
    (records : ∀ h ∈ holders, ∀ item ∈ s.constraints h, item.IsRecord) :
    (s.dropInvolving views holders).1 = .ok () ∧
      ∀ h, (s.dropInvolving views holders).2.constraints h =
        if h ∈ holders then (s.constraints h).filter fun item => !item.involves views else s.constraints h := by
  induction holders generalizing s with
  | nil => exact ⟨rfl, fun h => by simp [dropInvolving]⟩
  | cons holder rest ih =>
      have outside := records_outside_filter views (s.constraints holder) (records holder (by simp))
      have replaced := replaced_outline bare holder ((s.constraints holder).filter fun item => !item.involves views)
      have changed := fun h => replaced_constraints holder h
        ((s.constraints holder).filter fun item => !item.involves views) (known holder (by simp))
      simp only [dropInvolving, constraintItems, bare holder, Fallible.ok_bind, outside]
      -- The rest is dropped from the scene in which the first holder has its new list already.
      generalize s.modify holder _ = t at replaced changed ⊢
      have records' : ∀ h ∈ rest, ∀ item ∈ t.constraints h, item.IsRecord := by
        intro h later item member
        rw [changed h] at member
        split at member
        · exact records holder (by simp) item (List.mem_filter.mp member).1
        · exact records h (by simp [later]) item member
      obtain ⟨done, dropped⟩ := ih (fun v => (given_constraints_same replaced (fun _ => rfl) v).trans (bare v))
        (fun h member => (same_up_to_count replaced) ▸ known h (by simp [member])) records'
      refine ⟨done, fun h => ?_⟩
      rw [dropped h, changed h]
      by_cases here : h = holder
      · subst here
        simp [List.filter_filter]
      · simp [here]

theorem drop_holds_records (bare : ∀ v, s.givenConstraints v = none) (views holders : List ViewId)
    (known : ∀ h ∈ holders, h < s.views.length) (done : (s.dropInvolving views holders).1 = .ok ()) :
    ∀ h ∈ holders, ∀ item ∈ s.constraints h, item.IsRecord := by
  induction holders generalizing s with
  | nil => nofun
  | cons holder rest ih =>
      simp only [dropInvolving, constraintItems, bare holder, Fallible.ok_bind] at done
      split at done
      · cases done
      · rename_i kept outside
        have here := records_outside_records views _ kept outside
        have replaced := replaced_outline bare holder kept
        have changed := fun h => replaced_constraints holder h kept (known holder (by simp))
        have there := ih (fun v => (given_constraints_same replaced (fun _ => rfl) v).trans (bare v))
          (fun h member => (same_up_to_count replaced) ▸ known h (by simp [member])) done
        intro h member item held
        by_cases same : h = holder
        · exact here item (same ▸ held)
        · apply there h ((List.mem_cons.mp member).resolve_left same) item
          rwa [changed h, if_neg same]

theorem detach_cases (regular : Regular s) (v : ViewId) :
    (s.parent v = none ∧ s.detach v = (.ok (), s)) ∨
      ∃ p subtree, s.parent v = some p ∧ s.walk v = .ok subtree ∧
        ((s.dropInvolving subtree (s.ancestors p)).1 = .ok () ∧
            s.detach v = (.ok (), (s.dropInvolving subtree (s.ancestors p)).2.unlinked p v) ∨
          ∃ failure, (s.dropInvolving subtree (s.ancestors p)).1 = .error failure ∧
            s.detach v = (.error failure, (s.dropInvolving subtree (s.ancestors p)).2)) := by
  cases inside : s.parent v with
  | none => exact .inl ⟨rfl, by simp only [detach, inside]⟩
  | some p =>
      obtain ⟨subtree, walked⟩ := walk_ends regular.forest v (parent_bound s v p inside)
      refine .inr ⟨p, subtree, rfl, walked, ?_⟩
      have outline := drop_outline regular.bare subtree (s.ancestors p)
      simp only [detach, inside, walked]
      generalize s.dropInvolving subtree (s.ancestors p) = dropped at outline ⊢
      obtain ⟨done, t⟩ := dropped
      cases done with
      | error failure => exact .inr ⟨failure, rfl, rfl⟩
      | ok _ => exact .inl ⟨rfl, unlink_plain (regular_same_outline regular outline).forest.plain p v⟩

theorem regular_unlinked (regular : Regular s) (p v : ViewId) (inside : s.parent v = some p) :
    Regular (s.unlinked p v) where
  forest := forest_parted regular.forest p v (unlinked_parted p v inside)
  bare x := (given_constraints_same (unlinked_content s p v) (fun _ => rfl) x).trans (regular.bare x)

theorem regular_linked (regular : Regular s) (p c : ViewId) (joined : Joined s (s.linked p c) p c) :
    Regular (s.linked p c) where
  forest := forest_joined regular.forest p c joined
  bare x := (given_constraints_same (linked_content s p c) (fun _ => rfl) x).trans (regular.bare x)

structure Loosened (s t : Scene) (v : ViewId) : Prop where
  regular : Regular t
  count : t.views.length = s.views.length
  alike : AlikeBut v s t

theorem detach_loosened (regular : Regular s) (v : ViewId) : Loosened s (s.detach v).2 v := by
  rcases detach_cases regular v with ⟨_, stays⟩ | ⟨p, subtree, inside, _, leaves⟩
  · rw [stays]
    exact ⟨regular, rfl, fun _ _ => rfl⟩
  · have outline := drop_outline regular.bare subtree (s.ancestors p)
    have regular' := regular_same_outline regular outline
    have places := places_same outline (fun _ => rfl) (fun _ => rfl) fun _ => rfl
    have inside' := (places.parent v).trans inside
    rcases leaves with ⟨_, done⟩ | ⟨_, _, done⟩
    · rw [done]
      refine ⟨regular_unlinked regular' p v inside', ?_, fun x other => ?_⟩
      · rw [same_up_to_count (unlinked_content _ p v), same_up_to_count outline]
      · rw [parted_alike p v (unlinked_parted p v inside') x other, places.parent x]
    · rw [done]
      exact ⟨regular', same_up_to_count outline, fun x _ => places.parent x⟩

theorem detach_alone (regular : Regular s) (v : ViewId) (done : (s.detach v).1 = .ok ()) :
    (s.detach v).2.parent v = none := by
  rcases detach_cases regular v with ⟨alone, stays⟩ | ⟨p, subtree, inside, _, leaves⟩
  · rw [stays]
    exact alone
  · rcases leaves with ⟨_, left⟩ | ⟨failure, _, stopped⟩
    · have places := places_same (drop_outline regular.bare subtree (s.ancestors p)) (fun _ => rfl) (fun _ => rfl)
        fun _ => rfl
      rw [left]
      exact ((unlinked_parted p v ((places.parent v).trans inside)).parent v).trans (if_pos rfl)
    · simp [stopped] at done

theorem around_bound (forest : Forest s) (v p : ViewId) (inside : s.parent v = some p) :
    ∀ h ∈ s.ancestors p, h < s.views.length :=
  chain_bound forest p _ (ancestors_chain forest p) (forest_parent_bound forest v p inside)

theorem detach_done (regular : Regular s) (v : ViewId)
    (records : ∀ p, s.parent v = some p → ∀ h ∈ s.ancestors p, ∀ item ∈ s.constraints h, item.IsRecord) :
    (s.detach v).1 = .ok () := by
  rcases detach_cases regular v with ⟨_, stays⟩ | ⟨p, subtree, inside, _, ⟨_, left⟩ | ⟨_, failed, _⟩⟩
  · rw [stays]
  · rw [left]
  · have bound := around_bound regular.forest v p inside
    simp [(drop_records regular.bare subtree (s.ancestors p) bound (records p inside)).1] at failed

theorem detach_records (regular : Regular s) (records : HoldsRecords s) (v : ViewId) :
    (s.parent v = none ∧ s.detach v = (.ok (), s)) ∨
      ∃ p subtree, s.parent v = some p ∧ s.walk v = .ok subtree ∧
        s.detach v = (.ok (), (s.dropInvolving subtree (s.ancestors p)).2.unlinked p v) ∧
        ∀ h, (s.dropInvolving subtree (s.ancestors p)).2.constraints h =
          if h ∈ s.ancestors p then (s.constraints h).filter fun item => !item.involves subtree else s.constraints h := by
  have done := detach_done regular v fun _ _ h _ => records h
  rcases detach_cases regular v with stays | ⟨p, subtree, inside, walked, ⟨_, left⟩ | ⟨_, _, stopped⟩⟩
  · exact .inl stays
  · have bound := around_bound regular.forest v p inside
    exact .inr ⟨p, subtree, inside, walked, left,
      (drop_records regular.bare subtree (s.ancestors p) bound fun h _ => records h).2⟩
  · simp [stopped] at done

theorem detach_joined (regular : Regular s) (p c : ViewId) (known : p < s.views.length) (knownToo : c < s.views.length)
    (outside : c ∉ s.ancestors p) (done : (s.detach c).1 = .ok ()) :
    Joined (s.detach c).2 ((s.detach c).2.linked p c) p c := by
  have loosened := detach_loosened regular c
  have below := inside_alike regular.forest loosened.regular.forest c loosened.alike p
  exact linked_joined p c (detach_alone regular c done) (fun within => outside (below.mp within))
    (loosened.count ▸ known) (loosened.count ▸ knownToo)

theorem attach_cases (regular : Regular s) (p c : ViewId) :
    (c ∈ s.ancestors p ∧ s.attach p c = (.error (.cycle (.view c) (.view p)), s)) ∨
      c ∉ s.ancestors p ∧
        ((s.detach c).1 = .ok () ∧ s.attach p c = (.ok (), (s.detach c).2.linked p c) ∨
          ∃ failure, (s.detach c).1 = .error failure ∧ s.attach p c = (.error failure, (s.detach c).2)) := by
  by_cases around : c ∈ s.ancestors p
  · exact .inl ⟨around, by simp [attach, around]⟩
  · refine .inr ⟨around, ?_⟩
    have loosened := detach_loosened regular c
    simp only [attach, List.contains_eq_mem, around, decide_false, Bool.false_eq_true, if_false]
    generalize s.detach c = detached at loosened ⊢
    obtain ⟨done, t⟩ := detached
    cases done with
    | error failure => exact .inr ⟨failure, rfl, rfl⟩
    | ok _ => exact .inl ⟨rfl, link_plain loosened.regular.forest.plain p c⟩

theorem attach_regular (regular : Regular s) (p c : ViewId) (known : p < s.views.length)
    (knownToo : c < s.views.length) : Regular (s.attach p c).2 := by
  rcases attach_cases regular p c with ⟨_, refused⟩ | ⟨outside, ⟨done, linked⟩ | ⟨_, _, stopped⟩⟩
  · rw [refused]
    exact regular
  · rw [linked]
    exact regular_linked (detach_loosened regular c).regular p c (detach_joined regular p c known knownToo outside done)
  · rw [stopped]
    exact (detach_loosened regular c).regular

theorem add_subview_scene (p : ViewId) (child : Value) :
    (s.addSubview p child).2 = s ∨ ∃ c, child = .view c ∧ (s.addSubview p child).2 = (s.attach p c).2 := by
  unfold addSubview
  split
  · rename_i c
    exact .inr ⟨c, rfl, by split <;> rename_i attached <;> rw [attached]⟩
  · exact .inl rfl

end Scene

end LayoutAlgebra
