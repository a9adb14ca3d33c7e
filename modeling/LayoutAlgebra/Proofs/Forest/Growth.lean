import LayoutAlgebra.Proofs.Forest.Attach
set_option autoImplicit false

namespace LayoutAlgebra.Scene

variable {s : Scene}

structure Fresh (view : View) : Prop where
  parent : view.parent = none
  children : view.children = []
  latest : view.latest = []
  givenChildren : view.givenChildren = none
  givenConstraints : view.givenConstraints = none

def grown (s : Scene) (view : View) : Scene :=
  let (layoutMargins, counted) := s.keep view.layoutMargins
  { counted with views := counted.views ++ [{ view with layoutMargins }] }

theorem new_view_fresh (s : Scene) (options : ViewOptions) (view : View) (made : s.newView options = .ok view) :
    Fresh view := by
  simp only [newView, Fallible.bind_ok_iff] at made
  obtain ⟨settings, _, given, _, made⟩ := made
  split at made
  · split at made <;> simp only [Fallible.bind_ok_iff, Fallible.pure_eq, Except.ok.injEq] at made
    · obtain ⟨margins, _, rfl⟩ := made
      exact ⟨rfl, rfl, rfl, rfl, rfl⟩
    · obtain ⟨_, _, margins, _, rfl⟩ := made
      exact ⟨rfl, rfl, rfl, rfl, rfl⟩
  · simp at made

theorem grown_views (s : Scene) (view : View) :
    ∃ layoutMargins, (s.grown view).views = s.views ++ [{ view with layoutMargins }] :=
  ⟨_, rfl⟩

theorem grown_count (s : Scene) (view : View) : (s.grown view).views.length = s.views.length + 1 := by
  obtain ⟨_, views⟩ := grown_views s view
  simp [views]

theorem grown_read {α : Type} (s : Scene) (view : View) (read : Option View → α)
    (blank : ∀ layoutMargins, read (some { view with layoutMargins }) = read none) (x : ViewId) :
    read (s.grown view).views[x]? = read s.views[x]? := by
  obtain ⟨layoutMargins, views⟩ := grown_views s view
  rw [views]
  rcases Nat.lt_trichotomy x s.views.length with before | here | after
  · rw [List.getElem?_append_left before]
  · subst here
    simp [blank]
  · rw [List.getElem?_eq_none (by simp; omega), List.getElem?_eq_none (by omega)]

theorem grown_places (s : Scene) (view : View) (fresh : Fresh view) :
    SamePlaces s (s.grown view) where
  parent x := grown_read s view (·.bind View.parent) (fun _ => fresh.parent) x
  children x := grown_read s view (fun found => (found.map View.children).getD []) (fun _ => fresh.children) x
  given x := grown_read s view (·.bind View.givenChildren) (fun _ => fresh.givenChildren) x

theorem grown_regular (regular : Regular s) (view : View) (fresh : Fresh view) :
    Regular (s.grown view) where
  forest := forest_same regular.forest (grown_places s view fresh)
  bare x := (grown_read s view (·.bind View.givenConstraints) (fun _ => fresh.givenConstraints) x).trans
    (regular.bare x)

theorem grown_constraints (s : Scene) (view : View) (fresh : Fresh view) (x : ViewId) :
    (s.grown view).constraints x = s.constraints x :=
  grown_read s view (fun found => (found.map View.constraints).getD [])
    (fun _ => by simp [View.constraints, fresh.latest]) x

theorem construct_made (s : Scene) (options : ViewOptions) (view : View) (made : s.newView options = .ok view) :
    s.construct options =
      match options.parent with
      | .none => (.ok s.views.length, s.grown view)
      | .view p =>
        match (s.grown view).attach p s.views.length with
        | (.ok (), t) => (.ok s.views.length, t)
        | (.error failure, _) => (.error failure, s)
      | _ => (.error .noMember, s) := by
  simp only [construct, made]
  rfl

theorem construct_cases (s : Scene) (options : ViewOptions) :
    (∃ failure, s.construct options = (.error failure, s)) ∨
      ∃ view, s.newView options = .ok view ∧ Fresh view ∧
        (options.parent = .none ∧ s.construct options = (.ok s.views.length, s.grown view) ∨
          ∃ p, options.parent = .view p ∧
            s.construct options = (.ok s.views.length, ((s.grown view).attach p s.views.length).2)) := by
  cases made : s.newView options with
  | error failure => exact .inl ⟨failure, by simp only [construct, made]⟩
  | ok view =>
      have fresh := new_view_fresh s options view made
      rw [construct_made s options view made]
      split
      · rename_i alone
        exact .inr ⟨view, rfl, fresh, .inl ⟨alone, rfl⟩⟩
      · rename_i p inside
        split
        · rename_i t attached
          exact .inr ⟨view, rfl, fresh, .inr ⟨p, inside, by rw [attached]⟩⟩
        · rename_i failure _ _
          exact .inl ⟨failure, rfl⟩
      · exact .inl ⟨.noMember, rfl⟩

theorem construct_regular (regular : Regular s) (options : ViewOptions)
    (known : ∀ p, options.parent = .view p → p < s.views.length) : Regular (s.construct options).2 := by
  rcases construct_cases s options with ⟨_, refused⟩ | ⟨view, _, fresh, ⟨_, alone⟩ | ⟨p, inside, attached⟩⟩
  · rw [refused]
    exact regular
  · rw [alone]
    exact grown_regular regular view fresh
  · have count := grown_count s view
    rw [attached]
    exact attach_regular (grown_regular regular view fresh) p s.views.length
      (count ▸ Nat.lt_succ_of_lt (known p inside)) (count ▸ Nat.lt_succ_self s.views.length)

end LayoutAlgebra.Scene
