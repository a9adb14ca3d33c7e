import LayoutAlgebra.Proofs.Forest.Move
import LayoutAlgebra.Scene.Tree
set_option autoImplicit false

namespace LayoutAlgebra

namespace View

def outline (view : View) : View := { view with latest := [], former := [] }

def content (view : View) : View := { view with parent := none, children := [] }

def withoutChild (c : ViewId) (view : View) : View := { view with children := view.children.erase c }

def withChild (c : ViewId) (view : View) : View := { view with children := view.children ++ [c] }

def under (parent : Option ViewId) (view : View) : View := { view with parent }

def core (view : View) : View :=
  { view with
    name := .none, sink := .none, config := .none, layoutMargins := .none, compression := [], expansion := [] }

end View

namespace Scene

variable {s t u : Scene} {aspect : View → View}

def SameUpTo (aspect : View → View) (s t : Scene) : Prop := t.views.map aspect = s.views.map aspect

theorem same_up_to_refl (s : Scene) : SameUpTo aspect s s := rfl

theorem same_up_to_trans (first : SameUpTo aspect s t) (second : SameUpTo aspect t u) : SameUpTo aspect s u :=
  Eq.trans second first

theorem same_up_to_of_views (same : t.views = s.views) : SameUpTo aspect s t := by
  rw [SameUpTo, same]

theorem same_up_to_count (same : SameUpTo aspect s t) : t.views.length = s.views.length := by
  simpa using congrArg List.length same

theorem same_up_to_part {part : View → View} (same : SameUpTo aspect s t)
    (reads : ∀ view, part (aspect view) = part view) : SameUpTo part s t := by
  have through : ∀ views : List View, views.map part = (views.map aspect).map part := fun views => by simp [reads]
  rw [SameUpTo, through t.views, through s.views, same]

theorem same_up_to_map {α : Type} (same : SameUpTo aspect s t) (read : View → α)
    (keeps : ∀ view, read (aspect view) = read view) (v : ViewId) : t.views[v]?.map read = s.views[v]?.map read := by
  have reads : ∀ views : List View, views[v]?.map read = ((views.map aspect)[v]?).map read := by
    intro views
    rw [List.getElem?_map, Option.map_map]
    exact congrArg (Option.map · views[v]?) (funext fun view => (keeps view).symm)
  rw [reads t.views, reads s.views, same]

theorem same_up_to_bind {α : Type} (same : SameUpTo aspect s t) (read : View → Option α)
    (keeps : ∀ view, read (aspect view) = read view) (v : ViewId) : t.views[v]?.bind read = s.views[v]?.bind read := by
  have reads : ∀ view : Option View, view.bind read = (view.map read).join := fun view => by cases view <;> rfl
  rw [reads, reads, same_up_to_map same read keeps v]

theorem places_same (same : SameUpTo aspect s t) (parent : ∀ view, (aspect view).parent = view.parent)
    (children : ∀ view, (aspect view).children = view.children)
    (given : ∀ view, (aspect view).givenChildren = view.givenChildren) : SamePlaces s t where
  parent v := same_up_to_bind same View.parent parent v
  children v := by rw [Scene.children, Scene.children, same_up_to_map same View.children children v]
  given v := same_up_to_bind same View.givenChildren given v

theorem constraints_same (same : SameUpTo aspect s t) (keeps : ∀ view, (aspect view).constraints = view.constraints)
    (v : ViewId) : t.constraints v = s.constraints v := by
  rw [Scene.constraints, Scene.constraints, same_up_to_map same View.constraints keeps v]

theorem given_constraints_same (same : SameUpTo aspect s t)
    (keeps : ∀ view, (aspect view).givenConstraints = view.givenConstraints) (v : ViewId) :
    t.givenConstraints v = s.givenConstraints v :=
  same_up_to_bind same View.givenConstraints keeps v

theorem modify_same_up_to (v : ViewId) (change : View → View)
    (keeps : ∀ view, s.views[v]? = some view → aspect (change view) = aspect view) :
    SameUpTo aspect s (s.modify v change) := by
  apply List.ext_getElem?
  intro w
  rw [List.getElem?_map, List.getElem?_map, modify, List.getElem?_modify]
  by_cases here : v = w
  · subst here
    cases found : s.views[v]? with
    | none => rfl
    | some view => simp [keeps view found]
  · simp [here]

theorem parent_modify (v x : ViewId) (change : View → View) :
    (s.modify v change).parent x =
      if x = v then s.views[x]?.bind fun view => (change view).parent else s.parent x := by
  rw [parent, modify, List.getElem?_modify]
  by_cases here : x = v
  · subst here
    cases s.views[x]? <;> simp
  · simp [here, Ne.symm here, parent]

theorem children_modify (v x : ViewId) (change : View → View) :
    (s.modify v change).children x =
      if x = v then (s.views[x]?.map fun view => (change view).children).getD [] else s.children x := by
  rw [children, modify, List.getElem?_modify]
  by_cases here : x = v
  · subst here
    cases s.views[x]? <;> simp
  · simp [here, Ne.symm here, children]

theorem parent_modify_kept (v x : ViewId) (change : View → View) (keeps : ∀ view, (change view).parent = view.parent) :
    (s.modify v change).parent x = s.parent x := by
  rw [parent_modify]
  split
  · exact congrArg (Option.bind s.views[x]?) (funext keeps)
  · rfl

theorem children_modify_kept (v x : ViewId) (change : View → View)
    (keeps : ∀ view, (change view).children = view.children) : (s.modify v change).children x = s.children x := by
  rw [children_modify]
  split
  · exact congrArg (fun read => (s.views[x]?.map read).getD []) (funext keeps)
  · rfl

def unlinked (s : Scene) (p v : ViewId) : Scene := (s.modify p (View.withoutChild v)).modify v (View.under none)

def linked (s : Scene) (p c : ViewId) : Scene := (s.modify p (View.withChild c)).modify c (View.under (some p))

theorem unlink_plain (plain : ∀ v, s.givenChildren v = none) (p v : ViewId) :
    s.unlink p v = (.ok (), s.unlinked p v) := by
  simp only [unlink, removeChild, plain p]
  rfl

theorem link_plain (plain : ∀ v, s.givenChildren v = none) (p c : ViewId) :
    s.link p c = (.ok (), s.linked p c) := by
  simp only [link, appendChild, plain p]
  rfl

theorem unlinked_content (s : Scene) (p v : ViewId) : SameUpTo View.content s (s.unlinked p v) :=
  same_up_to_trans (modify_same_up_to p (View.withoutChild v) fun _ _ => rfl)
    (modify_same_up_to v (View.under none) fun _ _ => rfl)

theorem linked_content (s : Scene) (p c : ViewId) : SameUpTo View.content s (s.linked p c) :=
  same_up_to_trans (modify_same_up_to p (View.withChild c) fun _ _ => rfl)
    (modify_same_up_to c (View.under (some p)) fun _ _ => rfl)

theorem unlinked_parted (p v : ViewId) (inside : s.parent v = some p) : Parted s (s.unlinked p v) p v where
  inside := inside
  parent x := by
    rw [unlinked, parent_modify, parent_modify_kept p x (View.withoutChild v) fun _ => rfl]
    split
    · cases (s.modify p (View.withoutChild v)).views[x]? <;> rfl
    · rfl
  children x := by
    rw [unlinked, children_modify_kept v x (View.under none) fun _ => rfl, children_modify, children]
    split
    · cases s.views[x]? <;> rfl
    · rfl
  given x := same_up_to_bind (unlinked_content s p v) View.givenChildren (fun _ => rfl) x

theorem linked_joined (p c : ViewId) (alone : s.parent c = none) (outside : c ∉ s.ancestors p)
    (known : p < s.views.length) (knownToo : c < s.views.length) : Joined s (s.linked p c) p c where
  alone := alone
  outside := outside
  parent x := by
    rw [linked, parent_modify, parent_modify_kept p x (View.withChild c) fun _ => rfl]
    split
    · rename_i here
      have found : x < (s.modify p (View.withChild c)).views.length := by simpa [modify, here] using knownToo
      simp [List.getElem?_eq_getElem found, View.under]
    · rfl
  children x := by
    rw [linked, children_modify_kept c x (View.under (some p)) fun _ => rfl, children_modify, children]
    split
    · rename_i here
      have found : x < s.views.length := here ▸ known
      simp [List.getElem?_eq_getElem found, View.withChild]
    · rfl
  given x := same_up_to_bind (linked_content s p c) View.givenChildren (fun _ => rfl) x

end Scene

end LayoutAlgebra
