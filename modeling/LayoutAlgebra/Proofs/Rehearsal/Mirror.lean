import LayoutAlgebra.Proofs.Forest.Growth
import LayoutAlgebra.Proofs.Rehearsal.Compiled
set_option autoImplicit false

namespace LayoutAlgebra

def View.rehearsed (view : View) : View := { view with sink := .recording 0, latest := [] }

def View.Plain (view : View) : Prop :=
  view.sink = .none ∧ ∃ mark c, view.config = .config mark c ∧ (Value.config mark c).standsAlone = true

structure Recording.Mirrors (s : Scene) (r : Recording) : Prop where
  held : ∀ v, r.recordsOn (.view v) = s.constraints v
  anchors : ∀ entry ∈ r.registrations, ∃ v < s.views.length, entry.2 = .view v

theorem Recording.records_on_register (r : Recording) (record : Value) (h v : ViewId) :
    (r.register record (.view h)).recordsOn (.view v) = r.recordsOn (.view v) ++ if h = v then [record] else [] := by
  by_cases here : h = v <;> simp [recordsOn, Value.identical, here]

namespace Scene

variable {s t live dry : Scene}

theorem constraints_add (h v : ViewId) (known : h < s.views.length) (record : Value) :
    (s.modify h fun view => view.addConstraint record).constraints v =
      s.constraints v ++ if h = v then [record] else [] := by
  rw [constraints, modify, List.getElem?_modify]
  by_cases here : h = v
  · subst here
    simp [constraints, List.getElem?_eq_getElem known]
  · simp [here, constraints]

theorem all_views_same {aspect : View → View} {property : View → Prop} (same : SameUpTo aspect s t)
    (keeps : ∀ view, property (aspect view) ↔ property view) (each : ∀ view ∈ s.views, property view) :
    ∀ view ∈ t.views, property view := by
  intro view member
  have listed : aspect view ∈ s.views.map aspect := same ▸ List.mem_map_of_mem member
  obtain ⟨old, found, alike⟩ := List.mem_map.mp listed
  exact (keeps view).mp (alike ▸ (keeps old).mpr (each old found))

theorem mapped_modify {α β : Type} (f : α → β) (g : α → α) (k : β → β) (commutes : ∀ a, k (f a) = f (g a)) (i : Nat)
    (xs : List α) : (xs.map f).modify i k = (xs.modify i g).map f := by
  apply List.ext_getElem?
  intro j
  simp only [List.getElem?_modify, List.getElem?_map, Option.map_eq_map, Option.map_map]
  congr 1
  funext a
  by_cases here : i = j <;> simp [here, commutes]

structure Rehearses (live dry : Scene) : Prop where
  views : dry.views = live.views.map View.rehearsed
  serial : dry.serial = live.serial
  steady : live.renewals = []
  steadyToo : dry.renewals = []
  regular : Regular live
  plain : ∀ view ∈ live.views, view.Plain
  recorded : ∃ r, dry.recordings = [r] ∧ r.Mirrors live

theorem rehearsed_same (rehearses : Rehearses live dry) : SameUpTo View.rehearsed live dry := by
  rw [SameUpTo, rehearses.views, List.map_map]
  rfl

theorem rehearsed_places (rehearses : Rehearses live dry) : SamePlaces live dry :=
  places_same (rehearsed_same rehearses) (fun _ => rfl) (fun _ => rfl) fun _ => rfl

theorem rehearsed_regular (rehearses : Rehearses live dry) : Regular dry where
  forest := forest_same rehearses.regular.forest (rehearsed_places rehearses)
  bare v := (given_constraints_same (rehearsed_same rehearses) (fun _ => rfl) v).trans (rehearses.regular.bare v)

theorem rehearsed_count (rehearses : Rehearses live dry) : dry.views.length = live.views.length :=
  same_up_to_count (rehearsed_same rehearses)

theorem rehearsed_ancestors (rehearses : Rehearses live dry) (v : ViewId) : dry.ancestors v = live.ancestors v :=
  ancestors_same rehearses.regular.forest (rehearsed_places rehearses) v

theorem rehearsed_meets (rehearses : Rehearses live dry) (a b : Value) :
    dry.commonAncestor a b = live.commonAncestor a b :=
  common_ancestor_same rehearses.regular.forest (rehearsed_places rehearses) a b

theorem rehearsed_own (rehearses : Rehearses live dry) (v : ViewId) (known : v < live.views.length) :
    live.sink v = .none ∧ dry.sink v = .recording 0 ∧ ∃ mark c, live.config v = .config mark c ∧
      dry.config v = .config mark c ∧ (Value.config mark c).standsAlone = true := by
  obtain ⟨sink, mark, c, config, alone⟩ := rehearses.plain _ (List.getElem_mem known)
  simp [Scene.sink, Scene.config, rehearses.views, List.getElem?_eq_getElem known, View.rehearsed, sink, config, alone]

theorem register_rehearsed (rehearses : Rehearses live dry) (record : Value) (h : ViewId)
    (known : h < live.views.length) :
    ∃ after recorded, live.register (.hierarchy 0) record (.view h) = .ok after ∧
      dry.register (.recording 0) record (.view h) = .ok recorded ∧ Rehearses after recorded ∧
      after.views.length = live.views.length := by
  obtain ⟨r, only, mirrors⟩ := rehearses.recorded
  have outline : SameUpTo View.outline live (live.modify h fun view => view.addConstraint record) :=
    modify_same_up_to h _ fun _ _ => rfl
  have unseen : SameUpTo View.rehearsed live (live.modify h fun view => view.addConstraint record) :=
    modify_same_up_to h _ fun _ _ => rfl
  have count := same_up_to_count outline
  refine ⟨live.modify h fun view => view.addConstraint record,
    dry.modifyRecording 0 fun r => r.register record (.view h), ?_, rfl, ?_, count⟩
  · simp only [register, addConstraint, rehearses.regular.bare h]
  · refine ⟨rehearses.views.trans unseen.symm, rehearses.serial, rehearses.steady, rehearses.steadyToo,
      regular_same_outline rehearses.regular outline, all_views_same outline (fun _ => Iff.rfl) rehearses.plain,
      r.register record (.view h), by simp [modifyRecording, only], ?_, ?_⟩
    · intro v
      rw [Recording.records_on_register, mirrors.held, constraints_add h v known]
    · intro entry member
      rw [Recording.registrations_register] at member
      rcases List.mem_append.mp member with before | last
      · exact count.symm ▸ mirrors.anchors entry before
      · exact ⟨h, count.symm ▸ known, by rw [List.mem_singleton.mp last]⟩

def InStep (live dry : Fallible Unit × Scene) : Prop := dry.1 = live.1 ∧ Rehearses live.2 dry.2

theorem register_all_rehearsed (rehearses : Rehearses live dry) (items : List Value)
    (each : ∀ item ∈ items, ∃ mark p, item = .pending mark p ∧ ∃ h < live.views.length, p.anchor = .view h) :
    InStep (live.registerAll (.hierarchy 0) items) (dry.registerAll (.recording 0) items) := by
  induction items generalizing live dry with
  | nil => exact ⟨rfl, rehearses⟩
  | cons item rest ih =>
      obtain ⟨mark, p, rfl, h, known, anchor⟩ := each item (by simp)
      obtain ⟨after, recorded, held, kept, rehearses', count⟩ := register_rehearsed rehearses p.record h known
      simp only [registerAll, anchor, held, kept]
      exact ih rehearses' fun other member => count ▸ each other (by simp [member])

-- What no view is meant to hold is refused by views, before anything of it is registered.
theorem register_all_stray (n : Nat) (items : List Value)
    (each : ∀ item ∈ items, ∃ mark p, item = .pending mark p ∧ ∀ h, p.anchor ≠ .view h) :
    ∃ done, ∀ s : Scene, s.registerAll (.hierarchy n) items = (done, s) := by
  cases items with
  | nil => exact ⟨.ok (), fun _ => rfl⟩
  | cons item rest =>
      obtain ⟨mark, p, rfl, other⟩ := each item (by simp)
      have refused : ∀ s : Scene, s.register (.hierarchy n) p.record p.anchor = .error .noMember := by
        intro s
        cases anchor : p.anchor with
        | view h => exact absurd anchor (other h)
        | _ => rfl
      exact ⟨.error .noMember, fun s => by simp only [registerAll, refused]⟩

theorem counted_rehearsed (rehearses : Rehearses live dry) (serial : Nat) :
    Rehearses { live with serial } { dry with serial } := by
  obtain ⟨r, only, mirrors⟩ := rehearses.recorded
  exact {
    views := rehearses.views, serial := rfl, steady := rehearses.steady, steadyToo := rehearses.steadyToo,
    regular := regular_same_outline rehearses.regular (same_up_to_of_views rfl), plain := rehearses.plain,
    recorded := ⟨r, only, mirrors.held, mirrors.anchors⟩ }

theorem kept_alike (rehearses : Rehearses live dry) (pending : List (Pending Value)) :
    dry.keptPending pending = live.keptPending pending ∧ Rehearses (live.counted pending) (dry.counted pending) := by
  simp only [keptPending, counted, keepAll, rehearses.serial]
  exact ⟨trivial, counted_rehearsed rehearses _⟩

theorem submitted_rehearsed (rehearses : Rehearses live dry) (compiled again : Logged (List (Pending Value)))
    (same : again.result = compiled.result)
    (onKnown : ∀ pending, compiled.result = .ok pending → ∀ p ∈ pending, ∃ h < live.views.length, p.anchor = .view h) :
    InStep (live.submitCompiled .none compiled).silent (dry.submitCompiled (.recording 0) again).silent := by
  rw [submit_compiled_silent, submit_compiled_silent, same]
  cases done : compiled.result with
  | error failure => exact ⟨rfl, rehearses⟩
  | ok pending =>
      obtain ⟨kept, counted⟩ := kept_alike rehearses pending
      simp only [kept]
      exact register_all_rehearsed counted _ (kept_pending_on pending (onKnown pending done))

theorem stray_rehearsed (rehearses : Rehearses live dry) (compiled again : Logged (List (Pending Value)))
    (same : again.result = compiled.result)
    (stray : ∀ pending, compiled.result = .ok pending → ∀ p ∈ pending, ∀ h, p.anchor ≠ .view h) :
    InStep (live.submitCompiled .none compiled).silent (dry.submitCompiled .none again).silent := by
  rw [submit_compiled_silent, submit_compiled_silent, same]
  cases done : compiled.result with
  | error failure => exact ⟨rfl, rehearses⟩
  | ok pending =>
      obtain ⟨kept, counted⟩ := kept_alike rehearses pending
      obtain ⟨done, refused⟩ := register_all_stray 0 (live.keptPending pending) (by
        intro item member
        obtain ⟨p, source, kept⟩ := kept_pending_source pending item member
        obtain ⟨mark, q, rfl, _, anchor⟩ := Value.kept_as_pending .new p item kept
        exact ⟨mark, q, rfl, fun h here => stray pending done p source h (Value.view_kept_as _ h (here ▸ anchor))⟩)
      simp only [kept, sinkOrViews, Value.isNone, if_true, refused]
      exact ⟨rfl, counted⟩

theorem grown_rehearsed (rehearses : Rehearses live dry) (view : View) (fresh : Fresh view) (plain : view.Plain) :
    Rehearses (live.grown view) (dry.grown view.rehearsed) where
  views := by simp [grown, keep, rehearses.serial, rehearses.views, View.rehearsed]
  serial := by simp [grown, keep, rehearses.serial, View.rehearsed]
  steady := rehearses.steady
  steadyToo := rehearses.steadyToo
  regular := grown_regular rehearses.regular view fresh
  plain := by
    intro other member
    obtain ⟨layoutMargins, views⟩ := grown_views live view
    rw [views] at member
    rcases List.mem_append.mp member with before | last
    · exact rehearses.plain other before
    · rw [List.mem_singleton.mp last]
      exact plain
  recorded := by
    obtain ⟨r, only, mirrors⟩ := rehearses.recorded
    refine ⟨r, only, fun v => (mirrors.held v).trans (grown_constraints live view fresh v).symm, ?_⟩
    intro entry member
    obtain ⟨v, known, anchor⟩ := mirrors.anchors entry member
    exact ⟨v, grown_count live view ▸ Nat.lt_succ_of_lt known, anchor⟩

theorem linked_rehearsed (rehearses : Rehearses live dry) (p c : ViewId) (regular : Regular (live.linked p c)) :
    Rehearses (live.linked p c) (dry.linked p c) where
  views := by
    simp only [linked, modify, rehearses.views]
    rw [mapped_modify View.rehearsed (View.withChild c) (View.withChild c) fun _ => rfl,
      mapped_modify View.rehearsed (View.under (some p)) (View.under (some p)) fun _ => rfl]
  serial := rehearses.serial
  steady := rehearses.steady
  steadyToo := rehearses.steadyToo
  regular := regular
  plain := all_views_same (linked_content live p c) (fun _ => Iff.rfl) rehearses.plain
  recorded := by
    obtain ⟨r, only, mirrors⟩ := rehearses.recorded
    have content := linked_content live p c
    refine ⟨r, only, fun v => (mirrors.held v).trans (constraints_same content (fun _ => rfl) v).symm, ?_⟩
    intro entry member
    obtain ⟨v, known, anchor⟩ := mirrors.anchors entry member
    exact ⟨v, same_up_to_count content ▸ known, anchor⟩

end Scene

end LayoutAlgebra
