import LayoutAlgebra.Proofs.Refusal
set_option autoImplicit false

namespace LayoutAlgebra

def recordsFor (v : ViewId) (items : List Value) : List Value :=
  items.filterMap fun
    | .pending _ p => if p.anchor.identical (.view v) then some p.record else none
    | _ => none

def entriesOf (items : List Value) : List (Value × Value) :=
  items.filterMap fun
    | .pending _ p => some (p.record, p.anchor)
    | _ => none

-- What a sink makes a view hold of a batch. A recording keeps everything to itself.
def Value.handsTo (sink : Value) (v : ViewId) (items : List Value) : List Value :=
  match sink with
  | .recording _ => []
  | _ => recordsFor v items

def Value.logsIn (sink : Value) (k : RecordingId) (items : List Value) : List (Value × Value) :=
  match sink with
  | .recording j => if j = k then entriesOf items else []
  | _ => []

def View.holding (records : List Value) (view : View) : View := { view with latest := records.reverse ++ view.latest }

def Recording.holding (entries : List (Value × Value)) (r : Recording) : Recording :=
  { r with latest := entries.reverse ++ r.latest }

@[simp] theorem View.constraints_holding (records : List Value) (view : View) :
    (view.holding records).constraints = view.constraints ++ records := by
  simp [holding, constraints]

@[simp] theorem Recording.registrations_holding (entries : List (Value × Value)) (r : Recording) :
    (r.holding entries).registrations = r.registrations ++ entries := by
  simp [holding, registrations]

@[simp] theorem View.holding_nil : View.holding [] = id := rfl

@[simp] theorem Recording.holding_nil : Recording.holding [] = id := rfl

theorem View.holding_append (records later : List Value) :
    View.holding later ∘ View.holding records = View.holding (records ++ later) := by
  funext view
  simp [holding]

theorem Recording.holding_append (entries later : List (Value × Value)) :
    Recording.holding later ∘ Recording.holding entries = Recording.holding (entries ++ later) := by
  funext r
  simp [holding]

section

variable {α : Type} (xs : List α)

theorem changed_nowhere : xs.mapIdx (fun _ => id) = xs := List.ext_getElem? fun i => by simp

theorem changed_once (i : Nat) (change : Nat → α → α) (others : ∀ j, j ≠ i → change j = id) :
    xs.mapIdx change = xs.modify i (change i) := by
  apply List.ext_getElem?
  intro j
  rw [List.getElem?_mapIdx, List.getElem?_modify]
  by_cases here : i = j
  · simp [here]
  · simp [here, others j (Ne.symm here)]

end

namespace Value

variable (sink : Value) (items later : List Value)

@[simp] theorem hands_none (v : ViewId) : sink.handsTo v [] = [] := by
  unfold handsTo
  split <;> rfl

@[simp] theorem logs_none (k : RecordingId) : sink.logsIn k [] = [] := by
  unfold logsIn
  split
  · split <;> rfl
  · rfl

theorem hands_append (v : ViewId) : sink.handsTo v (items ++ later) = sink.handsTo v items ++ sink.handsTo v later := by
  unfold handsTo
  split
  · rfl
  · exact List.filterMap_append

theorem logs_append (k : RecordingId) : sink.logsIn k (items ++ later) = sink.logsIn k items ++ sink.logsIn k later := by
  unfold logsIn
  split
  · split
    · exact List.filterMap_append
    · rfl
  · rfl

theorem hands_elsewhere (elsewhere : ∀ k, sink ≠ .recording k) (v : ViewId) :
    sink.handsTo v items = recordsFor v items := by
  cases sink with
  | recording k => exact absurd rfl (elsewhere k)
  | _ => rfl

theorem logs_elsewhere (elsewhere : ∀ k, sink ≠ .recording k) (k : RecordingId) : sink.logsIn k items = [] := by
  cases sink with
  | recording j => exact absurd rfl (elsewhere j)
  | _ => rfl

def OnView (item : Value) : Prop := ∃ mark p h, item = .pending mark p ∧ p.anchor = .view h

end Value

namespace Scene

variable {s t : Scene}

def delivered (s : Scene) (sink : Value) (items : List Value) : Scene :=
  { s with
    views := s.views.mapIdx fun v => View.holding (sink.handsTo v items),
    recordings := s.recordings.mapIdx fun k => Recording.holding (sink.logsIn k items) }

structure Delivers (s t : Scene) (sink : Value) (items : List Value) : Prop where
  pending : ∀ item ∈ items, ∃ mark p, item = .pending mark p ∧ ∃ h < s.views.length, p.anchor = .view h
  held : ∀ v, t.views[v]? = s.views[v]?.map (View.holding (sink.handsTo v items))
  logged : ∀ k, t.recordings[k]? = s.recordings[k]?.map (Recording.holding (sink.logsIn k items))

@[simp] theorem view_delivered (sink : Value) (items : List Value) (v : ViewId) :
    (s.delivered sink items).views[v]? = s.views[v]?.map (View.holding (sink.handsTo v items)) :=
  List.getElem?_mapIdx

@[simp] theorem recording_delivered (sink : Value) (items : List Value) (k : RecordingId) :
    (s.delivered sink items).recordings[k]? = s.recordings[k]?.map (Recording.holding (sink.logsIn k items)) :=
  List.getElem?_mapIdx

theorem delivered_nil (sink : Value) : s.delivered sink [] = s := by
  simp only [delivered, Value.hands_none, Value.logs_none, View.holding_nil, Recording.holding_nil, changed_nowhere]

theorem delivered_append (sink : Value) (items later : List Value) :
    (s.delivered sink items).delivered sink later = s.delivered sink (items ++ later) := by
  simp only [delivered, List.mapIdx_mapIdx, View.holding_append, Recording.holding_append, Value.hands_append,
    Value.logs_append]

theorem delivered_outline (sink : Value) (items : List Value) : SameUpTo View.outline s (s.delivered sink items) := by
  apply List.ext_getElem?
  intro v
  simp only [List.getElem?_map, view_delivered, Option.map_map]
  rfl

theorem register_delivered (bare : ∀ v, s.givenConstraints v = none) (sink : Value) (takes : sink.Takes) (mark : Mark)
    (p : Pending Value) (h : ViewId) (anchor : p.anchor = .view h) :
    s.register sink p.record p.anchor = .ok (s.delivered sink [.pending mark p]) := by
  rcases takes with ⟨n, rfl⟩ | ⟨k, rfl⟩
  · have own : Value.handsTo (.hierarchy n) h [.pending mark p] = [p.record] := by
      simp [Value.handsTo, recordsFor, anchor, Value.identical]
    have other : ∀ v, v ≠ h → View.holding (Value.handsTo (.hierarchy n) v [.pending mark p]) = id := by
      intro v apart
      simp [Value.handsTo, recordsFor, anchor, Value.identical, Ne.symm apart]
    simp only [register, anchor, addConstraint, bare h, delivered, Value.logsIn, Recording.holding_nil, changed_nowhere,
      changed_once s.views h _ other, own]
    rfl
  · have other : ∀ j, j ≠ k → Recording.holding (Value.logsIn (.recording k) j [.pending mark p]) = id := by
      intro j apart
      simp [Value.logsIn, Ne.symm apart]
    have own : Value.logsIn (.recording k) k [.pending mark p] = [(p.record, p.anchor)] := by
      simp [Value.logsIn, entriesOf]
    simp only [register, delivered, Value.handsTo, View.holding_nil, changed_nowhere,
      changed_once s.recordings k _ other, own]
    rfl

-- Induction on the batch: one record after the other finds its place behind those before it.
theorem register_all_delivered (bare : ∀ v, s.givenConstraints v = none) (sink : Value) (takes : sink.Takes)
    (items : List Value) (each : ∀ item ∈ items, item.OnView) :
    s.registerAll sink items = (.ok (), s.delivered sink items) := by
  induction items generalizing s with
  | nil =>
      rw [delivered_nil]
      rfl
  | cons item rest ih =>
      obtain ⟨mark, p, h, rfl, anchor⟩ := each item (by simp)
      have outline := delivered_outline (s := s) sink [.pending mark p]
      have bareToo := fun v => (given_constraints_same outline (fun _ => rfl) v).trans (bare v)
      simp only [registerAll, register_delivered bare sink takes mark p h anchor]
      rw [ih bareToo fun other member => each other (by simp [member]), delivered_append]
      rfl

theorem delivered_by_views (items : List Value) (sink : Value) :
    s.delivered (sinkOrViews sink) items = s.delivered sink items := by
  cases sink <;> rfl

def after (s : Scene) (sink : Value) (pending : List (Pending Value)) : Scene :=
  (s.counted pending).delivered sink (s.keptPending pending)

@[simp] theorem view_after (sink : Value) (pending : List (Pending Value)) (v : ViewId) :
    (s.after sink pending).views[v]? = s.views[v]?.map (View.holding (sink.handsTo v (s.keptPending pending))) :=
  view_delivered sink _ v

@[simp] theorem recording_after (sink : Value) (pending : List (Pending Value)) (k : RecordingId) :
    (s.after sink pending).recordings[k]? =
      s.recordings[k]?.map (Recording.holding (sink.logsIn k (s.keptPending pending))) :=
  recording_delivered sink _ k

theorem after_outline (sink : Value) (pending : List (Pending Value)) : SameUpTo View.outline s (s.after sink pending) :=
  delivered_outline (s := s.counted pending) sink _

theorem submit_compiled_delivered (bare : ∀ v, s.givenConstraints v = none) (sink : Value)
    (takes : (sinkOrViews sink).Takes) (compiled : Logged (List (Pending Value))) (pending : List (Pending Value))
    (done : compiled.result = .ok pending) (each : ∀ p ∈ pending, ∃ h < s.views.length, p.anchor = .view h) :
    (s.submitCompiled sink compiled).result = .ok (s.keptPending pending) ∧
      (s.submitCompiled sink compiled).scene = s.after sink pending ∧
      Delivers s (s.after sink pending) sink (s.keptPending pending) := by
  have kept := kept_pending_on (s := s) pending each
  have held : (s.counted pending).registerAll (sinkOrViews sink) (s.keptPending pending) =
      (.ok (), s.after sink pending) := by
    have onView : ∀ item ∈ s.keptPending pending, item.OnView := by
      intro item member
      obtain ⟨mark, p, same, h, _, anchor⟩ := kept item member
      exact ⟨mark, p, h, same, anchor⟩
    rw [register_all_delivered (s := s.counted pending) bare _ takes _ onView, delivered_by_views, after]
  refine ⟨?_, ?_, kept, view_after sink pending, recording_after sink pending⟩
  · unfold submitCompiled
    rw [done]
    change ((s.counted pending).submitItems sink (s.keptPending pending)).result = _
    simp only [submitItems, held]
  · rw [submit_compiled_scene, done]
    exact congrArg Prod.snd held

end Scene

end LayoutAlgebra
