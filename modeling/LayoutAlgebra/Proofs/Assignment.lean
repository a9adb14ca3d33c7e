import LayoutAlgebra.Proofs.Delivery
import LayoutAlgebra.Proofs.Rehearsal
import LayoutAlgebra.Script.Session
set_option autoImplicit false

namespace LayoutAlgebra

def Accessor.count : Accessor → Nat
  | .line _ | .length _ | .ratio => 1
  | .edges _ => 4
  | .middle => 2

structure Outcome.Alike {α : Type} (done other : Outcome α) : Prop where
  result : done.result = other.result
  views : done.scene.views = other.scene.views
  recordings : done.scene.recordings = other.scene.recordings

def Value.PendingAt (v h : ViewId) (item : Value) : Prop :=
  ∃ mark p other r, item = .pending mark p ∧ p.anchor = .view h ∧ p.record = .record other r ∧ r.subject = .view v

namespace Scene

variable {s t : Scene}

-- The calls in place of an assignment by a relation: the property is read and related to the value, and the relation is
-- activated under the configuration of the view and into its sink.
def relateAndActivate (s : Scene) (v : ViewId) (accessor : Accessor) (value : Value) : Outcome (List Value) :=
  let related := do
    let side ← accessor.side s.surroundings value
    (accessor.read (.view v)).relate side .equal
  match related with
  | .error failure => ⟨.error failure, s, []⟩
  | .ok r => s.activate [.relationship .new r] (s.sink v) (s.config v)

-- Compiling and submitting by two calls: the list in between is an object of its own.
def compileAndSubmit (s : Scene) (sink : Value) (compiled : Logged (List (Pending Value))) : Outcome (List Value) :=
  match compiled.result with
  | .error failure => ⟨.error failure, s, compiled.history s⟩
  | .ok pending =>
    let (list, counted) := s.keep (Script.pendingList pending)
    let done := counted.submit list sink
    { done with events := compiled.history s ++ done.events }

def compileEdgesWith (s : Scene) (config element edges subjectMargins : Value) : Logged (List (Pending Value)) := do
  let config ← Logged.of (s.configOrStandard config)
  s.compileEdges config element edges subjectMargins

def compileCenterWith (s : Scene) (config element center : Value) : Logged (List (Pending Value)) := do
  let config ← Logged.of (s.configOrStandard config)
  s.compileCenter config element center

theorem compile_all_single (config relationship : Value) :
    s.compileAll config [relationship] = s.compile config relationship := by
  have single : ∀ compiled : Logged (List (Pending Value)),
      (compiled >>= fun first => (first ++ ·) <$> Logged.of (.ok [])) = compiled := by
    rintro ⟨failure | pending, events⟩
    · rfl
    · change (⟨.ok (pending ++ []), events ++ []⟩ : Logged (List (Pending Value))) = _
      rw [List.append_nil, List.append_nil]
  exact single _

theorem assign_relates (v : ViewId) (accessor : Accessor) (relates : accessor.relates = true) (value : Value) :
    s.assign v accessor value = s.relateAndActivate v accessor value := by
  have assigned : s.assigned v accessor value = (do
      let r ← Logged.of (do
        let side ← accessor.side s.surroundings value
        (accessor.read (.view v)).relate side .equal)
      let config ← s.ownConfig v
      s.compile config (.relationship .new r)) := by
    cases accessor with
    | line _ | length _ => rfl
    | ratio =>
        unfold Scene.assigned Accessor.side
        cases ratioSide s.surroundings value <;> rfl
    | edges _ | middle => cases relates
  rw [assign, assigned, relateAndActivate]
  cases (do
    let side ← accessor.side s.surroundings value
    (accessor.read (.view v)).relate side .equal : Fallible (Relationship Value)) with
  | error failure => rfl
  | ok r =>
      simp only [Logged.of_ok_bind, ownConfig, activate]
      cases s.configOrStandard (s.config v) with
      | error failure => rfl
      | ok settings => simp only [Logged.of_ok_bind, compile_all_single]

theorem register_renumbered (sink record anchor : Value) (serial : Nat) :
    { s with serial }.register sink record anchor =
      (s.register sink record anchor).map fun t => { t with serial } := by
  cases sink with
  | hierarchy n =>
      cases anchor with
      | view h =>
          have same : { s with serial }.givenConstraints h = s.givenConstraints h := rfl
          simp only [register, addConstraint, same]
          cases s.givenConstraints h with
          | none => rfl
          | some given =>
              cases given with
              | shared list => cases list <;> rfl
              | _ => rfl
      | _ => rfl
  | _ => rfl

theorem register_all_renumbered (sink : Value) (items : List Value) (serial : Nat) :
    { s with serial }.registerAll sink items =
      ((s.registerAll sink items).1, { (s.registerAll sink items).2 with serial }) := by
  induction items generalizing s with
  | nil => rfl
  | cons item rest ih =>
      cases item with
      | pending mark p =>
          simp only [registerAll, register_renumbered]
          cases s.register sink p.record p.anchor with
          | error failure => rfl
          | ok t => exact ih
      | _ => rfl

theorem submit_items_renumbered (sink : Value) (items : List Value) (serial : Nat) :
    (s.submitItems sink items).Alike ({ s with serial }.submitItems sink items) := by
  have again := register_all_renumbered (s := s) (sinkOrViews sink) items serial
  unfold submitItems
  rw [again]
  obtain ⟨done, after⟩ := s.registerAll (sinkOrViews sink) items
  cases done <;> exact ⟨rfl, rfl, rfl⟩

-- The list of what is pending takes a number of its own after its items.
theorem compile_and_submit_alike (sink : Value) (compiled : Logged (List (Pending Value))) :
    (s.submitCompiled sink compiled).Alike (s.compileAndSubmit sink compiled) := by
  unfold submitCompiled compileAndSubmit
  cases compiled.result with
  | error failure => exact ⟨rfl, rfl, rfl⟩
  | ok pending =>
      obtain ⟨result, views, recordings⟩ := submit_items_renumbered (s := s.counted pending) sink (s.keptPending pending)
        ((s.counted pending).serial + 1)
      exact ⟨result, views, recordings⟩

theorem emit_all_count (anchor : Value) (records : List (ConstraintRecord Value)) (pending : List (Pending Value))
    (emitted : (emitAll anchor records).result = .ok pending) : pending.length = records.length := by
  rw [emit_all_result] at emitted
  rw [← Except.ok.inj emitted, List.length_map]

theorem side_count (inset : Value) (sides : List (Attribute × Value)) (split : sideConstants inset = .ok sides) :
    sides.length = 4 := by
  unfold sideConstants at split
  split at split
  · simp only [Fallible.bind_ok_iff] at split
    obtain ⟨right, _, bottom, _, same⟩ := split
    rw [← Except.ok.inj same]
    rfl
  · cases split
  · cases split

theorem compile_edges_count (config element edges margins : Value) (pending : List (Pending Value))
    (compiled : (s.compileEdges config element edges margins).result = .ok pending) : pending.length = 4 := by
  simp only [compileEdges, Logged.bind_ok_iff, Logged.of_result] at compiled
  obtain ⟨object, _, anchor, _, compiled⟩ := compiled
  split at compiled
  · simp only [Logged.bind_ok_iff, Logged.of_result] at compiled
    obtain ⟨sides, split, _, _, _, _, _, _, emitted⟩ := compiled
    rw [emit_all_count anchor _ pending emitted, List.length_map, side_count _ sides split]
  · cases compiled

theorem compile_center_count (config element center : Value) (pending : List (Pending Value))
    (compiled : (s.compileCenter config element center).result = .ok pending) : pending.length = 2 := by
  simp only [compileCenter, Logged.bind_ok_iff, Logged.of_result] at compiled
  obtain ⟨object, _, anchor, _, compiled⟩ := compiled
  split at compiled
  · simp only [Logged.bind_ok_iff, Logged.of_result] at compiled
    obtain ⟨_, _, emitted⟩ := compiled
    rw [emit_all_count anchor _ pending emitted]
    rfl
  · cases compiled

theorem compile_count (config relationship : Value) (pending : List (Pending Value))
    (compiled : (s.compile config relationship).result = .ok pending) : pending.length = 1 := by
  obtain ⟨_, _, _, _, _, _, _, _, rfl, _, _⟩ := compile_record config relationship pending compiled
  rfl

theorem assigned_count (v : ViewId) (accessor : Accessor) (value : Value) (pending : List (Pending Value))
    (compiled : (s.assigned v accessor value).result = .ok pending) : pending.length = accessor.count := by
  cases accessor with
  | line _ | length _ =>
      simp only [assigned, Logged.bind_ok_iff, Logged.of_result] at compiled
      obtain ⟨_, _, config, _, compiled⟩ := compiled
      exact compile_count config _ pending compiled
  | ratio =>
      simp only [assigned, Logged.bind_ok_iff, Logged.of_result] at compiled
      obtain ⟨_, _, _, _, config, _, compiled⟩ := compiled
      exact compile_count config _ pending compiled
  | edges usesMargins =>
      simp only [assigned] at compiled
      split at compiled
      · obtain ⟨config, _, compiled⟩ := (Logged.bind_ok_iff _ _ _).mp compiled
        exact compile_edges_count config _ _ _ pending compiled
      · cases compiled
  | middle =>
      simp only [assigned] at compiled
      split at compiled
      · obtain ⟨config, _, compiled⟩ := (Logged.bind_ok_iff _ _ _).mp compiled
        exact compile_center_count config _ _ pending compiled
      · cases compiled

theorem assigned_together (v : ViewId) (accessor : Accessor) (value : Value) (pending : List (Pending Value))
    (compiled : (s.assigned v accessor value).result = .ok pending) : ∃ anchor, ∀ p ∈ pending, p.anchor = anchor := by
  rcases assigned_cases v accessor value pending compiled with
    ⟨config, r, _, _, compiled, _, _⟩ | ⟨_, object, anchor, _, each⟩
  · obtain ⟨_, _, _, _, _, _, p, _, rfl, _, _⟩ := compile_record config _ pending compiled
    exact ⟨p.anchor, fun q member => by rw [List.mem_singleton.mp member]⟩
  · refine ⟨anchor, fun p member => ?_⟩
    obtain ⟨r, rfl, _⟩ := each p member
    rfl

theorem assigned_in_place (forest : Forest s) (v : ViewId) (known : v < s.views.length) (accessor : Accessor)
    (value : Value) (pending : List (Pending Value)) (compiled : (s.assigned v accessor value).result = .ok pending) :
    ∃ h < s.views.length, ∀ p ∈ pending, p.anchor = .view h := by
  obtain ⟨anchor, together⟩ := assigned_together v accessor value pending compiled
  have count := assigned_count v accessor value pending compiled
  cases pending with
  | nil => cases accessor <;> cases count
  | cons p rest =>
      have about := assigned_about v accessor value _ compiled p (by simp)
      obtain ⟨h, inside, here⟩ := about_known forest v known p about
      exact ⟨h, inside, fun q member => by rw [together q member, ← here, together p (by simp)]⟩

theorem all_numbered_count (items : List Value) (n : Nat) :
    ((Value.allNumbered items).run n).1.length = items.length := by
  induction items generalizing n with
  | nil => rfl
  | cons item rest ih => exact congrArg (· + 1) (ih _)

theorem kept_count (pending : List (Pending Value)) : (s.keptPending pending).length = pending.length := by
  rw [keptPending, keepAll, all_numbered_count, List.length_map]

theorem kept_in_place (v h : ViewId) (pending : List (Pending Value))
    (each : ∀ p ∈ pending, p.anchor = .view h ∧ p.About s (.view v)) :
    ∀ item ∈ s.keptPending pending, item.PendingAt v h := by
  intro item member
  obtain ⟨p, source, kept⟩ := kept_pending_source pending item member
  obtain ⟨mark, q, rfl, record, anchor⟩ := Value.kept_as_pending .new p item kept
  obtain ⟨here, r, recorded, subject, _⟩ := each p source
  rw [recorded] at record
  obtain ⟨other, q', same, subjectToo, _, _⟩ := Value.kept_as_record .new r _ record
  exact ⟨mark, q, other, q', rfl, Value.kept_as_view h _ (here ▸ anchor), same,
    Value.kept_as_view v _ (subject ▸ subjectToo)⟩

theorem records_in_place (v h : ViewId) (items : List Value) (each : ∀ item ∈ items, item.PendingAt v h) :
    entriesOf items = (recordsFor h items).map (fun record => (record, .view h)) ∧
      (recordsFor h items).length = items.length ∧ ∀ w, w ≠ h → recordsFor w items = [] := by
  induction items with
  | nil => exact ⟨rfl, rfl, fun _ _ => rfl⟩
  | cons item rest ih =>
      obtain ⟨mark, p, _, _, rfl, anchor, _, _⟩ := each item (by simp)
      obtain ⟨entries, count, others⟩ := ih fun other member => each other (by simp [member])
      have here : recordsFor h (.pending mark p :: rest) = p.record :: recordsFor h rest := by
        simp [recordsFor, anchor, Value.identical]
      refine ⟨?_, by rw [here, List.length_cons, count]; rfl, fun w apart => ?_⟩
      · rw [here, List.map_cons, ← entries, ← anchor]
        rfl
      · have other : recordsFor w (.pending mark p :: rest) = recordsFor w rest := by
          simp [recordsFor, anchor, Value.identical, Ne.symm apart]
        rw [other, others w apart]

inductive Appended (s t : Scene) (sink : Value) (h : ViewId) (records : List Value) : Prop where
  | logged (k : RecordingId) (into : sink = .recording k)
      (registrations : (t.recording k).registrations =
        (s.recording k).registrations ++ records.map fun record => (record, .view h))
      (priorities : (t.recording k).priorities = (s.recording k).priorities)
      (others : ∀ j, j ≠ k → t.recordings[j]? = s.recordings[j]?) (views : t.views = s.views)
  | held (elsewhere : ∀ k, sink ≠ .recording k) (constraints : t.constraints h = s.constraints h ++ records)
      (outline : SameUpTo View.outline s t) (others : ∀ w, w ≠ h → t.views[w]? = s.views[w]?)
      (recordings : t.recordings = s.recordings)

theorem after_in_place (sink : Value) (recorded : ∀ k, sink = .recording k → k < s.recordings.length) (v h : ViewId)
    (known : h < s.views.length) (pending : List (Pending Value))
    (each : ∀ item ∈ s.keptPending pending, item.PendingAt v h) :
    Appended s (s.after sink pending) sink h (recordsFor h (s.keptPending pending)) := by
  obtain ⟨entries, _, others⟩ := records_in_place v h _ each
  by_cases recording : ∃ k, sink = .recording k
  · obtain ⟨k, rfl⟩ := recording
    have found := List.getElem?_eq_getElem (recorded k rfl)
    have here : (s.after (.recording k) pending).recording k =
        (s.recording k).holding (entriesOf (s.keptPending pending)) := by
      simp [recording, Value.logsIn, found]
    refine .logged k rfl ?_ ?_ (fun j apart => ?_) (List.ext_getElem? fun w => ?_)
    · rw [here, Recording.registrations_holding, entries]
    · rw [here]
      rfl
    · simp [Value.logsIn, Ne.symm apart]
    · simp [Value.handsTo]
  · have elsewhere : ∀ k, sink ≠ .recording k := fun k same => recording ⟨k, same⟩
    have hands := Value.hands_elsewhere sink (s.keptPending pending) elsewhere
    have logs := Value.logs_elsewhere sink (s.keptPending pending) elsewhere
    refine .held elsewhere ?_ (after_outline sink pending) (fun w apart => ?_) (List.ext_getElem? fun j => ?_)
    · have found := List.getElem?_eq_getElem known
      simp [constraints, found, hands]
    · simp [hands, others w apart]
    · simp [logs]

theorem succeeded_takes (sink : Value) (items : List Value) (v h : ViewId) (each : ∀ item ∈ items, item.PendingAt v h)
    (some : items ≠ []) (done : (s.registerAll sink items).1 = .ok ()) : sink.Takes := by
  by_contra refuses
  cases items with
  | nil => exact some rfl
  | cons item rest =>
      obtain ⟨mark, p, _, _, rfl, _⟩ := each item (by simp)
      simp [registerAll, register_refused sink p.record p.anchor refuses] at done

theorem assign_in_place (regular : Regular s) (v : ViewId) (known : v < s.views.length)
    (recorded : ∀ k, s.sink v = .recording k → k < s.recordings.length) (accessor : Accessor) (value : Value)
    (items : List Value) (done : (s.assign v accessor value).result = .ok items) :
    items.length = accessor.count ∧ ∃ h < s.views.length, (∀ item ∈ items, item.PendingAt v h) ∧
      (recordsFor h items).length = accessor.count ∧
      Appended s (s.assign v accessor value).scene (s.sink v) h (recordsFor h items) := by
  have silent := submit_compiled_silent (s := s) (s.sink v) (s.assigned v accessor value)
  rw [← assign, Outcome.silent, done] at silent
  cases compiled : (s.assigned v accessor value).result with
  | error failure =>
      rw [compiled] at silent
      cases silent
  | ok pending =>
      obtain ⟨h, inside, anchors⟩ := assigned_in_place regular.forest v known accessor value pending compiled
      have about := assigned_about v accessor value pending compiled
      have each := kept_in_place v h pending fun p member => ⟨anchors p member, about p member⟩
      have count := (kept_count (s := s) pending).trans (assigned_count v accessor value pending compiled)
      rw [compiled] at silent
      have takes : (sinkOrViews (s.sink v)).Takes := by
        apply succeeded_takes (s := s.counted pending) _ _ v h each
        · intro none
          rw [none] at count
          cases accessor <;> cases count
        · exact (congrArg Prod.fst silent).symm
      obtain ⟨result, scene, _⟩ := submit_compiled_delivered regular.bare (s.sink v) takes _ pending compiled
        fun p member => ⟨h, inside, anchors p member⟩
      obtain rfl : items = s.keptPending pending := Except.ok.inj (done.symm.trans result)
      refine ⟨count, h, inside, each, ?_, ?_⟩
      · rw [(records_in_place v h _ each).2.1, count]
      · rw [assign, scene]
        exact after_in_place (s.sink v) recorded v h inside pending each

/-- Assigning an expression or a number to a property of a view, or a pair to its ratio, is relating the property to it
and activating the relation under the configuration of the view and into its sink. Assigning edges, margins or a centre is
compiling them under that configuration and submitting what is pending to that sink. An assignment that succeeds comes to
one record, for edges and margins to four, and for a centre to two: all of them about the view, and all put at the end of
one place. -/
theorem assignment_calls (s : Scene) (reached : Reached Act.Known s) (v : ViewId) (known : v < s.views.length)
    (recorded : ∀ k, s.sink v = .recording k → k < s.recordings.length) :
    (∀ accessor value, accessor.relates = true → s.assign v accessor value = s.relateAndActivate v accessor value) ∧
      (∀ usesMargins mark e, (s.assign v (.edges usesMargins) (.edges mark e)).Alike
        (s.compileAndSubmit (s.sink v)
          (s.compileEdgesWith (s.config v) (.view v) (.edges mark e) (.bool usesMargins)))) ∧
      (∀ mark e, (s.assign v .middle (.center mark e)).Alike
        (s.compileAndSubmit (s.sink v) (s.compileCenterWith (s.config v) (.view v) (.center mark e)))) ∧
      ∀ accessor value items, (s.assign v accessor value).result = .ok items →
        items.length = accessor.count ∧ ∃ h < s.views.length, (∀ item ∈ items, item.PendingAt v h) ∧
          (recordsFor h items).length = accessor.count ∧
          Appended s (s.assign v accessor value).scene (s.sink v) h (recordsFor h items) :=
  ⟨fun accessor value relates => assign_relates v accessor relates value,
    fun _ _ _ => compile_and_submit_alike _ _, fun _ _ => compile_and_submit_alike _ _,
    assign_in_place (regular_of_reached reached) v known recorded⟩

theorem nested_assignment_calls :
    nested.assign 1 (.length .width) ((Accessor.length .width).read (.view 0)) =
        nested.relateAndActivate 1 (.length .width) ((Accessor.length .width).read (.view 0)) ∧
      ∃ items, (nested.assign 1 (.edges false) ((Accessor.edges true).read (.view 0))).result = .ok items ∧
        items.length = 4 ∧ ∃ h < nested.views.length, Appended nested
          (nested.assign 1 (.edges false) ((Accessor.edges true).read (.view 0))).scene .none h
          (recordsFor h items) := by
  obtain ⟨related, _, _, placed⟩ := assignment_calls nested nested_reached 1 (by decide) (by rintro k ⟨⟩)
  have succeeds : (nested.assign 1 (.edges false) ((Accessor.edges true).read (.view 0))).result.isOk = true := by
    decide +kernel
  obtain ⟨items, done⟩ := Fallible.ok_of_is_ok _ succeeds
  obtain ⟨count, h, inside, _, _, appended⟩ := placed _ _ items done
  exact ⟨related _ _ rfl, items, done, count, h, inside, appended⟩

end Scene

end LayoutAlgebra
