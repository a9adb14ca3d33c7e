import LayoutAlgebra.Proofs.Keys
import LayoutAlgebra.Proofs.Priority.Bounds
import LayoutAlgebra.Proofs.Steady
set_option autoImplicit false

namespace LayoutAlgebra

inductive Holder where
  | view (v : ViewId)
  | recording (k : RecordingId) (v : ViewId)
deriving DecidableEq

structure Slot where
  holder : Holder
  which : Resistance
  along : Axis
deriving DecidableEq

namespace Value

def axis? : Value → Option Axis
  | .axis along => some along
  | _ => Option.none

def holder? : Value → Value → Option Holder
  | .hierarchy _, .view v => some (.view v)
  | .recording k, .view v => some (.recording k v)
  | _, _ => Option.none

end Value

def Slot.meant (holder : Option Holder) (which : Resistance) (axis priority : Value) : Option (Slot × Value) := do
  return (⟨← holder, which, ← axis.axis?⟩, priority)

def Slot.taken (slot : Slot) : Option (Slot × Value) → Option Value
  | some (meant, priority) => if meant = slot then some priority else none
  | none => none

namespace Scene

variable (s : Scene) (slot : Slot)

-- The three ways of a priority: through the sink that is named, else through the sink of the element, else to the element.
def route (s : Scene) : Value → Value → Option Holder
  | .none, .view v =>
    match s.sink v with
    | .none => some (.view v)
    | own => own.holder? (.view v)
  | sink, element => sink.holder? element

def stored : Option Value :=
  match slot.holder with
  | .view v => (s.priorities v slot.which).get? (.axis slot.along)
  | .recording k v => ((s.recording k).priorities slot.which).get? (.tuple .new [.view v, .axis slot.along])

def Has : Prop :=
  match slot.holder with
  | .view v => v < s.views.length
  | .recording k _ => k < s.recordings.length

end Scene

namespace Act

def addressed (s : Scene) : Act → Option (Slot × Value)
  | .setPriority v which axis priority => Slot.meant (some (.view v)) which axis priority
  | .sendPriority sink which element axis priority => Slot.meant (sink.holder? element) which axis priority
  | .resist along which priority sink => Slot.meant (s.route sink along.element) which along.axis priority
  | _ => none

def Lasting : Act → Prop
  | .construct _ | .makeRecording | .clear _ => False
  | _ => True

-- What an act writes to a slot: nothing if it is refused, or meant for another one.
def write? (s : Scene) (act : Act) (slot : Slot) : Option Value :=
  if (act.run s).1.isOk then slot.taken (act.addressed s) else none

end Act

namespace Scene

structure Writes (s t : Scene) (write? : Slot → Option Value) : Prop where
  views : t.views.length = s.views.length
  recordings : t.recordings.length = s.recordings.length
  stored : ∀ slot, s.Has slot → t.stored slot = (write? slot).or (s.stored slot)

def Keeps (s t : Scene) : Prop := Writes s t fun _ => none

variable {s t u : Scene}

theorem keeps_refl (s : Scene) : Keeps s s := ⟨rfl, rfl, fun _ _ => rfl⟩

theorem writes_has {write? : Slot → Option Value} (writes : Writes s t write?) (slot : Slot) :
    t.Has slot ↔ s.Has slot := by
  rw [Has, Has, writes.views, writes.recordings]

theorem keeps_then {write? : Slot → Option Value} (keeps : Keeps s t) (writes : Writes t u write?) : Writes s u write? where
  views := writes.views.trans keeps.views
  recordings := writes.recordings.trans keeps.recordings
  stored slot has := by
    rw [writes.stored slot ((writes_has keeps slot).mpr has), keeps.stored slot has, Option.none_or]

theorem priorities_modify (v w : ViewId) (which : Resistance) (change : View → View) :
    (s.modify v change).priorities w which =
      if w = v then (s.views[w]?.map fun view => (change view).priorities which).getD [] else s.priorities w which := by
  rw [Scene.priorities, modify, List.getElem?_modify]
  by_cases here : w = v
  · subst here
    cases s.views[w]? <;> simp
  · simp [here, Ne.symm here, Scene.priorities]

theorem keeps_modify (v : ViewId) (change : View → View)
    (keeps : ∀ view which, (change view).priorities which = view.priorities which) : Keeps s (s.modify v change) where
  views := List.length_modify _ _ _
  recordings := rfl
  stored slot _ := by
    have priorities : ∀ w which, (s.modify v change).priorities w which = s.priorities w which := fun w which => by
      rw [priorities_modify]
      simp only [keeps]
      exact ite_self _
    simp only [Scene.stored, priorities, Option.none_or]
    rfl

theorem recording_modify (k j : RecordingId) (change : Recording → Recording) :
    (s.modifyRecording k change).recording j =
      if j = k then (s.recordings[j]?.map change).getD .empty else s.recording j := by
  rw [recording, modifyRecording, List.getElem?_modify]
  by_cases here : j = k
  · subst here
    cases s.recordings[j]? <;> simp
  · simp [here, Ne.symm here, recording]

theorem keeps_modify_recording (k : RecordingId) (change : Recording → Recording)
    (keeps : ∀ r which, (change r).priorities which = r.priorities which) : Keeps s (s.modifyRecording k change) where
  views := rfl
  recordings := List.length_modify _ _ _
  stored slot _ := by
    have priorities : ∀ j which, ((s.modifyRecording k change).recording j).priorities which
        = (s.recording j).priorities which := fun j which => by
      rw [recording_modify]
      split
      · rw [recording]
        cases s.recordings[j]? with
        | none => rfl
        | some r => exact keeps r which
      · rfl
    simp only [Scene.stored, priorities, Option.none_or]
    rfl

theorem add_constraint_keeps (v : ViewId) (record : Value) (added : s.addConstraint v record = .ok t) : Keeps s t := by
  rcases add_constraint_cases v record added with ⟨_, rfl⟩ | ⟨_, rfl⟩
  · exact keeps_modify v _ fun view which => by cases which <;> rfl
  · exact ⟨rfl, rfl, fun _ _ => rfl⟩

theorem remove_constraint_keeps (v : ViewId) (record : Value) (removed : s.removeConstraint v record = .ok t) :
    Keeps s t := by
  obtain ⟨_, rfl | ⟨_, rfl⟩⟩ := remove_constraint_cases v record removed
  · exact keeps_modify v _ fun view which => by cases which <;> rfl
  · exact ⟨rfl, rfl, fun _ _ => rfl⟩

theorem keeps_persists (s : Scene) : Persists (Keeps s) where
  registered t u sink record anchor keeps registered := by
    rcases register_cases sink record anchor registered with ⟨_, h, _, _, added⟩ | ⟨k, _, rfl⟩
    · exact keeps_then keeps (add_constraint_keeps h record added)
    · exact keeps_then keeps (keeps_modify_recording k _ fun r which => by cases which <;> rfl)
  counted _ _ keeps := ⟨keeps.views, keeps.recordings, keeps.stored⟩

theorem drop_keeps (views holders : List ViewId) : Keeps s (s.dropInvolving views holders).2 := by
  induction holders generalizing s with
  | nil => exact keeps_refl s
  | cons holder rest ih =>
      rw [dropInvolving]
      split
      · exact keeps_refl s
      · exact keeps_then (keeps_modify holder _ fun view which => by cases which <;> rfl) ih

theorem unlinked_keeps (p v : ViewId) : Keeps s (s.unlinked p v) :=
  keeps_then (keeps_modify p (View.withoutChild v) fun view which => by cases which <;> rfl)
    (keeps_modify v (View.under none) fun view which => by cases which <;> rfl)

theorem linked_keeps (p c : ViewId) : Keeps s (s.linked p c) :=
  keeps_then (keeps_modify p (View.withChild c) fun view which => by cases which <;> rfl)
    (keeps_modify c (View.under (some p)) fun view which => by cases which <;> rfl)

theorem detach_keeps (regular : Regular s) (v : ViewId) : Keeps s (s.detach v).2 := by
  rcases detach_cases regular v with ⟨_, stays⟩ | ⟨p, subtree, _, _, ⟨_, left⟩ | ⟨_, _, stopped⟩⟩
  · exact stays ▸ keeps_refl s
  · exact left ▸ keeps_then (drop_keeps subtree (s.ancestors p)) (unlinked_keeps p v)
  · exact stopped ▸ drop_keeps subtree (s.ancestors p)

theorem attach_keeps (regular : Regular s) (p c : ViewId) : Keeps s (s.attach p c).2 := by
  have detached := detach_keeps regular c
  rcases attach_cases regular p c with ⟨_, refused⟩ | ⟨_, ⟨_, linked⟩ | ⟨_, _, stopped⟩⟩
  · exact refused ▸ keeps_refl s
  · exact linked ▸ keeps_then detached (linked_keeps p c)
  · exact stopped ▸ detached

theorem set_field_keeps (v : ViewId) (name : String) (value : Value) (known : name ≠ "children" ∧ name ≠ "constraints")
    (set : Script.setViewField s v name value = .ok t) : Keeps s t := by
  unfold Script.setViewField at set
  split at set
  all_goals first | cases set; done | rw [← Except.ok.inj set]
  · exact absurd rfl known.1
  · exact absurd rfl known.2
  all_goals first
    | exact keeps_modify v _ fun view which => by cases which <;> rfl
    | exact ⟨rfl, rfl, fun _ _ => rfl⟩

theorem set_view_priority_done (v : ViewId) (which : Resistance) (axis priority : Value)
    (set : s.setViewPriority v which axis priority = .ok t) :
    t = s.modify v fun view => view.setPriority which axis priority := by
  unfold setViewPriority at set
  split at set
  · obtain ⟨checked, accepted, granted⟩ := (Fallible.bind_ok_iff _ _ _).mp set
    obtain ⟨_, rfl⟩ := (Config.check_priority_ok_iff _ _ checked).mp accepted
    split at granted
    · exact (Except.ok.inj granted).symm
    · cases granted
  · cases set

theorem set_view_same (view : View) (which : Resistance) (key priority : Value) :
    (view.setPriority which key priority).priorities which = (view.priorities which).put key priority := by
  cases which <;> rfl

theorem set_view_other (view : View) (which other : Resistance) (key priority : Value) (apart : other ≠ which) :
    (view.setPriority which key priority).priorities other = view.priorities other := by
  cases which <;> cases other <;> first | rfl | exact absurd rfl apart

theorem set_recorded_same (r : Recording) (which : Resistance) (key priority : Value) :
    (r.setPriority which key priority).priorities which = (r.priorities which).put key priority := by
  cases which <;> rfl

theorem set_recorded_other (r : Recording) (which other : Resistance) (key priority : Value) (apart : other ≠ which) :
    (r.setPriority which key priority).priorities other = r.priorities other := by
  cases which <;> cases other <;> first | rfl | exact absurd rfl apart

theorem set_view_here (v : ViewId) (which : Resistance) (along : Axis) (priority : Value) (known : v < s.views.length) :
    (s.modify v fun view => view.setPriority which (.axis along) priority).stored ⟨.view v, which, along⟩ = some priority := by
  simp only [Scene.stored, priorities_modify, if_true, List.getElem?_eq_getElem known, Option.map_some, Option.getD_some,
    set_view_same]
  exact Table.get_put_same _ _ _ ((same_key_members _ _).mpr rfl)

theorem set_view_elsewhere (v : ViewId) (which : Resistance) (axis priority : Value) (slot : Slot)
    (elsewhere : ¬ (some (Holder.view v) = some slot.holder ∧ which = slot.which ∧ axis = .axis slot.along)) :
    (s.modify v fun view => view.setPriority which axis priority).stored slot = s.stored slot := by
  obtain ⟨holder, other, along⟩ := slot
  cases holder with
  | recording k w => rfl
  | view w =>
      simp only [Scene.stored, priorities_modify]
      by_cases here : w = v
      · subst here
        rw [if_pos rfl, Scene.priorities]
        cases s.views[w]? with
        | none => rfl
        | some view =>
            simp only [Option.map_some, Option.getD_some]
            by_cases same : other = which
            · subst same
              rw [set_view_same]
              exact Table.get_put_member _ _ _ _ fun found => elsewhere ⟨rfl, rfl, found⟩
            · rw [set_view_other view which other axis priority same]
      · rw [if_neg here]

theorem set_recorded_here (k : RecordingId) (v : ViewId) (which : Resistance) (along : Axis) (priority : Value)
    (known : k < s.recordings.length) :
    (s.modifyRecording k fun r => r.setPriority which (.tuple .new [.view v, .axis along]) priority).stored
      ⟨.recording k v, which, along⟩ = some priority := by
  simp only [Scene.stored, recording_modify, if_true, List.getElem?_eq_getElem known, Option.map_some, Option.getD_some,
    set_recorded_same]
  refine Table.get_put_same _ _ _ ?_
  rw [same_key_pairs, Bool.and_eq_true]
  exact ⟨(same_key_views v v).mpr rfl, (same_key_members _ _).mpr rfl⟩

theorem set_recorded_elsewhere (k : RecordingId) (which : Resistance) (element axis priority : Value) (slot : Slot)
    (elsewhere : ¬ ((Value.recording k).holder? element = some slot.holder ∧ which = slot.which ∧ axis = .axis slot.along)) :
    (s.modifyRecording k fun r => r.setPriority which (.tuple .new [element, axis]) priority).stored slot
      = s.stored slot := by
  obtain ⟨holder, other, along⟩ := slot
  cases holder with
  | view w => rfl
  | recording j w =>
      simp only [Scene.stored, recording_modify]
      by_cases here : j = k
      · subst here
        rw [if_pos rfl, recording]
        cases s.recordings[j]? with
        | none => rfl
        | some r =>
            simp only [Option.map_some, Option.getD_some]
            by_cases same : other = which
            · subst same
              rw [set_recorded_same]
              refine Table.get_put_pair _ _ _ _ _ _ fun found => elsewhere ?_
              obtain ⟨rfl, rfl⟩ := found
              exact ⟨rfl, rfl, rfl⟩
            · rw [set_recorded_other r which other _ priority same]
      · rw [if_neg here]

theorem taken_here (slot : Slot) (priority : Value) :
    slot.taken (Slot.meant (some slot.holder) slot.which (.axis slot.along) priority) = some priority := by
  simp [Slot.taken, Slot.meant, Value.axis?]

theorem taken_elsewhere (slot : Slot) (holder : Option Holder) (which : Resistance) (axis priority : Value)
    (elsewhere : ¬ (holder = some slot.holder ∧ which = slot.which ∧ axis = .axis slot.along)) :
    slot.taken (Slot.meant holder which axis priority) = none := by
  unfold Slot.meant
  cases holder with
  | none => rfl
  | some holder =>
      unfold Value.axis?
      split
      · rename_i along
        refine if_neg fun same => elsewhere ?_
        subst same
        exact ⟨rfl, rfl, rfl⟩
      · rfl

theorem set_view_writes (v : ViewId) (which : Resistance) (axis priority : Value)
    (set : s.setViewPriority v which axis priority = .ok t) :
    Writes s t fun slot => slot.taken (Slot.meant (some (.view v)) which axis priority) := by
  obtain rfl := set_view_priority_done v which axis priority set
  refine ⟨List.length_modify _ _ _, rfl, fun slot has => ?_⟩
  by_cases here : some (Holder.view v) = some slot.holder ∧ which = slot.which ∧ axis = .axis slot.along
  · obtain ⟨holder, other, along⟩ := slot
    obtain ⟨⟨⟩, rfl, rfl⟩ := here
    rw [set_view_here v which along priority has, taken_here ⟨.view v, which, along⟩ priority, Option.some_or]
  · rw [set_view_elsewhere v which axis priority slot here, taken_elsewhere slot _ which axis priority here, Option.none_or]

theorem set_recorded_writes (k : RecordingId) (which : Resistance) (element axis priority : Value) :
    Writes s (s.modifyRecording k fun r => r.setPriority which (.tuple .new [element, axis]) priority) fun slot =>
      slot.taken (Slot.meant ((Value.recording k).holder? element) which axis priority) := by
  refine ⟨rfl, List.length_modify _ _ _, fun slot has => ?_⟩
  by_cases here : (Value.recording k).holder? element = some slot.holder ∧ which = slot.which ∧ axis = .axis slot.along
  · obtain ⟨holder, other, along⟩ := slot
    obtain ⟨held, rfl, rfl⟩ := here
    cases element with
    | view v =>
        obtain rfl := Option.some.inj held
        rw [set_recorded_here k v which along priority has]
        exact (taken_here ⟨.recording k v, which, along⟩ priority).symm ▸ rfl
    | _ => cases held
  · rw [set_recorded_elsewhere k which element axis priority slot here, taken_elsewhere slot _ which axis priority here,
      Option.none_or]

theorem send_writes (sink : Value) (which : Resistance) (element axis priority : Value)
    (sent : s.sendPriority sink which element axis priority = .ok t) :
    Writes s t fun slot => slot.taken (Slot.meant (sink.holder? element) which axis priority) := by
  unfold sendPriority at sent
  split at sent
  · split at sent
    · exact set_view_writes _ which axis priority sent
    all_goals cases sent
  · unfold setRecordedPriority at sent
    simp only at sent
    split at sent
    · exact Except.ok.inj sent ▸ set_recorded_writes _ which element axis priority
    · cases sent
  all_goals cases sent

theorem route_sent (sink element : Value) :
    (sinkOrViews (if sink.isNone then s.sinkOf element else sink)).holder? element = s.route sink element := by
  cases sink with
  | none =>
      cases element with
      | view v =>
          change (sinkOrViews (s.sink v)).holder? (.view v) = s.route .none (.view v)
          simp only [route]
          cases s.sink v <;> rfl
      | _ => rfl
  | _ => rfl

theorem resist_writes (a : ElementAxis Value) (which : Resistance) (priority sink : Value)
    (sent : s.resist a which priority sink = .ok t) :
    Writes s t fun slot => slot.taken (Slot.meant (s.route sink a.element) which a.axis priority) := by
  rw [← route_sent]
  exact send_writes _ which a.element a.axis priority sent

theorem changed_writes {meant : Option (Slot × Value)} (change : Fallible Scene)
    (writes : ∀ t, change = .ok t → Writes s t fun slot => slot.taken meant) :
    Writes s (s.changed change).2 fun slot => if (s.changed change).1.isOk then slot.taken meant else none := by
  cases change with
  | error failure => exact keeps_refl s
  | ok t => exact writes t rfl

theorem unmeant_writes (act : Act) (unmeant : act.addressed s = none) (keeps : Keeps s t) : Writes s t (act.write? s) := by
  have nothing : act.write? s = fun _ => none := by
    funext slot
    rw [Act.write?, unmeant]
    exact ite_self _
  exact nothing ▸ keeps

theorem run_writes (regular : Regular s) (act : Act) (known : act.Known s) (lasting : act.Lasting) :
    Writes s (act.run s).2 (act.write? s) := by
  cases act with
  | construct | makeRecording | clear => exact absurd lasting id
  | addSubview p child =>
      refine unmeant_writes _ rfl ?_
      rcases add_subview_scene (s := s) p child with same | ⟨c, _, attached⟩
      · rw [Act.run, silent, same]
        exact keeps_refl s
      · rw [Act.run, silent, attached]
        exact attach_keeps regular p c
  | detach v => exact unmeant_writes _ rfl (detach_keeps regular v)
  | assign v accessor value =>
      exact unmeant_writes _ rfl (submit_compiled_persists (keeps_persists s) _ _ (keeps_refl s))
  | activate relationships sink config =>
      exact unmeant_writes _ rfl (activate_persists (keeps_persists s) _ _ _ (keeps_refl s))
  | within length low high sink => exact unmeant_writes _ rfl (within_persists (keeps_persists s) _ _ _ _ (keeps_refl s))
  | submit pending sink => exact unmeant_writes _ rfl (submit_persists (keeps_persists s) _ _ (keeps_refl s))
  | register sink record anchor =>
      exact unmeant_writes _ rfl
        (changed_keeps (keeps_refl s) _ fun t => (keeps_persists s).registered s t sink record anchor (keeps_refl s))
  | addConstraint v record =>
      exact unmeant_writes _ rfl (changed_keeps (keeps_refl s) _ fun _ => add_constraint_keeps v record)
  | removeConstraint v record =>
      exact unmeant_writes _ rfl (changed_keeps (keeps_refl s) _ fun _ => remove_constraint_keeps v record)
  | setField v name value =>
      exact unmeant_writes _ rfl (changed_keeps (keeps_refl s) _ fun _ => set_field_keeps v name value known)
  | keep v => exact unmeant_writes _ rfl ⟨rfl, rfl, fun _ _ => rfl⟩
  | setPriority v which axis priority => exact changed_writes _ fun _ => set_view_writes v which axis priority
  | sendPriority sink which element axis priority =>
      exact changed_writes _ fun _ => send_writes sink which element axis priority
  | resist along which priority sink => exact changed_writes _ fun _ => resist_writes along which priority sink

end Scene

end LayoutAlgebra
