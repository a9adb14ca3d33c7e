import LayoutAlgebra.Proofs.Priority.Slots
set_option autoImplicit false

namespace LayoutAlgebra

def Config.resistance (c : Config Value) : Resistance → Value
  | .compression => c.defaultCompression
  | .expansion => c.defaultExpansion

def Act.Clears (slot : Slot) : Act → Prop
  | .clear k => ∃ v, slot.holder = .recording k v
  | _ => False

namespace Scene

def runAll (s : Scene) (acts : List Act) : Scene := acts.foldl (fun s act => (act.run s).2) s

def Permits : Scene → List Act → Prop
  | _, [] => True
  | s, act :: rest => act.Known s ∧ Permits (act.run s).2 rest

def written (slot : Slot) : Scene → List Act → List Value
  | _, [] => []
  | s, act :: rest => (act.write? s slot).toList ++ written slot (act.run s).2 rest

variable {s : Scene}

theorem grown_stored (s : Scene) (view : View) (slot : Slot) (has : s.Has slot) :
    (s.grown view).stored slot = s.stored slot := by
  obtain ⟨layoutMargins, views⟩ := grown_views s view
  obtain ⟨holder, which, along⟩ := slot
  cases holder with
  | recording k v => rfl
  | view v =>
      simp only [Scene.stored, Scene.priorities, views]
      rw [List.getElem?_append_left has]

theorem grown_stored_new (s : Scene) (view : View) (which : Resistance) (along : Axis) :
    (s.grown view).stored ⟨.view s.views.length, which, along⟩ = (view.priorities which).get? (.axis along) := by
  obtain ⟨layoutMargins, views⟩ := grown_views s view
  simp only [Scene.stored, Scene.priorities, views, List.getElem?_concat_length, Option.map_some, Option.getD_some]
  cases which <;> rfl

theorem new_view_priorities (options : ViewOptions) (view : View) (made : s.newView options = .ok view) :
    ∃ mark c, s.configOrStandard options.config = .ok (.config mark c) ∧
      ∀ which along, (view.priorities which).get? (.axis along) = some (c.resistance which) := by
  have each : ∀ (priority : Value) (along : Axis),
      Table.get? (Axis.all.map fun along => (Value.axis along, priority)) (.axis along) = some priority :=
    fun priority along => by cases along <;> rfl
  simp only [newView, Fallible.bind_ok_iff] at made
  obtain ⟨settings, chosen, margins, _, made⟩ := made
  split at made
  · rename_i mark c
    refine ⟨mark, c, chosen, ?_⟩
    split at made
    · rw [← Except.ok.inj made]
      exact fun which along => by cases which <;> exact each _ along
    · obtain ⟨inset, _, made⟩ := (Fallible.bind_ok_iff _ _ _).mp made
      rw [← Except.ok.inj made]
      exact fun which along => by cases which <;> exact each _ along
  · cases made

theorem construct_stored (regular : Regular s) (options : ViewOptions) :
    (∃ failure, s.construct options = (.error failure, s)) ∨
      (s.construct options).1 = .ok s.views.length ∧ (s.construct options).2.views.length = s.views.length + 1 ∧
        (s.construct options).2.recordings.length = s.recordings.length ∧
        (∀ slot, s.Has slot → (s.construct options).2.stored slot = s.stored slot) ∧
        ∃ mark c, s.configOrStandard options.config = .ok (.config mark c) ∧
          ∀ which along, (s.construct options).2.stored ⟨.view s.views.length, which, along⟩ = some (c.resistance which) := by
  rcases construct_cases s options with refused | ⟨view, made, fresh, placed⟩
  · exact .inl refused
  · refine .inr ?_
    obtain ⟨mark, c, chosen, defaults⟩ := new_view_priorities options view made
    obtain ⟨t, constructed, keeps⟩ : ∃ t, s.construct options = (.ok s.views.length, t) ∧ Keeps (s.grown view) t := by
      rcases placed with ⟨_, alone⟩ | ⟨p, _, attached⟩
      · exact ⟨_, alone, keeps_refl _⟩
      · exact ⟨_, attached, attach_keeps (grown_regular regular view fresh) p _⟩
    have count := grown_count s view
    have new : ∀ which along, (s.grown view).Has ⟨.view s.views.length, which, along⟩ := fun _ _ =>
      Nat.lt_of_lt_of_eq (Nat.lt_succ_self _) count.symm
    have before : ∀ slot, s.Has slot → (s.grown view).Has slot := by
      rintro ⟨_ | _, _, _⟩ has
      · exact Nat.lt_of_lt_of_eq (Nat.lt_succ_of_lt has) count.symm
      · exact has
    rw [constructed]
    refine ⟨rfl, keeps.views.trans count, keeps.recordings, fun slot has => ?_, mark, c, chosen, fun which along => ?_⟩
    · rw [keeps.stored slot (before slot has), Option.none_or, grown_stored s view slot has]
    · rw [keeps.stored _ (new which along), Option.none_or, grown_stored_new, defaults]

theorem made_recording_stored (s : Scene) (slot : Slot) (has : s.Has slot) :
    (Act.run s .makeRecording).2.Has slot ∧ (Act.run s .makeRecording).2.stored slot = s.stored slot := by
  obtain ⟨holder, which, along⟩ := slot
  cases holder with
  | view v => exact ⟨has, rfl⟩
  | recording k v =>
      have known : k < s.recordings.length := has
      refine ⟨?_, ?_⟩
      · change k < (s.recordings ++ [Recording.empty]).length
        rw [List.length_append]
        exact Nat.lt_add_right _ known
      · simp only [Scene.stored, Act.run, recording, List.getElem?_append_left known]

theorem cleared_stored (s : Scene) (k : RecordingId) (slot : Slot) (has : s.Has slot)
    (elsewhere : ¬ (Act.clear k).Clears slot) :
    (Act.run s (.clear k)).2.Has slot ∧ (Act.run s (.clear k)).2.stored slot = s.stored slot := by
  obtain ⟨holder, which, along⟩ := slot
  cases holder with
  | view v => exact ⟨has, rfl⟩
  | recording j v =>
      have other : j ≠ k := by
        rintro rfl
        exact elsewhere ⟨v, rfl⟩
      refine ⟨?_, ?_⟩
      · simpa [Has, Act.run, modifyRecording] using has
      · simp only [Scene.stored, Act.run, recording_modify, if_neg other]

theorem run_stored (regular : Regular s) (act : Act) (known : act.Known s) (slot : Slot) (has : s.Has slot)
    (lasts : ¬ act.Clears slot) :
    (act.run s).2.Has slot ∧ (act.run s).2.stored slot = (act.write? s slot).or (s.stored slot) := by
  have unmeant : act.addressed s = none → act.write? s slot = none := fun nothing => by
    rw [Act.write?, nothing]
    exact ite_self _
  by_cases lasting : act.Lasting
  · have writes := run_writes regular act known lasting
    exact ⟨(writes_has writes slot).mpr has, writes.stored slot has⟩
  · cases act with
    | construct options =>
        rw [unmeant rfl, Option.none_or]
        rcases construct_stored regular options with ⟨failure, refused⟩ | ⟨_, views, recordings, stored, _⟩
        · rw [Act.run, silent, refused]
          exact ⟨has, rfl⟩
        · refine ⟨?_, stored slot has⟩
          obtain ⟨_ | _, _, _⟩ := slot
          · exact Nat.lt_of_lt_of_eq (Nat.lt_succ_of_lt has) views.symm
          · exact Nat.lt_of_lt_of_eq has recordings.symm
    | makeRecording =>
        rw [unmeant rfl, Option.none_or]
        exact made_recording_stored s slot has
    | clear k =>
        rw [unmeant rfl, Option.none_or]
        exact cleared_stored s k slot has lasts
    | _ => exact absurd trivial lasting

theorem run_all_stored (regular : Regular s) (acts : List Act) (permitted : s.Permits acts) (slot : Slot) (has : s.Has slot)
    (lasts : ∀ act ∈ acts, ¬ act.Clears slot) :
    (s.runAll acts).stored slot = (s.written slot acts).getLast?.or (s.stored slot) := by
  induction acts generalizing s with
  | nil => rfl
  | cons act rest ih =>
      obtain ⟨known, others⟩ := permitted
      obtain ⟨hasToo, stored⟩ := run_stored regular act known slot has (lasts act List.mem_cons_self)
      have later := ih (run_regular regular act known) others hasToo
        fun act member => lasts act (List.mem_cons_of_mem _ member)
      calc
        (s.runAll (act :: rest)).stored slot = ((act.run s).2.written slot rest).getLast?.or ((act.run s).2.stored slot) := later
        _ = (s.written slot (act :: rest)).getLast?.or (s.stored slot) := by
          rw [stored, ← Option.or_assoc, written, List.getLast?_append]
          cases act.write? s slot <;> rfl

theorem run_all_append (s : Scene) (acts rest : List Act) : s.runAll (acts ++ rest) = (s.runAll acts).runAll rest :=
  List.foldl_append ..

theorem permits_append (s : Scene) (acts rest : List Act) :
    s.Permits (acts ++ rest) ↔ s.Permits acts ∧ (s.runAll acts).Permits rest := by
  induction acts generalizing s with
  | nil => exact (and_iff_right trivial).symm
  | cons act others ih =>
      rw [List.cons_append, Permits, Permits, ih, and_assoc]
      rfl

theorem run_all_regular (regular : Regular s) (acts : List Act) (permitted : s.Permits acts) : Regular (s.runAll acts) := by
  induction acts generalizing s with
  | nil => exact regular
  | cons act rest ih => exact ih (run_regular regular act permitted.1) permitted.2

theorem run_views (regular : Regular s) (act : Act) (known : act.Known s) :
    (act.run s).2.views.length = s.views.length ∨
      ∃ options, act = .construct options ∧ (s.construct options).1 = .ok s.views.length ∧
        (act.run s).2.views.length = s.views.length + 1 := by
  by_cases lasting : act.Lasting
  · exact .inl (run_writes regular act known lasting).views
  · cases act with
    | construct options =>
        rcases construct_stored regular options with ⟨failure, refused⟩ | ⟨made, views, _⟩
        · exact .inl (by rw [Act.run, silent, refused])
        · exact .inr ⟨options, rfl, made, views⟩
    | makeRecording => exact .inl rfl
    | clear k => exact .inl rfl
    | _ => exact absurd trivial lasting

theorem run_recordings (regular : Regular s) (act : Act) (known : act.Known s) :
    (act.run s).2.recordings.length = s.recordings.length ∨
      act = .makeRecording ∧ (act.run s).2.recordings.length = s.recordings.length + 1 := by
  by_cases lasting : act.Lasting
  · exact .inl (run_writes regular act known lasting).recordings
  · cases act with
    | construct options =>
        rcases construct_stored regular options with ⟨failure, refused⟩ | ⟨_, _, recordings, _⟩
        · exact .inl (by rw [Act.run, silent, refused])
        · exact .inl recordings
    | makeRecording => exact .inr ⟨rfl, by simp [Act.run]⟩
    | clear k => exact .inl (List.length_modify _ _ _)
    | _ => exact absurd trivial lasting

theorem view_made (acts : List Act) (permitted : Scene.empty.Permits acts) (v : ViewId)
    (known : v < (Scene.empty.runAll acts).views.length) :
    ∃ before options rest, acts = before ++ .construct options :: rest ∧
      (Scene.empty.runAll before).views.length = v ∧ ((Scene.empty.runAll before).construct options).1 = .ok v := by
  induction acts using List.reverseRecOn with
  | nil => cases known
  | append_singleton acts act ih =>
      obtain ⟨earlier, may, _⟩ := (permits_append _ _ _).mp permitted
      have regular := run_all_regular regular_empty acts earlier
      by_cases there : v < (Scene.empty.runAll acts).views.length
      · obtain ⟨before, options, rest, rfl, count, made⟩ := ih earlier there
        exact ⟨before, options, rest ++ [act], by simp, count, made⟩
      · rw [run_all_append] at known
        change v < (act.run (Scene.empty.runAll acts)).2.views.length at known
        rcases run_views regular act may with same | ⟨options, rfl, made, more⟩
        · exact absurd (same ▸ known) there
        · have bound := Nat.le_of_lt_succ (Nat.lt_of_lt_of_eq known more)
          have last := Nat.le_antisymm (Nat.le_of_not_lt there) bound
          exact ⟨acts, options, [], rfl, last, last ▸ made⟩

theorem recording_emptied (acts : List Act) (permitted : Scene.empty.Permits acts) (k : RecordingId)
    (known : k < (Scene.empty.runAll acts).recordings.length) :
    ∃ before act rest, acts = before ++ act :: rest ∧ k < (act.run (Scene.empty.runAll before)).2.recordings.length ∧
      (act = .clear k ∨ act = .makeRecording ∧ (Scene.empty.runAll before).recordings.length = k) ∧
      ∀ act ∈ rest, act ≠ .clear k := by
  induction acts using List.reverseRecOn with
  | nil => cases known
  | append_singleton acts act ih =>
      obtain ⟨earlier, may, _⟩ := (permits_append _ _ _).mp permitted
      have regular := run_all_regular regular_empty acts earlier
      rw [run_all_append] at known
      change k < (act.run (Scene.empty.runAll acts)).2.recordings.length at known
      by_cases clears : act = .clear k
      · exact ⟨acts, act, [], rfl, known, .inl clears, by simp⟩
      · by_cases there : k < (Scene.empty.runAll acts).recordings.length
        · obtain ⟨before, first, rest, rfl, has, started, unclear⟩ := ih earlier there
          refine ⟨before, first, rest ++ [act], by simp, has, started, fun later member => ?_⟩
          rcases List.mem_append.mp member with inside | last
          · exact unclear later inside
          · exact List.mem_singleton.mp last ▸ clears
        · rcases run_recordings regular act may with same | ⟨made, more⟩
          · exact absurd (same ▸ known) there
          · have bound := Nat.le_of_lt_succ (Nat.lt_of_lt_of_eq known more)
            exact ⟨acts, act, [], rfl, known, .inr ⟨made, Nat.le_antisymm (Nat.le_of_not_lt there) bound⟩, by simp⟩

theorem emptied_stored (s : Scene) (act : Act) (k : RecordingId)
    (started : act = .clear k ∨ act = .makeRecording ∧ s.recordings.length = k) (v : ViewId) (which : Resistance)
    (along : Axis) : (act.run s).2.stored ⟨.recording k v, which, along⟩ = none := by
  have empty : (act.run s).2.recording k = .empty := by
    rcases started with rfl | ⟨rfl, rfl⟩
    · simp only [Act.run, recording_modify, if_true]
      cases s.recordings[k]? <;> rfl
    · simp [Act.run, recording]
  simp only [Scene.stored, empty]
  cases which <;> rfl

theorem view_priority_stored (s : Scene) (v : ViewId) (which : Resistance) (along : Axis) (priority : Value)
    (stored : s.stored ⟨.view v, which, along⟩ = some priority) : s.viewPriority v which (.axis along) = .ok priority := by
  have read : (s.priorities v which).get? (.axis along) = some priority := stored
  simp [viewPriority, Value.isKey, read]

/-- After any acts, in any order and those included that fail, a view has along each axis the priority of each sort that the
last accepted act wrote there since the view was made, and what its configuration says if there was none; a recording has for
each view what was written there last since the recording was made or emptied. An act that is refused or is meant for another
view, sort, axis or recording leaves a priority as it is. -/
theorem priorities_last_written (acts : List Act) (permitted : Scene.empty.Permits acts) :
    (∀ v, v < (Scene.empty.runAll acts).views.length → ∃ before options rest mark c,
      acts = before ++ .construct options :: rest ∧ ((Scene.empty.runAll before).construct options).1 = .ok v ∧
        (Scene.empty.runAll before).configOrStandard options.config = .ok (.config mark c) ∧
        ∀ which along, (Scene.empty.runAll acts).viewPriority v which (.axis along) =
          .ok ((((Scene.empty.runAll before).construct options).2.written ⟨.view v, which, along⟩ rest).getLast?.getD
            (c.resistance which))) ∧
    (∀ k, k < (Scene.empty.runAll acts).recordings.length → ∃ before act rest,
      acts = before ++ act :: rest ∧
        (act = .clear k ∨ act = .makeRecording ∧ (Scene.empty.runAll before).recordings.length = k) ∧
        (∀ act ∈ rest, act ≠ .clear k) ∧
        ∀ v which along,
          (((Scene.empty.runAll acts).recording k).priorities which).get? (.tuple .new [.view v, .axis along]) =
            ((act.run (Scene.empty.runAll before)).2.written ⟨.recording k v, which, along⟩ rest).getLast?) ∧
    ∀ before act rest slot, acts = before ++ act :: rest → (Scene.empty.runAll before).Has slot → ¬ act.Clears slot →
      act.write? (Scene.empty.runAll before) slot = none →
        (act.run (Scene.empty.runAll before)).2.stored slot = (Scene.empty.runAll before).stored slot := by
  -- Acts are cut where the view or the recording begins: what comes before an act, the act itself, and what comes after it.
  have cut : ∀ before act rest, acts = before ++ act :: rest → Regular (Scene.empty.runAll before) ∧
      act.Known (Scene.empty.runAll before) ∧ (act.run (Scene.empty.runAll before)).2.Permits rest ∧
      Scene.empty.runAll acts = (act.run (Scene.empty.runAll before)).2.runAll rest := by
    rintro before act rest rfl
    obtain ⟨earlier, may, later⟩ := (permits_append _ _ _).mp permitted
    exact ⟨run_all_regular regular_empty before earlier, may, later, run_all_append _ _ _⟩
  refine ⟨fun v known => ?_, fun k known => ?_, fun before act rest slot parts has lasts nothing => ?_⟩
  · obtain ⟨before, options, rest, parts, count, made⟩ := view_made acts permitted v known
    obtain ⟨regular, may, later, final⟩ := cut before _ rest parts
    rcases construct_stored regular options with ⟨failure, refused⟩ | ⟨_, views, _, _, mark, c, chosen, defaults⟩
    · rw [refused] at made
      cases made
    · refine ⟨before, options, rest, mark, c, parts, made, chosen, fun which along => view_priority_stored _ v which along _ ?_⟩
      have has : ((Scene.empty.runAll before).construct options).2.Has ⟨.view v, which, along⟩ := by
        refine Nat.lt_of_lt_of_eq ?_ views.symm
        exact Nat.lt_succ_of_le (Nat.le_of_eq count.symm)
      have stored := run_all_stored (run_regular regular _ may) rest later ⟨.view v, which, along⟩ has fun act _ clears => by
        cases act with
        | clear k => obtain ⟨_, ⟨⟩⟩ := clears
        | _ => exact clears
      have start : ((Act.construct options).run (Scene.empty.runAll before)).2.stored ⟨.view v, which, along⟩
          = some (c.resistance which) := count ▸ defaults which along
      rw [final, stored, start, Option.or_some]
      rfl
  · obtain ⟨before, act, rest, parts, has, started, unclear⟩ := recording_emptied acts permitted k known
    obtain ⟨regular, may, later, final⟩ := cut before act rest parts
    refine ⟨before, act, rest, parts, started, unclear, fun v which along => ?_⟩
    have stored := run_all_stored (run_regular regular act may) rest later ⟨.recording k v, which, along⟩ has
      fun later member clears => by
        cases later with
        | clear j =>
            obtain ⟨_, ⟨⟩⟩ := clears
            exact unclear _ member rfl
        | _ => exact clears
    rw [emptied_stored _ act k started v which along, Option.or_none, ← final] at stored
    exact stored
  · obtain ⟨regular, may, _, _⟩ := cut before act rest parts
    rw [(run_stored regular act may slot has lasts).2, nothing, Option.none_or]

-- A priority that was accepted, one that was refused, and one that went into a recording.
def rewritten : List Act :=
  [.construct {}, .makeRecording, .setPriority 0 .compression (.axis .horizontal) (.int 900),
    .setPriority 0 .compression (.axis .horizontal) (.int 5000),
    .resist ⟨.view 0, .axis .horizontal⟩ .compression (.int 100) (.recording 0)]

theorem rewritten_last :
    Scene.empty.Permits rewritten ∧
      (∃ before options rest mark c, rewritten = before ++ .construct options :: rest ∧
        ((Scene.empty.runAll before).construct options).1 = .ok 0 ∧
        (Scene.empty.runAll before).configOrStandard options.config = .ok (.config mark c) ∧
        ∀ which along, (Scene.empty.runAll rewritten).viewPriority 0 which (.axis along) =
          .ok ((((Scene.empty.runAll before).construct options).2.written ⟨.view 0, which, along⟩ rest).getLast?.getD
            (c.resistance which))) ∧
      ((Scene.empty.runAll rewritten).viewPriority 0 .compression (.axis .horizontal)).toOption.bind Value.count? = some 900 ∧
      ((Scene.empty.runAll rewritten).stored ⟨.recording 0 0, .compression, .horizontal⟩).bind Value.count? = some 100 := by
  have permitted : Scene.empty.Permits rewritten := by
    refine ⟨?_, trivial, trivial, trivial, trivial, trivial⟩
    rintro p ⟨⟩
  exact ⟨permitted, (priorities_last_written rewritten permitted).1 0 (by decide +kernel), by decide +kernel, by decide +kernel⟩

end Scene

end LayoutAlgebra
