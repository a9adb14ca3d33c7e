import LayoutAlgebra.Proofs.Acceptance
import LayoutAlgebra.Proofs.Priority.Surface
import LayoutAlgebra.Proofs.Priority.Written
set_option autoImplicit false

namespace LayoutAlgebra.Scene

variable {s : Scene} {v : ViewId} {mark : Mark} {c : Config Value}

theorem holder_cases (sink element : Value) (holder : Holder) (held : sink.holder? element = some holder) :
    (∃ serial v, sink = .hierarchy serial ∧ element = .view v ∧ holder = .view v) ∨
      ∃ k v, sink = .recording k ∧ element = .view v ∧ holder = .recording k v := by
  unfold Value.holder? at held
  split at held
  · exact .inl ⟨_, _, rfl, rfl, (Option.some.inj held).symm⟩
  · exact .inr ⟨_, _, rfl, rfl, (Option.some.inj held).symm⟩
  · cases held

theorem resist_to_view (along p sink : Value) (kind : Resistance)
    (routed : s.route sink (.view v) = some (.view v)) :
    s.resist ⟨.view v, along⟩ kind p sink = s.setViewPriority v kind along p := by
  rw [← route_sent] at routed
  rcases holder_cases _ _ _ routed with ⟨serial, w, hierarchy, same, _⟩ | ⟨k, w, _, _, other⟩
  · simp only [resist, hierarchy, sendPriority]
  · cases other

theorem resist_to_recording (along p sink : Value) (kind : Resistance) (k : RecordingId)
    (routed : s.route sink (.view v) = some (.recording k v)) :
    s.resist ⟨.view v, along⟩ kind p sink = s.setRecordedPriority k kind (.view v) along p := by
  rw [← route_sent] at routed
  rcases holder_cases _ _ _ routed with ⟨serial, w, _, _, other⟩ | ⟨j, w, recording, _, same⟩
  · cases other
  · obtain ⟨rfl, _⟩ := Holder.recording.inj same
    simp only [resist, recording, sendPriority]

theorem resist_live (known : v < s.views.length) (own : s.config v = .config mark c) (sound : c.Sound) (which : Resistance)
    (along : Axis) (p sink : Value) (n : Number) (number : p.number? = some n)
    (routed : s.route sink (.view v) = some (.view v)) :
    c.Spans n ∧ (∃ t, s.resist ⟨.view v, .axis along⟩ which p sink = .ok t ∧ t.viewPriority v which (.axis along) = .ok p) ∨
      ¬ c.Spans n ∧
        s.resist ⟨.view v, .axis along⟩ which p sink = .error (.outsideBounds which.label c.minPriority c.maxPriority p) := by
  rw [resist_to_view (.axis along) p sink which routed]
  simp only [setViewPriority, own]
  rcases @Config.check_priority_number s.surroundings c sound.numeric p which.label n number with
    ⟨inside, passed⟩ | ⟨outside, refused⟩
  · rw [passed]
    exact .inl ⟨inside, _, rfl, view_priority_stored _ v which along p (set_view_here v which along p known)⟩
  · rw [refused]
    exact .inr ⟨outside, rfl⟩

theorem resist_recorded (which : Resistance) (along : Axis) (p sink : Value) (k : RecordingId)
    (known : k < s.recordings.length) (routed : s.route sink (.view v) = some (.recording k v)) :
    ∃ t, s.resist ⟨.view v, .axis along⟩ which p sink = .ok t ∧ t.stored ⟨.recording k v, which, along⟩ = some p := by
  rw [resist_to_recording (.axis along) p sink which k routed]
  exact ⟨_, rfl, set_recorded_here k v which along p known⟩

theorem assigned_comes_to (own : s.config v = .config mark c) (accessor : Accessor) (value : Value)
    (pending : List (Pending Value)) (compiled : (s.assigned v accessor value).result = .ok pending) :
    s.ComesTo (.config mark c) pending := by
  have configured : s.ownConfig v = Logged.of (.ok (.config mark c)) := by
    rw [ownConfig, own, own_configuration]
  cases accessor with
  | line attr | length attr =>
      simp only [assigned, configured, Logged.bind_ok_iff, Logged.of_result] at compiled
      obtain ⟨r, _, _, ⟨⟩, compiled⟩ := compiled
      exact .relation _ compiled
  | edges usesMargins =>
      simp only [assigned] at compiled
      split at compiled
      · simp only [configured, Logged.bind_ok_iff, Logged.of_result] at compiled
        obtain ⟨_, ⟨⟩, compiled⟩ := compiled
        exact .edges _ _ _ compiled
      · cases compiled
  | middle =>
      simp only [assigned] at compiled
      split at compiled
      · simp only [configured, Logged.bind_ok_iff, Logged.of_result] at compiled
        obtain ⟨_, ⟨⟩, compiled⟩ := compiled
        exact .center _ _ compiled
      · cases compiled
  | ratio =>
      simp only [assigned, configured, Logged.bind_ok_iff, Logged.of_result] at compiled
      obtain ⟨_, _, r, _, _, ⟨⟩, compiled⟩ := compiled
      exact .relation _ compiled

theorem assigned_in_range (own : s.config v = .config mark c) (sound : c.Sound) (accessor : Accessor) (value item : Value)
    (k : RecordingId) (recorded : item ∈ ((s.assign v accessor value).scene.recording k).records) :
    s.Holds item ∨ ∃ p : Pending Value, p.InRange c ∧ Value.KeptAs p.record item := by
  rcases submit_compiled_holds (s.sink v) (s.assigned v accessor value) item (.inr (.inl ⟨k, recorded⟩)) with
    before | ⟨pending, p, compiled, member, kept⟩
  · exact .inl before
  · have range := comes_to_in_range sound pending (assigned_comes_to own accessor value pending compiled)
    exact .inr ⟨p, range p member, kept⟩

/-- A priority that goes to a view is taken exactly if it is in the range of that view, and refused as invalid otherwise; one
that goes to a recording, by name or as the sink of the view, is taken and kept as it is. So a rehearsal answers as the view
does for the priorities in range and for no other ones. What assignments put into a recording is in range all the same. -/
theorem only_views_check_priorities (s : Scene) (reached : Reached Act.Governed s) (v : ViewId) (known : v < s.views.length) :
    ∃ mark c, s.config v = .config mark c ∧ c.Sound ∧
      (∀ which along p n, p.number? = some n →
        (∀ live, s.route live (.view v) = some (.view v) →
          c.Spans n ∧ (∃ t, s.resist ⟨.view v, .axis along⟩ which p live = .ok t ∧
            t.viewPriority v which (.axis along) = .ok p) ∨
          ¬ c.Spans n ∧ s.resist ⟨.view v, .axis along⟩ which p live =
              .error (.outsideBounds which.label c.minPriority c.maxPriority p) ∧
            (c.Fits → p.Writable →
              s.raised (.outsideBounds which.label c.minPriority c.maxPriority p) = .invalidPriority)) ∧
        (∀ dry k, s.route dry (.view v) = some (.recording k v) → k < s.recordings.length →
          ∃ t, s.resist ⟨.view v, .axis along⟩ which p dry = .ok t ∧ t.stored ⟨.recording k v, which, along⟩ = some p) ∧
        ∀ live dry k, s.route live (.view v) = some (.view v) → s.route dry (.view v) = some (.recording k v) →
          k < s.recordings.length →
          ((s.resist ⟨.view v, .axis along⟩ which p dry).isOk = (s.resist ⟨.view v, .axis along⟩ which p live).isOk ↔
            c.Spans n)) ∧
      ∀ accessor value k item, item ∈ ((s.assign v accessor value).scene.recording k).records →
        s.Holds item ∨ ∃ p : Pending Value, p.InRange c ∧ Value.KeptAs p.record item := by
  obtain ⟨mark, c, config, sound, _⟩ := (governed_of_reached reached).2.views _ (List.getElem_mem known)
  have own : s.config v = .config mark c := by simp [Scene.config, List.getElem?_eq_getElem known, config]
  refine ⟨mark, c, own, sound, fun which along p n number => ⟨fun live routed => ?_, fun dry k routed has => ?_, ?_⟩, ?_⟩
  · rcases resist_live known own sound which along p live n number routed with taken | ⟨outside, refused⟩
    · exact .inl taken
    · refine .inr ⟨outside, refused, fun fits writable => ?_⟩
      rcases raised_outside c fits which.label p n number (by cases which <;> exact ⟨_, rfl⟩) with
        ⟨_, raised⟩ | ⟨endless, _⟩
      · exact raised
      · exact absurd writable endless
  · exact resist_recorded which along p dry k has routed
  · intro live dry k routed sent has
    obtain ⟨t, taken, _⟩ := resist_recorded which along p dry k has sent
    rw [taken]
    rcases resist_live known own sound which along p live n number routed with ⟨inside, u, set, _⟩ | ⟨outside, refused⟩
    · rw [set]
      exact iff_of_true rfl inside
    · rw [refused]
      exact iff_of_false Bool.noConfusion outside
  · intro accessor value k item recorded
    exact assigned_in_range own sound accessor value item k recorded

def beside : Scene := [.construct {}, .makeRecording].foldl (fun s act => (Act.run s act).2) .empty

theorem beside_reached : Reached Act.Governed beside := by
  refine .step _ .makeRecording (.step _ (.construct {}) .empty ⟨?_, ?_⟩) ⟨trivial, trivial⟩
  · rintro p ⟨⟩
  · rintro mark c ⟨⟩

theorem beside_checked :
    Reached Act.Governed beside ∧ 0 < beside.views.length ∧
      ∃ mark c, beside.config 0 = .config mark c ∧
        ((beside.resist ⟨.view 0, .axis .horizontal⟩ .compression (.int 5000) (.recording 0)).isOk
            = (beside.resist ⟨.view 0, .axis .horizontal⟩ .compression (.int 5000) .none).isOk ↔ c.Spans (.int 5000)) := by
  obtain ⟨mark, c, own, _, priorities, _⟩ := only_views_check_priorities beside beside_reached 0 (by decide +kernel)
  obtain ⟨_, _, agree⟩ := priorities .compression .horizontal (.int 5000) (.int 5000) rfl
  exact ⟨beside_reached, by decide +kernel, mark, c, own, agree .none (.recording 0) 0 rfl rfl (by decide +kernel)⟩

-- The recording takes a priority that the view refuses.
theorem recording_beyond_range :
    (∃ t, beside.resist ⟨.view 0, .axis .horizontal⟩ .compression (.int 5000) (.recording 0) = .ok t ∧
      t.stored ⟨.recording 0 0, .compression, .horizontal⟩ = some (.int 5000)) ∧
      ∃ failure, beside.resist ⟨.view 0, .axis .horizontal⟩ .compression (.int 5000) .none = .error failure ∧
        failure.category = .invalidPriority := by
  have own : beside.config 0 = .standardConfig := rfl
  refine ⟨resist_recorded .compression .horizontal (.int 5000) (.recording 0) 0 (by decide +kernel) rfl, ?_⟩
  rcases resist_live (by decide +kernel) own Config.default_sound .compression .horizontal (.int 5000) .none (.int 5000) rfl
    rfl with ⟨_, t, set, _⟩ | ⟨_, refused⟩
  · have stops : (beside.resist ⟨.view 0, .axis .horizontal⟩ .compression (.int 5000) .none).isOk = false := by decide +kernel
    rw [set] at stops
    cases stops
  · exact ⟨_, refused, rfl⟩

end LayoutAlgebra.Scene
