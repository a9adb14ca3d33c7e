import LayoutAlgebra.Proofs.Placement
import LayoutAlgebra.Proofs.Priority.Carried
import LayoutAlgebra.Proofs.Priority.Range
import LayoutAlgebra.Proofs.Telling
set_option autoImplicit false

/-!
What a view registers by itself. An assignment to a property of a view obeys the configuration of that view: what is
registered has the priority that the expression carries or else the default one, and the assignment is refused for a
priority exactly if the one that is carried is out of range. A range that is set on a length of the view obeys the standard
configuration in the same way, whatever the view has.
-/
namespace LayoutAlgebra

def Pending.Obeys (c : Config Value) (carried : Value) (p : Pending Value) : Prop :=
  ∃ mark r, p.record = .record mark r ∧ r.priority = c.chosen carried ∧ c.Admits r.priority

namespace Config

variable {c : Config Value}

-- Of the priorities that are numbers, only one that is carried can be out of range.
theorem chosen_checked (sound : c.Sound) (around : Surroundings) (carried what : Value)
    (priced : carried = .none ∨ ∃ n, carried.number? = some n) :
    (∃ n, carried.number? = some n ∧ ¬ c.Spans n) ∧ c.checkPriority around (c.chosen carried) what =
        .error (.outsideBounds what c.minPriority c.maxPriority carried) ∨
      (¬ ∃ n, carried.number? = some n ∧ ¬ c.Spans n) ∧
        c.checkPriority around (c.chosen carried) what = .ok (c.chosen carried) := by
  rcases priced with rfl | ⟨n, number⟩
  · obtain ⟨low, high, left, right⟩ := numeric_bounds sound.numeric
    obtain ⟨n, number⟩ := sound.numeric c.defaultPriority (by simp [fields])
    have spans := admits_number _ n (sound_defaults sound c.defaultPriority (by simp [defaults])) number
    refine .inr ⟨by simp [Value.number?], ?_⟩
    exact (check_priority_ok_iff _ what _).mpr ⟨(allows_spans _ low n high left number right).mpr spans, rfl⟩
  · have same : c.chosen carried = carried := by cases carried <;> first | rfl | cases number
    rw [same]
    rcases check_priority_number sound.numeric carried what n number with ⟨spans, passed⟩ | ⟨outside, refused⟩
    · refine .inr ⟨?_, passed⟩
      rintro ⟨m, other, outside⟩
      rw [number] at other
      exact outside (Option.some.inj other ▸ spans)
    · exact .inl ⟨⟨n, number, outside⟩, refused⟩

end Config

namespace Scene

variable {s t : Scene} {v : ViewId} {mark : Mark} {c : Config Value}

def Holds (s : Scene) (item : Value) : Prop :=
  (∃ v, item ∈ s.constraints v) ∨ (∃ k, item ∈ (s.recording k).records) ∨ ∃ k, item ∈ s.listed (.given k)

theorem add_constraint_holds (v : ViewId) (record item : Value) (added : s.addConstraint v record = .ok t)
    (holds : t.Holds item) : s.Holds item ∨ item = record := by
  rcases add_constraint_cases v record added with ⟨_, rfl⟩ | ⟨k, rfl⟩
  · rcases holds with ⟨h, member⟩ | elsewhere
    · exact (added_constraints v h record item member).imp (fun before => .inl ⟨h, before⟩) And.right
    · exact .inl (.inr elsewhere)
  · rcases holds with there | there | ⟨j, member⟩
    · exact .inl (.inl there)
    · exact .inl (.inr (.inl there))
    · simp only [listed, modifyList, List.getElem?_modify] at member
      by_cases here : k = j
      · subst here
        cases found : s.lists[k]? with
        | none => simp [found] at member
        | some items =>
            have last : item ∈ items ∨ item = record := by simpa [found] using member
            exact last.imp_left fun before => .inr (.inr ⟨k, by simpa [listed, found] using before⟩)
      · exact .inl (.inr (.inr ⟨j, by simpa [listed, here] using member⟩))

theorem register_holds (sink record anchor item : Value) (registered : s.register sink record anchor = .ok t)
    (holds : t.Holds item) : s.Holds item ∨ item = record := by
  rcases register_cases sink record anchor registered with ⟨_, h, _, _, added⟩ | ⟨k, _, rfl⟩
  · exact add_constraint_holds h record item added holds
  · rcases holds with there | ⟨j, member⟩ | there
    · exact .inl (.inl there)
    · simp only [recording, modifyRecording, List.getElem?_modify] at member
      by_cases here : k = j
      · subst here
        cases found : s.recordings[k]? with
        | none => simp [found, Recording.empty, Recording.records, Recording.registrations] at member
        | some r =>
            have last : item ∈ r.records ∨ item = record := by
              simpa [found, Recording.records, Recording.registrations_register] using member
            exact last.imp_left fun before => .inr (.inl ⟨k, by simpa [recording, found] using before⟩)
      · exact .inl (.inr (.inl ⟨j, by simpa [recording, here] using member⟩))
    · exact .inl (.inr (.inr there))

theorem register_all_holds (sink : Value) (items : List Value) (item : Value)
    (holds : (s.registerAll sink items).2.Holds item) :
    s.Holds item ∨ ∃ mark p, .pending mark p ∈ items ∧ p.record = item := by
  induction items generalizing s with
  | nil => exact .inl holds
  | cons first rest ih =>
      unfold registerAll at holds
      split at holds
      · rename_i same
        exact absurd same (List.cons_ne_nil first rest)
      · rename_i mark p tail same
        obtain ⟨rfl, rfl⟩ := List.cons.inj same
        split at holds
        · exact .inl holds
        · rename_i t registered
          rcases ih holds with before | ⟨other, q, found, same⟩
          · exact (register_holds sink p.record p.anchor item registered before).imp_right fun new =>
              ⟨mark, p, by simp, new.symm⟩
          · exact .inr ⟨other, q, by simp [found], same⟩
      · exact .inl holds

theorem submit_compiled_holds (sink : Value) (compiled : Logged (List (Pending Value))) (item : Value)
    (holds : (s.submitCompiled sink compiled).scene.Holds item) :
    s.Holds item ∨ ∃ pending p, compiled.result = .ok pending ∧ p ∈ pending ∧ Value.KeptAs p.record item := by
  rw [submit_compiled_scene] at holds
  cases done : compiled.result with
  | error failure =>
      rw [done] at holds
      exact .inl holds
  | ok pending =>
      rw [done] at holds
      rcases register_all_holds (s := s.counted pending) _ _ item holds with before | ⟨mark, q, found, same⟩
      · exact .inl before
      · obtain ⟨p, source, kept⟩ := kept_pending_source pending _ found
        obtain ⟨_, _, alike, record, _⟩ := Value.kept_as_pending .new p _ kept
        obtain ⟨_, rfl⟩ := Value.pending.inj alike
        exact .inr ⟨pending, p, rfl, source, same ▸ record⟩

theorem register_failure (sink record anchor : Value) (failure : Failure)
    (failed : s.register sink record anchor = .error failure) : failure = .noMember := by
  unfold register at failed
  split at failed
  · split at failed
    · unfold addConstraint at failed
      split at failed
      · cases failed
      · unfold appendGiven at failed
        split at failed
        · cases failed
        · exact (Except.error.inj failed).symm
    · exact (Except.error.inj failed).symm
  · cases failed
  · exact (Except.error.inj failed).symm

theorem register_all_failure (sink : Value) (items : List Value) (failure : Failure)
    (failed : (s.registerAll sink items).1 = .error failure) : failure = .noMember := by
  induction items generalizing s with
  | nil => cases failed
  | cons first rest ih =>
      unfold registerAll at failed
      split at failed
      · cases failed
      · rename_i same
        obtain ⟨rfl, rfl⟩ := List.cons.inj same
        split at failed
        · rename_i refused
          obtain rfl := Except.error.inj failed
          exact register_failure sink _ _ _ refused
        · exact ih failed
      · exact (Except.error.inj failed).symm

theorem submit_compiled_failure (sink : Value) (compiled : Logged (List (Pending Value))) (failure : Failure)
    (failed : (s.submitCompiled sink compiled).result = .error failure) :
    compiled.result = .error failure ∨ failure = .noMember := by
  unfold submitCompiled at failed
  split at failed
  · rename_i other stopped
    exact .inl (by rw [stopped, Except.error.inj failed])
  · unfold submitItems at failed
    simp only at failed
    split at failed
    · simp at failed
    · rename_i other _ stopped
      obtain rfl := Except.error.inj failed
      exact .inr (register_all_failure _ _ other (congrArg Prod.fst stopped))

-- What an operation with a carried priority owes to a configuration. What is registered has that priority, or the default
-- one where none is carried, and it is in range. Where the operation succeeds without the priority, it is refused for the
-- priority exactly if that is a number out of range; and it is told as that, unless the bounds or the priority cannot be
-- written in words.
structure Obeys (s : Scene) (c : Config Value) (carried : Value) (plain done : Outcome (List Value)) : Prop where
  registered : ∀ item, done.scene.Holds item → s.Holds item ∨ ∃ mark r, item = .record mark r ∧
    Value.KeptAs (c.chosen carried) r.priority ∧ c.Admits (c.chosen carried)
  refused : (∃ items, plain.result = .ok items) → carried = .none ∨ (∃ n, carried.number? = some n) →
    ((∃ failure, done.result = .error failure ∧ s.raised failure = .invalidPriority) ↔
      (∃ n, carried.number? = some n ∧ ¬ c.Spans n) ∧ c.Fits ∧ carried.Writable) ∧
    ((∃ n, carried.number? = some n ∧ ¬ c.Spans n) → ∃ failure, done.result = .error failure ∧
      (c.Fits → ¬ carried.Writable → s.raised failure = .wrongContent) ∧ (¬ c.Fits → s.raised failure = .overflow))

theorem submitted_obeys (sound : c.Sound) (sink carried : Value) (plain done : Logged (List (Pending Value)))
    (each : ∀ pending, done.result = .ok pending → ∀ p ∈ pending, p.Obeys c carried)
    (alike : ∀ pending, plain.result = .ok pending → ∃ made : Value → List (Pending Value), done.result =
      (c.checkPriority s.surroundings (c.chosen carried) (.ofText "priority")).map made) :
    Obeys s c carried (s.submitCompiled sink plain) (s.submitCompiled sink done) where
  registered item holds := by
    rcases submit_compiled_holds sink done item holds with before | ⟨pending, p, compiled, member, kept⟩
    · exact .inl before
    · obtain ⟨mark, r, record, chosen, admits⟩ := each pending compiled p member
      rw [record] at kept
      obtain ⟨other, q, same, _, _, priority⟩ := Value.kept_as_record mark r item kept
      exact .inr ⟨other, q, same, chosen ▸ priority, chosen ▸ admits⟩
  refused succeeds priced := by
    obtain ⟨items, succeeds⟩ := succeeds
    obtain ⟨made, compiled⟩ : ∃ made : Value → List (Pending Value), done.result =
        (c.checkPriority s.surroundings (c.chosen carried) (.ofText "priority")).map made := by
      cases result : plain.result with
      | error failure => simp [submitCompiled, result] at succeeds
      | ok pending => exact alike pending result
    rcases Config.chosen_checked sound s.surroundings carried (.ofText "priority") priced with
      ⟨outside, refused⟩ | ⟨inside, accepted⟩
    · have stopped : (s.submitCompiled sink done).result =
          .error (.outsideBounds (.ofText "priority") c.minPriority c.maxPriority carried) := by
        simp [submitCompiled, compiled, refused, Except.map]
      obtain ⟨n, number, out⟩ := outside
      rw [stopped]
      rcases outside_told (s := s) c sound.numeric (.ofText "priority") carried n number ⟨_, rfl⟩ with
        ⟨fits, writable, told⟩ | ⟨fits, endless, told⟩ | ⟨unfit, told⟩
      · exact ⟨iff_of_true ⟨_, rfl, told⟩ ⟨⟨n, number, out⟩, fits, writable⟩,
          fun _ => ⟨_, rfl, fun _ endless => absurd writable endless, fun unfit => absurd fits unfit⟩⟩
      · refine ⟨iff_of_false ?_ fun wanted => endless wanted.2.2,
          fun _ => ⟨_, rfl, fun _ _ => told, fun unfit => absurd fits unfit⟩⟩
        rintro ⟨_, ⟨⟩, other⟩
        cases told.symm.trans other
      · refine ⟨iff_of_false ?_ fun wanted => unfit wanted.2.1,
          fun _ => ⟨_, rfl, fun fits => absurd fits unfit, fun _ => told⟩⟩
        rintro ⟨_, ⟨⟩, other⟩
        cases told.symm.trans other
    · refine ⟨iff_of_false ?_ fun wanted => inside wanted.1, fun outside => absurd outside inside⟩
      rintro ⟨failure, failed, told⟩
      rcases submit_compiled_failure sink done failure failed with stopped | rfl
      · simp [compiled, accepted, Except.map] at stopped
      · cases told

theorem assigned_result (own : s.config v = .config mark c) (accessor : Accessor) (relates : accessor.relates = true)
    (value : Value) :
    (s.assigned v accessor value).result =
      (accessor.side s.surroundings value >>= fun side => (Value.linear .new (accessor.reading v)).equalTo side >>=
        fun r => (s.compile (.config mark c) (.relationship .new r)).result) := by
  cases accessor with
  | line attr | length attr | ratio =>
      simp only [assigned, ownConfig, own, own_configuration, Logged.bind_result, Logged.of_result, Fallible.ok_bind]
      rfl
  | edges _ | middle => cases relates

theorem compile_obeys (sound : c.Sound) (outer first second : Mark) (lhs rhs : Expression) (relation : Value)
    (one : lhs.priority = .none ∨ rhs.priority = .none) (pending : List (Pending Value))
    (compiled : (s.compile (.config mark c) (.relationship outer ⟨.linear first lhs, .linear second rhs, relation⟩)).result =
      .ok pending) : ∀ p ∈ pending, p.Obeys c (given lhs.priority rhs.priority) := by
  obtain ⟨record, anchor, ranks, each⟩ := compile_by_priority outer first second lhs rhs relation pending compiled
  have result := each lhs.priority rhs.priority one
  rw [with_own_priority lhs _ rfl, with_own_priority rhs _ rfl, compiled] at result
  obtain ⟨q, checked, rfl⟩ := (Fallible.map_ok_iff _ _ _).mp result.symm
  obtain ⟨allowed, rfl⟩ := (Config.check_priority_ok_iff _ _ q).mp checked
  intro p member
  rw [List.mem_singleton.mp member]
  exact ⟨_, _, rfl, ranks _, (ranks _).symm ▸ Config.allowed_admits sound.numeric _ allowed⟩

theorem reading_free (accessor : Accessor) : (accessor.reading v).priority = .none := by
  cases accessor <;> rfl

theorem related_side (e : Expression) (mark second : Mark) (side : Value) (o : Expression)
    (coerced : e.coerce side = .ok (some (.linear second o))) :
    (Value.linear mark e).equalTo side = .ok ⟨.linear mark e, .linear second o, .relation .equal⟩ := by
  simp only [Value.equalTo, Value.relatedTo, coerced, Fallible.ok_bind]
  rfl

theorem assigned_by_relation (own : s.config v = .config mark c) (sound : c.Sound) (accessor : Accessor)
    (relates : accessor.relates = true) (value : Value) :
    Obeys s c value.carried (s.assign v accessor value.relieved) (s.assign v accessor value) := by
  apply submitted_obeys sound
  · intro pending compiled
    simp only [assigned_result own accessor relates, Fallible.bind_ok_iff] at compiled
    obtain ⟨side, found, r, related, compiled⟩ := compiled
    obtain ⟨rhs, coerced, rfl⟩ := related_coerced .new _ side r related
    obtain ⟨second, o, rfl, carried, _⟩ := side_bringing _ accessor _ value side rhs found coerced
    have obeys := compile_obeys sound .new .new second _ o _ (.inl (reading_free accessor)) pending compiled
    rwa [reading_free, given_second, carried] at obeys
  · intro pending compiled
    simp only [assigned_result own accessor relates, Fallible.bind_ok_iff] at compiled
    obtain ⟨side, found, r, related, compiled⟩ := compiled
    obtain ⟨rhs, coerced, rfl⟩ := related_coerced .new _ side r related
    obtain ⟨second, o, rfl, _, again⟩ := side_bringing _ accessor _ value.relieved side rhs found coerced
    obtain ⟨other, foundToo, coercedToo⟩ := again value.carried
    rw [Value.relieved, Value.bringing_again, Value.bringing_carried] at foundToo coercedToo
    obtain ⟨record, anchor, _, each⟩ := compile_by_priority .new .new second _ o _ pending compiled
    refine ⟨fun q => [⟨.record .new (record q), anchor⟩], ?_⟩
    rw [assigned_result own accessor relates, foundToo, Fallible.ok_bind, related_side _ _ _ _ _ coercedToo]
    have result := each .none value.carried (.inl rfl)
    rwa [with_own_priority _ _ (reading_free accessor), given_second] at result

theorem assigned_group (own : s.config v = .config mark c) (accessor : Accessor) (group : accessor.relates = false)
    (value : Value) (pending : List (Pending Value)) (compiled : (s.assigned v accessor value).result = .ok pending) :
    value.carried = .none ∧ (∀ p, value.bringing p = value) ∧
      ∃ object anchor, ∀ p ∈ pending, ∃ r, p = ⟨.record .new r, anchor⟩ ∧ r.Aligns (.config mark c) (.view v) object := by
  cases accessor with
  | line _ | length _ | ratio => cases group
  | edges usesMargins =>
      simp only [assigned] at compiled
      split at compiled
      · simp only [ownConfig, own, own_configuration, Logged.bind_result, Logged.of_result, Fallible.ok_bind] at compiled
        obtain ⟨object, anchor, _, _, each⟩ := compile_edges_aligned _ _ _ _ pending compiled
        exact ⟨rfl, fun _ => rfl, object, anchor, each⟩
      · cases compiled
  | middle =>
      simp only [assigned] at compiled
      split at compiled
      · simp only [ownConfig, own, own_configuration, Logged.bind_result, Logged.of_result, Fallible.ok_bind] at compiled
        obtain ⟨object, anchor, _, _, each⟩ := compile_center_aligned _ _ _ pending compiled
        exact ⟨rfl, fun _ => rfl, object, anchor, each⟩
      · cases compiled

theorem default_accepted (sound : c.Sound) (around : Surroundings) (what : Value) :
    c.checkPriority around (c.chosen .none) what = .ok c.defaultPriority := by
  rcases Config.chosen_checked sound around .none what (.inl rfl) with ⟨⟨_, number, _⟩, _⟩ | ⟨_, accepted⟩
  · cases number
  · exact accepted

theorem assigned_by_group (own : s.config v = .config mark c) (sound : c.Sound) (accessor : Accessor)
    (group : accessor.relates = false) (value : Value) :
    Obeys s c value.carried (s.assign v accessor value.relieved) (s.assign v accessor value) := by
  apply submitted_obeys sound
  · intro pending compiled p member
    obtain ⟨carried, _, object, anchor, each⟩ := assigned_group own accessor group value pending compiled
    obtain ⟨r, rfl, aligned⟩ := each p member
    have same : c.defaultPriority = r.priority := Except.ok.inj aligned.priority
    rw [carried]
    exact ⟨_, r, rfl, same.symm, same ▸ Config.sound_defaults sound c.defaultPriority (by simp [Config.defaults])⟩
  · intro pending compiled
    obtain ⟨free, fixed, _⟩ := assigned_group own accessor group value.relieved pending compiled
    have same : value = value.relieved := by
      rw [← fixed value.carried, Value.relieved, Value.bringing_again, Value.bringing_carried]
    refine ⟨fun _ => pending, ?_⟩
    rw [same, compiled, free, default_accepted sound]
    rfl

theorem no_configuration (s : Scene) : s.configOrStandard .none = .ok (s.current .standardConfig) := rfl

theorem within_obeys (standard : s.current .standardConfig = .config mark c) (sound : c.Sound) (own : Mark)
    (e : Expression) (low high sink : Value) :
    Obeys s c e.priority (s.within (.linear own (e.withPriority .none)) low high sink)
      (s.within (.linear own e) low high sink) := by
  cases made : s.surroundings.range (.linear own e) low high with
  | error failure =>
      have done : s.within (.linear own e) low high sink = ⟨.error failure, s, []⟩ := by simp only [within, made]
      rw [done]
      refine ⟨fun _ holds => .inl holds, fun ⟨items, succeeds⟩ => ?_⟩
      cases madeToo : s.surroundings.range (.linear own (e.withPriority .none)) low high with
      | error other => simp [within, madeToo] at succeeds
      | ok range =>
          obtain ⟨_, _, _, _, each⟩ := range_by_priority _ own _ low high range madeToo
          have again := each e.priority
          rw [show (e.withPriority .none).withPriority e.priority = e from rfl, made] at again
          cases again
  | ok range =>
      obtain ⟨below, above, lower, upper, each⟩ := range_by_priority _ own e low high range made
      have here := each e.priority
      rw [with_own_priority e _ rfl] at here
      simp only [within, here, each .none, activate, no_configuration, standard, List.map_cons, List.map_nil]
      apply submitted_obeys sound
      · intro pending compiled p member
        obtain ⟨relationship, found, alone⟩ := compile_all_source _ _ pending compiled p member
        rcases List.mem_pair.mp found with rfl | rfl
        · have obeys := compile_obeys sound .new .new own below e _ (.inl lower) [p] alone p (by simp)
          rwa [lower, given_second] at obeys
        · have obeys := compile_obeys sound .new own .new e above _ (.inr upper) [p] alone p (by simp)
          rwa [upper] at obeys
      · intro pending compiled
        rw [compile_pair, Fallible.bind_ok_iff] at compiled
        obtain ⟨first, compiled, rest⟩ := compiled
        obtain ⟨second, compiledToo, _⟩ := (Fallible.map_ok_iff _ _ _).mp rest
        obtain ⟨lowest, anchor, _, least⟩ := compile_by_priority .new .new own below _ _ first compiled
        obtain ⟨highest, other, _, greatest⟩ := compile_by_priority .new own .new _ above _ second compiledToo
        have least := least .none e.priority (.inl rfl)
        have greatest := greatest e.priority .none (.inr rfl)
        have same : (e.withPriority .none).withPriority e.priority = e := rfl
        rw [with_own_priority below _ lower, given_second, same] at least
        rw [with_own_priority above _ upper, same] at greatest
        refine ⟨fun q => [⟨.record .new (lowest q), anchor⟩, ⟨.record .new (highest q), other⟩], ?_⟩
        rw [compile_pair, least, greatest]
        change Except.bind (Except.map _ (c.checkPriority s.surroundings (c.chosen e.priority) _))
          (fun a => Except.map _ (Except.map _ (c.checkPriority s.surroundings (c.chosen e.priority) _))) = _
        cases c.checkPriority s.surroundings (c.chosen e.priority) (.ofText "priority") <;> rfl

/-- What an assignment to any property of a view registers obeys the configuration of the view, and what a range on any
length registers obeys the standard one. -/
theorem surface_obeys (s : Scene) (v : ViewId) (mark : Mark) (c : Config Value) (own : s.config v = .config mark c)
    (sound : c.Sound) (other : Mark) (d : Config Value) (standard : s.current .standardConfig = .config other d)
    (soundToo : d.Sound) :
    (∀ accessor value, Obeys s c value.carried (s.assign v accessor value.relieved) (s.assign v accessor value)) ∧
      ∀ mark e low high sink, Obeys s d e.priority (s.within (.linear mark (e.withPriority .none)) low high sink)
        (s.within (.linear mark e) low high sink) := by
  refine ⟨fun accessor value => ?_, fun mark e low high sink => ?_⟩
  · cases relates : accessor.relates with
    | true => exact assigned_by_relation own sound accessor relates value
    | false => exact assigned_by_group own sound accessor relates value
  · exact within_obeys standard soundToo mark e low high sink

def overstated : Expression := (Linear.reading .length (.view 0) .height).withPriority (.int 901)

def rangedModestly : Scene :=
  (modestView.within (.linear .new (.reading .length (.view 0) .width)) (.int 10) (.int 20) .none).scene

theorem above_modest (n : Int) (above : 900 < n) : ¬ modest.Spans (.int n) := by
  rintro ⟨low, high, _, right, _, below⟩
  obtain rfl := Option.some.inj right
  have least : (n : Rat) ≤ ((900 : Int) : Rat) := by simpa [Number.extended, Extended.le] using below
  exact absurd (Int.cast_le.mp least) (not_le.mpr above)

theorem modest_surface_obeys :
    modestView.config 0 = .config .new modest ∧ modest.Sound ∧ Config.default.Sound ∧
      (∃ failure, (modestView.assign 0 (.length .width) (.linear .new overstated)).result = .error failure ∧
        modestView.raised failure = .invalidPriority) ∧
      ∀ item, rangedModestly.Holds item → modestView.Holds item ∨ ∃ mark r, item = .record mark r ∧
        Value.KeptAs Config.default.defaultPriority r.priority ∧
        Config.default.Admits Config.default.defaultPriority := by
  have accepted : (modestView.assign 0 (.length .width) (Value.linear .new overstated).relieved).result.isOk = true := by
    decide +kernel
  have standard : modestView.current .standardConfig = .config (.standing "configuration") .default :=
    if_pos (by decide +kernel)
  obtain ⟨assigned, ranged⟩ := surface_obeys modestView 0 .new modest rfl modest_sound _ Config.default standard
    Config.default_sound
  refine ⟨rfl, modest_sound, Config.default_sound, ?_, fun item holds => ?_⟩
  · have obeys := assigned (.length .width) (.linear .new overstated)
    have fits : modest.Fits := ⟨modest_sound.numeric, ⟨_, _, rfl, rfl⟩, _, .round 900, rfl, by decide +kernel⟩
    have writable : Value.Writable (.int 901) := by
      rintro _ _ ⟨rfl⟩
      decide +kernel
    refine (obeys.refused ?_ (.inr ⟨_, rfl⟩)).1.mpr ⟨⟨_, rfl, above_modest 901 (by decide)⟩, fits, writable⟩
    cases succeeds : (modestView.assign 0 (.length .width) (Value.linear .new overstated).relieved).result with
    | error failure => simp [succeeds, Except.isOk, Except.toBool] at accepted
    | ok items => exact ⟨items, rfl⟩
  · exact (ranged .new (.reading .length (.view 0) .width) (.int 10) (.int 20) .none).registered item holds

def isRequired : Value → Bool
  | .record _ r => r.priority.number? == some (.int 1000)
  | _ => false

-- The range does not obey the configuration of the view: what it registers there is more important than that allows.
theorem range_above_configuration :
    modestView.config 0 = .config .new modest ∧ modest.Sound ∧ modestView.constraints 0 = [] ∧
      ∃ mark r n, .record mark r ∈ rangedModestly.constraints 0 ∧ r.priority.number? = some n ∧ ¬ modest.Spans n := by
  have required : (rangedModestly.constraints 0).any isRequired = true := by decide +kernel
  obtain ⟨item, member, ranks⟩ := List.any_eq_true.mp required
  cases item with
  | record mark r =>
      have priority : r.priority.number? = some (.int 1000) := by simpa [isRequired] using ranks
      exact ⟨rfl, modest_sound, List.isEmpty_iff.mp (by decide +kernel), mark, r, .int 1000, member, priority,
        above_modest 1000 (by decide)⟩
  | _ => cases ranks

end Scene

end LayoutAlgebra
