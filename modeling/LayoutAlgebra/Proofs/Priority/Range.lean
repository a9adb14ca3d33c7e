import LayoutAlgebra.Proofs.History
import LayoutAlgebra.Proofs.Compilation
import LayoutAlgebra.Proofs.Priority.Bounds
set_option autoImplicit false

namespace LayoutAlgebra

structure Config.Sound (c : Config Value) : Prop where
  numeric : c.Numeric
  checked : ∃ around checked, c.check around = .ok checked

def Config.defaults (c : Config Value) : List Value := [c.defaultPriority, c.defaultCompression, c.defaultExpansion]

def Pending.InRange (c : Config Value) (p : Pending Value) : Prop :=
  ∃ mark r, p.record = .record mark r ∧ c.Admits r.priority

structure Table.InRange (c : Config Value) (table : Table) : Prop where
  admitted : ∀ entry ∈ table, c.Admits entry.2
  present : ∀ axis, (table.get? (.axis axis)).isSome = true

def View.InRange (view : View) : Prop :=
  ∃ mark c, view.config = .config mark c ∧ c.Sound ∧ ∀ which, (view.priorities which).InRange c

-- An act that leaves views the configurations that they were made with, which have passed their check.
def Act.Governed (s : Scene) (act : Act) : Prop :=
  act.Known s ∧
    match act with
    | .construct options => ∀ mark c, options.config = .config mark c → c.Sound
    | .setField _ name _ => name ≠ "config"
    | _ => True

namespace Config

variable {c : Config Value}

theorem checked_defaults (around : Surroundings) (checked : Config Value) (numeric : c.Numeric)
    (passed : c.check around = .ok checked) : ∀ p ∈ c.defaults, ∃ n, p.number? = some n ∧ c.Spans n := by
  obtain ⟨_, priority, compression, expansion⟩ := check_ok checked passed
  obtain ⟨low, high, left, right⟩ := numeric_bounds numeric
  have spans : ∀ p ∈ c.fields, c.Allows around p → ∃ n, p.number? = some n ∧ c.Spans n := by
    intro p field allowed
    obtain ⟨n, number⟩ := numeric p field
    exact ⟨n, number, (allows_spans p low n high left number right).mp allowed⟩
  intro p member
  simp only [defaults, List.mem_cons, List.not_mem_nil, or_false] at member
  rcases member with rfl | rfl | rfl
  · exact spans _ (by simp [fields]) priority
  · exact spans _ (by simp [fields]) compression
  · exact spans _ (by simp [fields]) expansion

theorem sound_defaults (sound : c.Sound) (p : Value) (member : p ∈ c.defaults) : c.Admits p := by
  obtain ⟨around, checked, passed⟩ := sound.checked
  exact .inl (checked_defaults around checked sound.numeric passed p member)

theorem admits_number (p : Value) (n : Number) (admits : c.Admits p) (number : p.number? = some n) : c.Spans n := by
  rcases admits with ⟨m, same, spans⟩ | ⟨_, _, _, rfl, _⟩
  · rw [number] at same
    exact Option.some.inj same ▸ spans
  · cases number

theorem sound_of_passed (around : Surroundings) (numeric : c.Numeric) (passed : (c.check around).isOk = true) :
    c.Sound := by
  cases checked : c.check around with
  | error failure => simp [checked, Except.isOk, Except.toBool] at passed
  | ok same => exact ⟨numeric, around, same, checked⟩

theorem default_sound : Config.default.Sound := by
  apply sound_of_passed Scene.empty.surroundings
  · intro field member
    simp only [fields, List.mem_cons, List.not_mem_nil, or_false] at member
    rcases member with rfl | rfl | rfl | rfl | rfl | rfl <;> exact ⟨_, rfl⟩
  · decide +kernel

end Config

namespace Table

theorem put_entries (table : Table) (key value : Value) (entry : Value × Value) (member : entry ∈ table.put key value) :
    entry ∈ table ∨ entry.2 = value := by
  induction table with
  | nil => exact .inr (by rw [List.mem_singleton.mp member])
  | cons first rest ih =>
      unfold put at member
      split at member
      · rcases List.mem_cons.mp member with rfl | later
        · exact .inr rfl
        · exact .inl (List.mem_cons_of_mem first later)
      · rcases List.mem_cons.mp member with rfl | later
        · exact .inl (by simp)
        · exact (ih later).imp_left (List.mem_cons_of_mem first)

theorem put_get (table : Table) (key value other : Value) (present : (table.get? other).isSome = true) :
    ((table.put key value).get? other).isSome = true := by
  simp only [get?, Option.isSome_map, List.find?_isSome] at present ⊢
  obtain ⟨entry, member, same⟩ := present
  induction table with
  | nil => cases member
  | cons first rest ih =>
      unfold put
      split
      · rcases List.mem_cons.mp member with rfl | later
        · exact ⟨_, List.mem_cons_self, same⟩
        · exact ⟨entry, List.mem_cons_of_mem _ later, same⟩
      · rcases List.mem_cons.mp member with rfl | later
        · exact ⟨_, List.mem_cons_self, same⟩
        · obtain ⟨found, inside, equal⟩ := ih later
          exact ⟨found, List.mem_cons_of_mem first inside, equal⟩

theorem put_in_range (c : Config Value) (table : Table) (key value : Value) (range : table.InRange c)
    (admits : c.Admits value) : (table.put key value).InRange c where
  admitted entry member := (put_entries table key value entry member).elim (range.admitted entry) fun new => new ▸ admits
  present axis := put_get table key value (.axis axis) (range.present axis)

theorem same_for_axes (c : Config Value) (priority : Value) (admits : c.Admits priority) :
    InRange c (Axis.all.map fun along => (Value.axis along, priority)) where
  admitted entry listed := by
    obtain ⟨along, _, rfl⟩ := List.mem_map.mp listed
    exact admits
  present axis := by cases axis <;> rfl

end Table

namespace Scene

variable {s t : Scene} {mark : Mark} {c : Config Value}

theorem own_configuration (s : Scene) (mark : Mark) (c : Config Value) :
    s.configOrStandard (.config mark c) = .ok (.config mark c) := rfl

theorem resolved_admits (sound : c.Sound) (subject object : Expression) (p : Value)
    (resolved : resolvePriority s.surroundings (.config mark c) subject object = .ok p) : c.Admits p := by
  obtain ⟨allowed, rfl⟩ := (Config.check_priority_ok_iff _ _ p).mp resolved
  exact Config.allowed_admits sound.numeric _ allowed

theorem compile_in_range (sound : c.Sound) (relationship : Value) (pending : List (Pending Value))
    (compiled : (s.compile (.config mark c) relationship).result = .ok pending) : ∀ p ∈ pending, p.InRange c := by
  obtain ⟨_, _, _, lhs, rhs, relation, p, _, rfl, made, _⟩ := compile_record _ relationship pending compiled
  obtain ⟨_, _, o, priority, anchor, _, rfl, _, _, resolved⟩ := compile_sides_record _ lhs rhs relation p made
  intro q member
  rw [List.mem_singleton.mp member]
  exact ⟨_, o.record priority, rfl, resolved_admits sound o.subject o.object priority resolved⟩

theorem compile_all_in_range (sound : c.Sound) (relationships : List Value) (pending : List (Pending Value))
    (compiled : (s.compileAll (.config mark c) relationships).result = .ok pending) : ∀ p ∈ pending, p.InRange c := by
  intro p member
  obtain ⟨relationship, _, alone⟩ := compile_all_source _ relationships pending compiled p member
  exact compile_in_range sound relationship [p] alone p (by simp)

theorem aligned_in_range (sound : c.Sound) (element object anchor : Value) (r : ConstraintRecord Value)
    (aligned : r.Aligns (.config mark c) element object) : Pending.InRange c ⟨.record .new r, anchor⟩ := by
  have same : c.defaultPriority = r.priority := Except.ok.inj aligned.priority
  exact ⟨_, r, rfl, same ▸ Config.sound_defaults sound c.defaultPriority (by simp [Config.defaults])⟩

theorem compile_edges_in_range (sound : c.Sound) (element edges margins : Value) (pending : List (Pending Value))
    (compiled : (s.compileEdges (.config mark c) element edges margins).result = .ok pending) :
    ∀ p ∈ pending, p.InRange c := by
  obtain ⟨object, anchor, _, _, each⟩ := compile_edges_aligned _ element edges margins pending compiled
  intro p member
  obtain ⟨r, rfl, aligned⟩ := each p member
  exact aligned_in_range sound element object anchor r aligned

theorem compile_center_in_range (sound : c.Sound) (element center : Value) (pending : List (Pending Value))
    (compiled : (s.compileCenter (.config mark c) element center).result = .ok pending) :
    ∀ p ∈ pending, p.InRange c := by
  obtain ⟨object, anchor, _, _, each⟩ := compile_center_aligned _ element center pending compiled
  intro p member
  obtain ⟨r, rfl, aligned⟩ := each p member
  exact aligned_in_range sound element object anchor r aligned

theorem compile_proportion_in_range (sound : c.Sound) (element value : Value) (pending : List (Pending Value))
    (compiled : (s.compileProportion (.config mark c) element value).result = .ok pending) :
    ∀ p ∈ pending, p.InRange c := by
  simp only [compileProportion, Logged.bind_ok_iff, Logged.of_result, own_configuration] at compiled
  obtain ⟨_, _, _, _, _, same, compiled⟩ := compiled
  rw [← Except.ok.inj same] at compiled
  exact compile_in_range sound _ pending compiled

structure Governed (s : Scene) : Prop where
  steady : s.renewals = []
  views : ∀ view ∈ s.views, view.InRange

theorem governed_same (governed : Governed s) (views : t.views = s.views) (renewals : t.renewals = s.renewals) :
    Governed t where
  steady := renewals.trans governed.steady
  views := views ▸ governed.views

theorem governed_modify (governed : Governed s) (v : ViewId) (change : View → View)
    (keeps : ∀ view, s.views[v]? = some view → view.InRange → (change view).InRange) : Governed (s.modify v change) where
  steady := governed.steady
  views := by
    intro view member
    obtain ⟨w, found⟩ := List.mem_iff_getElem?.mp member
    rw [modify, List.getElem?_modify] at found
    obtain ⟨old, there, rfl⟩ := Option.map_eq_some_iff.mp found
    have before := governed.views old (List.mem_of_getElem? there)
    by_cases here : v = w
    · simpa [here] using keeps old (here ▸ there) before
    · simpa [here] using before

theorem add_constraint_governed (governed : Governed s) (v : ViewId) (record : Value)
    (added : s.addConstraint v record = .ok t) : Governed t := by
  rcases add_constraint_cases v record added with ⟨_, rfl⟩ | ⟨k, rfl⟩
  · exact governed_modify governed v _ fun _ _ range => range
  · exact governed_same governed rfl rfl

theorem remove_constraint_governed (governed : Governed s) (v : ViewId) (record : Value)
    (removed : s.removeConstraint v record = .ok t) : Governed t := by
  obtain ⟨i, rfl | ⟨k, rfl⟩⟩ := remove_constraint_cases v record removed
  · exact governed_modify governed v _ fun _ _ range => range
  · exact governed_same governed rfl rfl

theorem governed_persists : Persists Governed where
  registered s t sink record anchor governed registered := by
    rcases register_cases sink record anchor registered with ⟨_, h, _, _, added⟩ | ⟨k, _, rfl⟩
    · exact add_constraint_governed governed h record added
    · exact governed_same governed rfl rfl
  counted _ _ governed := governed_same governed rfl rfl

theorem drop_governed (governed : Governed s) (views holders : List ViewId) :
    Governed (s.dropInvolving views holders).2 := by
  induction holders generalizing s with
  | nil => exact governed
  | cons holder rest ih =>
      rw [dropInvolving]
      split
      · exact governed
      · exact ih (governed_modify governed holder _ fun _ _ range => range)

theorem detach_governed (governed : Governed s) (regular : Regular s) (v : ViewId) : Governed (s.detach v).2 := by
  rcases detach_cases regular v with ⟨_, stays⟩ | ⟨p, subtree, _, _, ⟨_, left⟩ | ⟨_, _, stopped⟩⟩
  · rw [stays]
    exact governed
  · rw [left]
    have dropped := drop_governed governed subtree (s.ancestors p)
    exact governed_modify (governed_modify dropped p (View.withoutChild v) fun _ _ range => range) v (View.under none)
      fun _ _ range => range
  · rw [stopped]
    exact drop_governed governed subtree (s.ancestors p)

theorem attach_governed (governed : Governed s) (regular : Regular s) (p c : ViewId) : Governed (s.attach p c).2 := by
  have detached := detach_governed governed regular c
  rcases attach_cases regular p c with ⟨_, refused⟩ | ⟨_, ⟨_, linked⟩ | ⟨_, _, stopped⟩⟩
  · rw [refused]
    exact governed
  · rw [linked]
    exact governed_modify (governed_modify detached p (View.withChild c) fun _ _ range => range) c
      (View.under (some p)) fun _ _ range => range
  · rw [stopped]
    exact detached

theorem view_of_defaults (sound : c.Sound) (view : View) (config : view.config = .config mark c)
    (compression : view.compression = Axis.all.map fun along => (.axis along, c.defaultCompression))
    (expansion : view.expansion = Axis.all.map fun along => (.axis along, c.defaultExpansion)) : view.InRange := by
  have admits := Config.sound_defaults sound
  refine ⟨mark, c, config, sound, fun which => ?_⟩
  cases which with
  | compression =>
      rw [View.priorities, compression]
      exact Table.same_for_axes c _ (admits _ (by simp [Config.defaults]))
  | expansion =>
      rw [View.priorities, expansion]
      exact Table.same_for_axes c _ (admits _ (by simp [Config.defaults]))

theorem new_view_in_range (governed : Governed s) (options : ViewOptions)
    (given : ∀ mark c, options.config = .config mark c → c.Sound) (view : View)
    (made : s.newView options = .ok view) : view.InRange := by
  have standard : s.current .standardConfig = .standardConfig := by simp [current, governed.steady]
  simp only [newView, Fallible.bind_ok_iff] at made
  obtain ⟨settings, chosen, margins, _, made⟩ := made
  split at made
  · rename_i mark c
    have sound : c.Sound := by
      obtain ⟨accepted, _, chosen⟩ := (Fallible.bind_ok_iff _ _ _).mp chosen
      split at chosen
      · exact given mark c (Except.ok.inj chosen)
      · rw [standard] at chosen
        exact (Value.config.inj (Except.ok.inj chosen)).2 ▸ Config.default_sound
    split at made
    · rw [← Except.ok.inj made]
      exact view_of_defaults sound _ rfl rfl rfl
    · obtain ⟨inset, _, made⟩ := (Fallible.bind_ok_iff _ _ _).mp made
      rw [← Except.ok.inj made]
      exact view_of_defaults sound _ rfl rfl rfl
  · cases made

theorem grown_governed (governed : Governed s) (view : View) (range : view.InRange) : Governed (s.grown view) where
  steady := governed.steady
  views := by
    intro other member
    obtain ⟨layoutMargins, views⟩ := grown_views s view
    rw [views] at member
    rcases List.mem_append.mp member with before | last
    · exact governed.views other before
    · rw [List.mem_singleton.mp last]
      exact range

theorem construct_governed (governed : Governed s) (regular : Regular s) (options : ViewOptions)
    (sound : ∀ mark c, options.config = .config mark c → c.Sound) : Governed (s.construct options).2 := by
  rcases construct_cases s options with ⟨_, refused⟩ | ⟨view, made, fresh, ⟨_, alone⟩ | ⟨p, _, attached⟩⟩
  · rw [refused]
    exact governed
  · rw [alone]
    exact grown_governed governed view (new_view_in_range governed options sound view made)
  · rw [attached]
    exact attach_governed (grown_governed governed view (new_view_in_range governed options sound view made))
      (grown_regular regular view fresh) p _

theorem set_view_priority_governed (governed : Governed s) (v : ViewId) (which : Resistance) (axis priority : Value)
    (set : s.setViewPriority v which axis priority = .ok t) : Governed t := by
  unfold setViewPriority at set
  split at set
  · rename_i mark c own
    obtain ⟨checked, accepted, granted⟩ := (Fallible.bind_ok_iff _ _ _).mp set
    obtain ⟨allowed, rfl⟩ := (Config.check_priority_ok_iff _ _ checked).mp accepted
    split at granted
    · rw [← Except.ok.inj granted]
      refine governed_modify governed v _ fun view found ⟨mark', c', config, sound, range⟩ => ?_
      obtain ⟨_, rfl⟩ : mark' = mark ∧ c' = c := by simpa [Scene.config, found, config] using own
      have admits := Config.allowed_admits sound.numeric checked allowed
      have put := fun which => Table.put_in_range c' (view.priorities which) axis checked (range which) admits
      cases which with
      | compression =>
          refine ⟨mark', c', config, sound, fun which => ?_⟩
          cases which with
          | compression => exact put .compression
          | expansion => exact range .expansion
      | expansion =>
          refine ⟨mark', c', config, sound, fun which => ?_⟩
          cases which with
          | compression => exact range .compression
          | expansion => exact put .expansion
    · cases granted
  · cases set

theorem send_priority_governed (governed : Governed s) (sink : Value) (which : Resistance) (element axis priority : Value)
    (sent : s.sendPriority sink which element axis priority = .ok t) : Governed t := by
  unfold sendPriority at sent
  split at sent
  · split at sent
    · exact set_view_priority_governed governed _ which axis priority sent
    all_goals cases sent
  · unfold setRecordedPriority at sent
    simp only at sent
    split at sent
    · exact Except.ok.inj sent ▸ governed_same governed rfl rfl
    · cases sent
  all_goals cases sent

theorem set_field_governed (governed : Governed s) (v : ViewId) (name : String) (value : Value)
    (known : name ≠ "children" ∧ name ≠ "constraints") (kept : name ≠ "config")
    (set : Script.setViewField s v name value = .ok t) : Governed t := by
  unfold Script.setViewField at set
  split at set
  all_goals first | cases set; done | rw [← Except.ok.inj set]
  · exact absurd rfl known.1
  · exact absurd rfl known.2
  · exact governed_modify governed v _ fun _ _ range => range
  · exact absurd rfl kept
  · exact governed_modify governed v _ fun _ _ range => range
  · exact governed_modify governed v _ fun _ _ range => range
  · exact governed_same governed rfl rfl

theorem run_governed (governed : Governed s) (regular : Regular s) (act : Act) (may : act.Governed s) :
    Governed (act.run s).2 := by
  cases act with
  | construct options => exact construct_governed governed regular options may.2
  | addSubview p child =>
      rcases add_subview_scene (s := s) p child with same | ⟨c, _, attached⟩
      · rw [Act.run, silent, same]
        exact governed
      · rw [Act.run, silent, attached]
        exact attach_governed governed regular p c
  | detach v => exact detach_governed governed regular v
  | assign v accessor value => exact submit_compiled_persists governed_persists _ _ governed
  | activate relationships sink config => exact activate_persists governed_persists _ _ _ governed
  | within length low high sink => exact within_persists governed_persists _ _ _ _ governed
  | submit pending sink => exact submit_persists governed_persists _ _ governed
  | register sink record anchor =>
      exact changed_keeps governed _ fun t => governed_persists.registered s t sink record anchor governed
  | addConstraint v record => exact changed_keeps governed _ fun _ => add_constraint_governed governed v record
  | removeConstraint v record => exact changed_keeps governed _ fun _ => remove_constraint_governed governed v record
  | setPriority v which axis priority =>
      exact changed_keeps governed _ fun _ => set_view_priority_governed governed v which axis priority
  | sendPriority sink which element axis priority =>
      exact changed_keeps governed _ fun _ => send_priority_governed governed sink which element axis priority
  | resist along which priority sink =>
      exact changed_keeps governed _ fun _ => send_priority_governed governed _ which _ _ priority
  | setField v name value =>
      exact changed_keeps governed _ fun _ => set_field_governed governed v name value may.1 may.2
  | makeRecording | clear _ | keep _ => exact governed_same governed rfl rfl

theorem governed_of_reached (reached : Reached Act.Governed s) : Regular s ∧ Governed s := by
  induction reached with
  | empty => exact ⟨regular_empty, rfl, fun view member => absurd member (by simp [empty])⟩
  | step s act _ may ih => exact ⟨run_regular ih.1 act may.1, run_governed ih.2 ih.1 act may⟩

theorem view_priority_in_range (governed : Governed s) (v : ViewId) (known : v < s.views.length) (which : Resistance)
    (along : Axis) :
    ∃ mark c p, s.config v = .config mark c ∧ s.viewPriority v which (.axis along) = .ok p ∧ c.Admits p := by
  have found := List.getElem?_eq_getElem known
  obtain ⟨mark, c, config, _, range⟩ := governed.views _ (List.getElem_mem known)
  obtain ⟨p, present⟩ := Option.isSome_iff_exists.mp ((range which).present along)
  have read : (s.priorities v which).get? (.axis along) = some p := by simpa [priorities, found] using present
  obtain ⟨entry, listed, same⟩ := Option.map_eq_some_iff.mp present
  refine ⟨mark, c, p, by simp [Scene.config, found, config], ?_,
    same ▸ (range which).admitted entry (List.mem_of_find?_eq_some listed)⟩
  simp [viewPriority, Value.isKey, read]

inductive ComesTo (s : Scene) (config : Value) (pending : List (Pending Value)) : Prop where
  | relation (relationship : Value) (done : (s.compile config relationship).result = .ok pending)
  | batch (relationships : List Value) (done : (s.compileAll config relationships).result = .ok pending)
  | edges (element edges margins : Value) (done : (s.compileEdges config element edges margins).result = .ok pending)
  | center (element center : Value) (done : (s.compileCenter config element center).result = .ok pending)
  | proportion (element value : Value) (done : (s.compileProportion config element value).result = .ok pending)

theorem comes_to_in_range (sound : c.Sound) (pending : List (Pending Value)) (done : s.ComesTo (.config mark c) pending) :
    ∀ p ∈ pending, p.InRange c := by
  cases done with
  | relation relationship done => exact compile_in_range sound relationship pending done
  | batch relationships done => exact compile_all_in_range sound relationships pending done
  | edges element edges margins done => exact compile_edges_in_range sound element edges margins pending done
  | center element center done => exact compile_center_in_range sound element center pending done
  | proportion element value done => exact compile_proportion_in_range sound element value pending done

/-- A configuration of numbers that passes its check has its defaults between its bounds, and whatever is compiled under it
comes to records with priorities between them. Every priority of a view stays between the bounds of the configuration of
that view. A number between bounds is never undefined. -/
theorem priorities_stay_in_range :
    (∀ (around : Surroundings) (c checked : Config Value), c.Numeric → c.check around = .ok checked →
      ∀ p ∈ c.defaults, ∃ n, p.number? = some n ∧ c.Spans n) ∧
    (∀ (s : Scene) mark (c : Config Value) pending, c.Sound → s.ComesTo (.config mark c) pending →
      ∀ p ∈ pending, p.InRange c) ∧
    (∀ s : Scene, Reached Act.Governed s → ∀ v < s.views.length, ∀ which along,
      ∃ mark c p, s.config v = .config mark c ∧ s.viewPriority v which (.axis along) = .ok p ∧ c.Admits p) ∧
    ∀ (c : Config Value) (p : Value) n, c.Admits p → p.number? = some n → c.Spans n ∧ n.extended ≠ .undefined := by
  refine ⟨?_, ?_, ?_, ?_⟩
  · intro around c checked numeric passed
    exact Config.checked_defaults around checked numeric passed
  · intro s mark c pending sound done
    exact comes_to_in_range sound pending done
  · intro s reached v known which along
    exact view_priority_in_range (governed_of_reached reached).2 v known which along
  · intro c p n admits number
    have spans := Config.admits_number p n admits number
    exact ⟨spans, Config.spans_defined n spans⟩

def modest : Config Value :=
  { defaultPriority := .int 500, minPriority := .double (.round 10), maxPriority := .int 900,
    defaultCompression := .int 800, defaultExpansion := .int 10, defaultMargin := .int 0 }

def modestView : Scene := (Act.run .empty (.construct { config := .config .new modest })).2

def modestScene : Scene :=
  [.setPriority 0 .expansion (.axis .vertical) (.int 900),
    .setPriority 0 .expansion (.axis .vertical) (.int 901)].foldl (fun s act => (Act.run s act).2) modestView

theorem modest_numeric : modest.Numeric := by
  intro field member
  simp only [Config.fields, List.mem_cons, List.not_mem_nil, or_false] at member
  rcases member with rfl | rfl | rfl | rfl | rfl | rfl <;> exact ⟨_, rfl⟩

theorem modest_sound : modest.Sound :=
  Config.sound_of_passed modestView.surroundings modest_numeric (by decide +kernel)

theorem modest_in_range :
    modest.Numeric ∧ (∃ n, modest.defaultPriority.number? = some n ∧ modest.Spans n) ∧
      (∃ pending, modestScene.ComesTo (.config .new modest) pending ∧ pending.length = 2 ∧
        ∀ p ∈ pending, p.InRange modest) ∧
      (∃ mark c p, modestScene.config 0 = .config mark c ∧
        modestScene.viewPriority 0 .expansion (.axis .vertical) = .ok p ∧ c.Admits p) ∧
      modest.Spans (.int 900) ∧ (Number.int 900).extended ≠ .undefined := by
  obtain ⟨defaults, compiled, stored, defined⟩ := priorities_stay_in_range
  obtain ⟨around, checked, passed⟩ := modest_sound.checked
  have reached : Reached Act.Governed modestScene := by
    refine .step _ (.setPriority 0 .expansion (.axis .vertical) (.int 901)) (.step _
      (.setPriority 0 .expansion (.axis .vertical) (.int 900)) (.step _ (.construct { config := .config .new modest })
        .empty ⟨?_, ?_⟩) ⟨trivial, trivial⟩) ⟨trivial, trivial⟩
    · rintro p ⟨⟩
    · rintro mark c ⟨⟩
      exact modest_sound
  refine ⟨modest_numeric, defaults around modest checked modest_numeric passed _ (by simp [Config.defaults]), ?_,
    stored modestScene reached 0 (by decide +kernel) .expansion .vertical, ?_⟩
  · have center : modestScene.ComesTo (.config .new modest) _ :=
      .center (.view 0) (Accessor.middle.read (.view 0)) rfl
    exact ⟨_, center, rfl, compiled modestScene .new modest _ modest_sound center⟩
  · have admits : modest.Admits (.int 900) := .inl ⟨_, rfl, .double (.round 10), .int 900, rfl, rfl, by decide +kernel,
      by decide +kernel⟩
    exact defined modest (.int 900) _ admits rfl

end Scene

end LayoutAlgebra
