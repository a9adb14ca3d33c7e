import LayoutAlgebra.Proofs.Built
import LayoutAlgebra.Proofs.Forest.Nearest
import LayoutAlgebra.Proofs.History
import LayoutAlgebra.Proofs.Meaning
import LayoutAlgebra.Proofs.Priority.Range
import LayoutAlgebra.Proofs.Telling
set_option autoImplicit false

namespace LayoutAlgebra

def objectSide (lhs rhs : Expression) : Expression := if lhs.kind = .ratio ∨ lhs.hasElement then rhs else lhs

def Config.resolved (c : Config Value) (lhs rhs : Expression) : Value :=
  c.chosen (Scene.given (subjectSide lhs rhs).priority (objectSide lhs rhs).priority)

def Config.Keeps (c : Config Value) (p : Value) : Prop := ∃ n, p.number? = some n ∧ c.Spans n

def Literals (lhs rhs : Expression) : Prop := lhs.hasElement = false ∧ rhs.hasElement = false

namespace Scene

variable {s : Scene}

def Apart (s : Scene) (lhs rhs : Expression) : Prop :=
  ∃ v w, lhs.element = .view v ∧ rhs.element = .view w ∧ s.root v ≠ s.root w

theorem apart_present (lhs rhs : Expression) (apart : s.Apart lhs rhs) : ¬ Literals lhs rhs := by
  rintro ⟨absent, _⟩
  obtain ⟨v, _, here, _⟩ := apart
  simp [Linear.hasElement, here, Value.isNone] at absent

theorem topic_attr (e : Expression) (topic : e.Topic) : ∃ a : Attribute, e.attr = .attr a := by
  cases topic with
  | literal _ _ named | dimension _ _ _ _ named _ | line _ _ _ _ named _ => exact ⟨_, named⟩

theorem told (around : Surroundings) (e : Expression) (topic : e.Topic) (numeric : e.Numeric) :
    (e.tellIgnored around).result = .ok () := by
  obtain ⟨a, named⟩ := topic_attr e topic
  obtain ⟨_, x, offset⟩ := numeric.constant
  obtain ⟨_, y, scale⟩ := numeric.multiplier
  have settled := identity_settled around e (.double x) (.double y) (by rw [offset]; rfl) (by rw [scale]; rfl)
  have asked : (Logged.of (e.isIdentity around >>= Verdict.truth)).result = _ := settled
  unfold Linear.tellIgnored
  rw [Logged.bind_result, asked]
  have word : e.attr.hasWord = true := by rw [named]; rfl
  rw [Fallible.ok_bind, word]
  split <;> rfl

theorem common_ancestor_settled (forest : Forest s) (v w : ViewId) :
    (s.root v = s.root w ∧ ∃ anchor, s.commonAncestor (.view v) (.view w) = .ok anchor) ∨
      s.root v ≠ s.root w ∧ s.commonAncestor (.view v) (.view w) = .error (.disjoint (.view v) (.view w)) := by
  have none := common_ancestor_none_iff forest v w
  rw [common_ancestor_between]
  cases found : s.commonAncestor? v w with
  | none => exact .inr ⟨none.mp found, rfl⟩
  | some h => exact .inl ⟨not_not.mp fun apart => by simp [none.mpr apart] at found, .view h, rfl⟩

def anchorOf (s : Scene) (o : Oriented) : Fallible Value :=
  if o.object.hasElement then s.commonAncestor o.subject.element o.object.element else .ok o.subject.element

variable {mark : Mark} {c : Config Value}

theorem map_of_bind {α β : Type} (first : Fallible α) (f : α → β) : (first >>= fun a => .ok (f a)) = first.map f := by
  cases first <;> rfl

theorem compile_linear_result (o : Oriented) (silent : (o.subject.tellIgnored s.surroundings).result = .ok ()) :
    (s.compileLinear (.config mark c) o).result = s.anchorOf o >>= fun anchor =>
      (c.checkPriority s.surroundings (c.chosen (given o.subject.priority o.object.priority)) (.ofText "priority")).map
        fun priority => ⟨.record .new (o.record priority), anchor⟩ := by
  simp only [compileLinear, Logged.bind_result, Logged.of_result, silent, Fallible.ok_bind, ← map_of_bind]
  rfl

theorem compile_ratio_result (lhs rhs : Expression) (relation : Value)
    (silent : (lhs.tellIgnored s.surroundings).result = .ok ()) :
    (s.compileRatio (.config mark c) lhs rhs relation).result =
      c.checkPriority s.surroundings (c.chosen (given lhs.priority rhs.priority)) (.ofText "priority") >>= fun priority =>
        (s.commonAncestor lhs.element rhs.element).map fun anchor =>
          ⟨.record .new ((Oriented.proportion lhs rhs relation).record priority), anchor⟩ := by
  simp only [compileRatio, Logged.bind_result, Logged.of_result, silent, Fallible.ok_bind, ← map_of_bind]
  rfl

-- How the compilation of a relation between two sides ends, of which the failures are known as they are told. A relation
-- between proportions looks at the priority first, and any other one at the trees.
structure Settles {α : Type} (s : Scene) (c : Config Value) (lhs rhs : Expression) (ended : Except Category α) : Prop where
  typed : ended ≠ .error .wrongType
  underspecified : ended = .error .underspecified ↔ Literals lhs rhs
  disjoint : ended = .error .disjoint ↔ s.Apart lhs rhs ∧ (lhs.kind = .ratio → c.Keeps (c.resolved lhs rhs))
  outside : ended = .error .invalidPriority ↔ ¬ Literals lhs rhs ∧ (lhs.kind ≠ .ratio → ¬ s.Apart lhs rhs) ∧
    ¬ c.Keeps (c.resolved lhs rhs) ∧ (c.resolved lhs rhs).Writable
  unwritten : ended = .error .wrongContent ↔ ¬ Literals lhs rhs ∧ (lhs.kind ≠ .ratio → ¬ s.Apart lhs rhs) ∧
    ¬ c.Keeps (c.resolved lhs rhs) ∧ ¬ (c.resolved lhs rhs).Writable
  compiled : (∃ a, ended = .ok a) ↔ ¬ Literals lhs rhs ∧ ¬ s.Apart lhs rhs ∧ c.Keeps (c.resolved lhs rhs)

section

variable {α β : Type} {lhs rhs : Expression}

theorem settles_map (f : α → β) (ended : Except Category α) (settles : Settles s c lhs rhs ended) :
    Settles s c lhs rhs (ended.map f) := by
  cases ended with
  | error category =>
      obtain ⟨typed, underspecified, disjoint, outside, unwritten, compiled⟩ := settles
      exact ⟨by simpa [Except.map] using typed, by simpa [Except.map] using underspecified,
        by simpa [Except.map] using disjoint, by simpa [Except.map] using outside,
        by simpa [Except.map] using unwritten, by simpa [Except.map] using compiled⟩
  | ok a =>
      obtain ⟨typed, underspecified, disjoint, outside, unwritten, compiled⟩ := settles
      exact ⟨by simp [Except.map], by simpa [Except.map] using underspecified,
        by simpa [Except.map] using disjoint, by simpa [Except.map] using outside,
        by simpa [Except.map] using unwritten, by simpa [Except.map] using compiled⟩

theorem settles_literals (literals : Literals lhs rhs) :
    Settles s c lhs rhs (.error .underspecified : Except Category α) where
  typed := nofun
  underspecified := by simp [literals]
  disjoint := iff_of_false nofun fun ⟨apart, _⟩ => apart_present lhs rhs apart literals
  outside := by simp [literals]
  unwritten := by simp [literals]
  compiled := by simp [literals]

theorem settles_disjoint (apart : s.Apart lhs rhs) (kept : lhs.kind = .ratio → c.Keeps (c.resolved lhs rhs)) :
    Settles s c lhs rhs (.error .disjoint : Except Category α) where
  typed := nofun
  underspecified := iff_of_false nofun (apart_present lhs rhs apart)
  disjoint := iff_of_true rfl ⟨apart, kept⟩
  outside := iff_of_false nofun fun ⟨_, together, refused, _⟩ =>
    together (fun ratio => refused (kept ratio)) apart
  unwritten := iff_of_false nofun fun ⟨_, together, refused, _⟩ =>
    together (fun ratio => refused (kept ratio)) apart
  compiled := by simp [apart]

theorem settles_refused (present : ¬ Literals lhs rhs) (together : lhs.kind ≠ .ratio → ¬ s.Apart lhs rhs)
    (refused : ¬ c.Keeps (c.resolved lhs rhs)) (category : Category)
    (told : (c.resolved lhs rhs).Writable ∧ category = .invalidPriority ∨
      ¬ (c.resolved lhs rhs).Writable ∧ category = .wrongContent) :
    Settles s c lhs rhs (.error category : Except Category α) := by
  have disjoint : ¬ (s.Apart lhs rhs ∧ (lhs.kind = .ratio → c.Keeps (c.resolved lhs rhs))) := by
    rintro ⟨apart, kept⟩
    exact together (fun ratio => refused (kept ratio)) apart
  rcases told with ⟨writable, rfl⟩ | ⟨endless, rfl⟩
  · exact ⟨nofun, iff_of_false nofun present, iff_of_false nofun disjoint, iff_of_true rfl ⟨present, together, refused, writable⟩,
      iff_of_false nofun fun told => told.2.2.2 writable, iff_of_false nofun fun kept => refused kept.2.2⟩
  · exact ⟨nofun, iff_of_false nofun present, iff_of_false nofun disjoint, iff_of_false nofun fun told => endless told.2.2.2,
      iff_of_true rfl ⟨present, together, refused, endless⟩, iff_of_false nofun fun kept => refused kept.2.2⟩

theorem settles_compiled (present : ¬ Literals lhs rhs) (together : ¬ s.Apart lhs rhs)
    (kept : c.Keeps (c.resolved lhs rhs)) (a : α) : Settles s c lhs rhs (.ok a : Except Category α) where
  typed := nofun
  underspecified := iff_of_false nofun present
  disjoint := by simp [together]
  outside := by simp [kept]
  unwritten := by simp [kept]
  compiled := iff_of_true ⟨a, rfl⟩ ⟨present, together, kept⟩

end

theorem topic_element (e : Expression) (topic : e.Topic) :
    e.element = .none ∧ e.hasElement = false ∨ ∃ v, e.element = .view v ∧ e.hasElement = true := by
  cases topic with
  | literal _ absent _ => exact .inl ⟨absent, by simp [Linear.hasElement, absent, Value.isNone]⟩
  | dimension v _ _ about _ _ | line v _ _ about _ _ =>
      exact .inr ⟨v, about, by simp [Linear.hasElement, about, Value.isNone]⟩

theorem ratio_element (e : Expression) (topic : e.Topic) (ratio : e.kind = .ratio) : e.hasElement = true := by
  cases topic with
  | dimension v _ _ about _ _ => simp [Linear.hasElement, about, Value.isNone]
  | literal length _ _ => simp [length] at ratio
  | line _ _ position _ _ _ => simp [position] at ratio

def Meets (s : Scene) (lhs rhs : Expression) (anchor : Fallible Value) : Prop :=
  (¬ s.Apart lhs rhs ∧ ∃ a, anchor = .ok a) ∨ s.Apart lhs rhs ∧ ∃ v w, anchor = .error (.disjoint (.view v) (.view w))

theorem meet_settled (forest : Forest s) (lhs rhs : Expression) (left : lhs.Topic) (right : rhs.Topic)
    (first : lhs.hasElement = true) (second : rhs.hasElement = true) :
    s.Meets lhs rhs (s.commonAncestor lhs.element rhs.element) := by
  rcases topic_element lhs left with ⟨_, absent⟩ | ⟨v, here, _⟩
  · simp [absent] at first
  rcases topic_element rhs right with ⟨_, absent⟩ | ⟨w, there, _⟩
  · simp [absent] at second
  rw [here, there]
  rcases common_ancestor_settled forest v w with ⟨same, found⟩ | ⟨apart, missed⟩
  · refine .inl ⟨?_, found⟩
    rintro ⟨x, y, one, other, differ⟩
    rw [here] at one
    rw [there] at other
    obtain ⟨rfl, rfl⟩ := And.intro (Value.view.inj one) (Value.view.inj other)
    exact differ same
  · exact .inr ⟨⟨v, w, here, there, apart⟩, v, w, missed⟩

theorem priority_settled (fits : c.Fits) (p : Value) (n : Number) (number : p.number? = some n) :
    (c.Keeps p ∧ c.checkPriority s.surroundings p (.ofText "priority") = .ok p) ∨
      ¬ c.Keeps p ∧ ∃ failure, c.checkPriority s.surroundings p (.ofText "priority") = .error failure ∧
        (p.Writable ∧ s.raised failure = .invalidPriority ∨ ¬ p.Writable ∧ s.raised failure = .wrongContent) := by
  rcases @Config.check_priority_number s.surroundings c fits.numeric p (.ofText "priority") n number with
    ⟨inside, passed⟩ | ⟨outside, refused⟩
  · exact .inl ⟨⟨n, number, inside⟩, passed⟩
  · refine .inr ⟨?_, _, refused, raised_outside c fits (.ofText "priority") p n number ⟨_, rfl⟩⟩
    rintro ⟨m, same, inside⟩
    rw [number] at same
    exact outside (Option.some.inj same ▸ inside)

theorem resolved_number (fits : c.Fits) (lhs rhs : Expression) (left : lhs.Numeric) (right : rhs.Numeric) :
    ∃ n, (c.resolved lhs rhs).number? = some n := by
  have carried : ∀ e : Expression, e.Numeric → e.priority = .none ∨ ∃ n, e.priority.number? = some n := by
    intro e numeric
    rcases numeric.priority with none | ⟨mark, n, number⟩
    · exact .inl none
    · exact .inr ⟨n, by rw [number]; rfl⟩
  have either : ∀ e o : Expression, e.Numeric → o.Numeric →
      given e.priority o.priority = .none ∨ ∃ n, (given e.priority o.priority).number? = some n := by
    intro e o first second
    unfold given
    split
    · exact carried e first
    · exact carried o second
  have sides : given (subjectSide lhs rhs).priority (objectSide lhs rhs).priority = .none ∨
      ∃ n, (given (subjectSide lhs rhs).priority (objectSide lhs rhs).priority).number? = some n := by
    unfold subjectSide objectSide
    split
    · exact either lhs rhs left right
    · exact either rhs lhs right left
  rcases sides with none | ⟨n, number⟩
  · obtain ⟨n, number⟩ := fits.numeric c.defaultPriority (by simp [Config.fields])
    exact ⟨n, by rw [Config.resolved, none]; exact number⟩
  · refine ⟨n, ?_⟩
    unfold Config.resolved Config.chosen
    rw [if_neg fun none => by rw [(is_none_iff _).mp none] at number; cases number]
    exact number

theorem compile_ratio_settled (titled : s.Titled) (fits : c.Fits) (lhs rhs : Expression) (relation : Value)
    (silent : (lhs.tellIgnored s.surroundings).result = .ok ()) (ratio : lhs.kind = .ratio)
    (present : ¬ Literals lhs rhs) (n : Number) (number : (c.resolved lhs rhs).number? = some n)
    (meets : s.Meets lhs rhs (s.commonAncestor lhs.element rhs.element)) :
    Settles s c lhs rhs ((s.compileRatio (.config mark c) lhs rhs relation).result.mapError s.raised) := by
  have carried : c.chosen (given lhs.priority rhs.priority) = c.resolved lhs rhs := by
    simp [Config.resolved, subjectSide, objectSide, ratio]
  rw [compile_ratio_result lhs rhs relation silent, carried]
  rcases priority_settled (s := s) fits _ n number with ⟨kept, passed⟩ | ⟨outside, failure, refused, told⟩
  · rw [passed]
    rcases meets with ⟨together, anchor, found⟩ | ⟨apart, v, w, missed⟩
    · rw [found]
      exact settles_compiled present together kept _
    · rw [missed, Fallible.ok_bind]
      have settles := settles_disjoint (α := Pending Value) apart fun _ => kept
      rwa [← raised_disjoint titled v w] at settles
  · rw [refused]
    exact settles_refused present (fun plain => absurd ratio plain) outside _ told

theorem compile_linear_settled (titled : s.Titled) (fits : c.Fits) (lhs rhs : Expression) (o : Oriented)
    (silent : (o.subject.tellIgnored s.surroundings).result = .ok ()) (plain : lhs.kind ≠ .ratio)
    (present : ¬ Literals lhs rhs) (n : Number) (number : (c.resolved lhs rhs).number? = some n)
    (carried : c.chosen (given o.subject.priority o.object.priority) = c.resolved lhs rhs)
    (meets : s.Meets lhs rhs (s.anchorOf o)) :
    Settles s c lhs rhs ((s.compileLinear (.config mark c) o).result.mapError s.raised) := by
  rw [compile_linear_result o silent, carried]
  rcases meets with ⟨together, anchor, found⟩ | ⟨apart, v, w, missed⟩
  · rw [found]
    rcases priority_settled (s := s) fits _ n number with ⟨kept, passed⟩ | ⟨outside, failure, refused, told⟩
    · rw [passed]
      exact settles_compiled present together kept _
    · rw [refused]
      exact settles_refused present (fun _ => together) outside _ told
  · rw [missed]
    have settles := settles_disjoint (α := Pending Value) (c := c) apart fun ratio => absurd ratio plain
    rwa [← raised_disjoint titled v w] at settles

theorem compile_sides_settled (forest : Forest s) (titled : s.Titled) (fits : c.Fits) (lhs rhs : Expression)
    (sign : Relation) (kinds : lhs.kind = rhs.kind) (left : lhs.Topic) (right : rhs.Topic) (numeric : lhs.Numeric)
    (numericToo : rhs.Numeric) :
    Settles s c lhs rhs
      ((s.compileSides (.config mark c) lhs rhs (.relation sign)).result.mapError s.raised) := by
  obtain ⟨n, number⟩ := resolved_number fits lhs rhs numeric numericToo
  have silent := told s.surroundings lhs left numeric
  have silentToo := told s.surroundings rhs right numericToo
  unfold compileSides
  rw [if_neg (not_not.mpr kinds)]
  by_cases ratio : lhs.kind = .ratio
  · rw [if_pos ratio]
    have first := ratio_element lhs left ratio
    have second := ratio_element rhs right (kinds ▸ ratio)
    exact compile_ratio_settled titled fits lhs rhs _ silent ratio (by simp [Literals, first]) n number
      (meet_settled forest lhs rhs left right first second)
  · rw [if_neg ratio]
    cases first : lhs.hasElement with
    | true =>
        have oriented : orient lhs rhs (.relation sign) = .ok ⟨lhs, rhs, .relation sign⟩ := by simp [orient, first]
        have carried : c.chosen (given lhs.priority rhs.priority) = c.resolved lhs rhs := by
          simp [Config.resolved, subjectSide, objectSide, first]
        have meets : s.Meets lhs rhs (s.anchorOf ⟨lhs, rhs, .relation sign⟩) := by
          cases second : rhs.hasElement with
          | true => simpa [anchorOf, second] using meet_settled forest lhs rhs left right first second
          | false =>
            refine .inl ⟨?_, lhs.element, by simp [anchorOf, second]⟩
            rintro ⟨_, w, _, there, _⟩
            simp [Linear.hasElement, there, Value.isNone] at second
        rw [oriented]
        exact compile_linear_settled titled fits lhs rhs _ silent ratio (by simp [Literals, first]) n number carried meets
    | false =>
        have together : ¬ s.Apart lhs rhs := by
          rintro ⟨v, _, here, _⟩
          simp [Linear.hasElement, here, Value.isNone] at first
        cases second : rhs.hasElement with
        | true =>
            have oriented : orient lhs rhs (.relation sign) = .ok ⟨rhs, lhs, .relation sign.mirrored⟩ := by
              simp [orient, first, second, Value.mirrored]
            have carried : c.chosen (given rhs.priority lhs.priority) = c.resolved lhs rhs := by
              simp [Config.resolved, subjectSide, objectSide, first, ratio]
            have meets : s.Meets lhs rhs (s.anchorOf ⟨rhs, lhs, .relation sign.mirrored⟩) :=
              .inl ⟨together, rhs.element, by simp [anchorOf, first]⟩
            rw [oriented]
            exact compile_linear_settled titled fits lhs rhs _ silentToo ratio (by simp [Literals, second]) n number carried
              meets
        | false =>
            have oriented : orient lhs rhs (.relation sign) = .error .twoLiterals := by simp [orient, first, second]
            rw [oriented]
            exact settles_literals ⟨first, second⟩

theorem logged_run {α : Type} (f : Scene → Logged α) (g : α → Value) (session : Script.Session) :
    (do return g (← Script.Run.logged f) : Script.Run Value).run.run session =
      ((f session.scene).result.map g,
        { session with events := session.events ++ (f session.scene).history session.scene }) := by
  generalize told : f session.scene = logged
  have ran : (Script.Run.logged f).run.run session =
      (logged.result, { session with events := session.events ++ logged.history session.scene }) := by
    rw [← told]
    rfl
  rw [ExceptT.run_bind, StateT.run_bind, ran]
  cases logged.result <;> rfl

theorem map_error_map {α β ε η : Type} (f : α → β) (g : ε → η) (result : Except ε α) :
    (result.map f).mapError g = (result.mapError g).map f := by
  cases result <;> rfl

theorem map_error_ok_iff {α ε η : Type} (g : ε → η) (result : Except ε α) (a : α) :
    result.mapError g = .ok a ↔ result = .ok a := by
  cases result <;> simp [Except.mapError]

theorem call_settles (session : Script.Session) (forest : Forest session.scene) (titled : session.scene.Titled)
    (serial : Nat) (mark : Mark) (fits : c.Fits) (outer first second : Mark) (lhs rhs : Expression) (sign : Relation)
    (kinds : lhs.kind = rhs.kind) (left : lhs.Topic) (right : rhs.Topic) (numeric : lhs.Numeric)
    (numericToo : rhs.Numeric) :
    let relation : Value := .relationship outer ⟨.linear first lhs, .linear second rhs, .relation sign⟩
    let done := (Script.callMethod (.compiler serial (.config mark c)) "compile" [relation]).run.run session
    done.2.scene = session.scene ∧ Settles session.scene c lhs rhs (done.1.mapError session.scene.raised) ∧
      ∀ v, done.1 = .ok v → ∃ p, v = Script.pendingList [p] := by
  intro relation done
  have called : done = _ := logged_run (fun s => s.compile (.config mark c) relation) Script.pendingList session
  have compiled : (session.scene.compile (.config mark c) relation).result =
      (session.scene.compileSides (.config mark c) lhs rhs (.relation sign)).result.map fun p => [p] := by
    simp only [relation, compile, Logged.bind_result, ← map_of_bind]
    rfl
  rw [called]
  refine ⟨rfl, ?_, ?_⟩
  · rw [compiled, map_error_map, map_error_map]
    exact settles_map _ _ (settles_map _ _
      (compile_sides_settled forest titled fits lhs rhs sign kinds left right numeric numericToo))
  · intro v done
    rw [compiled] at done
    obtain ⟨pending, made, same⟩ := (Fallible.map_ok_iff _ _ _).mp done
    obtain ⟨p, _, single⟩ := (Fallible.map_ok_iff _ _ _).mp made
    exact ⟨p, by rw [← same, ← single]⟩

/-- A relation between expressions and numbers fails to compile only where neither side has an element, where the elements of
its sides are in different trees, or where its priority is outside of the range; it fails whenever one of these is so, and
comes to one pending constraint whenever none is. A priority outside of the range is told as one unless it has more digits
than can be written. Compiling leaves the scene as it is. -/
theorem compile_settles (session : Script.Session) (reached : Reached Act.Known session.scene)
    (titled : session.scene.Titled) (serial : Nat) (mark : Mark) (c : Config Value) (fits : c.Fits) (relation : Value)
    (relates : relation.Relates) :
    let done := (Script.callMethod (.compiler serial (.config mark c)) "compile" [relation]).run.run session
    done.2.scene = session.scene ∧
      ∃ outer first second lhs rhs sign,
        relation = .relationship outer ⟨.linear first lhs, .linear second rhs, .relation sign⟩ ∧
          Settles session.scene c lhs rhs (done.1.mapError session.scene.raised) ∧
          ∀ v, done.1 = .ok v → ∃ p, v = Script.pendingList [p] := by
  intro done
  have forest := (regular_of_reached reached).forest
  obtain ⟨outer, ⟨_, _, _⟩, lhs, rhs, sign, rfl, ⟨⟨first, rfl⟩, left, numeric⟩, ⟨⟨second, rfl⟩, right, numericToo⟩, kinds,
    rfl⟩ := relates_between relation relates
  obtain ⟨kept, settles, single⟩ :=
    call_settles session forest titled serial mark fits outer first second lhs rhs sign kinds left right numeric numericToo
  exact ⟨kept, outer, first, second, lhs, rhs, sign, rfl, settles, single⟩

def nestedSession : Script.Session := { Script.Session.empty with scene := nested }

theorem nested_titled : nested.Titled := by
  intro v
  match v with
  | 0 | 1 | v + 2 => exact .inl rfl

theorem default_fits : Config.default.Fits where
  numeric := Config.default_sound.numeric
  low := ⟨.int 1, .round 1, rfl, by decide +kernel⟩
  high := ⟨.int 1000, .round 1000, rfl, by decide +kernel⟩

def widthsRelated : Value :=
  .relationship .new ⟨.linear .new (.reading .length (.view 1) .width),
    .linear .new { Linear.reading .length (.view 0) .width with multiplier := .double (.round 2) }, .relation .lessOrEqual⟩

theorem widths_compile :
    widthsRelated.Relates ∧ ∃ p,
      ((Script.callMethod (.compiler 0 .standardConfig) "compile" [widthsRelated]).run.run nestedSession).1 =
        .ok (Script.pendingList [p]) := by
  have inner : (Value.linear .new (.reading .length (.view 1) .width)).Built :=
    .read 1 "width" (.length .width) (by decide) rfl
  have outer : (Value.linear .new (.reading .length (.view 0) .width)).Built :=
    .read 0 "width" (.length .width) (by decide) rfl
  have twice := Value.Built.transformed nested.surroundings .times _ _ .new (.double (.round 2)) outer rfl
  have relates : widthsRelated.Relates := .compared nested.surroundings .le _ _ _ (.inl inner) (.inl twice) rfl
  obtain ⟨_, _, _, _, lhs, rhs, _, same, settles, single⟩ :=
    compile_settles nestedSession nested_reached nested_titled 0 (.standing "configuration") .default default_fits
      widthsRelated relates
  obtain ⟨_, same⟩ := Value.relationship.inj same
  obtain ⟨left, right, _⟩ := Relationship.mk.inj same
  obtain ⟨_, rfl⟩ := Value.linear.inj left
  obtain ⟨_, rfl⟩ := Value.linear.inj right
  have oneTree : nested.root 1 = nested.root 0 := by decide +kernel
  have together : ¬ nested.Apart (.reading .length (.view 1) .width)
      { Linear.reading .length (.view 0) .width with multiplier := .double (.round 2) } := by
    rintro ⟨_, _, ⟨rfl⟩, ⟨rfl⟩, differ⟩
    exact differ oneTree
  have kept : Config.default.Keeps (.number (.standing "required priority") (.int Config.required)) :=
    ⟨.int 1000, rfl, .int 1, .int 1000, rfl, rfl, by decide +kernel, by decide +kernel⟩
  obtain ⟨v, ended⟩ := settles.compiled.mpr ⟨by rintro ⟨⟨⟩, _⟩, together, kept⟩
  have done := (map_error_ok_iff _ _ v).mp ended
  obtain ⟨p, rfl⟩ := single v done
  exact ⟨relates, p, done⟩

-- A priority with one digit more than can be written.
def endlessPriority : Value := .int (Nat.pow 10 mostDigits)

def endlessRelation : Value :=
  .relationship .new ⟨.linear .new { Linear.reading .length (.view 0) .width with priority := endlessPriority },
    .linear .new (literalOf (.double (.round 100))), .relation .lessOrEqual⟩

theorem endless_priority_untold :
    endlessRelation.Relates ∧ ¬ Config.default.Keeps endlessPriority ∧
      ((Script.callMethod (.compiler 0 .standardConfig) "compile" [endlessRelation]).run.run nestedSession).1.mapError
        nested.raised = .error .wrongContent := by
  have width : (Value.linear .new (.reading .length (.view 0) .width)).Built :=
    .read 0 "width" (.length .width) (by decide) rfl
  have urgent := Value.Built.transformed nested.surroundings .prioritized _ _ .new (.int (Nat.pow 10 mostDigits)) width rfl
  have relates : endlessRelation.Relates :=
    .compared nested.surroundings .le _ (.double (.round 100)) _ (.inl urgent) (.inr ⟨_, _, rfl⟩) rfl
  have refused : ¬ Config.default.Keeps endlessPriority := by
    rintro ⟨n, ⟨rfl⟩, low, high, ⟨rfl⟩, ⟨rfl⟩, _, below⟩
    revert below
    decide +kernel
  obtain ⟨_, settles, _⟩ := call_settles nestedSession (regular_of_reached nested_reached).forest nested_titled 0
    (.standing "configuration") default_fits .new .new .new
    { Linear.reading .length (.view 0) .width with priority := endlessPriority } (literalOf (.double (.round 100)))
    .lessOrEqual rfl (.dimension 0 .width (.inl rfl) rfl rfl rfl) (.literal rfl rfl rfl)
    ⟨⟨_, _, rfl⟩, ⟨_, _, rfl⟩, .inr ⟨_, _, rfl⟩⟩ ⟨⟨_, _, rfl⟩, ⟨_, _, rfl⟩, .inl rfl⟩
  refine ⟨relates, refused, settles.unwritten.mpr ⟨by rintro ⟨⟨⟩, _⟩, fun _ => ?_, refused, fun writable => ?_⟩⟩
  · rintro ⟨_, _, _, ⟨⟩, _⟩
  · exact absurd (writable .new _ rfl) (by decide +kernel)

end Scene

end LayoutAlgebra
