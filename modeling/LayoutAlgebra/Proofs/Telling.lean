import LayoutAlgebra.Proofs.Exact.Order
import LayoutAlgebra.Proofs.Priority.Bounds
import LayoutAlgebra.Script.Evaluation
set_option autoImplicit false

namespace LayoutAlgebra

structure Config.Fits (c : Config Value) : Prop where
  numeric : c.Numeric
  low : ∃ n x, c.minPriority.number? = some n ∧ n.toDouble = .ok x
  high : ∃ n x, c.maxPriority.number? = some n ∧ n.toDouble = .ok x

-- A value that can be written in words. Whole numbers have an end to their digits there.
def Value.Writable (v : Value) : Prop := ∀ mark n, v = .number mark (.int n) → n.natAbs < Nat.pow 10 mostDigits

namespace Scene

variable {s : Scene}

def Titled (s : Scene) : Prop := ∀ v, s.name v = .none ∨ ∃ mark t, s.name v = .text mark t

-- What a failure is told as: it gives way to what goes wrong with its words, if anything does.
def raised (s : Scene) (failure : Failure) : Category := (Script.worded s.surroundings failure).1.category

theorem titled_behind (titled : s.Titled) (v : ViewId) (depth : Nat) (busy : List Value) :
    ∃ text, s.surroundings.behind (depth + 1) busy (.view v) = .ok text := by
  have written : s.surroundings.behind (depth + 1) busy (.view v) = (do
      if ← s.surroundings.truth (s.name v) then
        return "View(" ++ (← (s.name v).full (s.surroundings.behind depth) busy) ++ ")"
      else return Text.address v) := rfl
  rw [written]
  rcases titled v with untitled | ⟨mark, t, title⟩
  · rw [untitled]
    exact ⟨_, rfl⟩
  · have truth : s.surroundings.truth (.text mark t) = .ok !t.isEmpty := rfl
    rw [title, truth]
    cases t.isEmpty <;> exact ⟨_, rfl⟩

theorem titled_written (titled : s.Titled) (v : ViewId) : ∃ text, s.surroundings.full (.view v) = .ok text :=
  titled_behind titled v 999 []

theorem raised_disjoint (titled : s.Titled) (v w : ViewId) : s.raised (.disjoint (.view v) (.view w)) = .disjoint := by
  obtain ⟨first, here⟩ := titled_written titled v
  obtain ⟨second, there⟩ := titled_written titled w
  simp [raised, Script.worded, Failure.message?, here, there, Failure.category]

theorem number_written (p : Value) (n : Number) (number : p.number? = some n) :
    (p.Writable ∧ ∃ text, s.surroundings.plain p = .ok text) ∨
      ¬ p.Writable ∧ s.surroundings.plain p = .error .wrongContent := by
  rcases number_cases p n number with ⟨mark, rfl⟩ | ⟨b, rfl, rfl⟩
  · cases n with
    | double x => exact .inl ⟨nofun, _, rfl⟩
    | int n =>
        have written : s.surroundings.plain (.number mark (.int n)) = (Number.int n).full := rfl
        rw [written, Number.full]
        by_cases short : n.natAbs < Nat.pow 10 mostDigits
        · rw [if_pos short]
          refine .inl ⟨?_, _, rfl⟩
          rintro _ _ ⟨rfl⟩
          exact short
        · rw [if_neg short]
          exact .inr ⟨fun writable => short (writable mark n rfl), rfl⟩
  · exact .inl ⟨nofun, _, rfl⟩

theorem bound_written (p : Value) (n : Number) (number : p.number? = some n) :
    ((∃ x, n.toDouble = .ok x) ∧ ∃ text, p.brief = .ok text) ∨
      (¬ ∃ x, n.toDouble = .ok x) ∧ p.brief = .error (.arithmetic .overflow) := by
  rcases number_cases p n number with ⟨mark, rfl⟩ | ⟨b, rfl, rfl⟩
  · cases fits : n.toDouble with
    | ok x => exact .inl ⟨⟨x, rfl⟩, x.brief, by rw [Value.brief, fits]; rfl⟩
    | error fault =>
        obtain rfl := to_double_fault n fault fits
        exact .inr ⟨by simp, by rw [Value.brief, fits]; rfl⟩
  · have fits : ∃ x, (Number.ofBool b).toDouble = .ok x := by
      cases b with
      | false => exact ⟨.round 0, by decide +kernel⟩
      | true => exact ⟨.round 1, by decide +kernel⟩
    exact .inl ⟨fits, _, rfl⟩

-- Its words name both bounds before the priority itself.
theorem outside_told (c : Config Value) (numeric : c.Numeric) (what p : Value) (n : Number) (number : p.number? = some n)
    (subject : ∃ text, s.surroundings.plain what = .ok text) :
    (c.Fits ∧ p.Writable ∧ s.raised (.outsideBounds what c.minPriority c.maxPriority p) = .invalidPriority) ∨
      (c.Fits ∧ ¬ p.Writable ∧ s.raised (.outsideBounds what c.minPriority c.maxPriority p) = .wrongContent) ∨
      ¬ c.Fits ∧ s.raised (.outsideBounds what c.minPriority c.maxPriority p) = .overflow := by
  obtain ⟨low, high, lowest, highest⟩ := Config.numeric_bounds numeric
  obtain ⟨title, subject⟩ := subject
  rcases bound_written _ low lowest with ⟨⟨x, lowFits⟩, lowText, least⟩ | ⟨large, least⟩
  · rcases bound_written _ high highest with ⟨⟨y, highFits⟩, highText, most⟩ | ⟨large, most⟩
    · have fits : c.Fits := ⟨numeric, ⟨low, x, lowest, lowFits⟩, high, y, highest, highFits⟩
      rcases number_written (s := s) p n number with ⟨writable, text, written⟩ | ⟨endless, refused⟩
      · refine .inl ⟨fits, writable, ?_⟩
        simp [Scene.raised, Script.worded, Failure.message?, subject, least, most, written, Failure.category]
      · refine .inr (.inl ⟨fits, endless, ?_⟩)
        simp [Scene.raised, Script.worded, Failure.message?, subject, least, most, refused, Failure.category]
    · refine .inr (.inr ⟨fun fits => ?_, ?_⟩)
      · obtain ⟨m, y, number, read⟩ := fits.high
        exact large ⟨y, Option.some.inj (number.symm.trans highest) ▸ read⟩
      · simp [Scene.raised, Script.worded, Failure.message?, subject, least, most, Failure.category]
  · refine .inr (.inr ⟨fun fits => ?_, ?_⟩)
    · obtain ⟨m, x, number, read⟩ := fits.low
      exact large ⟨x, Option.some.inj (number.symm.trans lowest) ▸ read⟩
    · simp [Scene.raised, Script.worded, Failure.message?, subject, least, Failure.category]

theorem raised_outside (c : Config Value) (fits : c.Fits) (what p : Value) (n : Number) (number : p.number? = some n)
    (subject : ∃ text, s.surroundings.plain what = .ok text) :
    (p.Writable ∧ s.raised (.outsideBounds what c.minPriority c.maxPriority p) = .invalidPriority) ∨
      ¬ p.Writable ∧ s.raised (.outsideBounds what c.minPriority c.maxPriority p) = .wrongContent := by
  rcases outside_told c fits.numeric what p n number subject with told | told | ⟨unfit, _⟩
  · exact .inl told.2
  · exact .inr told.2
  · exact absurd fits unfit

end Scene

end LayoutAlgebra
