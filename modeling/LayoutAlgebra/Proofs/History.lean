import LayoutAlgebra.Proofs.Forest.Growth
import LayoutAlgebra.Proofs.Registration
import LayoutAlgebra.Script.Property
set_option autoImplicit false

namespace LayoutAlgebra

def Scene.silent {α : Type} (done : Fallible α × Scene) : Fallible Unit × Scene := (done.1.map fun _ => (), done.2)

def Scene.changed (s : Scene) : Fallible Scene → Fallible Unit × Scene
  | .ok t => (.ok (), t)
  | .error failure => (.error failure, s)

inductive Act where
  | construct (options : Scene.ViewOptions)
  | addSubview (p : ViewId) (child : Value)
  | detach (v : ViewId)
  | assign (v : ViewId) (accessor : Accessor) (value : Value)
  | activate (relationships : List Value) (sink config : Value)
  | within (length low high sink : Value)
  | submit (pending sink : Value)
  | register (sink record anchor : Value)
  | addConstraint (v : ViewId) (record : Value)
  | removeConstraint (v : ViewId) (record : Value)
  | setPriority (v : ViewId) (which : Resistance) (axis priority : Value)
  | sendPriority (sink : Value) (which : Resistance) (element axis priority : Value)
  | resist (along : ElementAxis Value) (which : Resistance) (priority sink : Value)
  | setField (v : ViewId) (name : String) (value : Value)
  | makeRecording
  | clear (k : RecordingId)
  | keep (v : Value)

namespace Act

def run (s : Scene) : Act → Fallible Unit × Scene
  | .construct options => Scene.silent (s.construct options)
  | .addSubview p child => Scene.silent (s.addSubview p child)
  | .detach v => s.detach v
  | .assign v accessor value => (s.assign v accessor value).silent
  | .activate relationships sink config => (s.activate relationships sink config).silent
  | .within length low high sink => (s.within length low high sink).silent
  | .submit pending sink => (s.submit pending sink).silent
  | .register sink record anchor => s.changed (s.register sink record anchor)
  | .addConstraint v record => s.changed (s.addConstraint v record)
  | .removeConstraint v record => s.changed (s.removeConstraint v record)
  | .setPriority v which axis priority => s.changed (s.setViewPriority v which axis priority)
  | .sendPriority sink which element axis priority => s.changed (s.sendPriority sink which element axis priority)
  | .resist along which priority sink => s.changed (s.resist along which priority sink)
  | .setField v name value => s.changed (Script.setViewField s v name value)
  | .makeRecording => (.ok (), { s with recordings := s.recordings ++ [.empty] })
  | .clear k => (.ok (), s.modifyRecording k fun _ => .empty)
  | .keep v => (.ok (), (s.keep v).2)

-- An act that attaches only views of the scene, and leaves it to views to keep their lists. Views are references: one that
-- is attached or attached to was made before.
def Known (s : Scene) : Act → Prop
  | .construct options => ∀ p, options.parent = .view p → p < s.views.length
  | .addSubview p child => p < s.views.length ∧ ∀ c, child = .view c → c < s.views.length
  | .setField _ name _ => name ≠ "children" ∧ name ≠ "constraints"
  | _ => True

def Apart : Act → Prop
  | .setPriority _ _ _ _ | .sendPriority _ _ _ _ _ | .resist _ _ _ _ | .setField _ _ _ | .makeRecording | .clear _
  | .keep _ => True
  | _ => False

end Act

namespace Scene

inductive Reached (allowed : Scene → Act → Prop) : Scene → Prop where
  | empty : Reached allowed .empty
  | step (s : Scene) (act : Act) (before : Reached allowed s) (may : allowed s act) : Reached allowed (act.run s).2

variable {s t : Scene}

theorem changed_keeps {property : Scene → Prop} (before : property s) (change : Fallible Scene)
    (keeps : ∀ t, change = .ok t → property t) : property (s.changed change).2 := by
  cases change with
  | error failure => exact before
  | ok t => exact keeps t rfl

theorem set_view_priority_core (v : ViewId) (which : Resistance) (axis priority : Value)
    (set : s.setViewPriority v which axis priority = .ok t) : SameUpTo View.core s t := by
  unfold setViewPriority at set
  split at set
  · obtain ⟨checked, _, set⟩ := (Fallible.bind_ok_iff _ _ _).mp set
    split at set
    · rw [← Except.ok.inj set]
      exact modify_same_up_to v _ fun _ _ => by cases which <;> rfl
    · simp at set
  · simp at set

theorem send_priority_core (sink : Value) (which : Resistance) (element axis priority : Value)
    (sent : s.sendPriority sink which element axis priority = .ok t) : SameUpTo View.core s t := by
  unfold sendPriority at sent
  split at sent
  · split at sent
    · exact set_view_priority_core _ which axis priority sent
    · simp at sent
    · simp at sent
    · simp at sent
  · unfold setRecordedPriority at sent
    simp only at sent
    split at sent
    · rw [← Except.ok.inj sent]
      exact same_up_to_refl s
    · simp at sent
  · simp at sent
  · simp at sent

theorem set_field_core (v : ViewId) (name : String) (value : Value) (known : name ≠ "children" ∧ name ≠ "constraints")
    (set : Script.setViewField s v name value = .ok t) : SameUpTo View.core s t := by
  unfold Script.setViewField at set
  split at set
  · simp at set
  · simp at set
  · simp at set
  · exact absurd rfl known.1
  · exact absurd rfl known.2
  all_goals
    rw [← Except.ok.inj set]
    first
    | exact modify_same_up_to v _ fun _ _ => rfl
    | exact same_up_to_refl s

theorem apart_core (act : Act) (known : act.Known s) (apart : act.Apart) : SameUpTo View.core s (act.run s).2 := by
  have unchanged : SameUpTo View.core s s := same_up_to_refl s
  cases act with
  | setPriority v which axis priority =>
      exact changed_keeps unchanged _ fun _ => set_view_priority_core v which axis priority
  | sendPriority sink which element axis priority =>
      exact changed_keeps unchanged _ fun _ => send_priority_core sink which element axis priority
  | resist along which priority sink => exact changed_keeps unchanged _ fun _ => send_priority_core _ which _ _ priority
  | setField v name value => exact changed_keeps unchanged _ fun _ => set_field_core v name value known
  | makeRecording | clear _ | keep _ => exact unchanged
  | _ => exact absurd apart id

theorem regular_same_core (regular : Regular s) (same : SameUpTo View.core s t) : Regular t where
  forest := forest_same regular.forest (places_same same (fun _ => rfl) (fun _ => rfl) fun _ => rfl)
  bare v := (given_constraints_same same (fun _ => rfl) v).trans (regular.bare v)

theorem regular_empty : Regular .empty where
  forest := { plain := fun _ => rfl, listed := fun _ _ => rfl, rooted := fun v => ⟨[v], .root v rfl⟩ }
  bare _ := rfl

theorem run_regular (regular : Regular s) (act : Act) (known : act.Known s) : Regular (act.run s).2 := by
  have outlined : ∀ {t : Scene}, SameUpTo View.outline s t → Regular t := regular_same_outline regular
  cases act with
  | construct options => exact construct_regular regular options known
  | addSubview p child =>
      rcases add_subview_scene (s := s) p child with same | ⟨c, joined, attached⟩
      · rw [Act.run, silent, same]
        exact regular
      · rw [Act.run, silent, attached]
        exact attach_regular regular p c known.1 (known.2 c joined)
  | detach v => exact (detach_loosened regular v).regular
  | assign v accessor value => exact outlined (assign_outline v accessor value)
  | activate relationships sink config => exact outlined (activate_outline relationships sink config)
  | within length low high sink => exact outlined (within_outline length low high sink)
  | submit pending sink => exact outlined (submit_outline pending sink)
  | register sink record anchor =>
      exact changed_keeps regular _ fun _ done => outlined (register_outline sink record anchor done)
  | addConstraint v record =>
      exact changed_keeps regular _ fun _ done => outlined (add_constraint_outline v record done)
  | removeConstraint v record =>
      exact changed_keeps regular _ fun _ done => outlined (remove_constraint_outline v record done)
  | setPriority _ _ _ _ | sendPriority _ _ _ _ _ | resist _ _ _ _ | setField _ _ _ | makeRecording | clear _ | keep _ =>
      exact regular_same_core regular (apart_core _ known trivial)

theorem regular_of_reached (reached : Reached Act.Known s) : Regular s := by
  induction reached with
  | empty => exact regular_empty
  | step s act _ known ih => exact run_regular ih act known

/-- A view is listed by its parent once and by no other view, no view is inside itself, its ancestors lead from it up to a
view without a parent, and a walk through it comes to an end. -/
theorem reached_forest (s : Scene) (reached : Reached Act.Known s) :
    (∀ c p, (s.children p).count c = if s.parent c = some p then 1 else 0) ∧
      (∀ v, ¬ Relation.TransGen (fun c p => s.parent c = some p) v v) ∧
      (∀ v, Chain s v (s.ancestors v)) ∧
      ∀ v, v < s.views.length → ∃ below, s.walk v = .ok below := by
  have forest := (regular_of_reached reached).forest
  exact ⟨forest.listed, forest_acyclic forest, ancestors_chain forest, walk_ends forest⟩

-- Three views, one inside the other, of which the last was moved up and the first was refused a place inside it.
def rearranged : Scene :=
  [.construct {}, .construct { parent := .view 0 }, .construct { parent := .view 1 }, .addSubview 0 (.view 2),
    .addSubview 2 (.view 0)].foldl (fun s act => (Act.run s act).2) .empty

theorem rearranged_forest :
    Reached Act.Known rearranged ∧ rearranged.children 0 = [1, 2] ∧ (rearranged.children 0).count 2 = 1 ∧
      ¬ Relation.TransGen (fun c p => rearranged.parent c = some p) 0 0 ∧
      Chain rearranged 2 (rearranged.ancestors 2) ∧ ∃ below, rearranged.walk 0 = .ok below := by
  have reached : Reached Act.Known rearranged := by
    refine .step _ (.addSubview 2 (.view 0)) (.step _ (.addSubview 0 (.view 2))
      (.step _ (.construct { parent := .view 1 }) (.step _ (.construct { parent := .view 0 })
        (.step _ (.construct {}) .empty ?_) ?_) ?_) ⟨by decide, ?_⟩) ⟨by decide, ?_⟩
    · rintro p ⟨⟩
    all_goals
      rintro p ⟨⟩
      decide
  obtain ⟨listed, acyclic, rooted, ends⟩ := reached_forest rearranged reached
  exact ⟨reached, rfl, listed 2 0, acyclic 0, rooted 2, ends 0 (by decide)⟩

end Scene

end LayoutAlgebra
