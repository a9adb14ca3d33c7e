import LayoutAlgebra.Accessor
import LayoutAlgebra.Proofs.Aspect
import LayoutAlgebra.Proofs.Results
set_option autoImplicit false

namespace LayoutAlgebra

def Outcome.silent {α : Type} (done : Outcome α) : Fallible Unit × Scene := (done.result.map fun _ => (), done.scene)

namespace Scene

variable {s t : Scene}

theorem add_constraint_cases (v : ViewId) (record : Value) (added : s.addConstraint v record = .ok t) :
    (s.givenConstraints v = none ∧ t = s.modify v fun view => view.addConstraint record) ∨
      ∃ k, t = s.modifyList k (· ++ [record]) := by
  unfold addConstraint at added
  split at added
  · rename_i bare
    exact .inl ⟨bare, (Except.ok.inj added).symm⟩
  · unfold appendGiven at added
    split at added
    · exact .inr ⟨_, (Except.ok.inj added).symm⟩
    · simp at added

theorem remove_constraint_cases (v : ViewId) (record : Value) (removed : s.removeConstraint v record = .ok t) :
    ∃ i, t = (s.modify v fun view => view.eraseConstraint i) ∨ ∃ k, t = s.modifyList k (·.eraseIdx i) := by
  unfold removeConstraint at removed
  split at removed
  · obtain ⟨position, _, removed⟩ := (Fallible.bind_ok_iff _ _ _).mp removed
    split at removed
    · exact ⟨_, .inl (Except.ok.inj removed).symm⟩
    · simp at removed
  · unfold removeGiven at removed
    split at removed
    · obtain ⟨position, _, removed⟩ := (Fallible.bind_ok_iff _ _ _).mp removed
      split at removed
      · exact ⟨_, .inr ⟨_, (Except.ok.inj removed).symm⟩⟩
      · simp at removed
    · simp at removed

theorem register_cases (sink record anchor : Value) (registered : s.register sink record anchor = .ok t) :
    (∃ n h, sink = .hierarchy n ∧ anchor = .view h ∧ s.addConstraint h record = .ok t) ∨
      ∃ k, sink = .recording k ∧ t = s.modifyRecording k (·.register record anchor) := by
  unfold register at registered
  split at registered
  · split at registered
    · exact .inl ⟨_, _, rfl, rfl, registered⟩
    · simp at registered
  · exact .inr ⟨_, rfl, (Except.ok.inj registered).symm⟩
  · simp at registered

theorem add_constraint_outline (v : ViewId) (record : Value) (added : s.addConstraint v record = .ok t) :
    SameUpTo View.outline s t := by
  rcases add_constraint_cases v record added with ⟨_, rfl⟩ | ⟨k, rfl⟩
  · exact modify_same_up_to v _ fun _ _ => rfl
  · exact same_up_to_of_views rfl

theorem remove_constraint_outline (v : ViewId) (record : Value) (removed : s.removeConstraint v record = .ok t) :
    SameUpTo View.outline s t := by
  obtain ⟨i, rfl | ⟨k, rfl⟩⟩ := remove_constraint_cases v record removed
  · exact modify_same_up_to v _ fun _ _ => rfl
  · exact same_up_to_of_views rfl

theorem register_outline (sink record anchor : Value) (registered : s.register sink record anchor = .ok t) :
    SameUpTo View.outline s t := by
  rcases register_cases sink record anchor registered with ⟨_, h, _, _, added⟩ | ⟨k, _, rfl⟩
  · exact add_constraint_outline h record added
  · exact same_up_to_of_views rfl

structure Persists (property : Scene → Prop) : Prop where
  registered : ∀ s t sink record anchor, property s → s.register sink record anchor = .ok t → property t
  counted : ∀ s serial, property s → property { s with serial }

variable {property : Scene → Prop}

theorem register_all_persists (persists : Persists property) (sink : Value) (items : List Value) (before : property s) :
    property (s.registerAll sink items).2 := by
  induction items generalizing s with
  | nil => exact before
  | cons item rest ih =>
      unfold registerAll
      split
      · rename_i same
        exact absurd same (List.cons_ne_nil item rest)
      · rename_i mark p tail same
        obtain ⟨rfl, rfl⟩ := List.cons.inj same
        split
        · exact before
        · rename_i t registered
          exact ih (persists.registered s t sink p.record p.anchor before registered)
      · exact before

theorem submit_items_silent (sink : Value) (items : List Value) :
    (s.submitItems sink items).silent = s.registerAll (sinkOrViews sink) items := by
  unfold submitItems
  generalize s.registerAll (sinkOrViews sink) items = registered
  obtain ⟨done, after⟩ := registered
  cases done <;> rfl

theorem submit_items_scene (sink : Value) (items : List Value) :
    (s.submitItems sink items).scene = (s.registerAll (sinkOrViews sink) items).2 :=
  congrArg Prod.snd (submit_items_silent sink items)

theorem submit_persists (persists : Persists property) (items sink : Value) (before : property s) :
    property (s.submit items sink).scene := by
  unfold submit
  split
  · rw [submit_items_scene]
    exact register_all_persists persists _ _ before
  · exact before

def keptPending (s : Scene) (pending : List (Pending Value)) : List Value :=
  (s.keepAll (pending.map (.pending .new))).1

def counted (s : Scene) (pending : List (Pending Value)) : Scene := (s.keepAll (pending.map (.pending .new))).2

theorem submit_compiled_silent (sink : Value) (compiled : Logged (List (Pending Value))) :
    (s.submitCompiled sink compiled).silent =
      match compiled.result with
      | .error failure => (.error failure, s)
      | .ok pending => (s.counted pending).registerAll (sinkOrViews sink) (s.keptPending pending) := by
  unfold submitCompiled
  cases compiled.result with
  | error failure => rfl
  | ok pending => exact submit_items_silent sink (s.keptPending pending)

theorem submit_compiled_scene (sink : Value) (compiled : Logged (List (Pending Value))) :
    (s.submitCompiled sink compiled).scene =
      match compiled.result with
      | .error _ => s
      | .ok pending => ((s.counted pending).registerAll (sinkOrViews sink) (s.keptPending pending)).2 := by
  unfold submitCompiled
  cases compiled.result with
  | error failure => rfl
  | ok pending => exact submit_items_scene sink _

theorem submit_compiled_persists (persists : Persists property) (sink : Value)
    (compiled : Logged (List (Pending Value))) (before : property s) :
    property (s.submitCompiled sink compiled).scene := by
  rw [submit_compiled_scene]
  cases compiled.result with
  | error failure => exact before
  | ok pending => exact register_all_persists persists _ _ (persists.counted s _ before)

theorem activate_persists (persists : Persists property) (relationships : List Value) (sink config : Value)
    (before : property s) : property (s.activate relationships sink config).scene := by
  unfold activate
  split
  · exact before
  · exact submit_compiled_persists persists _ _ before

theorem within_persists (persists : Persists property) (length low high sink : Value) (before : property s) :
    property (s.within length low high sink).scene := by
  unfold within
  simp only
  split
  · exact before
  · exact activate_persists persists _ _ _ before

theorem outline_persists (s : Scene) : Persists (SameUpTo View.outline s) where
  registered _ _ sink record anchor before registered :=
    same_up_to_trans before (register_outline sink record anchor registered)
  counted _ _ before := before

theorem submit_outline (items sink : Value) : SameUpTo View.outline s (s.submit items sink).scene :=
  submit_persists (outline_persists s) items sink (same_up_to_refl s)

theorem submit_compiled_outline (sink : Value) (compiled : Logged (List (Pending Value))) :
    SameUpTo View.outline s (s.submitCompiled sink compiled).scene :=
  submit_compiled_persists (outline_persists s) sink compiled (same_up_to_refl s)

theorem assign_outline (v : ViewId) (accessor : Accessor) (value : Value) :
    SameUpTo View.outline s (s.assign v accessor value).scene :=
  submit_compiled_outline _ _

theorem activate_outline (relationships : List Value) (sink config : Value) :
    SameUpTo View.outline s (s.activate relationships sink config).scene :=
  activate_persists (outline_persists s) relationships sink config (same_up_to_refl s)

theorem within_outline (length low high sink : Value) :
    SameUpTo View.outline s (s.within length low high sink).scene :=
  within_persists (outline_persists s) length low high sink (same_up_to_refl s)

theorem added_constraints (v h : ViewId) (record item : Value)
    (member : item ∈ (s.modify v fun view => view.addConstraint record).constraints h) :
    item ∈ s.constraints h ∨ (h = v ∧ item = record) := by
  rw [constraints, modify, List.getElem?_modify] at member
  by_cases here : v = h
  · subst here
    cases found : s.views[v]? with
    | none => simp [found] at member
    | some view => simpa [found, constraints] using member
  · exact .inl (by simpa [here, constraints] using member)

theorem register_constraints (bare : ∀ v, s.givenConstraints v = none) (sink record anchor item : Value)
    (h : ViewId) (registered : s.register sink record anchor = .ok t) (member : item ∈ t.constraints h) :
    item ∈ s.constraints h ∨ (anchor = .view h ∧ item = record) := by
  rcases register_cases sink record anchor registered with ⟨_, v, _, rfl, added⟩ | ⟨k, _, rfl⟩
  · simp only [addConstraint, bare v, Except.ok.injEq] at added
    subst added
    rcases added_constraints v h record item member with before | ⟨here, same⟩
    · exact .inl before
    · exact .inr ⟨by rw [here], same⟩
  · exact .inl member

theorem register_all_constraints (bare : ∀ v, s.givenConstraints v = none) (sink : Value) (items : List Value)
    (h : ViewId) (item : Value) (member : item ∈ (s.registerAll sink items).2.constraints h) :
    item ∈ s.constraints h ∨ ∃ mark p, .pending mark p ∈ items ∧ p.anchor = .view h ∧ p.record = item := by
  induction items generalizing s with
  | nil => exact .inl member
  | cons first rest ih =>
      unfold registerAll at member
      split at member
      · rename_i same
        exact absurd same (List.cons_ne_nil first rest)
      · rename_i mark p tail same
        obtain ⟨rfl, rfl⟩ := List.cons.inj same
        split at member
        · exact .inl member
        · rename_i t registered
          have outline := register_outline sink p.record p.anchor registered
          have bare' := fun v => (given_constraints_same outline (fun _ => rfl) v).trans (bare v)
          -- What is there in the end came with the rest of the batch, or it was there after the first of it.
          rcases ih bare' member with before | ⟨other, q, found, anchored, same⟩
          · rcases register_constraints bare sink p.record p.anchor item h registered before with earlier | ⟨here, new⟩
            · exact .inl earlier
            · exact .inr ⟨mark, p, by simp, here, new.symm⟩
          · exact .inr ⟨other, q, by simp [found], anchored, same⟩
      · exact .inl member

end Scene

end LayoutAlgebra
