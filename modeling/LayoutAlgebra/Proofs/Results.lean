import LayoutAlgebra.Compile
import Mathlib.Data.List.Forall2
set_option autoImplicit false

namespace LayoutAlgebra

namespace Fallible

variable {α β : Type}

@[simp] theorem pure_eq (a : α) : (pure a : Fallible α) = .ok a := rfl

@[simp] theorem ok_bind (a : α) (next : α → Fallible β) : ((.ok a : Fallible α) >>= next) = next a := rfl

@[simp] theorem error_bind (failure : Failure) (next : α → Fallible β) :
    ((.error failure : Fallible α) >>= next) = .error failure := rfl

theorem bind_ok_iff (first : Fallible α) (next : α → Fallible β) (b : β) :
    (first >>= next) = .ok b ↔ ∃ a, first = .ok a ∧ next a = .ok b := by
  cases first with
  | error failure => simp
  | ok a => simp

theorem map_ok_iff (f : α → β) (first : Fallible α) (b : β) :
    first.map f = .ok b ↔ ∃ a, first = .ok a ∧ f a = b := by
  cases first with
  | error failure => simp [Except.map]
  | ok a => simp [Except.map]

theorem map_error_iff (f : α → β) (first : Fallible α) (failure : Failure) :
    first.map f = .error failure ↔ first = .error failure := by
  cases first with
  | error other => simp [Except.map]
  | ok a => simp [Except.map]

theorem ok_of_is_ok (first : Fallible α) (done : first.isOk = true) : ∃ a, first = .ok a := by
  cases first with
  | error failure => cases done
  | ok a => exact ⟨a, rfl⟩

theorem ok_of_to_option (first : Fallible α) (a : α) (done : first.toOption = some a) : first = .ok a := by
  cases first with
  | error failure => cases done
  | ok b => exact congrArg Except.ok (Option.some.inj done)

theorem mapM_ok_iff (f : α → Fallible β) (xs : List α) (ys : List β) :
    xs.mapM f = .ok ys ↔ List.Forall₂ (fun x y => f x = .ok y) xs ys := by
  induction xs generalizing ys with
  | nil =>
      rw [List.mapM_nil, List.forall₂_nil_left_iff]
      exact ⟨fun same => (Except.ok.inj same).symm, fun same => same ▸ rfl⟩
  | cons x xs ih =>
      simp only [List.mapM_cons, bind_ok_iff, ih, List.forall₂_cons_left_iff, pure_eq, Except.ok.injEq]
      constructor
      · rintro ⟨y, here, ys, rest, rfl⟩
        exact ⟨y, ys, here, rest, rfl⟩
      · rintro ⟨y, ys, here, rest, rfl⟩
        exact ⟨y, here, ys, rest, rfl⟩

theorem mapM_each (f : α → Fallible β) (xs : List α) (ys : List β) (mapped : xs.mapM f = .ok ys) (x : α)
    (member : x ∈ xs) : ∃ y ∈ ys, f x = .ok y := by
  have each := (mapM_ok_iff f xs ys).mp mapped
  induction each with
  | nil => simp at member
  | @cons head y tail ys here rest ih =>
      rcases List.mem_cons.mp member with same | later
      · exact ⟨y, by simp, same ▸ here⟩
      · obtain ⟨z, found, there⟩ := ih ((mapM_ok_iff f tail ys).mpr rest) later
        exact ⟨z, List.mem_cons_of_mem y found, there⟩

theorem mapM_source (f : α → Fallible β) (xs : List α) (ys : List β) (mapped : xs.mapM f = .ok ys) (y : β)
    (member : y ∈ ys) : ∃ x ∈ xs, f x = .ok y := by
  have each := (mapM_ok_iff f xs ys).mp mapped
  induction each with
  | nil => simp at member
  | @cons x head xs tail here rest ih =>
      rcases List.mem_cons.mp member with same | later
      · exact ⟨x, by simp, same ▸ here⟩
      · obtain ⟨z, found, there⟩ := ih ((mapM_ok_iff f xs tail).mpr rest) later
        exact ⟨z, List.mem_cons_of_mem x found, there⟩

theorem mapM_map {γ : Type} (f : β → Fallible γ) (source : α → β) (target : α → γ) (xs : List α)
    (each : ∀ x ∈ xs, f (source x) = .ok (target x)) : (xs.map source).mapM f = .ok (xs.map target) := by
  rw [mapM_ok_iff, List.forall₂_map_left_iff, List.forall₂_map_right_iff, List.forall₂_same]
  exact each

theorem mapM_same (f g : α → Fallible β) (xs : List α) (same : ∀ x ∈ xs, f x = g x) : xs.mapM f = xs.mapM g := by
  induction xs with
  | nil => rfl
  | cons x xs ih =>
      obtain ⟨here, later⟩ := List.forall_mem_cons.mp same
      rw [List.mapM_cons, List.mapM_cons, here, ih later]

-- Where it is known which steps fail, and how, the first one of them decides.
theorem mapM_first (f : α → Fallible β) (fails : α → Bool) (failure : α → Failure) (xs : List α)
    (each : ∀ x ∈ xs, (fails x = true ∧ f x = .error (failure x)) ∨ fails x = false ∧ ∃ y, f x = .ok y) :
    (∃ x, xs.find? fails = some x ∧ xs.mapM f = .error (failure x)) ∨ xs.find? fails = none ∧ ∃ ys, xs.mapM f = .ok ys := by
  induction xs with
  | nil => exact .inr ⟨rfl, [], rfl⟩
  | cons x xs ih =>
      obtain ⟨here, later⟩ := List.forall_mem_cons.mp each
      rw [List.mapM_cons]
      rcases here with ⟨failed, error⟩ | ⟨passed, y, done⟩
      · exact .inl ⟨x, List.find?_cons_of_pos failed, by rw [error, error_bind]⟩
      · rw [List.find?_cons_of_neg (by simp [passed]), done, ok_bind]
        rcases ih later with ⟨z, first, error⟩ | ⟨none, ys, rest⟩
        · exact .inl ⟨z, first, by rw [error, error_bind]⟩
        · exact .inr ⟨none, y :: ys, by rw [rest, ok_bind, pure_eq]⟩

theorem mapM_beside (f : α → Fallible β) (xs : List α) :
    xs.mapM (fun x => do return (x, ← f x)) = xs.mapM f >>= fun ys => .ok (xs.zip ys) := by
  induction xs with
  | nil => rfl
  | cons x xs ih =>
      rw [List.mapM_cons, List.mapM_cons, ih]
      cases f x with
      | error failure => rfl
      | ok y => cases xs.mapM f <;> rfl

theorem mapM_length (f : α → Fallible β) (xs : List α) (ys : List β) (mapped : xs.mapM f = .ok ys) :
    xs.length = ys.length := ((mapM_ok_iff f xs ys).mp mapped).length_eq

theorem mapM_ok (f : α → Fallible β) (xs : List α) (each : ∀ x ∈ xs, ∃ y, f x = .ok y) :
    ∃ ys, xs.mapM f = .ok ys := by
  induction xs with
  | nil => exact ⟨[], rfl⟩
  | cons x xs ih =>
      obtain ⟨y, here⟩ := each x (by simp)
      obtain ⟨ys, rest⟩ := ih fun other member => each other (by simp [member])
      exact ⟨y :: ys, by simp [List.mapM_cons, here, rest]⟩

end Fallible

namespace Logged

variable {α β : Type}

@[simp] theorem of_result (result : Fallible α) : (Logged.of result).result = result := rfl

@[simp] theorem of_events (result : Fallible α) : (Logged.of result).events = [] := rfl

@[simp] theorem pure_result (a : α) : (pure a : Logged α).result = .ok a := rfl

@[simp] theorem pure_events (a : α) : (pure a : Logged α).events = [] := rfl

@[simp] theorem map_result (f : α → β) (logged : Logged α) : (f <$> logged).result = logged.result.map f := rfl

@[simp] theorem map_events (f : α → β) (logged : Logged α) : (f <$> logged).events = logged.events := rfl

@[simp] theorem of_ok_bind (a : α) (next : α → Logged β) : (Logged.of (.ok a) >>= next) = next a := rfl

theorem bind_result (first : Logged α) (next : α → Logged β) :
    (first >>= next).result = first.result >>= fun a => (next a).result := by
  change (Logged.bind first next).result = _
  unfold Logged.bind
  cases first.result with
  | error failure => rfl
  | ok a => rfl

theorem bind_ok_iff (first : Logged α) (next : α → Logged β) (b : β) :
    (first >>= next).result = .ok b ↔ ∃ a, first.result = .ok a ∧ (next a).result = .ok b := by
  rw [bind_result, Fallible.bind_ok_iff]

theorem bind_events (first : Logged α) (next : α → Logged β) (a : α) (done : first.result = .ok a) :
    (first >>= next).events = first.events ++ (next a).events := by
  change (Logged.bind first next).events = _
  unfold Logged.bind
  rw [done]

end Logged

end LayoutAlgebra
