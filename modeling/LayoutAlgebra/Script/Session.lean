import LayoutAlgebra.Accessor
import LayoutAlgebra.Register
set_option autoImplicit false

namespace LayoutAlgebra.Script

structure Session where
  scene : Scene
  events : History
  bindings : List (String × Value)
  viewLabels : List String
  recordingLabels : List String

namespace Session

def empty : Session := ⟨.empty, [], [], [], []⟩

def bind (s : Session) (name : String) (v : Value) : Session := { s with bindings := (name, v) :: s.bindings }

def find? (s : Session) (name : String) : Option Value :=
  (s.bindings.find? fun binding => binding.1 = name).map Prod.snd

end Session

abbrev Run := ExceptT Failure (StateM Session)

namespace Run

def of {α : Type} (result : Fallible α) : Run α := fun session => (result, session)

def ask {α : Type} (f : Scene → Fallible α) : Run α := fun session => (f session.scene, session)

def seen {α : Type} (f : Surroundings → Fallible α) : Run α := ask fun s => f s.surroundings

def logged {α : Type} (f : Scene → Logged α) : Run α := fun session =>
  let done := f session.scene
  (done.result, { session with events := session.events ++ done.history session.scene })

def outcome {α : Type} (f : Scene → Outcome α) : Run α := fun session =>
  let done := f session.scene
  (done.result, { session with scene := done.scene, events := session.events ++ done.events })

def change {α : Type} (f : Scene → Fallible α × Scene) : Run α := fun session =>
  let done := f session.scene
  (done.1, { session with scene := done.2 })

def update (f : Scene → Fallible Scene) : Run Value := fun session =>
  match f session.scene with
  | .ok scene => (.ok .none, { session with scene })
  | .error failure => (.error failure, session)

def lookup (name : String) : Run Value := fun session =>
  match session.find? name with
  | some v => (.ok v, session)
  | none => (.error .unbound, session)

def assign (name : String) (v : Value) : Run Value := fun session => (.ok v, session.bind name v)

def current (items : List Value) : Run (List Value) := fun session => (.ok (items.map session.scene.current), session)

def keep (v : Value) : Run Value := fun session =>
  let (kept, scene) := session.scene.keep (session.scene.current v)
  (.ok kept, { session with scene })

def fresh : Run Nat := fun session =>
  let serial := session.scene.serial + 1
  (.ok serial, { session with scene := { session.scene with serial } })

end Run

abbrev Procedure := List Value → Run Value

namespace Procedure

def nullary (f : Run Value) : Procedure
  | [] => f
  | _ => throw .wrongType

def unary (f : Value → Run Value) : Procedure
  | [a] => f a
  | _ => throw .wrongType

def binary (f : Value → Value → Run Value) : Procedure
  | [a, b] => f a b
  | _ => throw .wrongType

def ternary (f : Value → Value → Value → Run Value) : Procedure
  | [a, b, c] => f a b c
  | _ => throw .wrongType

def unaryOr (default : Value) (f : Value → Run Value) : Procedure
  | [] => f default
  | [a] => f a
  | _ => throw .wrongType

def binaryOr (default : Value) (f : Value → Value → Run Value) : Procedure
  | [a] => f a default
  | [a, b] => f a b
  | _ => throw .wrongType

def ternaryOr (default : Value) (f : Value → Value → Value → Run Value) : Procedure
  | [a, b] => f a b default
  | [a, b, c] => f a b c
  | _ => throw .wrongType

end Procedure

def pendingList (pending : List (Pending Value)) : Value := .ofList (pending.map (.pending .new))

def viewList (views : List ViewId) : Value := .ofList (views.map .view)

def relationshipList (relationships : List (Relationship Value)) : Value :=
  .ofList (relationships.map (.relationship .new))

-- The items of a batch of records; what counts as false is an empty batch.
def batchOf (around : Surroundings) (v : Value) : Fallible (List Value) := do
  if ← around.truth v then around.items v else return []

end LayoutAlgebra.Script
