import LayoutAlgebra.Value.Cells
import LayoutAlgebra.Value.Equality
set_option autoImplicit false

/-!
What references stand for: the names of views, the items of the lists that views keep, the content of recordings. Truth,
equality and walking through a value look behind references, and so they are asked of a value in its surroundings.
-/
namespace LayoutAlgebra

inductive Resistance where
  | compression
  | expansion
deriving DecidableEq

structure Recording where
  -- The records with their anchors, the latest first.
  latest : List (Value × Value)
  compression : Table
  expansion : Table

namespace Recording

def empty : Recording := ⟨[], [], []⟩

def registrations (r : Recording) : List (Value × Value) := r.latest.reverse

def isFilled (r : Recording) : Bool := !r.latest.isEmpty

def priorities (r : Recording) : Resistance → Table
  | .compression => r.compression
  | .expansion => r.expansion

def setPriority (r : Recording) (which : Resistance) (key priority : Value) : Recording :=
  match which with
  | .compression => { r with compression := r.compression.put key priority }
  | .expansion => { r with expansion := r.expansion.put key priority }

def register (r : Recording) (record anchor : Value) : Recording :=
  { r with latest := (record, anchor) :: r.latest }

@[simp] theorem registrations_register (r : Recording) (record anchor : Value) :
    (r.register record anchor).registrations = r.registrations ++ [(record, anchor)] := by
  simp [register, registrations]

def records (r : Recording) : List Value := r.registrations.map Prod.fst

def mapValues (f : Value → Value) (r : Recording) : Recording :=
  { latest := r.latest.map fun (record, anchor) => (f record, f anchor),
    compression := r.compression.mapValues f, expansion := r.expansion.mapValues f }

def recordsOn (r : Recording) (anchor : Value) : List Value :=
  (r.registrations.filter fun entry => entry.2.identical anchor).map Prod.fst

def fields (r : Recording) : List (String × Value) :=
  [("registrations", .ofList (r.registrations.map fun (record, anchor) => .tuple .new [record, anchor])),
    ("compression", .dict .new r.compression), ("expansion", .dict .new r.expansion)]

end Recording

structure Surroundings where
  viewName : ViewId → Value
  listed : SharedList → List Value
  recording : RecordingId → Recording

namespace Surroundings

-- How many references behind one another are followed; what leads further has no end.
def depth : Nat := 1000

def opened (around : Surroundings) : Value → Value
  | .shared l => .ofList (around.listed l)
  | v => v

def betweenCells {α : Type} (around : Surroundings) (purpose : Purpose) (ask : Cells Value → Cells Value → Fallible α)
    (a b : Value) : Option (Fallible α) :=
  match around.opened a, around.opened b with
  | .array _ x, .array _ y => some (ask x y)
  | .array _ x, b => some do ask x (← b.cellsBeside around.opened purpose x.kind)
  | a, .array _ y => some do ask (← a.cellsBeside around.opened purpose y.kind) y
  | _, _ => none

def settled (g : Grid Bool) : Fallible Bool :=
  match g.only? with
  | some b => .ok b
  | none => .error .wrongContent

-- Two recordings are equal by what they hold, two lists by their items, whoever keeps them, and arrays place by place.
def follow (around : Surroundings) : Nat → Value → Value → Fallible Bool
  | 0, _, _ => .error .endless
  | depth + 1, a, b =>
    match around.betweenCells .comparison (Cells.agree fun v w => v.agree (around.follow depth) w) a b with
    | some places => do settled (← places)
    | none =>
      match around.opened a, around.opened b with
      | .recording j, .recording k =>
        Value.agreeItems (around.follow depth) ((around.recording j).fields.map Prod.snd)
          ((around.recording k).fields.map Prod.snd)
      | .list _ xs, .list _ ys =>
        if xs.length = ys.length then Value.agreeItems (around.follow depth) xs ys else .ok false
      | _, _ => .ok false

def equalPlaces? (around : Surroundings) (a b : Value) : Option (Fallible (Grid Bool)) :=
  around.betweenCells .comparison (Cells.agree fun v w => v.agree (around.follow depth) w) a b

def equal (around : Surroundings) (a b : Value) : Fallible Bool := a.agree (around.follow depth) b

def same (around : Surroundings) (a b : Value) : Fallible Bool := Value.orIdentical a b (around.equal a b)

def truthOfOne (around : Surroundings) (v : Value) : Fallible Bool :=
  match around.opened v with
  | .none => .ok false
  | .bool b => .ok b
  | .number _ n => .ok !n.isZero
  | .text _ s => .ok !s.isEmpty
  | .tuple _ items | .list _ items => .ok !items.isEmpty
  | .dict _ entries => .ok !entries.isEmpty
  | .recording k => .ok (around.recording k).isFilled
  | .relationship _ _ => .error .noTruth
  | _ => .ok true

def truth (around : Surroundings) : Value → Fallible Bool
  | .array _ cells => do around.truthOfOne (← Value.onlyEntry cells)
  | v => around.truthOfOne v

def items (around : Surroundings) (v : Value) : Fallible (List Value) :=
  match around.opened v with
  | .tuple _ items | .list _ items => .ok items
  | .array _ cells => .ok (Value.along cells)
  | .text _ s => .ok (s.toList.map fun c => .ofText c.toString)
  | .dict _ entries => .ok (entries.map Prod.fst)
  | _ => .error .wrongType

end Surroundings

end LayoutAlgebra
