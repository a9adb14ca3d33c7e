import LayoutAlgebra.Expression
import LayoutAlgebra.Show.Record
import LayoutAlgebra.Value.Identity
set_option autoImplicit false

/-!
A scene: views in a forest and recordings, numbered as they were made. The parent of a view and the children of its parent
say the same thing twice. The scene also counts the objects that were kept, so that every kept value can be told apart, and
knows what became of the objects that a script changed.
-/
namespace LayoutAlgebra

structure View where
  name : Value
  parent : Option ViewId
  children : List ViewId
  -- The constraints, the latest first.
  latest : List Value
  -- The lists of constraints that were replaced, the oldest first.
  former : List (List Value)
  sink : Value
  config : Value
  layoutMargins : Value
  compression : Table
  expansion : Table
  givenChildren : Option Value
  givenConstraints : Option Value

namespace View

def constraints (view : View) : List Value := view.latest.reverse

def addConstraint (view : View) (record : Value) : View := { view with latest := record :: view.latest }

def eraseConstraint (view : View) (i : Nat) : View :=
  { view with latest := (view.constraints.eraseIdx i).reverse }

def edition (view : View) (n : Nat) : List Value := view.former[n]?.getD view.constraints

def replaceConstraints (view : View) (constraints : List Value) : View :=
  { view with
    latest := constraints.reverse, former := view.former ++ [view.constraints], givenConstraints := none }

@[simp] theorem constraints_addConstraint (view : View) (record : Value) :
    (view.addConstraint record).constraints = view.constraints ++ [record] := by
  simp [addConstraint, constraints]

@[simp] theorem constraints_eraseConstraint (view : View) (i : Nat) :
    (view.eraseConstraint i).constraints = view.constraints.eraseIdx i := by
  simp [eraseConstraint, constraints]

@[simp] theorem constraints_replaceConstraints (view : View) (constraints : List Value) :
    (view.replaceConstraints constraints).constraints = constraints := by
  simp [replaceConstraints, View.constraints]

def priorities (view : View) : Resistance → Table
  | .compression => view.compression
  | .expansion => view.expansion

def setPriority (view : View) (which : Resistance) (axis priority : Value) : View :=
  match which with
  | .compression => { view with compression := view.compression.put axis priority }
  | .expansion => { view with expansion := view.expansion.put axis priority }

def mapValues (f : Value → Value) (view : View) : View :=
  { view with
    name := f view.name, latest := view.latest.map f, former := view.former.map (·.map f),
    sink := f view.sink, config := f view.config, layoutMargins := f view.layoutMargins,
    compression := view.compression.mapValues f, expansion := view.expansion.mapValues f,
    givenChildren := view.givenChildren.map f, givenConstraints := view.givenConstraints.map f }

end View

structure Scene where
  views : List View
  recordings : List Recording
  serial : Nat
  lists : List (List Value)
  renewals : List (Value × Value)
  added : List (Value × String × Value)

def Value.standardConfig : Value := .config (.standing "configuration") .default

namespace Scene

def empty : Scene := ⟨[], [], 0, [], [], []⟩

def parent (s : Scene) (v : ViewId) : Option ViewId := s.views[v]?.bind View.parent
def children (s : Scene) (v : ViewId) : List ViewId := (s.views[v]?.map View.children).getD []
def constraints (s : Scene) (v : ViewId) : List Value := (s.views[v]?.map View.constraints).getD []
def name (s : Scene) (v : ViewId) : Value := (s.views[v]?.map View.name).getD .none
def sink (s : Scene) (v : ViewId) : Value := (s.views[v]?.map View.sink).getD .none
def config (s : Scene) (v : ViewId) : Value := (s.views[v]?.map View.config).getD .standardConfig
def layoutMargins (s : Scene) (v : ViewId) : Value := (s.views[v]?.map View.layoutMargins).getD .none
def priorities (s : Scene) (v : ViewId) (which : Resistance) : Table :=
  (s.views[v]?.map (View.priorities · which)).getD []

def givenChildren (s : Scene) (v : ViewId) : Option Value := s.views[v]?.bind View.givenChildren
def givenConstraints (s : Scene) (v : ViewId) : Option Value := s.views[v]?.bind View.givenConstraints

def childList (s : Scene) (v : ViewId) : Value := (s.givenChildren v).getD (.shared (.children v))

def constraintList (s : Scene) (v : ViewId) : Value :=
  (s.givenConstraints v).getD
    (.shared (.constraints v ((s.views[v]?.map fun view => view.former.length).getD 0)))

def listed (s : Scene) : SharedList → List Value
  | .children v => (s.children v).map .view
  | .constraints v n => (s.views[v]?.map (View.edition · n)).getD []
  | .given k => s.lists[k]?.getD []

def recording (s : Scene) (k : RecordingId) : Recording := s.recordings[k]?.getD .empty

def modify (s : Scene) (v : ViewId) (f : View → View) : Scene := { s with views := s.views.modify v f }

def modifyRecording (s : Scene) (k : RecordingId) (f : Recording → Recording) : Scene :=
  { s with recordings := s.recordings.modify k f }

def modifyList (s : Scene) (k : Nat) (f : List Value → List Value) : Scene := { s with lists := s.lists.modify k f }

def surroundings (s : Scene) : Surroundings :=
  { viewName := s.name, listed := s.listed, recording := s.recording }

def childItems (s : Scene) (v : ViewId) : Fallible (List Value) :=
  match s.givenChildren v with
  | none => .ok ((s.children v).map .view)
  | some given => s.surroundings.items given

def constraintItems (s : Scene) (v : ViewId) : Fallible (List Value) :=
  match s.givenConstraints v with
  | none => .ok (s.constraints v)
  | some given => s.surroundings.items given

def current (s : Scene) (v : Value) : Value :=
  if s.renewals.isEmpty then v
  else v.renewed fun part => (s.renewals.find? fun renewal => renewal.1.identical part).map Prod.snd

def keep (s : Scene) (v : Value) : Value × Scene :=
  let kept := v.numbered.run s.serial
  (kept.1, { s with serial := kept.2 })

def keepAll (s : Scene) (items : List Value) : List Value × Scene :=
  let kept := (Value.allNumbered items).run s.serial
  (kept.1, { s with serial := kept.2 })

end Scene

end LayoutAlgebra
