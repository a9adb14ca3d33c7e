import LayoutAlgebra.Compile
set_option autoImplicit false

namespace LayoutAlgebra

structure Outcome (α : Type) where
  result : Fallible α
  scene : Scene
  events : History

def Resistance.label : Resistance → Value
  | .compression => .ofText "compression resistance"
  | .expansion => .ofText "expansion resistance"

namespace Scene

def register (s : Scene) (sink record anchor : Value) : Fallible Scene :=
  match sink with
  | .hierarchy _ =>
    match anchor with
    | .view v => s.addConstraint v record
    | _ => .error .noMember
  | .recording k => .ok (s.modifyRecording k (·.register record anchor))
  | _ => .error .noMember

def registerAll (s : Scene) (sink : Value) : List Value → Fallible Unit × Scene
  | [] => (.ok (), s)
  | .pending _ p :: rest =>
    match s.register sink p.record p.anchor with
    | .error failure => (.error failure, s)
    | .ok s => registerAll s sink rest
  | _ :: _ => (.error .noMember, s)

def sinkOrViews (sink : Value) : Value := if sink.isNone then .hierarchy 0 else sink

def submitItems (s : Scene) (sink : Value) (items : List Value) : Outcome (List Value) :=
  match s.registerAll (sinkOrViews sink) items with
  | (.ok (), after) => ⟨.ok items, after, [(after, .submitted items.length (sinkOrViews sink))]⟩
  | (.error failure, after) => ⟨.error failure, after, []⟩

def submit (s : Scene) (pending sink : Value) : Outcome (List Value) :=
  match s.surroundings.items pending with
  | .ok items => s.submitItems sink items
  | .error failure => ⟨.error failure, s, []⟩

-- Registers what a compilation came to; a compilation that failed registers nothing. What is registered are the objects
-- that the compilation made.
def submitCompiled (s : Scene) (sink : Value) (compiled : Logged (List (Pending Value))) : Outcome (List Value) :=
  match compiled.result with
  | .error failure => ⟨.error failure, s, compiled.history s⟩
  | .ok pending =>
    let (items, counted) := s.keepAll (pending.map (.pending .new))
    let done := counted.submitItems sink items
    { done with events := compiled.history s ++ done.events }

def activate (s : Scene) (relationships : List Value) (sink config : Value) : Outcome (List Value) :=
  match s.configOrStandard config with
  | .error failure => ⟨.error failure, s, []⟩
  | .ok config => s.submitCompiled sink (s.compileAll config relationships)

def compileWith (s : Scene) (config relationship : Value) : Logged (List (Pending Value)) := do
  let config ← Logged.of (s.configOrStandard config)
  s.compile config relationship

def sinkOf (s : Scene) : Value → Value
  | .view v => s.sink v
  | _ => .none

def within (s : Scene) (length low high sink : Value) : Outcome (List Value) :=
  let own := match length with
    | .linear _ e => s.sinkOf e.element
    | _ => .none
  match s.surroundings.range length low high with
  | .error failure => ⟨.error failure, s, []⟩
  | .ok range => s.activate (range.map (.relationship .new)) (if sink.isNone then own else sink) .none

def setViewPriority (s : Scene) (v : ViewId) (which : Resistance) (axis priority : Value) : Fallible Scene := do
  match s.config v with
  | .config _ c =>
    let checked ← c.checkPriority s.surroundings priority which.label
    if axis.isKey then return s.modify v fun view => view.setPriority which axis checked
    else throw .wrongType
  | _ => throw .noMember

def viewPriority (s : Scene) (v : ViewId) (which : Resistance) (axis : Value) : Fallible Value :=
  if axis.isKey then
    match (s.priorities v which).get? axis with
    | some priority => .ok priority
    | none => .error .noKey
  else .error .wrongType

def setRecordedPriority (s : Scene) (k : RecordingId) (which : Resistance) (element axis priority : Value) :
    Fallible Scene :=
  let key := Value.tuple .new [element, axis]
  if key.isKey then .ok (s.modifyRecording k fun r => r.setPriority which key priority) else .error .wrongType

-- Sets the priority of an element through a sink. A view is no such sink, since it sets its own priorities only.
def sendPriority (s : Scene) (target : Value) (which : Resistance) (element axis priority : Value) : Fallible Scene :=
  match target with
  | .hierarchy _ =>
    match element with
    | .view v => s.setViewPriority v which axis priority
    | .recording _ | .hierarchy _ => .error .wrongType
    | _ => .error .noMember
  | .recording k => s.setRecordedPriority k which element axis priority
  | .view _ => .error .wrongType
  | _ => .error .noMember

def resist (s : Scene) (a : ElementAxis Value) (which : Resistance) (priority sink : Value) : Fallible Scene :=
  let own := if sink.isNone then s.sinkOf a.element else sink
  s.sendPriority (sinkOrViews own) which a.element a.axis priority

end Scene

end LayoutAlgebra
