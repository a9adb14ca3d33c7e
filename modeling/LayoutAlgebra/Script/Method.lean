import LayoutAlgebra.Frame
import LayoutAlgebra.Script.Property
import LayoutAlgebra.Script.Session
set_option autoImplicit false

namespace LayoutAlgebra.Script

open Procedure

def linearMethods (target : Value) (e : Expression) : List (String × Procedure) :=
  [("plus", unary fun amount => do return .linear .new (← Run.seen fun around => e.plus around amount)),
    ("minus", unary fun amount => do return .linear .new (← Run.seen fun around => e.minus around amount)),
    ("scaled_by", unary fun factor => Run.of (target.withScale factor)),
    ("divided_by", unary fun divisor => Run.seen fun around => around.withInverseScale target divisor),
    ("with_priority", unary fun priority => Run.of (target.withPriority priority)),
    ("coerce", unary fun other => do return (← Run.of (e.coerce other)).getD .none),
    ("equal_to", unary fun other => do return .relationship .new (← Run.of (target.equalTo other)))]

def lengthMethods (target : Value) : List (String × Procedure) :=
  [("literal", unary fun v => do return .linear .new (← Run.of (Linear.literal v))),
    ("as_range", binary fun low high => do
      return relationshipList (← Run.seen fun around => around.range target low high)),
    ("within", ternaryOr .none fun low high sink => do
      return .ofList (← Run.outcome fun s => s.within target low high sink))]

def axisMethods (a : ElementAxis Value) : List (String × Procedure) :=
  [("resist_compression", binaryOr .none fun priority sink =>
      Run.update fun s => s.resist a .compression priority sink),
    ("resist_expansion", binaryOr .none fun priority sink =>
      Run.update fun s => s.resist a .expansion priority sink)]

def viewMethods (v : ViewId) : List (String × Procedure) :=
  [("add_subview", unary fun child => Run.change fun s => s.addSubview v child),
    ("remove_from_parent", nullary do
      Run.change fun s => s.detach v
      return .none),
    ("constrain", unary fun pending => do
      return .ofList (← Run.outcome fun s => s.submit pending (s.sink v))),
    ("add_constraint", unary fun record => Run.update fun s => s.addConstraint v record),
    ("remove_constraint", unary fun record => Run.update fun s => s.removeConstraint v record),
    ("set_compression_resistance", binary fun axis priority =>
      Run.update fun s => s.setViewPriority v .compression axis priority),
    ("set_expansion_resistance", binary fun axis priority =>
      Run.update fun s => s.setViewPriority v .expansion axis priority),
    ("compression_resistance", unary fun axis => Run.ask fun s => s.viewPriority v .compression axis),
    ("expansion_resistance", unary fun axis => Run.ask fun s => s.viewPriority v .expansion axis),
    ("walk", nullary (Run.ask fun s => do return viewList (← s.walk v)))]

def sinkMethods (sink : Value) : List (String × Procedure) :=
  [("register", binary fun record anchor => Run.update fun s => s.register sink record anchor),
    ("set_compression_resistance", ternary fun element axis priority =>
      Run.update fun s => s.sendPriority sink .compression element axis priority),
    ("set_expansion_resistance", ternary fun element axis priority =>
      Run.update fun s => s.sendPriority sink .expansion element axis priority)]

def recordingMethods (k : RecordingId) : List (String × Procedure) :=
  [("records_on", unary fun anchor => Run.ask fun s => .ok (.ofList ((s.recording k).recordsOn anchor))),
    ("clear", nullary (Run.update fun s => .ok (s.modifyRecording k fun _ => .empty)))]

def compilerMethods (config : Value) : List (String × Procedure) :=
  [("compile", unary fun relationship => do return pendingList (← Run.logged fun s => s.compile config relationship)),
    ("compile_all", unary fun relationships => do
      let items ← Run.seen fun around => around.items relationships
      return pendingList (← Run.logged fun s => s.compileAll config items)),
    ("compile_edges", ternaryOr (.bool false) fun element edges onMargins => do
      return pendingList (← Run.logged fun s => s.compileEdges config element edges onMargins)),
    ("compile_center", binary fun element center => do
      return pendingList (← Run.logged fun s => s.compileCenter config element center))]

def insetsOfOffset : Value → Fallible Value
  | .offset _ o => .ok (.insets .new (Value.insetsOf o))
  | _ => .error .noMember

def uniformOffset (v : Value) : Fallible Value := do return .offset .new (← v.uniformOffset)

def uniformInsets (v : Value) : Fallible Value := do return .insets .new (← v.uniformInsets)

def methodsOf (target : Value) : List (String × Procedure) :=
  match target with
  | .linear _ e => linearMethods target e ++ (if e.kind = .length then lengthMethods target else [])
  | .edges _ e => [("offset_by", unary fun amount => do return .edges .new (← Run.of (e.offsetBy amount)))]
  | .center _ e => [("offset_by", unary fun amount => do return .center .new (← Run.of (e.offsetBy amount)))]
  | .elementAxis _ a => axisMethods a
  | .view v => viewMethods v
  | .recording k => sinkMethods (.recording k) ++ recordingMethods k
  | .hierarchy serial => sinkMethods (.hierarchy serial)
  | .config _ c =>
    [("check_priority", binaryOr (.ofText "priority") fun v what =>
      Run.seen fun around => c.checkPriority around v what)]
  | .compiler _ config => compilerMethods config
  | .frame _ f => [("value", unary fun attr => Run.seen fun around => f.value around attr)]
  | .attr a => [("with_margin", nullary (return .attr a.withMargin))]
  | .relation r => [("mirrored", nullary (return .relation r.mirrored))]
  | .offset _ _ => [("uniform", unary fun v => Run.of (uniformOffset v))]
  | .insets _ _ =>
    [("uniform", unary fun v => Run.of (uniformInsets v)), ("from_offset", unary fun o => Run.of (insetsOfOffset o))]
  | _ => []

-- Calls a method by its name. A value that has no such method does not look at the arguments, and a property that is no
-- method cannot be called.
def callMethod (target : Value) (name : String) : Procedure := fun args =>
  match (methodsOf target).find? fun method => method.1 = name with
  | some (_, method) => method args
  | none => do
    let _ ← Run.ask fun s => property s target name
    throw .wrongType

end LayoutAlgebra.Script
