import LayoutAlgebra.Accessor
import LayoutAlgebra.Scene.Tree
set_option autoImplicit false

namespace LayoutAlgebra.Script

def fieldsOf : Value → List (String × Value)
  | .linear _ e =>
    [("element", e.element), ("attribute", e.attr), ("constant", e.constant), ("multiplier", e.multiplier),
      ("priority", e.priority), ("kind", .standingText e.kind.tag), ("has_element", .bool e.hasElement)]
  | .edges _ e => [("element", e.element), ("insets", e.insets), ("uses_margins", e.usesMargins)]
  | .center _ e => [("element", e.element), ("offset", e.offset)]
  | .elementAxis _ a => [("element", a.element), ("axis", a.axis)]
  | .relationship _ r => [("lhs", r.lhs), ("rhs", r.rhs), ("relation", r.relation)]
  | .record _ r =>
    [("subject", r.subject), ("subject_attribute", r.subjectAttribute), ("relation", r.relation), ("object", r.object),
      ("object_attribute", r.objectAttribute), ("multiplier", r.multiplier), ("constant", r.constant),
      ("priority", r.priority)]
  | .pending _ p => [("record", p.record), ("anchor", p.anchor)]
  | .offset _ o => [("horizontal", o.horizontal), ("vertical", o.vertical)]
  | .insets _ i => [("top", i.top), ("left", i.left), ("bottom", i.bottom), ("right", i.right)]
  | .frame mark f =>
    [("x", f.x), ("y", f.y), ("width", f.width), ("height", f.height), ("margins", f.margins),
      ("value", .reader (.frame mark f))]
  | .config _ c =>
    [("default_priority", c.defaultPriority), ("min_priority", c.minPriority), ("max_priority", c.maxPriority),
      ("default_compression_resistance", c.defaultCompression),
      ("default_expansion_resistance", c.defaultExpansion), ("default_margin", c.defaultMargin)]
  | .compiler _ config => [("config", config)]
  | .member m =>
    [("name", .standingText m.name), ("value", .standingText m.text)] ++
      match m with
      | .attr a => [("is_dimension", .bool a.isDimension), ("is_position", .bool a.isPosition)]
      | .relation _ | .axis _ => []
  | .accessor a =>
    match a with
    | .line attr | .length attr => [("attribute", .attr attr)]
    | .edges usesMargins => [("uses_margins", .bool usesMargins)]
    | .middle | .ratio => []
  | _ => []

def optionalView : Option ViewId → Value
  | some v => .view v
  | none => .none

def viewFields (s : Scene) (v : ViewId) : List (String × Value) :=
  [("parent", optionalView (s.parent v)), ("children", s.childList v), ("constraints", s.constraintList v),
    ("layout_margins", s.layoutMargins v), ("config", s.config v),
    ("name", s.name v), ("sink", s.sink v), ("x", .elementAxis .new ⟨.view v, .axis .horizontal⟩),
    ("y", .elementAxis .new ⟨.view v, .axis .vertical⟩)]

def recordingFields (r : Recording) : List (String × Value) := ("records", .ofList r.records) :: r.fields

def property (s : Scene) (v : Value) (name : String) : Fallible Value :=
  let fields : List (String × Value) := match v with
    | .view id => (Accessor.named.map fun entry => (entry.1, entry.2.read v)) ++ viewFields s id
    | .recording k => recordingFields (s.recording k)
    | v => fieldsOf v
  match v, fields.find? fun field => field.1 = name with
  | _, some (_, content) => .ok content
  | .linear _ e, none =>
    if name = "is_identity" then do return (← e.isIdentity s.surroundings).toValue else .error .noMember
  | v, none =>
    match s.added? v name with
    | some content => .ok content
    | none => .error .noMember

def configWith? (c : Config Value) (name : String) (v : Value) : Option (Config Value) :=
  match name with
  | "default_priority" => some { c with defaultPriority := v }
  | "min_priority" => some { c with minPriority := v }
  | "max_priority" => some { c with maxPriority := v }
  | "default_compression_resistance" => some { c with defaultCompression := v }
  | "default_expansion_resistance" => some { c with defaultExpansion := v }
  | "default_margin" => some { c with defaultMargin := v }
  | _ => none

def setViewField (s : Scene) (id : ViewId) (name : String) (v : Value) : Fallible Scene :=
  match name with
  | "parent" | "x" | "y" => .error .noMember
  | "children" => .ok (s.setChildren id v)
  | "constraints" => .ok (s.setConstraints id v)
  | "layout_margins" => .ok (s.modify id fun view => { view with layoutMargins := v })
  | "config" => .ok (s.modify id fun view => { view with config := v })
  | "name" => .ok (s.modify id fun view => { view with name := v })
  | "sink" => .ok (s.modify id fun view => { view with sink := v })
  | name => .ok (s.addProperty (.view id) name v)

-- Sets a property of a recording. Its records follow from its registrations, which are pairs of a record and an anchor.
def setRecordingField (s : Scene) (k : RecordingId) (name : String) (v : Value) : Fallible Scene :=
  let around := s.surroundings
  match name, v with
  | "records", _ => .error .noMember
  | "registrations", v => do
    let registrations ← (← around.items v).mapM fun pair => do
      match ← around.items pair with
      | [record, anchor] => return (record, anchor)
      | _ => throw .wrongContent
    return s.modifyRecording k fun r => { r with latest := registrations.reverse }
  | "compression", .dict _ compression => .ok (s.modifyRecording k fun r => { r with compression })
  | "expansion", .dict _ expansion => .ok (s.modifyRecording k fun r => { r with expansion })
  | name, v => .ok (s.addProperty (.recording k) name v)

def setField (s : Scene) (target : Value) (name : String) (v : Value) : Fallible Scene :=
  match target with
  | .view id => setViewField s id name v
  | .recording k => setRecordingField s k name v
  | .config mark c =>
    match configWith? c name v with
    | some changed => .ok (s.renew (.config mark c) (.config mark changed))
    | none => .ok (s.addProperty (.config mark c) name v)
  | .compiler serial config =>
    if name = "config" then .ok (s.renew (.compiler serial config) (.compiler serial v))
    else .ok (s.addProperty (.compiler serial config) name v)
  | .hierarchy serial => .ok (s.addProperty (.hierarchy serial) name v)
  | _ => .error .noMember

def setProperty (s : Scene) (target : Value) (name : String) (v : Value) : Outcome Value :=
  match target, Accessor.ofName? name with
  | .view id, some accessor =>
    let done := s.assign id accessor v
    { done with result := done.result.map fun _ => .none }
  | target, _ =>
    match setField s target name v with
    | .ok after => ⟨.ok .none, after, []⟩
    | .error failure => ⟨.error failure, s, []⟩

end LayoutAlgebra.Script
