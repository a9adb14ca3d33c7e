import LayoutAlgebra.Report
import LayoutAlgebra.Script.Construct
import LayoutAlgebra.Script.Method
import LayoutAlgebra.Script.Property
set_option autoImplicit false

namespace LayoutAlgebra.Script

open Procedure

def lengthOf (around : Surroundings) (v : Value) : Fallible Nat :=
  match around.opened v with
  | .text _ t => .ok t.length
  | .tuple _ items | .list _ items => .ok items.length
  | .array _ cells => .ok (Value.along cells).length
  | .dict _ entries => .ok entries.length
  | .recording k => .ok (around.recording k).registrations.length
  | _ => .error .wrongType

def itemIn (items : List Value) (position : Value) : Fallible Value :=
  match position.count? with
  | none => .error .wrongType
  | some i =>
    match (Grid.position? items.length i).bind (items[·]?) with
    | some item => .ok item
    | none => .error .noIndex

def itemAt (around : Surroundings) (v position : Value) : Fallible Value :=
  match v with
  | .dict _ entries =>
    if position.isKey then
      match Table.get? entries position with
      | some item => .ok item
      | none => .error .noKey
    else .error .wrongType
  | .array _ cells => do
    match cells.select? (← position.picks around.opened) with
    | some selection => return .ofCells selection
    | none => throw .noIndex
  | v => do itemIn (← around.items v) position

def hasRole (role : String) : Value → Bool
  | .view _ => role = "Element" || role = "AxisPrioritySink"
  | .recording _ | .hierarchy _ => role = "ConstraintSink" || role = "AxisPrioritySink"
  | _ => false

-- The text that a member of an enumeration is asked for by. An array with a single entry asks for what its entry does.
def memberText? : Value → Option String
  | .text _ t => some t
  | .array _ cells =>
    match cells.values.only? with
    | some (.text _ t) => some t
    | _ => none
  | _ => none

def attributeNamed : Value → Fallible Value
  | .attr a => .ok (.attr a)
  | v =>
    match (memberText? v).bind Attribute.ofTag? with
    | some a => .ok (.attr a)
    | none => .error .wrongContent

def relationNamed : Value → Fallible Value
  | .relation r => .ok (.relation r)
  | v =>
    match (memberText? v).bind Relation.ofSign? with
    | some r => .ok (.relation r)
    | none => .error .wrongContent

def axisNamed : Value → Fallible Value
  | .axis a => .ok (.axis a)
  | v =>
    match (memberText? v).bind Axis.ofTag? with
    | some a => .ok (.axis a)
    | none => .error .wrongContent

def accessorNamed : Value → Fallible Value
  | .text _ name =>
    match Accessor.ofName? name with
    | some a => .ok (.accessor a)
    | none => .error .noMember
  | _ => .error .wrongType

def namedEntries : Value → Fallible (List (String × Value))
  | .dict _ entries => entries.mapM fun
    | (.text _ name, v) => .ok (name, v)
    | _ => .error .wrongType
  | _ => .error .wrongType

def frameTable (around : Surroundings) : Value → Fallible Table
  | .dict _ entries => .ok entries
  | frames => do
    (← around.items frames).foldlM (fun table pair => do
      match ← around.items pair with
      | [element, frame] => if element.isKey then return table.put element frame else throw .wrongType
      | _ => throw .wrongContent) []

def recordOf : Value → Fallible Value
  | .pending _ p => .ok p.record
  | _ => .error .noMember

-- The text of a value in full, which is an object of its own except for truth values, however short it is.
def fullText (around : Surroundings) : Value → Fallible Value
  | .bool b => do return .standingText (← around.full (.bool b))
  | v => do return .text .new (← around.full v)

def plainText (around : Surroundings) : Value → Fallible Value
  | .text mark s => .ok (.text mark s)
  | .bool b => fullText around (.bool b)
  | v => do return .text .new (← around.plain v)

def bindings : List (String × Procedure) :=
  [("var", unary fun
      | .text _ name => Run.lookup name
      | _ => throw .unbound),
    ("let", binary fun
      | .text _ name, v => Run.assign name v
      | _, _ => throw .wrongType),
    ("view", binaryOr (.dict .new []) fun label options => do
      let options ← Run.of (do viewOptions (← namedEntries options))
      let v ← Run.change fun s => s.construct options
      match label with
      | .text _ label =>
        modify fun session => { session with viewLabels := session.viewLabels ++ [label] }
        Run.assign label (.view v)
      | _ => return .view v),
    ("sink", unary fun
      | .text _ label => do
        let k := (← get).scene.recordings.length
        modify fun session =>
          { session with
            scene := { session.scene with recordings := session.scene.recordings ++ [.empty] },
            recordingLabels := session.recordingLabels ++ [label] }
        Run.assign label (.recording k)
      | _ => throw .wrongType),
    ("new", binaryOr (.dict .new []) fun shape given => do
      let given ← Run.of (namedEntries given)
      match shape with
      | .text _ name =>
        match Shape.ofName? name with
        | some shape => Run.seen fun around => shape.construct around given
        | none => throw .wrongType
      | _ => throw .wrongType),
    ("compiler", unaryOr .none fun config => do
      let config ← Run.ask fun s => s.configOrStandard config
      return .compiler (← Run.fresh) config),
    ("hierarchy_sink", nullary do return .hierarchy (← Run.fresh))]

def objects : List (String × Procedure) :=
  [("get", binary fun
      | v, .text _ name => Run.ask fun s => property s v name
      | _, _ => throw .wrongType),
    ("set", ternary fun
      | target, .text _ name, v => Run.outcome fun s => setProperty s target name v
      | _, _, _ => throw .wrongType),
    ("call", fun
      | target :: .text _ name :: args => callMethod target name args
      | _ => throw .wrongType),
    ("class_get", unary fun name => Run.of (accessorNamed name)),
    ("attr", unary fun tag => Run.of (attributeNamed tag)),
    ("relation", unary fun sign => Run.of (relationNamed sign)),
    ("axis_named", unary fun tag => Run.of (axisNamed tag)),
    ("accessors", nullary (return .ofList (Accessor.attributes.map fun (attr, name) =>
      .tuple .new [.attr attr, Value.standingText name]))),
    ("isinstance", binary fun
      | v, .text _ role => return .bool (hasRole role v)
      | _, _ => throw .wrongType)]

def comparison (c : Comparison) : Procedure :=
  binary fun a b => do return (← Run.seen fun around => around.compare c a b).toValue

def equality (wanted : Bool) : Procedure :=
  binary fun a b => do return (← Run.seen fun around => around.equality wanted a b).toValue

def operators : List (String × Procedure) :=
  [("add", binary fun a b => Run.seen fun around => around.add a b),
    ("sub", binary fun a b => Run.seen fun around => around.sub a b),
    ("mul", binary fun a b => Run.seen fun around => around.mul a b),
    ("div", binary fun a b => Run.seen fun around => around.div a b),
    ("at", binary fun a b => Run.seen fun around => around.prioritize a b),
    ("le", comparison .le), ("ge", comparison .ge), ("lt", comparison .lt), ("gt", comparison .gt),
    ("eq", equality true), ("ne", equality false),
    ("neg", unary fun v => Run.of v.negated),
    ("bool", unary fun v => Run.seen fun around => do return .bool (← around.truth v)),
    ("len", unary fun v => Run.seen fun around => do return .ofNat (← lengthOf around v)),
    ("chain", ternary fun a b c => do return (← Run.seen fun around => around.chain a b c).toValue)]

def relating (relation : Relation) : Procedure :=
  binary fun lhs rhs => do return .relationship .new (← Run.of (lhs.relate rhs relation))

def resisting (which : Resistance) : Procedure :=
  ternaryOr .none fun axis priority sink =>
    match axis with
    | .elementAxis _ a => Run.update fun s => s.resist a which priority sink
    | _ => throw .noMember

def algebra : List (String × Procedure) :=
  [("literal", unary fun v => do return .linear .new (← Run.of (Linear.literal v))),
    ("with_offset", binary fun v amount => Run.seen fun around => around.withOffset v amount),
    ("with_scale", binary fun v factor => Run.of (v.withScale factor)),
    ("with_inverse_scale", binary fun v divisor => Run.seen fun around => around.withInverseScale v divisor),
    ("with_priority", binary fun v priority => Run.of (v.withPriority priority)),
    ("as_range", ternary fun v low high => do
      return relationshipList (← Run.seen fun around => around.range v low high)),
    ("equal", relating .equal), ("at_most", relating .lessOrEqual), ("at_least", relating .greaterOrEqual),
    ("ratio", binary fun numerator denominator => Run.seen fun around => proportion around numerator denominator),
    ("is_number", unary fun v => return .bool v.scalar?.isSome),
    ("compression_resistance", resisting .compression), ("expansion_resistance", resisting .expansion),
    ("offset_uniform", unary fun v => Run.of (uniformOffset v)),
    ("insets_uniform", unary fun v => Run.of (uniformInsets v)),
    ("insets_from_offset", unary fun o => Run.of (insetsOfOffset o))]

def compileEdges (element edges onMargins config : Value) : Run Value := do
  let config ← Run.ask fun s => s.configOrStandard config
  return pendingList (← Run.logged fun s => s.compileEdges config element edges onMargins)

def activate (relationships sink config : Value) : Run Value := do
  let items ← Run.seen fun around => around.items relationships
  return .ofList (← Run.outcome fun s => s.activate items sink config)

def forest : List (String × Procedure) :=
  [("ancestors", unary fun v => Run.ask fun s => do return viewList (← s.ancestorsOf v)),
    ("common_ancestor", binary fun a b => Run.ask fun s => s.commonAncestor a b),
    ("walk", unary fun
      | .view v => Run.ask fun s => do return viewList (← s.walk v)
      | _ => throw .noMember)]

def compilation : List (String × Procedure) :=
  [("compile_relationship", binaryOr .none fun relationship config => do
      return pendingList (← Run.logged fun s => s.compileWith config relationship)),
    ("compile_edges", fun
      | [element, edges] => compileEdges element edges (.bool false) .none
      | [element, edges, onMargins] => compileEdges element edges onMargins .none
      | [element, edges, onMargins, config] => compileEdges element edges onMargins config
      | _ => throw .wrongType),
    ("compile_center", ternaryOr .none fun element center config => do
      let config ← Run.ask fun s => s.configOrStandard config
      return pendingList (← Run.logged fun s => s.compileCenter config element center)),
    ("compile_ratio", ternaryOr .none fun element v config => do
      return pendingList (← Run.logged fun s => s.compileProportion config element v)),
    ("submit", binaryOr .none fun pending sink => do
      return .ofList (← Run.outcome fun s => s.submit pending sink)),
    ("activate", fun
      | [relationships] => activate relationships .none .none
      | [relationships, sink] => activate relationships sink .none
      | [relationships, sink, config] => activate relationships sink config
      | _ => throw .wrongType)]

def metrics : List (String × Procedure) :=
  [("record_residuals", binary fun records frames => Run.seen fun around => do
      let frames ← frameTable around frames
      return .array .new (← residuals around frames (← batchOf around records))),
    ("constraint_violations", ternaryOr (.double defaultTolerance) fun records frames tolerance =>
      Run.seen fun around => do
        let frames ← frameTable around frames
        let _ ← batchOf around records
        return (← violations around frames (← around.items records) tolerance).toValue),
    ("constraint_summary", unary fun records => Run.seen fun around => do
      return (← summary around (← batchOf around records)).toValue)]

def sequences : List (String × Procedure) :=
  [("tuple", fun items => return .tuple .new items), ("list", fun items => return .ofList items),
    ("concat", fun lists => Run.seen fun around => lists.foldlM around.add (.ofList [])),
    ("index", binary fun v position => Run.seen fun around => itemAt around v position),
    ("records_of", unary fun pendings => Run.seen fun around => do
      return .ofList (← (← around.items pendings).mapM recordOf)),
    ("str", unary fun v => Run.seen fun around => plainText around v),
    ("repr", unary fun v => Run.seen fun around => fullText around v)]

def functions : List (String × Procedure) :=
  bindings ++ objects ++ operators ++ algebra ++ forest ++ compilation ++ metrics ++ sequences

def apply (name : String) : Procedure := fun args =>
  match functions.find? fun entry => entry.1 = name with
  | some (_, f) => f args
  | none => throw .wrongType

end LayoutAlgebra.Script
