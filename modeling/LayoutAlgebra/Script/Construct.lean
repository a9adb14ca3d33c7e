import LayoutAlgebra.Scene.Tree
set_option autoImplicit false

namespace LayoutAlgebra.Script

inductive Shape where
  | expression (kind : Kind)
  | edges
  | center
  | elementAxis
  | relationship
  | record
  | config
  | frame
  | offset
  | insets
  | pending
deriving DecidableEq

namespace Shape

def named : List (String × Shape) :=
  [("linear", .expression .linear), ("length", .expression .length), ("position", .expression .position),
    ("ratio", .expression .ratio), ("edges", .edges), ("center", .center), ("axis", .elementAxis),
    ("relationship", .relationship), ("record", .record), ("config", .config), ("frame", .frame), ("offset", .offset),
    ("insets", .insets), ("pending", .pending)]

def ofName? (name : String) : Option Shape := (named.find? fun entry => entry.1 = name).map Prod.snd

def noInsets : Value := .insets .new (.uniform .noDistance)

def fields : Shape → List (String × Option Value)
  | .expression kind =>
    [("element", some .none), ("attribute", some (.attr (if kind = .ratio then .height else .notAnAttribute))),
      ("constant", some .noOffset), ("multiplier", some .noScale), ("priority", some .none)]
  | .edges => [("element", none), ("insets", some noInsets), ("uses_margins", some (.bool false))]
  | .center => [("element", none), ("offset", some (.offset .new (.uniform .noDistance)))]
  | .elementAxis => [("element", none), ("axis", some (.axis .horizontal))]
  | .relationship => [("lhs", none), ("rhs", none), ("relation", some (.relation .equal))]
  | .record =>
    [("subject", none), ("subject_attribute", none), ("relation", none), ("object", none), ("object_attribute", none),
      ("multiplier", none), ("constant", none), ("priority", none)]
  | .config =>
    [("default_priority", some Config.default.defaultPriority), ("min_priority", some Config.default.minPriority),
      ("max_priority", some Config.default.maxPriority),
      ("default_compression_resistance", some Config.default.defaultCompression),
      ("default_expansion_resistance", some Config.default.defaultExpansion),
      ("default_margin", some Config.default.defaultMargin)]
  | .frame =>
    [("x", some .noMeasure), ("y", some .noMeasure), ("width", some .noMeasure), ("height", some .noMeasure),
      ("margins", some noInsets)]
  | .offset => [("horizontal", some .noDistance), ("vertical", some .noDistance)]
  | .insets =>
    [("top", some .noDistance), ("left", some .noDistance), ("bottom", some .noDistance), ("right", some .noDistance)]
  | .pending => [("record", none), ("anchor", none)]

def complete (given : List (String × Value)) (fields : List (String × Option Value)) : Fallible (List Value) :=
  if given.all fun entry => fields.any fun field => field.1 = entry.1 then
    fields.mapM fun (name, default) =>
      match (given.find? fun entry => entry.1 = name).map Prod.snd, default with
      | some v, _ => .ok v
      | none, some v => .ok v
      | none, none => .error .wrongType
  else .error .wrongType

def assemble (around : Surroundings) : Shape → List Value → Fallible Value
  | .expression kind, [element, attr, constant, multiplier, priority] => do
    return .linear .new (← Linear.check { kind, element, attr, constant, multiplier, priority })
  | .edges, [element, inset, usesMargins] => .ok (.edges .new ⟨element, inset, usesMargins⟩)
  | .center, [element, shift] => .ok (.center .new ⟨element, shift⟩)
  | .elementAxis, [element, along] => .ok (.elementAxis .new ⟨element, along⟩)
  | .relationship, [lhs, rhs, sign] => .ok (.relationship .new ⟨lhs, rhs, sign⟩)
  | .record, [subject, subjectAttribute, sign, object, objectAttribute, multiplier, constant, priority] =>
    .ok (.record .new ⟨subject, subjectAttribute, sign, object, objectAttribute, multiplier, constant, priority⟩)
  | .config, [defaultPriority, minPriority, maxPriority, defaultCompression, defaultExpansion, defaultMargin] => do
    let c ← Config.check around
      { defaultPriority, minPriority, maxPriority, defaultCompression, defaultExpansion, defaultMargin }
    return .config .new c
  | .frame, [x, y, width, height, margins] => .ok (.frame .new ⟨x, y, width, height, margins⟩)
  | .offset, [horizontal, vertical] => .ok (.offset .new ⟨horizontal, vertical⟩)
  | .insets, [top, left, bottom, right] => .ok (.insets .new ⟨top, left, bottom, right⟩)
  | .pending, [held, anchor] => .ok (.pending .new ⟨held, anchor⟩)
  | _, _ => .error .wrongType

def construct (around : Surroundings) (shape : Shape) (given : List (String × Value)) : Fallible Value := do
  shape.assemble around (← complete given shape.fields)

end Shape

def viewOptions : List (String × Value) → Fallible Scene.ViewOptions
  | [] => .ok {}
  | (name, v) :: rest => do
    let options ← viewOptions rest
    match name with
    | "name" => return { options with name := v }
    | "parent" => return { options with parent := v }
    | "layout_margins" => return { options with layoutMargins := v }
    | "sink" => return { options with sink := v }
    | "config" => return { options with config := v }
    | _ => throw .wrongType

end LayoutAlgebra.Script
