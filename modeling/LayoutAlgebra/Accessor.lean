import LayoutAlgebra.Register
set_option autoImplicit false

namespace LayoutAlgebra

namespace Accessor

def named : List (String × Accessor) :=
  [("top", .line .top), ("top_margin", .line .topMargin), ("left", .line .left), ("left_margin", .line .leftMargin),
    ("right", .line .right), ("right_margin", .line .rightMargin), ("bottom", .line .bottom),
    ("bottom_margin", .line .bottomMargin), ("center_x", .line .centerX), ("center_y", .line .centerY),
    ("width", .length .width), ("height", .length .height), ("edges", .edges false), ("margins", .edges true),
    ("middle", .middle), ("ratio", .ratio)]

def ofName? (name : String) : Option Accessor := (named.find? fun entry => entry.1 = name).map Prod.snd

def attribute? : Accessor → Option Attribute
  | .line attr | .length attr => some attr
  | _ => none

def attributes : List (Attribute × String) :=
  named.filterMap fun (name, accessor) => accessor.attribute?.map fun attr => (attr, name)

def read (element : Value) : Accessor → Value
  | .line attr => .linear .new (.reading .position element attr)
  | .length attr => .linear .new (.reading .length element attr)
  | .edges usesMargins =>
    .edges .new { element, insets := .insets .new (.uniform .noDistance), usesMargins := .bool usesMargins }
  | .middle => .center .new { element, offset := .offset .new (.uniform .noDistance) }
  | .ratio => .linear .new (.reading .ratio element .height)

end Accessor

namespace Scene

def ratioSide (around : Surroundings) : Value → Fallible Value
  | .tuple _ [numerator, denominator] => proportion around numerator denominator
  | .tuple _ _ => .error .wrongType
  | value => .ok value

-- The configuration that a view compiles under: its own, or the standard one in place of what counts as false.
def ownConfig (s : Scene) (v : ViewId) : Logged Value := .of (s.configOrStandard (s.config v))

def assigned (s : Scene) (v : ViewId) (accessor : Accessor) (value : Value) : Logged (List (Pending Value)) :=
  match accessor with
  | .line _ | .length _ => do
    let r ← Logged.of ((accessor.read (.view v)).equalTo value)
    let config ← s.ownConfig v
    s.compile config (.relationship .new r)
  | .edges usesMargins =>
    match value with
    | .edges _ _ => do
      let config ← s.ownConfig v
      s.compileEdges config (.view v) value (.bool usesMargins)
    | _ => .of (.error (.edgesExpected value))
  | .middle =>
    match value with
    | .center _ _ => do
      let config ← s.ownConfig v
      s.compileCenter config (.view v) value
    | _ => .of (.error (.centerExpected value))
  | .ratio => do
    let side ← Logged.of (ratioSide s.surroundings value)
    let r ← Logged.of ((accessor.read (.view v)).equalTo side)
    let config ← s.ownConfig v
    s.compile config (.relationship .new r)

def assign (s : Scene) (v : ViewId) (accessor : Accessor) (value : Value) : Outcome (List Value) :=
  s.submitCompiled (s.sink v) (s.assigned v accessor value)

end Scene

end LayoutAlgebra
