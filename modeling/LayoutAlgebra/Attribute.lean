set_option autoImplicit false

namespace LayoutAlgebra

inductive Attribute where
  | top
  | topMargin
  | left
  | leftMargin
  | right
  | rightMargin
  | bottom
  | bottomMargin
  | centerX
  | centerY
  | width
  | height
  | notAnAttribute
deriving DecidableEq, Inhabited

namespace Attribute

def all : List Attribute :=
  [top, topMargin, left, leftMargin, right, rightMargin, bottom, bottomMargin, centerX, centerY, width, height,
    notAnAttribute]

def tag : Attribute → String
  | top => "top"
  | topMargin => "topMargin"
  | left => "left"
  | leftMargin => "leftMargin"
  | right => "right"
  | rightMargin => "rightMargin"
  | bottom => "bottom"
  | bottomMargin => "bottomMargin"
  | centerX => "centerX"
  | centerY => "centerY"
  | width => "width"
  | height => "height"
  | notAnAttribute => "notAnAttribute"

def memberName : Attribute → String
  | top => "TOP"
  | topMargin => "TOP_MARGIN"
  | left => "LEFT"
  | leftMargin => "LEFT_MARGIN"
  | right => "RIGHT"
  | rightMargin => "RIGHT_MARGIN"
  | bottom => "BOTTOM"
  | bottomMargin => "BOTTOM_MARGIN"
  | centerX => "CENTER_X"
  | centerY => "CENTER_Y"
  | width => "WIDTH"
  | height => "HEIGHT"
  | notAnAttribute => "NOT_AN_ATTRIBUTE"

def ofTag? (text : String) : Option Attribute := all.find? (·.tag = text)

def isDimension : Attribute → Bool
  | width | height => true
  | _ => false

def isPosition (a : Attribute) : Bool := !a.isDimension && a != notAnAttribute

def withMargin : Attribute → Attribute
  | top => topMargin
  | left => leftMargin
  | right => rightMargin
  | bottom => bottomMargin
  | a => a

end Attribute

inductive Relation where
  | equal
  | lessOrEqual
  | greaterOrEqual
deriving DecidableEq, Inhabited

namespace Relation

def all : List Relation := [equal, lessOrEqual, greaterOrEqual]

def sign : Relation → String
  | equal => "=="
  | lessOrEqual => "<="
  | greaterOrEqual => ">="

def memberName : Relation → String
  | equal => "EQUAL"
  | lessOrEqual => "LESS_OR_EQUAL"
  | greaterOrEqual => "GREATER_OR_EQUAL"

def ofSign? (text : String) : Option Relation := all.find? (·.sign = text)

def mirrored : Relation → Relation
  | equal => equal
  | lessOrEqual => greaterOrEqual
  | greaterOrEqual => lessOrEqual

theorem mirrored_mirrored (r : Relation) : r.mirrored.mirrored = r := by
  cases r <;> rfl

end Relation

inductive Axis where
  | horizontal
  | vertical
deriving DecidableEq, Inhabited

namespace Axis

def all : List Axis := [horizontal, vertical]

def tag : Axis → String
  | horizontal => "horizontal"
  | vertical => "vertical"

def memberName : Axis → String
  | horizontal => "HORIZONTAL"
  | vertical => "VERTICAL"

def ofTag? (text : String) : Option Axis := all.find? (·.tag = text)

end Axis

inductive Member where
  | attr (a : Attribute)
  | relation (r : Relation)
  | axis (a : Axis)
deriving DecidableEq, Inhabited

namespace Member

def enumeration : Member → String
  | attr _ => "Attribute"
  | relation _ => "Relation"
  | axis _ => "Axis"

def name : Member → String
  | attr a => a.memberName
  | relation r => r.memberName
  | axis a => a.memberName

def text : Member → String
  | attr a => a.tag
  | relation r => r.sign
  | axis a => a.tag

end Member

end LayoutAlgebra
