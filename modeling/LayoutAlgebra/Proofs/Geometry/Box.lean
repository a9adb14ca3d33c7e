import LayoutAlgebra.Proofs.Exact.Evaluation
import Mathlib.Logic.ExistsUnique
set_option autoImplicit false

namespace LayoutAlgebra

structure Box where
  x : Rat
  y : Rat
  width : Rat
  height : Rat
  margins : Insets Rat

namespace Insets

def opposite (I : Insets Rat) : Insets Rat := ⟨-I.top, -I.left, -I.bottom, -I.right⟩

def Reads (i : Insets Value) (I : Insets Rat) : Prop := ∀ side, (i.side side).rational? = some (I.side side)

end Insets

namespace Offset

def opposite (O : Offset Rat) : Offset Rat := ⟨-O.horizontal, -O.vertical⟩

def Reads (o : Offset Value) (O : Offset Rat) : Prop :=
  o.horizontal.rational? = some O.horizontal ∧ o.vertical.rational? = some O.vertical

end Offset

def Side.line (side : Side) (onMargins : Bool) : Attribute :=
  if onMargins then side.attribute.withMargin else side.attribute

namespace Box

def measure (b : Box) : Measure → Rat
  | .x => b.x
  | .y => b.y
  | .width => b.width
  | .height => b.height
  | .margin side => b.margins.side side

def attribute? (b : Box) (attr : Attribute) : Option Rat :=
  attr.resolve Precision.exact.ruler fun what => some (b.measure what)

def edge (b : Box) (onMargins : Bool) : Side → Rat
  | .top => b.y + if onMargins then b.margins.top else 0
  | .left => b.x + if onMargins then b.margins.left else 0
  | .bottom => b.y + b.height - if onMargins then b.margins.bottom else 0
  | .right => b.x + b.width - if onMargins then b.margins.right else 0

def center (b : Box) : Offset Rat := ⟨b.x + b.width / 2, b.y + b.height / 2⟩

def between (onMargins : Bool) (margins : Insets Rat) (top left bottom right : Rat) : Box :=
  let own := fun margin : Rat => if onMargins then margin else 0
  { x := left - own margins.left, y := top - own margins.top,
    width := right + own margins.right - (left - own margins.left),
    height := bottom + own margins.bottom - (top - own margins.top), margins }

section

variable (onMargins : Bool) (around : Box) (ofMargins : Bool) (I : Insets Rat)

end

end Box

end LayoutAlgebra
