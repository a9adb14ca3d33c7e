import LayoutAlgebra.Expression
set_option autoImplicit false

namespace LayoutAlgebra

inductive Side where
  | top
  | left
  | bottom
  | right
deriving DecidableEq

def Insets.side {α : Type} (i : Insets α) : Side → α
  | .top => i.top
  | .left => i.left
  | .bottom => i.bottom
  | .right => i.right

def Side.attribute : Side → Attribute
  | .top => .top
  | .left => .left
  | .bottom => .bottom
  | .right => .right

inductive Measure where
  | x
  | y
  | width
  | height
  | margin (side : Side)
deriving DecidableEq

structure Arithmetic (m : Type → Type) (α : Type) where
  zero : α
  add : α → α → m α
  sub : α → α → m α
  half : α → m α

-- An attribute from the measures. A far edge is the near edge and the size, a margin line lies inside its edge, and a
-- centre lies half a size after the near edge.
def Attribute.resolve {m : Type → Type} [Monad m] {α : Type} (ops : Arithmetic m α) (measure : Measure → m α) :
    Attribute → m α
  | .top => measure .y
  | .topMargin => do
    let y ← measure .y
    let margin ← measure (.margin .top)
    ops.add y margin
  | .left => measure .x
  | .leftMargin => do
    let x ← measure .x
    let margin ← measure (.margin .left)
    ops.add x margin
  | .right => do
    let x ← measure .x
    let width ← measure .width
    ops.add x width
  | .rightMargin => do
    let x ← measure .x
    let width ← measure .width
    let right ← ops.add x width
    let margin ← measure (.margin .right)
    ops.sub right margin
  | .bottom => do
    let y ← measure .y
    let height ← measure .height
    ops.add y height
  | .bottomMargin => do
    let y ← measure .y
    let height ← measure .height
    let bottom ← ops.add y height
    let margin ← measure (.margin .bottom)
    ops.sub bottom margin
  | .centerX => do
    let x ← measure .x
    let width ← measure .width
    ops.add x (← ops.half width)
  | .centerY => do
    let y ← measure .y
    let height ← measure .height
    ops.add y (← ops.half height)
  | .width => measure .width
  | .height => measure .height
  | .notAnAttribute => pure ops.zero

def Surroundings.ruler (around : Surroundings) : Arithmetic Fallible Value where
  zero := .noMeasure
  add := around.add
  sub := around.sub
  half v := around.div v (.int 2)

namespace Frame

def measure (f : Frame Value) : Measure → Fallible Value
  | .x => .ok f.x
  | .y => .ok f.y
  | .width => .ok f.width
  | .height => .ok f.height
  | .margin side =>
    match f.margins with
    | .insets _ i => .ok (i.side side)
    | .view v => .ok (.linear .new (.reading .position (.view v) side.attribute))
    | _ => .error .noMember

def attributeValue (around : Surroundings) (f : Frame Value) (attr : Attribute) : Fallible Value :=
  attr.resolve around.ruler f.measure

def value (around : Surroundings) (f : Frame Value) : Value → Fallible Value
  | .attr attr => f.attributeValue around attr
  | key => .error (if key.isKey then .noKey else .wrongType)

end Frame

def residual {α : Type} [Add α] [Sub α] [Mul α] (lhs multiplier rhs constant : α) : α :=
  lhs - (multiplier * rhs + constant)

-- Whether a residual passes the tolerance on the side that the relation forbids. An undefined residual passes nothing.
def Relation.violated (residual tolerance : Extended) : Relation → Bool
  | .equal => tolerance.lt residual.distance
  | .lessOrEqual => tolerance.lt residual
  | .greaterOrEqual => residual.lt tolerance.opposite

def Table.attributeValue (around : Surroundings) (frames : Table) (element what : Value) : Fallible Value :=
  if element.isKey then
    match frames.get? element with
    | some (.frame _ f) => f.value around what
    | some (.member _) => .error .wrongType
    | some _ => .error .noMember
    | none => .error (.noFrame element)
  else .error .wrongType

def Table.objectValue (around : Surroundings) (frames : Table) (r : ConstraintRecord Value) : Fallible Value :=
  if r.object.isNone then .ok .noMeasure else frames.attributeValue around r.object r.objectAttribute

namespace Value

def asRecord : Value → Fallible (ConstraintRecord Value)
  | .record _ r => .ok r
  | _ => .error .noMember

-- A coefficient as a double: nothing is undefined, and text is read.
def coefficient : Value → Fallible Double
  | .none => .ok .nan
  | v => v.toDouble

end Value

namespace Surroundings

def column (around : Surroundings) (values : List Value) : Fallible (Cells Value) := do
  return (← Layout.ofColumn around.opened values).cells

-- A column of coefficients. Its rows are compared in length before any coefficient is read.
def coefficients (around : Surroundings) (values : List Value) : Fallible (Grid Double) := do
  (← Layout.ofColumn around.opened values).grid.mapM Value.coefficient

end Surroundings

structure Terms where
  lhs : Cells Value
  multipliers : Grid Double
  rhs : Cells Value
  constants : Grid Double

namespace Terms

-- The terms of every record. All subjects are looked up before any object, and the coefficients are read after that.
def ofRecords (around : Surroundings) (frames : Table) (items : List Value) : Fallible Terms := do
  let subjects ← items.mapM fun item => do
    let r ← item.asRecord
    return (r, ← frames.attributeValue around r.subject r.subjectAttribute)
  let records := subjects.map Prod.fst
  let lhs ← around.column (subjects.map Prod.snd)
  let rhs ← around.column (← records.mapM (frames.objectValue around))
  let multipliers ← around.coefficients (records.map ConstraintRecord.multiplier)
  let constants ← around.coefficients (records.map ConstraintRecord.constant)
  return { lhs, multipliers, rhs, constants }

def residuals (t : Terms) : Fallible (Cells Value) := do
  let products ← (Cells.doubles t.multipliers).combine .mul Value.mul t.rhs
  let sums ← products.combine .add Value.add (.doubles t.constants)
  t.lhs.combine .sub Value.sub sums

end Terms

def residuals (around : Surroundings) (frames : Table) (items : List Value) : Fallible (Cells Value) := do
  (← Terms.ofRecords around frames items).residuals

end LayoutAlgebra
