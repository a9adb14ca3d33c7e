import LayoutAlgebra.Attribute
import LayoutAlgebra.Grid
import LayoutAlgebra.Number.Basic
set_option autoImplicit false

/-!
Values of a layout script. The nouns of the algebra are structures over the type of their fields, and a value is any of
them over values again: a field may hold anything until an operation looks at it. Some values are references to what a
scene keeps, and the others know which object they are.
-/
namespace LayoutAlgebra

inductive Kind where
  | linear
  | length
  | position
  | ratio
deriving DecidableEq, Inhabited

def Kind.tag : Kind → String
  | linear => "linear"
  | length => "length"
  | position => "position"
  | ratio => "ratio"

-- Reads as `element.attribute * multiplier + constant`, with a priority or without one.
structure Linear (α : Type) where
  kind : Kind
  element : α
  attr : α
  constant : α
  multiplier : α
  priority : α

-- Distances from the four edges; positive ones move an edge inwards.
structure Insets (α : Type) where
  top : α
  left : α
  bottom : α
  right : α

structure Offset (α : Type) where
  horizontal : α
  vertical : α

structure Edges (α : Type) where
  element : α
  insets : α
  usesMargins : α

structure Center (α : Type) where
  element : α
  offset : α

structure ElementAxis (α : Type) where
  element : α
  axis : α

structure Relationship (α : Type) where
  lhs : α
  rhs : α
  relation : α

-- Reads as `subject.attribute relation object.attribute * multiplier + constant`.
structure ConstraintRecord (α : Type) where
  subject : α
  subjectAttribute : α
  relation : α
  object : α
  objectAttribute : α
  multiplier : α
  constant : α
  priority : α

structure Pending (α : Type) where
  record : α
  anchor : α

structure Frame (α : Type) where
  x : α
  y : α
  width : α
  height : α
  margins : α

structure Config (α : Type) where
  defaultPriority : α
  minPriority : α
  maxPriority : α
  defaultCompression : α
  defaultExpansion : α
  defaultMargin : α

inductive Accessor where
  | line (attr : Attribute)
  | length (attr : Attribute)
  | edges (usesMargins : Bool)
  | middle
  | ratio
deriving DecidableEq

inductive CellKind where
  | truth
  | whole
  | natural
  | double
  | text
  | general
deriving DecidableEq, Inhabited

namespace CellKind

def rank : CellKind → Nat
  | truth => 0
  | whole | natural => 1
  | double => 2
  | text => 3
  | general => 4

def join (a b : CellKind) : CellKind :=
  if a.rank < b.rank then b else if b.rank < a.rank then a else if a = b then a else .double

def isIntegral (kind : CellKind) : Bool := kind.rank ≤ 1

def isWord (kind : CellKind) : Bool := kind.rank = 1

end CellKind

inductive Cells (α : Type) where
  | truths (g : Grid Bool)
  | wholes (g : Grid Int)
  | naturals (g : Grid Nat)
  | doubles (g : Grid Double)
  | texts (g : Grid String)
  | general (g : Grid α)
deriving Inhabited

namespace Cells

def kind {α : Type} : Cells α → CellKind
  | truths _ => .truth
  | wholes _ => .whole
  | naturals _ => .natural
  | doubles _ => .double
  | texts _ => .text
  | general _ => .general

def shape {α : Type} : Cells α → List Nat
  | truths g => g.shape
  | wholes g => g.shape
  | naturals g => g.shape
  | doubles g => g.shape
  | texts g => g.shape
  | general g => g.shape

def rows {α : Type} : Cells α → List (Cells α)
  | truths g => g.rows.map truths
  | wholes g => g.rows.map wholes
  | naturals g => g.rows.map naturals
  | doubles g => g.rows.map doubles
  | texts g => g.rows.map texts
  | general g => g.rows.map general

end Cells

abbrev ViewId := Nat
abbrev RecordingId := Nat

-- A list that a view keeps, or one that was given to a view and is kept by the scene. Whoever holds it sees what
-- becomes of it; a view that gets a new list of constraints leaves the old one, an earlier edition, as it was.
inductive SharedList where
  | children (v : ViewId)
  | constraints (v : ViewId) (edition : Nat)
  | given (k : Nat)
deriving DecidableEq

-- Which object a value is. A value that was just made is told apart from every other, unless it is a joint part: the
-- parts of one new value that are joint under one number are one object. A value that is kept has a number, and every
-- copy of it is the same object; a constant of the algebra is one object wherever it is met.
inductive Mark where
  | new
  | joint (k : Nat)
  | numbered (n : Nat)
  | standing (role : String)
deriving DecidableEq, Inhabited

inductive Value where
  | none
  | bool (b : Bool)
  | member (m : Member)
  | accessor (a : Accessor)
  | view (id : ViewId)
  | recording (id : RecordingId)
  | shared (l : SharedList)
  | hierarchy (serial : Nat)
  | compiler (serial : Nat) (config : Value)
  | number (mark : Mark) (n : Number)
  | text (mark : Mark) (s : String)
  | tuple (mark : Mark) (items : List Value)
  | list (mark : Mark) (items : List Value)
  | array (mark : Mark) (cells : Cells Value)
  | dict (mark : Mark) (entries : List (Value × Value))
  | linear (mark : Mark) (e : Linear Value)
  | edges (mark : Mark) (e : Edges Value)
  | center (mark : Mark) (e : Center Value)
  | elementAxis (mark : Mark) (a : ElementAxis Value)
  | relationship (mark : Mark) (r : Relationship Value)
  | record (mark : Mark) (r : ConstraintRecord Value)
  | pending (mark : Mark) (p : Pending Value)
  | offset (mark : Mark) (o : Offset Value)
  | insets (mark : Mark) (i : Insets Value)
  | frame (mark : Mark) (f : Frame Value)
  -- What reads attributes in a frame.
  | reader (frame : Value)
  | config (mark : Mark) (c : Config Value)
deriving Inhabited

abbrev Expression := Linear Value

namespace Value

@[match_pattern] abbrev attr (a : Attribute) : Value := .member (.attr a)
@[match_pattern] abbrev relation (r : Relation) : Value := .member (.relation r)
@[match_pattern] abbrev axis (a : Axis) : Value := .member (.axis a)

def int (n : Int) : Value := .number .new (.int n)
def double (x : Double) : Value := .number .new (.double x)

def standingText (s : String) : Value := .text (.standing s) s

-- A text that was just made. The empty text exists once, and so does each of the first 256 characters.
def ofText (s : String) : Value :=
  if s.length ≤ 1 && s.toList.all fun c => c.toNat < 256 then standingText s else .text .new s

def ofList (items : List Value) : Value := .list .new items

def number? : Value → Option Number
  | .number _ n => some n
  | .bool b => some (.ofBool b)
  | _ => .none

def count? : Value → Option Int
  | .number _ (.int n) => some n
  | .bool b => some (if b then 1 else 0)
  | _ => .none

-- The numbers that expressions accept as operands; truth values are not among them.
def scalar? : Value → Option Number
  | .number _ n => some n
  | _ => .none

def isNone : Value → Bool
  | .none => true
  | _ => false

def jointly (k : Nat) : Value → Value
  | .number .new n => .number (.joint k) n
  | v => v

def ofTruths (g : Grid Bool) : Value := .array .new (.truths g)

def noOffset : Value := .number (.standing "expression offset") (.double (.zero false))
def noScale : Value := .number (.standing "expression scale") (.double (.round 1))

def noDistance : Value := .number (.standing "distance") (.double (.zero false))

def noMeasure : Value := .number (.standing "measure") (.double (.zero false))

end Value

def Linear.hasElement (e : Expression) : Bool := !e.element.isNone

def Offset.uniform {α : Type} (x : α) : Offset α := ⟨x, x⟩

def Insets.uniform {α : Type} (x : α) : Insets α := ⟨x, x, x, x⟩

def Insets.ofOffset {α : Type} (o : Offset α) : Insets α := ⟨o.vertical, o.horizontal, o.vertical, o.horizontal⟩

end LayoutAlgebra
