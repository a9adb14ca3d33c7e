import LayoutAlgebra.Number.Aligned
import LayoutAlgebra.Surroundings
import LayoutAlgebra.Text
set_option autoImplicit false

/-!
The text of a value in full, as it is written inside other values. What is behind a reference is asked of the surroundings.
A value can lead back to itself through a list that a view keeps or through a recording; where it does, dots stand for it.
-/
namespace LayoutAlgebra

def Kind.className : Kind → String
  | linear => "LinearExpression"
  | length => "LengthExpression"
  | position => "PositionExpression"
  | ratio => "RatioExpression"

def Accessor.className : Accessor → String
  | line _ => "_AttributeAccessor"
  | length _ => "_LengthAccessor"
  | edges _ => "_EdgesAccessor"
  | middle => "_CenterAccessor"
  | ratio => "_RatioAccessor"

def Value.className : Value → String
  | .none => "NoneType"
  | .bool _ => "bool"
  | .member m => m.enumeration
  | .accessor a => a.className
  | .view _ => "View"
  | .recording _ => "RecordingSink"
  | .shared _ => "list"
  | .hierarchy _ => "HierarchySink"
  | .compiler _ _ => "RelationCompiler"
  | .number _ (.int _) => "int"
  | .number _ (.double _) => "float"
  | .text _ _ => "str"
  | .tuple _ _ => "tuple"
  | .list _ _ => "list"
  | .array _ _ => "ndarray"
  | .dict _ _ => "dict"
  | .linear _ e => e.kind.className
  | .edges _ _ => "EdgesExpression"
  | .center _ _ => "CenterExpression"
  | .elementAxis _ _ => "LayoutAxis"
  | .relationship _ _ => "Relationship"
  | .record _ _ => "ConstraintRecord"
  | .pending _ _ => "PendingConstraint"
  | .offset _ _ => "Offset"
  | .insets _ _ => "Insets"
  | .frame _ _ => "Frame"
  | .reader _ => "method"
  | .config _ _ => "LayoutConfig"

def mostDigits : Nat := 4300

def Number.full : Number → Fallible String
  | .int n => if n.natAbs < Nat.pow 10 mostDigits then .ok (toString n) else .error .wrongContent
  | .double x => .ok x.full

def Member.full (m : Member) : String := "<" ++ m.enumeration ++ "." ++ m.name ++ ": " ++ Text.quoted m.text ++ ">"

def commaSeparated (parts : List String) : String := String.intercalate ", " parts

def fieldsText (name : String) (fields : List (String × String)) : String :=
  name ++ "(" ++ commaSeparated (fields.map fun (field, text) => field ++ "=" ++ text) ++ ")"

def tupleText : List String → String
  | [single] => "(" ++ single ++ ",)"
  | parts => "(" ++ commaSeparated parts ++ ")"

def listText (parts : List String) : String := "[" ++ commaSeparated parts ++ "]"

def dictText (entries : List (String × String)) : String :=
  "\x7b" ++ commaSeparated (entries.map fun (key, value) => key ++ ": " ++ value) ++ "\x7d"

def arrayWidth : Nat := 75

def CellKind.entryName : CellKind → String
  | truth => "bool"
  | whole => "int64"
  | natural => "uint64"
  | double => "float64"
  | text => "str"
  | general => "object"

def Cells.words (large : Bool) : Cells Value → List String
  | .truths g => (Text.shownEntries large g.shape g.entries).map fun b => if b then " True" else "False"
  | .wholes g => ofOneWidth ((Text.shownEntries large g.shape g.entries).map fun n => toString n)
  | .naturals g => ofOneWidth ((Text.shownEntries large g.shape g.entries).map fun n => toString n)
  | .doubles g =>
    let entries := Text.shownEntries large g.shape g.entries
    entries.map (NumberColumn.of entries).text
  | .texts g => (Text.shownEntries large g.shape g.entries).map Text.quoted
  | .general _ => []
where
  ofOneWidth (words : List String) : List String :=
    words.map (NumberParts.padded (NumberColumn.largest (words.map String.length)))

def bracketedArray (separator : String) (column width : Nat) (shape : List Nat) (words : List String) : String :=
  if Grid.volume shape = 0 then "[]"
  else Text.bracketed separator (Text.isLarge shape) (column + 1) width shape words

-- The text of an array in full. What its entries are is told where they do not show it, and its shape where that does
-- not show.
def arrayText (kind : CellKind) (shape : List Nat) (words : List String) : String :=
  let opening := "array("
  let body := opening ++ bracketedArray ", " opening.length (arrayWidth - 1) shape words
  let isEmpty := Grid.volume shape = 0
  let isShapeTold := (isEmpty && shape ≠ [0]) || Text.isLarge shape
  let shapeNote := if isShapeTold then ["shape=" ++ tupleText (shape.map fun (n : Nat) => toString n)] else []
  let isKindTold := kind = .natural || kind = .general || kind = .text || isEmpty
  let kindNote := if isKindTold then ["dtype=" ++ kind.entryName] else []
  match shapeNote ++ kindNote with
  | [] => body ++ ")"
  | notes =>
    let noted := commaSeparated notes ++ ")"
    let lastLine := (body.toList.reverse.takeWhile (· ≠ '\n')).length + 1
    let fits := lastLine + noted.length + 1 ≤ arrayWidth
    body ++ "," ++ (if fits then " " else "\n" ++ Text.spaces opening.length) ++ noted

namespace Value

@[macro_inline]
def unlessBusy (busy : List Value) (v : Value) (dots : String) (text : Fallible String) : Fallible String :=
  if busy.any v.identical then .ok dots else text

mutual

-- The text of a value as it is written inside the values of `busy`; `follow` writes what is behind a reference.
def full (follow : List Value → Value → Fallible String) (busy : List Value) : Value → Fallible String
  | .none => .ok "None"
  | .bool b => .ok (if b then "True" else "False")
  | .member m => .ok m.full
  | .accessor a => .ok (a.className ++ "(at ?)")
  | .view id => follow busy (.view id)
  | .recording id => follow busy (.recording id)
  | .shared l => follow busy (.shared l)
  | .hierarchy _ => .ok "HierarchySink()"
  | .compiler _ _ => .ok "RelationCompiler(at ?)"
  | .number _ n => n.full
  | .text _ s => .ok (Text.quoted s)
  | .tuple mark items => unlessBusy busy (.tuple mark items) "(...)" do
    return tupleText (← fullItems follow (.tuple mark items :: busy) items)
  | .list mark items => unlessBusy busy (.list mark items) "[...]" do
    return listText (← fullItems follow (.list mark items :: busy) items)
  | .array _ (.general ⟨shape, entries⟩) => do
    return arrayText .general shape (← fullShown follow busy entries (Text.shownPlaces (Text.isLarge shape) shape))
  | .array _ cells => .ok (arrayText cells.kind cells.shape (cells.words (Text.isLarge cells.shape)))
  | .dict mark entries => unlessBusy busy (.dict mark entries) "\x7b...\x7d" do
    return dictText (← fullEntries follow (.dict mark entries :: busy) entries)
  | .linear mark ⟨kind, element, what, constant, multiplier, priority⟩ =>
    let v : Value := .linear mark ⟨kind, element, what, constant, multiplier, priority⟩
    unlessBusy busy v "..." do
      let element ← full follow (v :: busy) element
      let what ← full follow (v :: busy) what
      let constant ← full follow (v :: busy) constant
      let multiplier ← full follow (v :: busy) multiplier
      let priority ← full follow (v :: busy) priority
      return fieldsText kind.className [("element", element), ("attribute", what), ("constant", constant),
        ("multiplier", multiplier), ("priority", priority)]
  | .edges mark ⟨element, inset, usesMargins⟩ =>
    let v : Value := .edges mark ⟨element, inset, usesMargins⟩
    unlessBusy busy v "..." do
      let element ← full follow (v :: busy) element
      let inset ← full follow (v :: busy) inset
      let usesMargins ← full follow (v :: busy) usesMargins
      return fieldsText "EdgesExpression" [("element", element), ("insets", inset), ("uses_margins", usesMargins)]
  | .center mark ⟨element, shift⟩ =>
    let v : Value := .center mark ⟨element, shift⟩
    unlessBusy busy v "..." do
      let element ← full follow (v :: busy) element
      let shift ← full follow (v :: busy) shift
      return fieldsText "CenterExpression" [("element", element), ("offset", shift)]
  | .elementAxis mark ⟨element, along⟩ =>
    let v : Value := .elementAxis mark ⟨element, along⟩
    unlessBusy busy v "..." do
      let element ← full follow (v :: busy) element
      let along ← full follow (v :: busy) along
      return fieldsText "LayoutAxis" [("element", element), ("axis", along)]
  | .relationship mark ⟨lhs, rhs, sign⟩ =>
    let v : Value := .relationship mark ⟨lhs, rhs, sign⟩
    unlessBusy busy v "..." do
      let lhs ← full follow (v :: busy) lhs
      let rhs ← full follow (v :: busy) rhs
      let sign ← full follow (v :: busy) sign
      return fieldsText "Relationship" [("lhs", lhs), ("rhs", rhs), ("relation", sign)]
  | .record mark ⟨subject, subjectAttribute, sign, object, objectAttribute, multiplier, constant, priority⟩ =>
    let v : Value :=
      .record mark ⟨subject, subjectAttribute, sign, object, objectAttribute, multiplier, constant, priority⟩
    unlessBusy busy v "..." do
      let subject ← full follow (v :: busy) subject
      let subjectAttribute ← full follow (v :: busy) subjectAttribute
      let sign ← full follow (v :: busy) sign
      let object ← full follow (v :: busy) object
      let objectAttribute ← full follow (v :: busy) objectAttribute
      let multiplier ← full follow (v :: busy) multiplier
      let constant ← full follow (v :: busy) constant
      let priority ← full follow (v :: busy) priority
      return fieldsText "ConstraintRecord" [("subject", subject), ("subject_attribute", subjectAttribute),
        ("relation", sign), ("object", object), ("object_attribute", objectAttribute), ("multiplier", multiplier),
        ("constant", constant), ("priority", priority)]
  | .pending mark ⟨held, anchor⟩ =>
    let v : Value := .pending mark ⟨held, anchor⟩
    unlessBusy busy v "..." do
      let held ← full follow (v :: busy) held
      let anchor ← full follow (v :: busy) anchor
      return fieldsText "PendingConstraint" [("record", held), ("anchor", anchor)]
  | .offset mark ⟨horizontal, vertical⟩ =>
    let v : Value := .offset mark ⟨horizontal, vertical⟩
    unlessBusy busy v "..." do
      let horizontal ← full follow (v :: busy) horizontal
      let vertical ← full follow (v :: busy) vertical
      return fieldsText "Offset" [("horizontal", horizontal), ("vertical", vertical)]
  | .insets mark ⟨top, left, bottom, right⟩ =>
    let v : Value := .insets mark ⟨top, left, bottom, right⟩
    unlessBusy busy v "..." do
      let top ← full follow (v :: busy) top
      let left ← full follow (v :: busy) left
      let bottom ← full follow (v :: busy) bottom
      let right ← full follow (v :: busy) right
      return fieldsText "Insets" [("top", top), ("left", left), ("bottom", bottom), ("right", right)]
  | .frame mark ⟨x, y, width, height, margins⟩ =>
    let v : Value := .frame mark ⟨x, y, width, height, margins⟩
    unlessBusy busy v "..." do
      let x ← full follow (v :: busy) x
      let y ← full follow (v :: busy) y
      let width ← full follow (v :: busy) width
      let height ← full follow (v :: busy) height
      let margins ← full follow (v :: busy) margins
      return fieldsText "Frame" [("x", x), ("y", y), ("width", width), ("height", height), ("margins", margins)]
  | .reader read => do return "<bound method Frame.value of " ++ (← full follow busy read) ++ ">"
  | .config mark ⟨priority, low, high, compression, expansion, margin⟩ =>
    let v : Value := .config mark ⟨priority, low, high, compression, expansion, margin⟩
    unlessBusy busy v "..." do
      let priority ← full follow (v :: busy) priority
      let low ← full follow (v :: busy) low
      let high ← full follow (v :: busy) high
      let compression ← full follow (v :: busy) compression
      let expansion ← full follow (v :: busy) expansion
      let margin ← full follow (v :: busy) margin
      return fieldsText "LayoutConfig" [("default_priority", priority), ("min_priority", low), ("max_priority", high),
        ("default_compression_resistance", compression), ("default_expansion_resistance", expansion),
        ("default_margin", margin)]

def fullItems (follow : List Value → Value → Fallible String) (busy : List Value) :
    List Value → Fallible (List String)
  | [] => .ok []
  | item :: rest => do
    let text ← full follow busy item
    return text :: (← fullItems follow busy rest)

def fullShown (follow : List Value → Value → Fallible String) (busy : List Value) :
    List Value → List Bool → Fallible (List String)
  | [], _ => .ok []
  | _ :: _, [] => .ok []
  | _ :: rest, false :: shown => fullShown follow busy rest shown
  | entry :: rest, true :: shown => do
    let text ← full follow busy entry
    return text :: (← fullShown follow busy rest shown)
termination_by structural xs => xs

def fullEntries (follow : List Value → Value → Fallible String) (busy : List Value) :
    List (Value × Value) → Fallible (List (String × String))
  | [] => .ok []
  | (key, value) :: rest => do
    let key ← full follow busy key
    let value ← full follow busy value
    return (key, value) :: (← fullEntries follow busy rest)

end

-- A number in brief inside a sentence; text is refused for its content, anything else for its type.
def brief : Value → Fallible String
  | .number _ n => do return (← Fallible.ofArithmetic n.toDouble).brief
  | .bool b => .ok (if b then "1" else "0")
  | .text _ _ | .member _ => .error .wrongContent
  | _ => .error .wrongType

def briefNumber : Value → Fallible String
  | .number _ n => do return (← Fallible.ofArithmetic n.toDouble).brief
  | .bool b => .ok (if b then "1" else "0")
  | _ => .error .wrongType

end Value

namespace Surroundings

-- A view is written as its name, if it has one that counts as true, and as its place in store otherwise; a kept list
-- and a recording as what they hold.
def behind (around : Surroundings) : Nat → List Value → Value → Fallible String
  | 0, _, _ => .error .endless
  | depth + 1, busy, v =>
    match v with
    | .view id => do
      let name := around.viewName id
      if ← around.truth name then return "View(" ++ (← name.full (around.behind depth) busy) ++ ")"
      else return Text.address id
    | .shared l => Value.unlessBusy busy v "[...]" do
      return listText (← Value.fullItems (around.behind depth) (v :: busy) (around.listed l))
    | .recording k => Value.unlessBusy busy v "..." do
      let fields ← (around.recording k).fields.mapM fun (field, content) => do
        return (field, ← content.full (around.behind depth) (v :: busy))
      return fieldsText "RecordingSink" fields
    | v => v.full (around.behind depth) busy

def full (around : Surroundings) (v : Value) : Fallible String := v.full (around.behind depth) []

end Surroundings

end LayoutAlgebra
