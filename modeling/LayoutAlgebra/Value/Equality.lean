import LayoutAlgebra.Failure
import LayoutAlgebra.Value.Identity
set_option autoImplicit false

/-!
Equality of values. Numbers and truth values are equal by what they count, composite values by type and fields, views by
identity. An undefined number equals nothing, itself included; but a part of two composite values is the same part if it
is one object, before it is compared. What lists and recordings behind references hold is not seen here and is asked for,
and so is what the places of an array come to.
-/
namespace LayoutAlgebra

namespace Value

@[macro_inline]
def orIdentical (a b : Value) (equal : Fallible Bool) : Fallible Bool := if a.identical b then .ok true else equal

def find? (test : Value → Fallible Bool) : List (Value × Value) → Fallible (Option Value)
  | [] => .ok Option.none
  | (key, content) :: rest => do if ← test key then return some content else find? test rest

mutual

def agree (follow : Value → Value → Fallible Bool) : Value → Value → Fallible Bool
  | .none, .none => .ok true
  | .bool a, .bool b => .ok (a == b)
  | .bool a, .number _ n => .ok ((Number.ofBool a).equals n)
  | .number _ n, .bool b => .ok (n.equals (.ofBool b))
  | .number _ m, .number _ n => .ok (m.equals n)
  | .text _ a, .text _ b => .ok (a == b)
  | .tuple _ a, .tuple _ b => agreeItems follow a b
  | .list _ a, .list _ b => if a.length = b.length then agreeItems follow a b else .ok false
  | .dict _ a, .dict _ b => if a.length = b.length then agreeEntries follow a b else .ok false
  | .recording a, .recording b => if a == b then .ok true else follow (.recording a) (.recording b)
  | .shared a, .shared b => if a == b then .ok true else follow (.shared a) (.shared b)
  | .shared a, .list mark b => follow (.shared a) (.list mark b)
  | .list mark a, .shared b => follow (.list mark a) (.shared b)
  | .linear _ ⟨kind, element, what, constant, multiplier, priority⟩, .linear _ e =>
    if kind == e.kind then
      (orIdentical element e.element (agree follow element e.element)).and <|
      (orIdentical what e.attr (agree follow what e.attr)).and <|
      (orIdentical constant e.constant (agree follow constant e.constant)).and <|
      (orIdentical multiplier e.multiplier (agree follow multiplier e.multiplier)).and <|
      orIdentical priority e.priority (agree follow priority e.priority)
    else .ok false
  | .edges _ ⟨element, inset, usesMargins⟩, .edges _ e =>
    (orIdentical element e.element (agree follow element e.element)).and <|
    (orIdentical inset e.insets (agree follow inset e.insets)).and <|
    orIdentical usesMargins e.usesMargins (agree follow usesMargins e.usesMargins)
  | .center _ ⟨element, shift⟩, .center _ e =>
    (orIdentical element e.element (agree follow element e.element)).and <|
    orIdentical shift e.offset (agree follow shift e.offset)
  | .elementAxis _ ⟨element, along⟩, .elementAxis _ a =>
    (orIdentical element a.element (agree follow element a.element)).and <|
    orIdentical along a.axis (agree follow along a.axis)
  | .relationship _ ⟨lhs, rhs, sign⟩, .relationship _ r =>
    (orIdentical lhs r.lhs (agree follow lhs r.lhs)).and <|
    (orIdentical rhs r.rhs (agree follow rhs r.rhs)).and <|
    orIdentical sign r.relation (agree follow sign r.relation)
  | .record _ ⟨subject, subjectAttribute, sign, object, objectAttribute, multiplier, constant, priority⟩,
      .record _ r =>
    (orIdentical subject r.subject (agree follow subject r.subject)).and <|
    (orIdentical subjectAttribute r.subjectAttribute (agree follow subjectAttribute r.subjectAttribute)).and <|
    (orIdentical sign r.relation (agree follow sign r.relation)).and <|
    (orIdentical object r.object (agree follow object r.object)).and <|
    (orIdentical objectAttribute r.objectAttribute (agree follow objectAttribute r.objectAttribute)).and <|
    (orIdentical multiplier r.multiplier (agree follow multiplier r.multiplier)).and <|
    (orIdentical constant r.constant (agree follow constant r.constant)).and <|
    orIdentical priority r.priority (agree follow priority r.priority)
  | .pending _ ⟨held, anchor⟩, .pending _ p =>
    (orIdentical held p.record (agree follow held p.record)).and <|
    orIdentical anchor p.anchor (agree follow anchor p.anchor)
  | .offset _ ⟨horizontal, vertical⟩, .offset _ o =>
    (orIdentical horizontal o.horizontal (agree follow horizontal o.horizontal)).and <|
    orIdentical vertical o.vertical (agree follow vertical o.vertical)
  | .insets _ ⟨top, left, bottom, right⟩, .insets _ i =>
    (orIdentical top i.top (agree follow top i.top)).and <|
    (orIdentical left i.left (agree follow left i.left)).and <|
    (orIdentical bottom i.bottom (agree follow bottom i.bottom)).and <|
    orIdentical right i.right (agree follow right i.right)
  | .frame _ ⟨x, y, width, height, margins⟩, .frame _ f =>
    (orIdentical x f.x (agree follow x f.x)).and <|
    (orIdentical y f.y (agree follow y f.y)).and <|
    (orIdentical width f.width (agree follow width f.width)).and <|
    (orIdentical height f.height (agree follow height f.height)).and <|
    orIdentical margins f.margins (agree follow margins f.margins)
  | .config _ ⟨priority, low, high, compression, expansion, margin⟩, .config _ c =>
    (orIdentical priority c.defaultPriority (agree follow priority c.defaultPriority)).and <|
    (orIdentical low c.minPriority (agree follow low c.minPriority)).and <|
    (orIdentical high c.maxPriority (agree follow high c.maxPriority)).and <|
    (orIdentical compression c.defaultCompression (agree follow compression c.defaultCompression)).and <|
    (orIdentical expansion c.defaultExpansion (agree follow expansion c.defaultExpansion)).and <|
    orIdentical margin c.defaultMargin (agree follow margin c.defaultMargin)
  | .array mark a, b => follow (.array mark a) b
  | a, .array mark b => follow a (.array mark b)
  | a, b => .ok (a.identical b)

def agreeItems (follow : Value → Value → Fallible Bool) : List Value → List Value → Fallible Bool
  | [], [] => .ok true
  | a :: as, b :: bs => (orIdentical a b (agree follow a b)).and (agreeItems follow as bs)
  | _, _ => .ok false

-- Every entry of the first has one with the same key and content in the second, wherever it stands there.
def agreeEntries (follow : Value → Value → Fallible Bool) :
    List (Value × Value) → List (Value × Value) → Fallible Bool
  | [], _ => .ok true
  | (key, content) :: rest, entries => do
    match ← find? (fun other => orIdentical key other (agree follow key other)) entries with
    | some other => (orIdentical content other (agree follow content other)).and (agreeEntries follow rest entries)
    | .none => return false

end

mutual

-- Lists, tables, recordings and configurations can change or compare by content, so they are no keys, and neither is
-- what holds one.
def isKey : Value → Bool
  | .list _ _ | .shared _ | .array _ _ | .dict _ _ | .recording _ | .config _ _ => false
  | .tuple _ items => areKeys items
  | .linear _ ⟨_, element, what, constant, multiplier, priority⟩ =>
    isKey element && isKey what && isKey constant && isKey multiplier && isKey priority
  | .edges _ ⟨element, inset, usesMargins⟩ => isKey element && isKey inset && isKey usesMargins
  | .center _ ⟨element, shift⟩ => isKey element && isKey shift
  | .elementAxis _ ⟨element, along⟩ => isKey element && isKey along
  | .relationship _ ⟨lhs, rhs, sign⟩ => isKey lhs && isKey rhs && isKey sign
  | .record _ ⟨subject, subjectAttribute, sign, object, objectAttribute, multiplier, constant, priority⟩ =>
    isKey subject && isKey subjectAttribute && isKey sign && isKey object && isKey objectAttribute &&
      isKey multiplier && isKey constant && isKey priority
  | .pending _ ⟨held, anchor⟩ => isKey held && isKey anchor
  | .offset _ ⟨horizontal, vertical⟩ => isKey horizontal && isKey vertical
  | .insets _ ⟨top, left, bottom, right⟩ => isKey top && isKey left && isKey bottom && isKey right
  | .frame _ ⟨x, y, width, height, margins⟩ => isKey x && isKey y && isKey width && isKey height && isKey margins
  | _ => true

def areKeys : List Value → Bool
  | [] => true
  | item :: rest => isKey item && areKeys rest

end

-- Whether two keys are the same. There are no references in a key that would have to be followed.
def sameKey (a b : Value) : Bool :=
  match orIdentical a b (agree (fun _ _ => .ok false) a b) with
  | .ok same => same
  | .error _ => false

end Value

abbrev Table := List (Value × Value)

namespace Table

def get? (table : Table) (key : Value) : Option Value :=
  (table.find? fun entry => entry.1.sameKey key).map Prod.snd

def mapValues (f : Value → Value) (table : Table) : Table := table.map fun (key, v) => (f key, f v)

-- A new value for a key that is present takes the place of the old one; a new key comes last.
def put : Table → Value → Value → Table
  | [], key, value => [(key, value)]
  | entry :: rest, key, value =>
    if entry.1.sameKey key then (entry.1, value) :: rest else entry :: put rest key value

end Table

end LayoutAlgebra
