import LayoutAlgebra.Scene.Tree
set_option autoImplicit false

/-!
Compilation of relations, edges, centres and proportions into records. A record always has an element as its subject: a
literal on the left changes places with the other side, and the relation turns round with it. The subject side has no room
for an offset or a scale; they are ignored and told.
-/
namespace LayoutAlgebra

inductive Level where
  | warning
  | debug
deriving DecidableEq

inductive Event where
  | ignoredTransform (constant multiplier attr : Value)
  | compiled (record : ConstraintRecord Value)
  | submitted (count : Nat) (sink : Value)

namespace Event

def level : Event → Level
  | .ignoredTransform _ _ _ => .warning
  | .compiled _ | .submitted _ _ => .debug

def line (s : Scene) (event : Event) : Fallible String := do
  let text ← match event with
    | .ignoredTransform constant multiplier attr => do
      let constant ← constant.briefNumber
      let multiplier ← multiplier.briefNumber
      pure ("Ignoring offset " ++ constant ++ " and multiplier " ++ multiplier ++
        " on the subject side of a constraint on " ++ (← s.surroundings.word attr) ++ "; move them to the other side")
    | .compiled record => do pure ("Compiled " ++ (← s.surroundings.sentence record))
    | .submitted count sink => do
      pure ("Submitted " ++ toString count ++ " constraint(s) to " ++ (← s.surroundings.full sink))
  return Text.hideAddresses text

end Event

abbrev History := List (Scene × Event)

-- A result and the events before it. A failure keeps the events that came first.
structure Logged (α : Type) where
  result : Fallible α
  events : List Event

namespace Logged

def of {α : Type} (result : Fallible α) : Logged α := ⟨result, []⟩

def bind {α β : Type} (first : Logged α) (next : α → Logged β) : Logged β :=
  match first.result with
  | .error failure => ⟨.error failure, first.events⟩
  | .ok a =>
    let rest := next a
    ⟨rest.result, first.events ++ rest.events⟩

instance : Monad Logged where
  pure a := ⟨.ok a, []⟩
  bind := Logged.bind
  map f logged := ⟨logged.result.map f, logged.events⟩

def tell (events : List Event) : Logged Unit := ⟨.ok (), events⟩

def history {α : Type} (s : Scene) (logged : Logged α) : History := logged.events.map fun event => (s, event)

end Logged

namespace Linear

def tellIgnored (around : Surroundings) (subject : Expression) : Logged Unit := do
  if ← Logged.of (do (← subject.isIdentity around).truth) then return
  if subject.attr.hasWord then Logged.tell [.ignoredTransform subject.constant subject.multiplier subject.attr]
  else Logged.of (.error .noMember)

end Linear

structure Oriented where
  subject : Expression
  object : Expression
  relation : Value

def Value.mirrored : Value → Fallible Value
  | .relation sign => .ok (.relation sign.mirrored)
  | _ => .error .noMember

def orient (lhs rhs : Expression) (relation : Value) : Fallible Oriented :=
  if lhs.hasElement then .ok ⟨lhs, rhs, relation⟩
  else if rhs.hasElement then do return ⟨rhs, lhs, ← relation.mirrored⟩
  else .error .twoLiterals

def resolvePriority (around : Surroundings) (config : Value) (subject object : Expression) : Fallible Value :=
  match config with
  | .config _ c =>
    let carried := if object.priority.isNone then subject.priority else object.priority
    c.checkPriority around (if carried.isNone then c.defaultPriority else carried) (.ofText "priority")
  | _ => .error .noMember

namespace Scene

def emit (record : ConstraintRecord Value) (anchor : Value) : Logged (Pending Value) :=
  ⟨.ok ⟨.record .new record, anchor⟩, [.compiled record]⟩

-- An object without an element has no tree to share, and the record stays on its subject.
def compileLinear (s : Scene) (config : Value) (o : Oriented) : Logged (Pending Value) := do
  o.subject.tellIgnored s.surroundings
  let anchor ← Logged.of <|
    if o.object.hasElement then s.commonAncestor o.subject.element o.object.element else .ok o.subject.element
  let priority ← Logged.of (resolvePriority s.surroundings config o.subject o.object)
  emit { subject := o.subject.element, subjectAttribute := o.subject.attr, relation := o.relation,
         object := o.object.element, objectAttribute := o.object.attr, multiplier := o.object.multiplier,
         constant := o.object.constant, priority } anchor

def compileRatio (s : Scene) (config : Value) (lhs rhs : Expression) (relation : Value) : Logged (Pending Value) := do
  lhs.tellIgnored s.surroundings
  let priority ← Logged.of (resolvePriority s.surroundings config lhs rhs)
  let record : ConstraintRecord Value :=
    { subject := lhs.element, subjectAttribute := .attr .width, relation, object := rhs.element,
      objectAttribute := .attr .height, multiplier := rhs.multiplier, constant := rhs.constant, priority }
  let anchor ← Logged.of (s.commonAncestor lhs.element rhs.element)
  emit record anchor

def compileSides (s : Scene) (config : Value) (lhs rhs : Expression) (relation : Value) : Logged (Pending Value) :=
  if lhs.kind ≠ rhs.kind then .of (.error (.kindMismatch lhs.kind rhs.kind))
  else if lhs.kind = .ratio then s.compileRatio config lhs rhs relation
  else
    match orient lhs rhs relation with
    | .error failure => .of (.error failure)
    | .ok o => s.compileLinear config o

def compile (s : Scene) (config relationship : Value) : Logged (List (Pending Value)) :=
  match relationship with
  | .relationship _ ⟨.linear _ lhs, .linear _ rhs, relation⟩ => do
    let pending ← s.compileSides config lhs rhs relation
    return [pending]
  | _ => .of (.error .noMember)

def compileAll (s : Scene) (config : Value) : List Value → Logged (List (Pending Value))
  | [] => .of (.ok [])
  | relationship :: rest => do
    let first ← s.compile config relationship
    (first ++ ·) <$> compileAll s config rest

def elementOf : Value → Fallible Value
  | .linear _ e => .ok e.element
  | .edges _ e => .ok e.element
  | .center _ e => .ok e.element
  | .elementAxis _ a => .ok a.element
  | _ => .error .noMember

-- One constant per edge. Right and bottom move inwards by going back. A view has edges of its own, but they are
-- expressions, which cannot be turned round.
def sideConstants : Value → Fallible (List (Attribute × Value))
  | .insets _ i => do
    let right ← i.right.negated
    let bottom ← i.bottom.negated
    return [(.top, i.top), (.left, i.left), (.right, right), (.bottom, bottom)]
  | .view _ => .error .wrongType
  | _ => .error .noMember

def defaultPriority : Value → Fallible Value
  | .config _ c => .ok c.defaultPriority
  | _ => .error .noMember

def emitAll (anchor : Value) : List (ConstraintRecord Value) → Logged (List (Pending Value))
  | [] => .of (.ok [])
  | record :: rest => do
    let first ← emit record anchor
    (first :: ·) <$> emitAll anchor rest

def alignment (subject object : Value) (subjectAttribute objectAttribute : Attribute) (constant priority : Value) :
    ConstraintRecord Value :=
  { subject, subjectAttribute := .attr subjectAttribute, relation := .relation .equal, object,
    objectAttribute := .attr objectAttribute, multiplier := .number (.standing "alignment scale") (.double (.round 1)),
    constant, priority }

def compileEdges (s : Scene) (config element edges subjectMargins : Value) : Logged (List (Pending Value)) := do
  let object ← Logged.of (elementOf edges)
  let anchor ← Logged.of (s.commonAncestor element object)
  match edges with
  | .edges _ e =>
    let sides ← Logged.of (sideConstants e.insets)
    let onMargins ← Logged.of (s.surroundings.truth subjectMargins)
    let ofMargins ← Logged.of (s.surroundings.truth e.usesMargins)
    let priority ← Logged.of (defaultPriority config)
    emitAll anchor (sides.map fun (attr, constant) =>
      alignment element object (if onMargins then attr.withMargin else attr)
        (if ofMargins then attr.withMargin else attr) constant priority)
  | _ => Logged.of (.error .noMember)

def compileCenter (s : Scene) (config element center : Value) : Logged (List (Pending Value)) := do
  let object ← Logged.of (elementOf center)
  let anchor ← Logged.of (s.commonAncestor element object)
  match center with
  | .center _ ⟨_, .offset _ o⟩ =>
    let priority ← Logged.of (defaultPriority config)
    emitAll anchor [alignment element object .centerX .centerX o.horizontal priority,
      alignment element object .centerY .centerY o.vertical priority]
  | _ => Logged.of (.error .noMember)

def ratioOf (element : Value) : Fallible Expression := (Linear.reading .ratio element .height).check

def compileProportion (s : Scene) (config element value : Value) : Logged (List (Pending Value)) := do
  let e ← Logged.of (ratioOf element)
  let r ← Logged.of ((Value.linear .new e).equalTo value)
  let config ← Logged.of (s.configOrStandard config)
  s.compile config (.relationship .new r)

end Scene

end LayoutAlgebra
