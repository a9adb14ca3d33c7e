import LayoutAlgebra.Scene
set_option autoImplicit false

namespace LayoutAlgebra

def Value.isIn (views : List ViewId) : Value → Bool
  | .view v => views.contains v
  | _ => false

def ConstraintRecord.involves (r : ConstraintRecord Value) (views : List ViewId) : Bool :=
  r.subject.isIn views || r.object.isIn views

def recordsOutside (views : List ViewId) : List Value → Fallible (List Value)
  | [] => .ok []
  | .record mark r :: rest => do
    let kept ← recordsOutside views rest
    return if r.involves views then kept else .record mark r :: kept
  | _ :: _ => .error .noMember

namespace Scene

-- A view and what contains it, innermost first, as far as `steps` go.
def climb (s : Scene) : Nat → ViewId → List ViewId
  | 0, v => [v]
  | steps + 1, v =>
    match s.parent v with
    | none => [v]
    | some p => v :: climb s steps p

-- A view and all that contains it, up to its root. Without a cycle no chain is longer than the scene has views.
def ancestors (s : Scene) (v : ViewId) : List ViewId := s.climb s.views.length v

def descend (s : Scene) : Nat → ViewId → Fallible (List ViewId)
  | 0, _ => .error .endless
  | steps + 1, v => do
    let below ← (← s.childItems v).mapM fun
      | .view child => descend s steps child
      | _ => .error .noMember
    return v :: below.flatten

-- A view and all its descendants, each after its parent. Without a cycle no view is deeper than the scene has views.
def walk (s : Scene) (v : ViewId) : Fallible (List ViewId) := s.descend s.views.length v

def commonAncestor? (s : Scene) (a b : ViewId) : Option ViewId :=
  if a = b then some a else (s.ancestors b).find? fun candidate => (s.ancestors a).contains candidate

def ancestorsOf (s : Scene) : Value → Fallible (List ViewId)
  | .view v => .ok (s.ancestors v)
  | _ => .error .noMember

-- The nearest common ancestor of two elements; an element is one of its own. Any object is its own with itself.
def commonAncestor (s : Scene) (a b : Value) : Fallible Value :=
  if a.identical b then .ok a
  else
    match a, b with
    | .view v, .view w =>
      match s.commonAncestor? v w with
      | some w => .ok (.view w)
      | none => .error (.disjoint a b)
    | _, _ => .error .noMember

def dropInvolving (s : Scene) (views : List ViewId) : List ViewId → Fallible Unit × Scene
  | [] => (.ok (), s)
  | holder :: rest =>
    match s.constraintItems holder >>= recordsOutside views with
    | .error failure => (.error failure, s)
    | .ok kept => dropInvolving (s.modify holder fun view => view.replaceConstraints kept) views rest

def position? (around : Surroundings) (v : Value) : List Value → Fallible (Option Nat)
  | [] => .ok none
  | item :: rest => do
    if ← around.same item v then return some 0
    return (← position? around v rest).map (· + 1)

def appendGiven (s : Scene) (item : Value) : Value → Fallible Scene
  | .shared (.given k) => .ok (s.modifyList k (· ++ [item]))
  | _ => .error .noMember

def removeGiven (s : Scene) (item : Value) : Value → Fallible Scene
  | .shared (.given k) => do
    match ← position? s.surroundings item (s.listed (.given k)) with
    | some i => return s.modifyList k (·.eraseIdx i)
    | none => throw .wrongContent
  | _ => .error .noMember

def removeChild (s : Scene) (p c : ViewId) : Fallible Scene :=
  match s.givenChildren p with
  | none => .ok (s.modify p fun view => { view with children := view.children.erase c })
  | some given => s.removeGiven (.view c) given

def appendChild (s : Scene) (p c : ViewId) : Fallible Scene :=
  match s.givenChildren p with
  | none => .ok (s.modify p fun view => { view with children := view.children ++ [c] })
  | some given => s.appendGiven (.view c) given

def unlink (s : Scene) (p c : ViewId) : Fallible Unit × Scene :=
  match s.removeChild p c with
  | .error failure => (.error failure, s)
  | .ok s => (.ok (), s.modify c fun view => { view with parent := none })

def link (s : Scene) (p c : ViewId) : Fallible Unit × Scene :=
  match s.appendChild p c with
  | .error failure => (.error failure, s)
  | .ok s => (.ok (), s.modify c fun view => { view with parent := some p })

def detach (s : Scene) (v : ViewId) : Fallible Unit × Scene :=
  match s.parent v with
  | none => (.ok (), s)
  | some p =>
    match s.walk v with
    | .error failure => (.error failure, s)
    | .ok subtree =>
      match s.dropInvolving subtree (s.ancestors p) with
      | (.error failure, s) => (.error failure, s)
      | (.ok (), s) => s.unlink p v

def attach (s : Scene) (p c : ViewId) : Fallible Unit × Scene :=
  if (s.ancestors p).contains c then (.error (.cycle (.view c) (.view p)), s)
  else
    match s.detach c with
    | (.error failure, s) => (.error failure, s)
    | (.ok (), s) => s.link p c

def addSubview (s : Scene) (p : ViewId) : Value → Fallible Value × Scene
  | .view c =>
    match s.attach p c with
    | (.ok (), s) => (.ok (.view c), s)
    | (.error failure, s) => (.error failure, s)
  | _ => (.error .noMember, s)

structure ViewOptions where
  name : Value := .none
  parent : Value := .none
  layoutMargins : Value := .none
  sink : Value := .none
  config : Value := .none

def configOrStandard (s : Scene) (config : Value) : Fallible Value := do
  if ← s.surroundings.truth config then return config else return s.current .standardConfig

def newView (s : Scene) (options : ViewOptions) : Fallible View := do
  let config ← s.configOrStandard options.config
  let given ← s.surroundings.truth options.layoutMargins
  match config with
  | .config mark c =>
    let margins ← if given then pure options.layoutMargins else do
      pure (.insets .new (← Value.uniformInsets c.defaultMargin))
    return { name := options.name, parent := none, children := [], latest := [], former := [],
             sink := options.sink, config := .config mark c, layoutMargins := margins,
             compression := Axis.all.map fun along => (.axis along, c.defaultCompression),
             expansion := Axis.all.map fun along => (.axis along, c.defaultExpansion),
             givenChildren := none, givenConstraints := none }
  | _ => throw .noMember

def construct (s : Scene) (options : ViewOptions) : Fallible ViewId × Scene :=
  match s.newView options with
  | .error failure => (.error failure, s)
  | .ok view =>
    let v := s.views.length
    let (layoutMargins, counted) := s.keep view.layoutMargins
    let grown : Scene := { counted with views := counted.views ++ [{ view with layoutMargins }] }
    match options.parent with
    | .none => (.ok v, grown)
    | .view p =>
      match grown.attach p v with
      | (.ok (), s) => (.ok v, s)
      | (.error failure, _) => (.error failure, s)
    | _ => (.error .noMember, s)

def addConstraint (s : Scene) (v : ViewId) (record : Value) : Fallible Scene :=
  match s.givenConstraints v with
  | none => .ok (s.modify v fun view => view.addConstraint record)
  | some given => s.appendGiven record given

def removeConstraint (s : Scene) (v : ViewId) (record : Value) : Fallible Scene :=
  match s.givenConstraints v with
  | none => do
    match ← position? s.surroundings record (s.constraints v) with
    | some i => return s.modify v fun view => view.eraseConstraint i
    | none => throw .wrongContent
  | some given => s.removeGiven record given

def mapValues (s : Scene) (f : Value → Value) : Scene :=
  { s with
    views := s.views.map (View.mapValues f), recordings := s.recordings.map (Recording.mapValues f),
    lists := s.lists.map (·.map f), renewals := s.renewals.map fun (old, new) => (old, f new),
    added := s.added.map fun (object, name, v) => (f object, name, f v) }

def renew (s : Scene) (old new : Value) : Scene :=
  let renewals := (old, new) :: s.renewals.filter fun renewal => !renewal.1.identical old
  let s : Scene := { s with renewals }
  s.mapValues s.current

def keepList (s : Scene) (list : Value) (items : List Value) : Value × Scene :=
  let kept : Value := .shared (.given s.lists.length)
  (kept, { s with lists := s.lists ++ [items] }.renew list kept)

-- A value as it is given to a view. A list is kept by the scene, and so is one that a view kept and still uses.
def give (s : Scene) : Value → Value × Scene
  | .list mark items => s.keepList (.list mark items) items
  | .shared (.children w) =>
    let list : Value := .shared (.children w)
    let (kept, after) := s.keepList list (s.listed (.children w))
    if (s.childList w).identical list then (kept, after.modify w fun view => { view with givenChildren := some kept })
    else (kept, after)
  | .shared (.constraints w n) =>
    let list : Value := .shared (.constraints w n)
    let (kept, after) := s.keepList list (s.listed (.constraints w n))
    if (s.constraintList w).identical list then
      (kept, after.modify w fun view => { view.replaceConstraints [] with givenConstraints := some kept })
    else (kept, after)
  | v => (v, s)

def setChildren (s : Scene) (v : ViewId) (value : Value) : Scene :=
  let (given, s) := s.give value
  s.modify v fun view => { view with givenChildren := some given }

def setConstraints (s : Scene) (v : ViewId) (value : Value) : Scene :=
  let (given, s) := s.give value
  s.modify v fun view => { view.replaceConstraints [] with givenConstraints := some given }

def added? (s : Scene) (object : Value) (name : String) : Option Value :=
  (s.added.find? fun entry => entry.1.identical object && entry.2.1 = name).map fun entry => entry.2.2

def addProperty (s : Scene) (object : Value) (name : String) (v : Value) : Scene :=
  { s with added := (object, name, v) :: s.added }

end Scene

end LayoutAlgebra
