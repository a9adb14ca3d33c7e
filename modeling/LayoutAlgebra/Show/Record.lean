import LayoutAlgebra.Show
import LayoutAlgebra.Value.Comparison
set_option autoImplicit false

namespace LayoutAlgebra

def Surroundings.nameOf (around : Surroundings) : Value → Value
  | .view id => around.viewName id
  | .member m => .ofText m.name
  | _ => .none

-- The word for a field of a sentence. Members have a text; what a frame has under that name is no text but can be
-- written.
def Surroundings.word (around : Surroundings) : Value → Fallible String
  | .member m => .ok m.text
  | .frame mark f => around.full (.reader (.frame mark f))
  | _ => .error .noMember

def Value.hasWord : Value → Bool
  | .member _ | .frame _ _ => true
  | _ => false

namespace ConstraintRecord

def objectSide (around : Surroundings) (label : Value → Fallible String) (r : ConstraintRecord Value) :
    Fallible String := do
  let name ← label r.object
  let side := name ++ "." ++ (← around.word r.objectAttribute)
  let side ← if ← around.equals r.multiplier 1 then pure side else do
    pure (side ++ " * " ++ (← r.multiplier.brief))
  if ← around.truth r.constant then
    let below ← around.compare .lt r.constant (.int 0)
    let sign := if ← below.truth then "-" else "+"
    match r.constant.number? with
    | some n => return side ++ " " ++ sign ++ " " ++ (← (Value.number .new n.abs).brief)
    | none => throw .wrongType
  else return side

def sentence (around : Surroundings) (label : Value → Fallible String) (r : ConstraintRecord Value) :
    Fallible String := do
  let name ← label r.subject
  let lhs := name ++ "." ++ (← around.word r.subjectAttribute)
  let rhs ← if r.object.isNone then r.constant.brief else r.objectSide around label
  let sign ← around.word r.relation
  return lhs ++ " " ++ sign ++ " " ++ rhs ++ " @" ++ (← r.priority.brief)

end ConstraintRecord

namespace Surroundings

-- The words of an array by itself stand between blanks.
def plainArray (around : Surroundings) (cells : Cells Value) : Fallible String := do
  let large := Text.isLarge cells.shape
  let words ← match cells with
    | .general g => (Text.shownEntries large g.shape g.entries).mapM around.full
    | cells => pure (cells.words large)
  return bracketedArray " " 0 arrayWidth cells.shape words

-- The text of a value by itself or inside a sentence. A sentence calls an element by its name if it has one that counts
-- as true, else by its class; and a name may be a record again.
def plainTo (around : Surroundings) : Nat → Value → Fallible String
  | 0, _ => .error .endless
  | depth + 1, v =>
    match v with
    | .text _ s => .ok s
    | .array _ cells => around.plainArray cells
    | .member m => .ok (m.enumeration ++ "." ++ m.name)
    | .record _ r =>
      r.sentence around fun element => do
        let name := around.nameOf element
        if ← around.truth name then plainTo around depth name else return element.className
    | v => around.full v

def plain (around : Surroundings) (v : Value) : Fallible String := around.plainTo depth v

def sentence (around : Surroundings) (r : ConstraintRecord Value) : Fallible String := around.plain (.record .new r)

end Surroundings

namespace Failure

def message? (around : Surroundings) : Failure → Option (Fallible String)
  | .unbound | .wrongType | .wrongContent | .noMember | .noKey | .noIndex | .noMemory | .noEntryOperation
  | .endless | .arithmetic _ => none
  | .noTruth => some (.ok ("A relationship has no truth value; chained comparisons such as 'a <= b <= c' drop a bound, "
      ++ "use as_range() instead"))
  | .zeroDivisor e => some do return "Cannot divide " ++ (← around.full e) ++ " by zero"
  | .zeroRatio numerator denominator => some do
    return "Invalid ratio " ++ (← around.plain numerator) ++ ":" ++ (← around.plain denominator)
  | .unrelatable lhs => some (.ok ("Cannot relate " ++ lhs.className))
  | .unrelated lhs rhs => some (.ok ("Cannot relate " ++ lhs.className ++ " to " ++ rhs.className))
  | .kindMismatch lhs rhs =>
    some (.ok ("Cannot relate a " ++ lhs.tag ++ " expression to a " ++ rhs.tag ++ " expression"))
  | .twoLiterals =>
    some (.ok "Invalid constraint between two literals; at least one side must refer to an element")
  | .disjoint a b => some do
    return (← around.full a) ++ " and " ++ (← around.full b) ++
      " must descend from a common ancestor to be constrained together"
  | .literalAttribute what => some do return "A literal length cannot carry attribute " ++ (← around.word what)
  | .notLength a => some (.ok (a.tag ++ " is not a length attribute"))
  | .positionWithoutElement => some (.ok "A position expression requires an element")
  | .notPosition a => some (.ok (a.tag ++ " is not a position attribute"))
  | .ratioWithoutElement => some (.ok "A ratio expression requires an element")
  | .ratioNotHeight => some (.ok "A ratio expression always refers to a height")
  | .edgesOffset amount => some (.ok ("Cannot offset edges by " ++ amount.className))
  | .centerOffset amount => some (.ok ("Cannot offset a center by " ++ amount.className))
  | .edgesExpected got => some (.ok ("Expected edges, got " ++ got.className))
  | .centerExpected got => some (.ok ("Expected a center, got " ++ got.className))
  | .boundsCrossed low high => some do
    return "min_priority (" ++ (← around.plain low) ++ ") exceeds max_priority (" ++ (← around.plain high) ++ ")"
  | .outsideBounds what low high got => some do
    let subject ← around.plain what
    let low ← low.brief
    let high ← high.brief
    return subject ++ " must be in [" ++ low ++ ", " ++ high ++ "], got " ++ (← around.plain got)
  | .negativeMargin got => some do
    return "default_margin must be non-negative, got " ++ (← around.plain got)
  | .cycle child parent => some do
    return "Adding " ++ (← around.full child) ++ " to " ++ (← around.full parent) ++ " would create a cycle"
  | .noFrame element => some do return "No frame given for " ++ (← around.full element)

end Failure

end LayoutAlgebra
