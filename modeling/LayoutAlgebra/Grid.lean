set_option autoImplicit false

namespace LayoutAlgebra

-- The entries stand in one list, the last axis running fastest.
structure Grid (α : Type) where
  shape : List Nat
  entries : List α
deriving Inhabited

namespace Grid

variable {α β : Type}

def single (a : α) : Grid α := ⟨[], [a]⟩

def column (xs : List α) : Grid α := ⟨[xs.length], xs⟩

def mostAxes : Nat := 64

def volume (shape : List Nat) : Nat := shape.foldr (· * ·) 1

def map (f : α → β) (g : Grid α) : Grid β := ⟨g.shape, g.entries.map f⟩

def mapM {m : Type → Type} [Monad m] (f : α → m β) (g : Grid α) : m (Grid β) := do
  return ⟨g.shape, ← g.entries.mapM f⟩

def only? (g : Grid α) : Option α :=
  match g.entries with
  | [a] => some a
  | _ => none

def position? (length : Nat) (i : Int) : Option Nat :=
  let i := if i < 0 then i + length else i
  if 0 ≤ i ∧ i < length then some i.toNat else none

def pieces (length : Nat) : Nat → List α → List (List α)
  | 0, _ => []
  | count + 1, xs => xs.take length :: pieces length count (xs.drop length)

def rows (g : Grid α) : List (Grid α) :=
  match g.shape with
  | [] => []
  | count :: rest => (pieces (volume rest) count g.entries).map (Grid.mk rest)

def commonLength? (m n : Nat) : Option Nat :=
  if m = n then some m else if m = 1 then some n else if n = 1 then some m else none

-- The common lengths of axes that are counted from the last one; where one grid has no axis, the other decides.
def commonAxes? : List Nat → List Nat → Option (List Nat)
  | [], ns => some ns
  | ms, [] => some ms
  | m :: ms, n :: ns => do
    let length ← commonLength? m n
    return length :: (← commonAxes? ms ns)

def commonShape? (a b : List Nat) : Option (List Nat) := (commonAxes? a.reverse b.reverse).map List.reverse

def stretched : List (Nat × Nat) → List α → List α
  | [], xs => xs
  | (length, wanted) :: axes, xs =>
    let parts := ((pieces (volume (axes.map Prod.fst)) length xs).map (stretched axes)).flatten
    if length = wanted then parts else (List.replicate wanted parts).flatten

def stretchedTo (shape : List Nat) (g : Grid α) : List α :=
  stretched ((List.replicate (shape.length - g.shape.length) 1 ++ g.shape).zip shape) g.entries

def pair? (a : Grid α) (b : Grid β) : Option (Grid (α × β)) :=
  if a.shape = b.shape then some ⟨a.shape, a.entries.zip b.entries⟩
  else do
    let shape ← commonShape? a.shape b.shape
    return ⟨shape, (a.stretchedTo shape).zip (b.stretchedTo shape)⟩

-- What one side brings to a product: at each place of the outer axes the lists that are multiplied, how long they are,
-- and the axes that they stand along.
structure Factors (α : Type) where
  lists : Grid (List (List α))
  length : Nat
  axes : List Nat

def columns (width : Nat) (rows : List (List α)) : List (List α) :=
  (List.range width).map fun j => rows.filterMap fun row => row[j]?

def tables (length count : Nat) (outer : List Nat) (g : Grid α) : Grid (List (List α)) :=
  ⟨outer.reverse, (pieces (count * length) (volume outer) g.entries).map (pieces length count)⟩

def leftFactors? (g : Grid α) : Option (Factors α) :=
  match g.shape.reverse with
  | [] => none
  | [length] => some ⟨single [g.entries], length, []⟩
  | length :: count :: outer => some ⟨g.tables length count outer, length, [count]⟩

def rightFactors? (g : Grid α) : Option (Factors α) :=
  match g.shape.reverse with
  | [] => none
  | [length] => some ⟨single [g.entries], length, []⟩
  | width :: length :: outer => some ⟨(g.tables width length outer).map (columns width), length, [width]⟩

def productPairs? (a : Grid α) (b : Grid β) : Option (Grid (List (α × β))) := do
  let left ← a.leftFactors?
  let right ← b.rightFactors?
  if left.length ≠ right.length then none
  let places ← left.lists.pair? right.lists
  return ⟨places.shape ++ left.axes ++ right.axes,
    (places.entries.map fun (rows, columns) =>
      (rows.map fun row => columns.map fun column => row.zip column).flatten).flatten⟩

end Grid

-- What is picked: one place or several places along one axis, counted from its end if negative; the marked places along
-- as many axes as the marks have; or a new axis of length one.
inductive Pick where
  | place (i : Int)
  | places (g : Grid Int)
  | marked (g : Grid Bool)
  | newAxis

namespace Pick

def taken : Pick → Nat
  | place _ | places _ => 1
  | marked g => g.shape.length
  | newAxis => 0

def isNewAxis : Pick → Bool
  | newAxis => true
  | _ => false

def coordinates : List Nat → List (List Nat)
  | [] => [[]]
  | length :: axes => ((List.range length).map fun i => (coordinates axes).map (i :: ·)).flatten

def fits (marks axes : List Nat) : Bool :=
  marks.length = axes.length && (marks.zip axes).all fun (m, n) => m = 0 || m = n

-- The coordinates that a pick stands for along the axes that it takes. One place has to be there; of several places
-- those that are not there have no coordinates.
def along? (axes : List Nat) : Pick → Option (Grid (Option (List Nat)))
  | place i => (Grid.position? (axes.headD 0) i).map fun k => .single (some [k])
  | places g => some (g.map fun i => (Grid.position? (axes.headD 0) i).map ([·]))
  | marked g =>
    if fits g.shape axes then
      some (.column (((coordinates g.shape).zip g.entries).filterMap fun (coordinates, isMarked) =>
        if isMarked then some (some coordinates) else none))
    else none
  | newAxis => some (.single (some []))

def together? : List Nat → List Pick → Option (Grid (Option (List Nat)))
  | _, [] => some (.single (some []))
  | axes, pick :: rest => do
    if axes.length < pick.taken then none
    let first ← pick.along? (axes.take pick.taken)
    let others ← together? (axes.drop pick.taken) rest
    return (← first.pair? others).map fun (here, further) => do return (← here) ++ (← further)

-- The shape of what is picked: the axes of the places with the new axes around them, or before all new axes where some
-- of those stand between picks of places.
def shape (picked : List Nat) (picks : List Pick) : List Nat :=
  let ones (picks : List Pick) := List.replicate (picks.countP isNewAxis) 1
  let before := picks.takeWhile isNewAxis
  let rest := picks.dropWhile isNewAxis
  let after := rest.reverse.takeWhile isNewAxis
  if (rest.take (rest.length - after.length)).any isNewAxis then picked ++ ones picks
  else ones before ++ picked ++ ones after

end Pick

namespace Grid

variable {α : Type}

def part : List Nat → List Nat → List α → List α
  | _ :: axes, i :: place, xs => part axes place ((xs.drop (i * volume axes)).take (volume axes))
  | _, _, xs => xs

-- A selection fails if it takes axes or places that are not there, or places that do not go together, or if it has too
-- many axes. Places that meet none of the others are not looked for.
def select? (picks : List Pick) (g : Grid α) : Option (Grid α) := do
  let picked ← (← Pick.together? g.shape picks).mapM fun found => found
  let shape := Pick.shape picked.shape picks ++ g.shape.drop (picks.foldl (fun sum pick => sum + pick.taken) 0)
  if mostAxes < shape.length then none
  return ⟨shape, (picked.entries.map fun place => part g.shape place g.entries).flatten⟩

end Grid

end LayoutAlgebra
