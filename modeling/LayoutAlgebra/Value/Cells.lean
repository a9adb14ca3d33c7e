import LayoutAlgebra.Failure
import LayoutAlgebra.Grid
import LayoutAlgebra.Number.Decimal
set_option autoImplicit false

namespace LayoutAlgebra

def Grid.paired {α β : Type} (a : Grid α) (b : Grid β) : Fallible (Grid (α × β)) :=
  match a.pair? b with
  | some pairs => .ok pairs
  | none => .error .wrongContent

def Grid.productPairs {α β : Type} (a : Grid α) (b : Grid β) : Fallible (Grid (List (α × β))) :=
  match a.productPairs? b with
  | some pairs => .ok pairs
  | none => .error .wrongContent

namespace Value

def cellKind : Value → CellKind
  | .bool _ => .truth
  | .number _ (.int n) => if isWord n then .whole else if isNaturalWord n then .natural else .general
  | .number _ (.double _) => .double
  | .text _ _ => .text
  | _ => .general

-- The text of a value among texts. A text there ends before the zero characters that it has at its end.
def asText : Value → String
  | .bool b => if b then "True" else "False"
  | .number _ (.int n) => toString n
  | .number _ (.double x) => x.full
  | .text _ s => String.ofList (s.toList.reverse.dropWhile (· = '\x00')).reverse
  | _ => ""

end Value

namespace Cells

def values : Cells Value → Grid Value
  | .truths g => g.map .bool
  | .wholes g => g.map .int
  | .naturals g => g.map fun (n : Nat) => .int n
  | .doubles g => g.map .double
  | .texts g => g.map .ofText
  | .general g => g

def asWholes {α : Type} : Cells α → Grid Int
  | .truths g => g.map fun b => if b then 1 else 0
  | .wholes g => g
  | .naturals g => g.map Int.ofNat
  | .doubles g => g.map fun _ => 0
  | .texts g => g.map fun _ => 0
  | .general g => g.map fun _ => 0

def asDoubles {α : Type} : Cells α → Grid Double
  | .truths g => g.map fun b => .round (if b then 1 else 0)
  | .wholes g => g.map fun (n : Int) => .round n
  | .naturals g => g.map fun (n : Nat) => .round n
  | .doubles g => g
  | .texts g => g.map fun _ => .nan
  | .general g => g.map fun _ => .nan

def ofValues (kind : CellKind) (g : Grid Value) : Cells Value :=
  match kind with
  | .truth => .truths (g.map fun v => v.number?.any fun n => !n.isZero)
  | .whole => .wholes (g.map fun v => (v.count?).getD 0)
  | .natural => .naturals (g.map fun v => ((v.count?).getD 0).toNat)
  | .double => .doubles (g.map fun v =>
      match v.number? with
      | some n => (n.toDouble.toOption).getD .nan
      | none => .nan)
  | .text => .texts (g.map Value.asText)
  | .general => .general g

def select? {α : Type} (picks : List Pick) : Cells α → Option (Cells α)
  | .truths g => (g.select? picks).map truths
  | .wholes g => (g.select? picks).map wholes
  | .naturals g => (g.select? picks).map naturals
  | .doubles g => (g.select? picks).map doubles
  | .texts g => (g.select? picks).map texts
  | .general g => (g.select? picks).map general

def agree (equal : Value → Value → Fallible Bool) (a b : Cells Value) : Fallible (Grid Bool) :=
  if a.kind.isIntegral && b.kind.isIntegral then do return (← a.asWholes.paired b.asWholes).map fun (m, n) => m == n
  else match a.kind.join b.kind with
  | .text =>
    match a, b with
    | .texts g, .texts h => do return (← g.paired h).map fun (s, t) => s == t
    | a, b => do return (← a.values.paired b.values).map fun _ => false
  | .double => do return (← a.asDoubles.paired b.asDoubles).map fun (x, y) => x.extended.same y.extended
  | _ => do (← a.values.paired b.values).mapM fun (v, w) => equal v w

end Cells

structure Layout where
  kind : Option CellKind
  grid : Grid Value

namespace Layout

def stack (parts : List Layout) : Fallible Layout :=
  match parts with
  | [] => .ok ⟨none, ⟨[0], []⟩⟩
  | first :: rest =>
    if rest.all fun part => part.grid.shape = first.grid.shape then
      .ok ⟨rest.foldl (fun kind part => kind.merge CellKind.join part.kind) first.kind,
        ⟨parts.length :: first.grid.shape, (parts.map fun part => part.grid.entries).flatten⟩⟩
    else .error .wrongContent

-- The layout of a value along so many axes at most; `opened` shows the list that a reference stands for.
def ofValue (opened : Value → Value) : Nat → Value → Fallible Layout
  | 0, v =>
    match opened v with
    | .array _ _ | .tuple _ _ | .list _ _ => .error .wrongContent
    | v => .ok ⟨some v.cellKind, .single v⟩
  | axes + 1, v =>
    match opened v with
    | .array _ cells =>
      if cells.shape.length ≤ axes + 1 then .ok ⟨some cells.kind, cells.values⟩ else .error .wrongContent
    | .tuple _ items | .list _ items => do stack (← items.mapM (ofValue opened axes))
    | v => .ok ⟨some v.cellKind, .single v⟩

def ofColumn (opened : Value → Value) (items : List Value) : Fallible Layout := do
  stack (← items.mapM (ofValue opened (Grid.mostAxes - 1)))

def cells (l : Layout) : Cells Value := .ofValues (l.kind.getD .double) l.grid

end Layout

inductive Purpose where
  | comparison
  | quotient
  | combination

namespace Value

def cells (opened : Value → Value) (v : Value) : Fallible (Cells Value) := do
  return (← Layout.ofValue opened Grid.mostAxes v).cells

-- A whole number by itself, as cells that meet cells of a kind: it is read as what it meets, and has to be in bounds
-- there. Truth values count as words with a sign, comparisons with words are exact, and quotients of words are those of
-- doubles.
def wholeBeside (purpose : Purpose) (kind : CellKind) (mark : Mark) (n : Int) : Fallible (Cells Value) :=
  match kind, purpose with
  | .double, _ | .truth, .quotient | .whole, .quotient | .natural, .quotient => do
    return .doubles (.single (← Fallible.ofArithmetic (Number.int n).toDouble))
  | .truth, _ | .whole, .combination =>
    if isWord n then .ok (.wholes (.single n)) else .error (.arithmetic .overflow)
  | .natural, .combination =>
    if isNaturalWord n then .ok (.naturals (.single n.toNat)) else .error (.arithmetic .overflow)
  | _, _ => .ok (.general (.single (.number mark (.int n))))

def cellsBeside (opened : Value → Value) (purpose : Purpose) (kind : CellKind) : Value → Fallible (Cells Value)
  | .number mark (.int n) => wholeBeside purpose kind mark n
  | v => v.cells opened

def onlyEntry (cells : Cells Value) : Fallible Value :=
  match cells.values.only? with
  | some entry => .ok entry
  | Option.none => .error .wrongContent

-- What a value picks from an array: a whole number one place, nothing a new axis, truth values the marked places, and a
-- sequence the places that it lists. No other value picks anything.
def pick (opened : Value → Value) (v : Value) : Fallible Pick :=
  match opened v with
  | .none => .ok .newAxis
  | .number _ (.int n) =>
    if isWord n then .ok (.place n)
    else .error (if isNaturalWord n then .arithmetic .overflow else .noIndex)
  | .array _ cells => ofCells cells
  | v => do
    let cells ← v.cells opened
    if cells.shape.contains 0 then return .places ⟨cells.shape, []⟩ else ofCells cells
where
  ofCells : Cells Value → Fallible Pick
    | .truths g => .ok (.marked g)
    | .wholes g => .ok (.places g)
    | .naturals g => .ok (.places (g.map fun (n : Nat) => wordOf n))
    | _ => .error .noIndex

def picks (opened : Value → Value) : Value → Fallible (List Pick)
  | .tuple _ items => items.mapM (pick opened)
  | v => do return [← v.pick opened]

def ofCells (cells : Cells Value) : Value :=
  match cells.shape, cells.values.entries with
  | [], [entry] => entry
  | _, _ => .array .new cells

def along (cells : Cells Value) : List Value :=
  match cells.shape with
  | [_] => cells.values.entries
  | _ => cells.rows.map (.array .new)

end Value

end LayoutAlgebra
