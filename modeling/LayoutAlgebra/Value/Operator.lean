import LayoutAlgebra.Number.Basic
import LayoutAlgebra.Number.Decimal
import LayoutAlgebra.Surroundings
set_option autoImplicit false

namespace LayoutAlgebra

namespace Value

def toDouble : Value → Fallible Double
  | .number _ n => .ofArithmetic n.toDouble
  | .bool b => .ofArithmetic (Number.ofBool b).toDouble
  | .text _ s =>
    match Double.ofText? s with
    | some x => .ok x
    | .none => .error .wrongContent
  | _ => .error .wrongType

-- A value as a double; one that is a double already stays the object that it is.
def asDouble : Value → Fallible Value
  | .number mark (.double x) => .ok (.number mark (.double x))
  | v => do return .double (← v.toDouble)

mutual

def negated : Value → Fallible Value
  | .number _ n => .ok (.number .new n.neg)
  | .bool b => .ok (.number .new (Number.ofBool b).neg)
  | .offset _ ⟨horizontal, vertical⟩ => do
    let horizontal ← negated horizontal
    let vertical ← negated vertical
    return .offset .new ⟨horizontal, vertical⟩
  | .insets _ ⟨top, left, bottom, right⟩ => do
    let top ← negated top
    let left ← negated left
    let bottom ← negated bottom
    let right ← negated right
    return .insets .new ⟨top, left, bottom, right⟩
  | .array _ (.wholes g) => .ok (.array .new (.wholes (g.map fun n => wordOf (-n))))
  | .array _ (.naturals g) => .ok (.array .new (.naturals (g.map fun n => naturalWordOf (-Int.ofNat n))))
  | .array _ (.doubles g) => .ok (.array .new (.doubles (g.map fun x => -x)))
  | .array _ (.general ⟨shape, entries⟩) => do
    let entries ← allNegated entries
    return .array .new (.general ⟨shape, entries⟩)
  | _ => .error .wrongType

def allNegated : List Value → Fallible (List Value)
  | [] => .ok []
  | v :: rest => do
    let v ← negated v
    return v :: (← allNegated rest)

end

def absolute : Value → Fallible Value
  | .array _ (.truths g) => .ok (.array .new (.truths g))
  | .array _ (.wholes g) => .ok (.array .new (.wholes (g.map fun n => wordOf n.natAbs)))
  | .array _ (.naturals g) => .ok (.array .new (.naturals g))
  | .array _ (.doubles g) => .ok (.array .new (.doubles (g.map Double.abs)))
  | .array _ (.texts _) => .error .noEntryOperation
  | .array _ (.general g) => do return .array .new (.general (← g.mapM ofNumber))
  | v => ofNumber v
where
  ofNumber (v : Value) : Fallible Value :=
    match v.number? with
    | some n => .ok (.number .new n.abs)
    | .none => .error .wrongType

-- Both displacements are read from the value, each for itself; a double is read as the object that it is.
def uniformOffset : Value → Fallible (Offset Value)
  | .number mark (.double x) => .ok (.uniform ((Value.number mark (.double x)).jointly 0))
  | v => do return .uniform (← v.asDouble)

def uniformInsets (v : Value) : Fallible (Insets Value) := do return .uniform ((← v.asDouble).jointly 0)

def insetsOf (o : Offset Value) : Insets Value := .ofOffset ⟨o.horizontal.jointly 0, o.vertical.jointly 1⟩

end Value

def Edges.offsetBy (e : Edges Value) : Value → Fallible (Edges Value)
  | .insets mark i => .ok { e with insets := .insets mark i }
  | .offset _ o => .ok { e with insets := .insets .new (Value.insetsOf o) }
  | .number mark n => do return { e with insets := .insets .new (← Value.uniformInsets (.number mark n)) }
  | amount => .error (.edgesOffset amount)

def Center.offsetBy (e : Center Value) : Value → Fallible (Center Value)
  | .offset mark o => .ok { e with offset := .offset mark o }
  | .number mark n => do return { e with offset := .offset .new (← Value.uniformOffset (.number mark n)) }
  | amount => .error (.centerOffset amount)

def Value.directed (back : Bool) (v : Value) : Fallible Value := if back then v.negated else .ok v

-- The operator on edges takes what `offsetBy` takes and has no words of its own for the rest.
def Edges.shifted (e : Edges Value) (back : Bool) : Value → Fallible Value
  | amount@(.insets _ _) | amount@(.offset _ _) | amount@(.number _ _) => do
    return .edges .new (← e.offsetBy (← amount.directed back))
  | _ => .error .wrongType

def Center.shifted (e : Center Value) (back : Bool) : Value → Fallible Value
  | amount@(.offset _ _) | amount@(.number _ _) => do
    return .center .new (← e.offsetBy (← amount.directed back))
  | _ => .error .wrongType

-- Why text has no operation with other cells. No quotient takes text at all, and a product of text with words stands
-- for another operation, which is none here; for the rest there is no such operation among entries.
def Operation.refusalOfText (op : Operation) (a b : CellKind) : Failure :=
  match op with
  | .div => .wrongType
  | .mul => if a.isWord || b.isWord then .wrongType else .noEntryOperation
  | .add | .sub => .noEntryOperation

-- The entries at each place combined, as entries of the later kind; quotients are doubles at least. Text has no
-- operations.
def Cells.combine (op : Operation) (general : Value → Value → Fallible Value) (a b : Cells Value) :
    Fallible (Cells Value) :=
  let onDoubles : Fallible (Cells Value) := do
    return .doubles ((← a.asDoubles.paired b.asDoubles).map fun (x, y) => op.onDoubles x y)
  match a.kind.join b.kind with
  | .truth =>
    match a, b, op.onTruths? with
    | .truths g, .truths h, some f => do return .truths ((← g.paired h).map fun (p, q) => f p q)
    | _, _, _ => if op = .div then onDoubles else .error .wrongType
  | .whole =>
    match op.onWords? with
    | some f => do return .wholes ((← a.asWholes.paired b.asWholes).map fun (m, n) => wordOf (f m n))
    | none => onDoubles
  | .natural =>
    match op.onWords? with
    | some f => do return .naturals ((← a.asWholes.paired b.asWholes).map fun (m, n) => naturalWordOf (f m n))
    | none => onDoubles
  | .double => onDoubles
  | .text => .error (op.refusalOfText a.kind b.kind)
  | .general => do return .general (← (← a.values.paired b.values).mapM fun (v, w) => general v w)

def Operation.purpose (op : Operation) : Purpose := if op = .div then .quotient else .combination

namespace Value

def combineWith (op : Operation) (n : Number) (cells : Cells Value) : Fallible (Cells Value) := do
  let operand ← (Value.number .new n).cellsBeside (fun v => v) op.purpose cells.kind
  cells.combine op (fun _ _ => .error .wrongType) operand

mutual

def shifted (back : Bool) (mark : Mark) (n : Number) : Value → Fallible Value
  | .number _ m => do return .number .new (← Fallible.ofArithmetic (if back then m.sub n else m.add n))
  | .bool b => do
    let m := Number.ofBool b
    return .number .new (← Fallible.ofArithmetic (if back then m.sub n else m.add n))
  | .linear _ ⟨kind, element, what, constant, multiplier, priority⟩ => do
    let constant ← shifted back mark n constant
    return .linear .new ⟨kind, element, what, constant, multiplier, priority⟩
  | .edges _ e => e.shifted back (.number mark n)
  | .center _ e => e.shifted back (.number mark n)
  | .array _ (.general ⟨shape, entries⟩) => do
    let entries ← allShifted back mark n entries
    return .array .new (.general ⟨shape, entries⟩)
  | .array _ cells => do return .array .new (← combineWith (if back then .sub else .add) n cells)
  | _ => .error .wrongType

def allShifted (back : Bool) (mark : Mark) (n : Number) : List Value → Fallible (List Value)
  | [] => .ok []
  | v :: rest => do
    let v ← shifted back mark n v
    return v :: (← allShifted back mark n rest)

end

def arithmetic (op : Operation) (a b : Value) : Fallible Value :=
  match a.number?, b.number? with
  | some m, some n => do return .number .new (← Fallible.ofArithmetic (op.onNumbers m n))
  | _, _ => .error .wrongType

def add : Value → Value → Fallible Value
  | .text m s, .text n t =>
    .ok (if t.isEmpty then .text m s else if s.isEmpty then .text n t else .ofText (s ++ t))
  | .list _ xs, .list _ ys => .ok (.ofList (xs ++ ys))
  | .tuple m xs, .tuple n ys =>
    .ok (if xs.isEmpty then .tuple n ys else if ys.isEmpty then .tuple m xs else .tuple .new (xs ++ ys))
  | .edges _ e, b => e.shifted false b
  | .center _ e, b => e.shifted false b
  | a, .number mark n => a.shifted false mark n
  | .number mark n, .linear m e => (Value.linear m e).shifted false mark n
  | a, b => arithmetic .add a b

def sub : Value → Value → Fallible Value
  | .edges _ e, b => e.shifted true b
  | .center _ e, b => e.shifted true b
  | a, .number mark n => a.shifted true mark n
  | a, b => arithmetic .sub a b

-- How often a sequence is repeated: less than once is not at all, and a count out of bounds is an overflow, as is for
-- text a length out of bounds. A length past all memory cannot be made.
def repeated (isText : Bool) (count : Int) (length : Nat) : Fallible Nat :=
  if !isWord count then .error (.arithmetic .overflow)
  else if count ≤ 0 || length = 0 then .ok 0
  else if isText && greatestWord < count * length then .error (.arithmetic .overflow)
  else if count * length < 0x80000000 then .ok count.toNat
  else .error .noMemory

def repeatItems (count : Int) (items : List Value) : Fallible (List Value) := do
  return (List.replicate (← repeated false count items.length) items).flatten

def repeatText (count : Int) (mark : Mark) (s : String) : Fallible Value := do
  let times ← repeated true count s.length
  return if times = 1 then .text mark s else .ofText (String.join (List.replicate times s))

def repeatTuple (count : Int) (mark : Mark) (items : List Value) : Fallible Value := do
  let repetition ← repeatItems count items
  return if count = 1 then .tuple mark items else .tuple .new repetition

-- A factor replaces the multiplier of an expression, it does not combine with it.
def scaled (e : Expression) (factor : Value) : Fallible Value := do
  return .linear .new { e with multiplier := ← factor.asDouble }

def mul (a b : Value) : Fallible Value :=
  match a, b, a.count?, b.count? with
  | .linear _ e, .number m n, _, _ | .number m n, .linear _ e, _, _ => scaled e (.number m n)
  | .text mark s, _, _, some count | _, .text mark s, some count, _ => repeatText count mark s
  | .list _ items, _, _, some count | _, .list _ items, some count, _ => do
    return .ofList (← repeatItems count items)
  | .tuple mark items, _, _, some count | _, .tuple mark items, some count, _ => repeatTuple count mark items
  | a, b, _, _ => arithmetic .mul a b

mutual

def dividedBy (n : Number) : Value → Fallible Value
  | .number _ m => do return .number .new (← Fallible.ofArithmetic (m.div n))
  | .bool b => do return .number .new (← Fallible.ofArithmetic ((Number.ofBool b).div n))
  | .linear mark ⟨kind, element, what, constant, multiplier, priority⟩ =>
    if n.isZero then .error (.zeroDivisor (.linear mark ⟨kind, element, what, constant, multiplier, priority⟩))
    else do
      let multiplier ← dividedBy n multiplier
      return .linear .new ⟨kind, element, what, constant, multiplier, priority⟩
  | .array _ (.general ⟨shape, entries⟩) => do
    let entries ← allDividedBy n entries
    return .array .new (.general ⟨shape, entries⟩)
  | .array _ cells => do return .array .new (← combineWith .div n cells)
  | _ => .error .wrongType

def allDividedBy (n : Number) : List Value → Fallible (List Value)
  | [] => .ok []
  | v :: rest => do
    let v ← dividedBy n v
    return v :: (← allDividedBy n rest)

end

def div : Value → Value → Fallible Value
  | a, .number _ n => a.dividedBy n
  | a, b => arithmetic .div a b

def prioritized : Value → Value → Fallible Value
  | .linear _ e, .number m n => .ok (.linear .new { e with priority := .number m n })
  | _, _ => .error .wrongType

end Value

def Value.sumOfProducts : List (Value × Value) → Fallible Value
  | [] => .ok (.int 0)
  | (v, w) :: rest => do
    rest.foldlM (fun sum (x, y) => do sum.add (← x.mul y)) (← v.mul w)

-- The product of two grids of cells, rows with columns. Of truth values it says whether any two of a pair both hold.
def Cells.product (a b : Cells Value) : Fallible (Cells Value) :=
  let wholeSum : List (Int × Int) → Int := fun pairs => pairs.foldl (fun sum (m, n) => sum + m * n) 0
  match a.kind.join b.kind with
  | .truth => do
    return .truths ((← a.asWholes.productPairs b.asWholes).map fun pairs => pairs.any fun (m, n) => m == 1 && n == 1)
  | .whole => do return .wholes ((← a.asWholes.productPairs b.asWholes).map fun pairs => wordOf (wholeSum pairs))
  | .natural => do
    return .naturals ((← a.asWholes.productPairs b.asWholes).map fun pairs => naturalWordOf (wholeSum pairs))
  | .double => do
    return .doubles ((← a.asDoubles.productPairs b.asDoubles).map fun pairs =>
      pairs.foldl (fun sum (x, y) => sum + x * y) (.zero false))
  | .text => .error .noEntryOperation
  | .general => do return .general (← (← a.values.productPairs b.values).mapM Value.sumOfProducts)

namespace Surroundings

-- Operands as the operators see them: a list is the same to them whoever keeps it, and beside an array there are only
-- arrays.
def calculate (around : Surroundings) (op : Operation) (single : Value → Value → Fallible Value) (a b : Value) :
    Fallible Value :=
  match around.betweenCells op.purpose (Cells.combine op single) a b with
  | some cells => do return .array .new (← cells)
  | none => single (around.opened a) (around.opened b)

def add (around : Surroundings) : Value → Value → Fallible Value := around.calculate .add Value.add
def sub (around : Surroundings) : Value → Value → Fallible Value := around.calculate .sub Value.sub
def mul (around : Surroundings) : Value → Value → Fallible Value := around.calculate .mul Value.mul
def div (around : Surroundings) : Value → Value → Fallible Value := around.calculate .div Value.div

def prioritize (around : Surroundings) (a b : Value) : Fallible Value :=
  match around.betweenCells .combination Cells.product a b with
  | some product => do return .ofCells (← product)
  | none => a.prioritized b

end Surroundings

end LayoutAlgebra
