import LayoutAlgebra.Value
set_option autoImplicit false

namespace LayoutAlgebra

def Mark.isKept : Mark → Bool
  | .new | .joint _ => false
  | .numbered _ | .standing _ => true

def Mark.same (m n : Mark) : Bool := m.isKept && m == n

namespace Value

def mark? : Value → Option Mark
  | .number mark _ | .text mark _ | .tuple mark _ | .list mark _ | .array mark _ | .dict mark _ | .linear mark _
  | .edges mark _ | .center mark _ | .elementAxis mark _ | .relationship mark _ | .record mark _ | .pending mark _
  | .offset mark _ | .insets mark _ | .frame mark _ | .config mark _ => some mark
  | _ => .none

-- Small whole numbers and the empty tuple exist once, whoever makes them.
def isShared : Value → Value → Bool
  | .number _ (.int m), .number _ (.int n) => m == n && -5 ≤ m && m ≤ 256
  | .tuple _ a, .tuple _ b => a.isEmpty && b.isEmpty
  | _, _ => false

def isJointWith (a b : Value) : Bool :=
  match a.mark?, b.mark? with
  | some (.joint j), some (.joint k) => j == k
  | _, _ => false

-- What became of the part that a part is joint with, if it is with one of those that are numbered.
def joined (numbered : List (Value × Value)) (part : Value) : Option Value :=
  (numbered.find? fun pair => pair.1.isJointWith part).map Prod.snd

def identical : Value → Value → Bool
  | .none, .none => true
  | .bool a, .bool b => a == b
  | .member m, .member n => m == n
  | .accessor a, .accessor b => a == b
  | .view a, .view b => a == b
  | .recording a, .recording b => a == b
  | .shared a, .shared b => a == b
  | .hierarchy a, .hierarchy b => a == b
  | .compiler a _, .compiler b _ => a == b
  | .reader (.frame m _), .reader (.frame n _) => m.same n
  | a, b =>
    match a.mark?, b.mark? with
    | some m, some n => m.same n || a.isShared b
    | _, _ => false

mutual

def numbered : Value → StateM Nat Value
  | .number .new n | .number (.joint _) n => do return .number (← next) n
  | .text .new s => do return .text (← next) s
  | .tuple .new items => do
    let items ← allNumbered items
    return .tuple (← next) items
  | .list .new items => do
    let items ← allNumbered items
    return .list (← next) items
  | .array .new (.general ⟨shape, entries⟩) => do
    let entries ← allNumbered entries
    return .array (← next) (.general ⟨shape, entries⟩)
  | .array .new cells => do return .array (← next) cells
  | .dict .new entries => do
    let entries ← entriesNumbered entries
    return .dict (← next) entries
  | .linear .new ⟨kind, element, what, constant, multiplier, priority⟩ => do
    let element ← numbered element
    let what ← numbered what
    let constant ← numbered constant
    let multiplier ← numbered multiplier
    let priority ← numbered priority
    return .linear (← next) ⟨kind, element, what, constant, multiplier, priority⟩
  | .edges .new ⟨element, inset, usesMargins⟩ => do
    let element ← numbered element
    let inset ← numbered inset
    let usesMargins ← numbered usesMargins
    return .edges (← next) ⟨element, inset, usesMargins⟩
  | .center .new ⟨element, shift⟩ => do
    let element ← numbered element
    let shift ← numbered shift
    return .center (← next) ⟨element, shift⟩
  | .elementAxis .new ⟨element, along⟩ => do
    let element ← numbered element
    let along ← numbered along
    return .elementAxis (← next) ⟨element, along⟩
  | .relationship .new ⟨lhs, rhs, sign⟩ => do
    let lhs ← numbered lhs
    let rhs ← numbered rhs
    let sign ← numbered sign
    return .relationship (← next) ⟨lhs, rhs, sign⟩
  | .record .new ⟨subject, subjectAttribute, sign, object, objectAttribute, multiplier, constant, priority⟩ => do
    let subject ← numbered subject
    let subjectAttribute ← numbered subjectAttribute
    let sign ← numbered sign
    let object ← numbered object
    let objectAttribute ← numbered objectAttribute
    let multiplier ← numbered multiplier
    let constant ← numbered constant
    let priority ← numbered priority
    return .record (← next)
      ⟨subject, subjectAttribute, sign, object, objectAttribute, multiplier, constant, priority⟩
  | .pending .new ⟨held, anchor⟩ => do
    let held ← numbered held
    let anchor ← numbered anchor
    return .pending (← next) ⟨held, anchor⟩
  | .offset .new ⟨horizontal, vertical⟩ => do
    let first ← numbered horizontal
    let second ← (joined [(horizontal, first)] vertical).elim (numbered vertical) pure
    return .offset (← next) ⟨first, second⟩
  | .insets .new ⟨top, left, bottom, right⟩ => do
    let first ← numbered top
    let second ← (joined [(top, first)] left).elim (numbered left) pure
    let third ← (joined [(top, first), (left, second)] bottom).elim (numbered bottom) pure
    let fourth ← (joined [(top, first), (left, second), (bottom, third)] right).elim (numbered right) pure
    return .insets (← next) ⟨first, second, third, fourth⟩
  | .frame .new ⟨x, y, width, height, margins⟩ => do
    let x ← numbered x
    let y ← numbered y
    let width ← numbered width
    let height ← numbered height
    let margins ← numbered margins
    return .frame (← next) ⟨x, y, width, height, margins⟩
  | .config .new ⟨priority, low, high, compression, expansion, margin⟩ => do
    let priority ← numbered priority
    let low ← numbered low
    let high ← numbered high
    let compression ← numbered compression
    let expansion ← numbered expansion
    let margin ← numbered margin
    return .config (← next) ⟨priority, low, high, compression, expansion, margin⟩
  | v => return v
where
  next : StateM Nat Mark := fun n => (.numbered n, n + 1)

def allNumbered : List Value → StateM Nat (List Value)
  | [] => return []
  | item :: rest => do
    let item ← numbered item
    return item :: (← allNumbered rest)

def entriesNumbered : List (Value × Value) → StateM Nat (List (Value × Value))
  | [] => return []
  | (key, v) :: rest => do
    let key ← numbered key
    let v ← numbered v
    return (key, v) :: (← entriesNumbered rest)

end

def orRenewed (now? : Value → Option Value) (part : Value) : Value := (now? part).getD part

mutual

def renewed (now? : Value → Option Value) : Value → Value
  | .tuple mark items => orRenewed now? (.tuple mark (allRenewed now? items))
  | .list mark items => orRenewed now? (.list mark (allRenewed now? items))
  | .array mark (.general ⟨shape, entries⟩) =>
    orRenewed now? (.array mark (.general ⟨shape, allRenewed now? entries⟩))
  | .dict mark entries => orRenewed now? (.dict mark (entriesRenewed now? entries))
  | .compiler serial settings => orRenewed now? (.compiler serial (renewed now? settings))
  | .linear mark ⟨kind, element, what, constant, multiplier, priority⟩ =>
    orRenewed now? (.linear mark ⟨kind, renewed now? element, renewed now? what, renewed now? constant,
      renewed now? multiplier, renewed now? priority⟩)
  | .edges mark ⟨element, inset, usesMargins⟩ =>
    orRenewed now? (.edges mark ⟨renewed now? element, renewed now? inset, renewed now? usesMargins⟩)
  | .center mark ⟨element, shift⟩ => orRenewed now? (.center mark ⟨renewed now? element, renewed now? shift⟩)
  | .elementAxis mark ⟨element, along⟩ =>
    orRenewed now? (.elementAxis mark ⟨renewed now? element, renewed now? along⟩)
  | .relationship mark ⟨lhs, rhs, sign⟩ =>
    orRenewed now? (.relationship mark ⟨renewed now? lhs, renewed now? rhs, renewed now? sign⟩)
  | .record mark ⟨subject, subjectAttribute, sign, object, objectAttribute, multiplier, constant, priority⟩ =>
    orRenewed now? (.record mark ⟨renewed now? subject, renewed now? subjectAttribute, renewed now? sign,
      renewed now? object, renewed now? objectAttribute, renewed now? multiplier, renewed now? constant,
      renewed now? priority⟩)
  | .pending mark ⟨held, anchor⟩ => orRenewed now? (.pending mark ⟨renewed now? held, renewed now? anchor⟩)
  | .offset mark ⟨horizontal, vertical⟩ =>
    orRenewed now? (.offset mark ⟨renewed now? horizontal, renewed now? vertical⟩)
  | .insets mark ⟨top, left, bottom, right⟩ =>
    orRenewed now? (.insets mark ⟨renewed now? top, renewed now? left, renewed now? bottom, renewed now? right⟩)
  | .frame mark ⟨x, y, width, height, margins⟩ =>
    orRenewed now? (.frame mark ⟨renewed now? x, renewed now? y, renewed now? width, renewed now? height,
      renewed now? margins⟩)
  | .reader read => orRenewed now? (.reader (renewed now? read))
  | .config mark ⟨priority, low, high, compression, expansion, margin⟩ =>
    orRenewed now? (.config mark ⟨renewed now? priority, renewed now? low, renewed now? high,
      renewed now? compression, renewed now? expansion, renewed now? margin⟩)
  | v => orRenewed now? v

def allRenewed (now? : Value → Option Value) : List Value → List Value
  | [] => []
  | item :: rest => renewed now? item :: allRenewed now? rest

def entriesRenewed (now? : Value → Option Value) : List (Value × Value) → List (Value × Value)
  | [] => []
  | (key, v) :: rest => (renewed now? key, renewed now? v) :: entriesRenewed now? rest

end

end Value

end LayoutAlgebra
