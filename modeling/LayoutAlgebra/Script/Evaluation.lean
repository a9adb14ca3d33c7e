import LayoutAlgebra.Script.Function
set_option autoImplicit false

namespace LayoutAlgebra.Script

inductive Form where
  | constant (v : Value)
  | application (name : String) (args : List Form)
  | fields (entries : List (String × Form))
deriving Inhabited

mutual

def eval : Form → Run Value
  | .constant v => Run.keep v
  | .application name args => do
    let args ← evalAll args
    Run.keep (← apply name (← Run.current args))
  | .fields entries => do return .dict .new (← evalFields entries)

def evalAll : List Form → Run (List Value)
  | [] => return []
  | form :: rest => do
    let v ← eval form
    return v :: (← evalAll rest)

def evalFields : List (String × Form) → Run (List (Value × Value))
  | [] => return []
  | (name, form) :: rest => do
    let v ← eval form
    return (.ofText name, v) :: (← evalFields rest)

end

structure Answer where
  result : Fallible Value
  message : Option String
  log : List (Level × Fallible String)

-- A failure with its words. One whose words cannot be written gives way to what went wrong with them.
def worded (around : Surroundings) (failure : Failure) : Failure × Option String :=
  match failure.message? around with
  | none => (failure, none)
  | some (.ok text) => (failure, some text)
  | some (.error other) => (other, (other.message? around).bind Except.toOption)

def Answer.of (s : Scene) (result : Fallible Value) (log : List (Level × Fallible String)) : Answer :=
  match result with
  | .ok (.text mark s) => ⟨.ok (.text mark (Text.hideAddresses s)), none, log⟩
  | .ok v => ⟨.ok v, none, log⟩
  | .error failure =>
    let (failure, text) := worded s.surroundings failure
    ⟨.error failure, text.map Text.hideAddresses, log⟩

def lines (told : Level → Bool) (events : History) : List (Level × Fallible String) :=
  (events.filter fun entry => told entry.2.level).map fun (scene, event) => (event.level, event.line scene)

def step (told : Level → Bool) (session : Session) (form : Form) : Answer × Session :=
  let (result, after) := (eval form).run.run { session with events := [] }
  (.of after.scene result (lines told after.events), { after with events := [] })

def run (told : Level → Bool) (session : Session) : List Form → List (Answer × Session)
  | [] => []
  | form :: rest =>
    let done := step told session form
    done :: run told done.2 rest

end LayoutAlgebra.Script
