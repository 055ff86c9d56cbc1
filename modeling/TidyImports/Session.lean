import TidyImports.Linter.Proposal

/-!
# Running with a log

A request talks to a linter, which has a state of its own, and writes notices to a log. Both
survive a failure: `Run` is a computation over a `Session` that ends in a result or a failure, and
the session that it leaves is there in both cases.
-/

namespace TidyImports

/-! ## Notices -/

inductive Notice where
  /-- A linter call with its label, and code and message of each diagnostic. -/
  | reported (label : String) (findings : List String)
  | compared (cell : Int) (alone inOrder : List String)
  | undetermined (message : String)
  | applying (round : Nat) (label : String) (batch : List Proposal)
  | nothingToDo (name : Option String)

namespace Notice

def isWarning : Notice → Bool
  | .undetermined _ => true
  | _ => false

def logger : Notice → String
  | .reported .. => "important.oracle.ruff"
  | .compared .. | .undetermined _ => "important.context"
  | .applying .. => "important.driver"
  | .nothingToDo _ => "important.formatter"

/-- A set of names as a literal. -/
def nameSet (names : List String) : String :=
  if names.isEmpty then "set()"
  else
    "\x7b" ++ ", ".intercalate (names.map fun s => String.ofList (Text.quoted s.toList)) ++ "\x7d"

def message : Notice → String
  | .reported label findings =>
    s!"ruff {label} reported {findings.length} diagnostic(s): " ++
      (Value.list (findings.map .text)).literal
  | .compared cell alone inOrder =>
    s!"Cell {cell}: alone={nameSet alone}, in order={nameSet inOrder}"
  | .undetermined message =>
    s!"Undefined variable could not be determined from message ({message})"
  | .applying round label batch =>
    s!"Round {round}, {label}: applying {batch.length} edit(s): " ++
      (Value.list (batch.map Proposal.toValue)).literal
  | .nothingToDo name => "Nothing to do for " ++ name.getD "document"

/-- A line of the log. -/
def line (n : Notice) : String :=
  let level := if n.isWarning then "WARNING" else "DEBUG"
  s!"{n.logger} {level} {n.message}"

end Notice

/-! ## Sessions -/

/-- The state of the linter and the notices so far, the latest last. -/
structure Session (σ : Type) where
  world : σ
  log : List Notice

def Session.start {σ : Type} (world : σ) : Session σ := ⟨world, []⟩

abbrev Run (σ : Type) := ExceptT Failure (StateM (Session σ))

namespace Run

variable {σ α : Type}

def notify (n : Notice) : Run σ Unit :=
  modify fun s => { s with log := s.log ++ [n] }

def fail (f : Failure) : Run σ α := throw f

def ofExcept (r : Except Failure α) : Run σ α :=
  match r with
  | .ok a => pure a
  | .error f => fail f

/-- A step of the world. -/
def step (f : σ → α × σ) : Run σ α :=
  modifyGet fun s => let (a, w) := f s.world; (a, { s with world := w })

/-- The outcome of a computation from a session on. -/
def outcome (run : Run σ α) (s : Session σ) : Except Failure α × Session σ := run.run.run s

end Run
end TidyImports
