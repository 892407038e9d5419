import SoapStubs.FileTree
import SoapStubs.Generation.Plan

/-!
# Sessions

The state that the work of a generator changes, and computations over it.

* `Session` holds the files, the log with its context, what was rendered and compiled, and the
  last common result;
* `Run` is a computation that changes a session and may fail;
* `Run.note` logs an entry; `Run.bindContext`, `Run.pushContext`, `Run.popContext` and
  `Run.clearContext` change what entries are tagged with;
* `Run.inPhase` brackets a computation with the entries of a phase and tags what is logged inside.
-/

namespace SoapStubs

/-- A template that was filled for a target. -/
structure Rendering where
  template : String
  target : Path
  /-- What the template's names stood for. -/
  bindings : List (String × Value)
  deriving Inhabited

/-- A call of the compiler. -/
structure CompileRequest where
  sources : List Path
  classpath : List String
  outputDir : Path
  variant : Variant
  deriving Repr, Inhabited

/-- What the work of a generator changes. -/
structure Session where
  files : FileTree := {}
  events : List Event := []
  /-- What log entries are tagged with. -/
  context : LogContext := {}
  /-- The contexts that were left for inner ones, the last one first. -/
  saved : List LogContext := []
  renderings : List Rendering := []
  compilations : List CompileRequest := []
  /-- The last common result. -/
  common : Option CommonResult := none
  deriving Inhabited

/-- The session with one more entry in the log. -/
def Session.log (s : Session) (e : Event) : Session :=
  { s with events := s.events ++ [s.context.tag e] }

/-- The session with more entries in the log. -/
def Session.logAll (s : Session) (es : List Event) : Session :=
  { s with events := s.events ++ es.map s.context.tag }

/-- A computation that changes a session and may fail. -/
abbrev Run := ExceptT Failure (StateM Session)

namespace Run

variable {α : Type}

/-- A result that leaves the session alone. -/
def lift (r : Except Failure α) : Run α := ExceptT.mk (pure r)

def fail (f : Failure) : Run α := lift (.error f)

def note (e : Event) : Run Unit := modify fun s => s.log e

/-- Changes the context. -/
def bindContext (facts : List (String × Value)) : Run Unit := do
  let context ← lift (bare ((← get).context.merge facts))
  modify fun s => { s with context }

/-- Changes the context until it is left. -/
def pushContext (facts : List (String × Value)) : Run Unit := do
  let outside := (← get).context
  bindContext facts
  modify fun s => { s with saved := outside :: s.saved }

/-- Leaves the innermost context that was pushed. -/
def popContext : Run Unit := do
  match (← get).saved with
  | [] => fail (.bare (.outOfRange "pop from empty list"))
  | context :: saved => modify fun s => { s with context, saved }

/-- Forgets the context. -/
def clearContext : Run Unit := modify fun s => { s with context := {} }

/-- A result with its log entries. -/
def logged (x : Logged α) : Run α := do
  modify fun s => x.events.foldl Session.log s
  lift x.result

/-- Changes the files. -/
def onFiles (f : FileTree → Except Failure FileTree) : Run Unit := do
  let t ← lift (f (← get).files)
  modify fun s => { s with files := t }

/-- The computation with more context on its errors. -/
def tagging (facts : List (String × Value)) (body : Run α) : Run α :=
  ExceptT.mk do return (← body.run).mapError (Failure.tag facts)

/-- The outcome of a computation, which leaves its changes also if it failed. -/
def outcome (body : Run α) : Run (Except Failure α) := ExceptT.mk do return .ok (← body.run)

/-- The computation inside a phase: entries are tagged with the phase and further facts, an entry
is logged before it and one after it, which tells whether it failed.  Only an interrupt leaves it
without an entry. -/
def inPhase (phase : String) (facts : List (String × Value)) (body : Run α) : Run α := do
  let outside := (← get).context
  let inside ← lift (bare (outside.enter phase facts))
  modify fun s => { s with context := inside }
  note (.phaseStart phase)
  match ← outcome body with
  | .ok a =>
    -- the last entry still has the tags of the phase
    note (.phaseEnd phase)
    modify fun s => { s with context := outside }
    return a
  | .error f =>
    modify fun s => s.logAll (Event.phaseFailed phase f)
    modify fun s => { s with context := outside }
    fail f

end Run

end SoapStubs
