import SoapStubs.Failure
import SoapStubs.Label

/-!
# Log events

What is logged and under which run context.

* `Event` is an entry of the log;
* `LogContext` is the run, phase and variant that entries are tagged with, and
  `LogContext.merge` changes some of them;
* `Event.ofFacts` refuses facts by the names that stand for other parts of an entry;
* `LogContext.stamp` tags an entry: what the entry says itself stays;
* `Logged` is the result of a computation together with the entries it made, which are there also
  if it failed.
-/

namespace SoapStubs

/-- How important an entry is. -/
inductive Level where
  | debug
  | info
  | warning
  | error
  | critical
  deriving DecidableEq, Repr, Inhabited

/-- The word of a level. -/
def Level.label : Level → String
  | .debug => "debug"
  | .info => "info"
  | .warning => "warning"
  | .error => "error"
  | .critical => "critical"

instance : Labelled Level :=
  ⟨"Level", [.debug, .info, .warning, .error, .critical], Level.label⟩

/-- An entry of the log. -/
structure Event where
  level : Level
  logger : String
  event : String
  fields : Ordered String Value := []
  deriving Inhabited

/-- The names that stand for other parts of an entry than its facts. -/
def Event.takenNames : List String := ["self", "event", "method_name"]

/-- The entry with some facts, unless one of them has a name that is taken. -/
def Event.ofFacts (level : Level) (logger event : String) (facts : Ordered String Value) :
    Except Cause Event :=
  match facts.find? fun f => Event.takenNames.contains f.1 with
  | some f => .error (.wrongType ("no fact can have the name " ++ Text.quote f.1))
  | none => .ok ⟨level, logger, event, facts⟩

/-- The run, phase and variant that entries are tagged with. -/
structure LogContext where
  runId : Value := .null
  phase : Value := .null
  variant : Value := .null
  deriving Inhabited

namespace LogContext

/-- What is set, by name. -/
def entries (c : LogContext) : Ordered String Value :=
  [("run_id", c.runId), ("phase", c.phase), ("variant", c.variant)].filter fun f =>
    Context.isSet f.2

/-- A fact that is none of a context. -/
def unexpected (name : String) : Cause :=
  .wrongType ("no context has a field " ++ Text.quote name)

/-- The context with one field changed; `null` changes nothing. -/
def set (c : LogContext) (name : String) (value : Value) : Except Cause LogContext :=
  match value with
  | .null => .ok c
  | _ =>
    if name == "run_id" then .ok { c with runId := value }
    else if name == "phase" then .ok { c with phase := value }
    else if name == "variant" then .ok { c with variant := value }
    else .error (unexpected name)

/-- The context with some fields changed; the name `self` is taken, also for `null`. -/
def merge (c : LogContext) (facts : List (String × Value)) : Except Cause LogContext :=
  if facts.any (·.1 == "self") then
    .error (.wrongType "no field can have the name 'self'")
  else facts.foldlM (fun c f => c.set f.1 f.2) c

/-- The context of some facts, which has fields for all of them. -/
def ofFacts (facts : List (String × Value)) : Except Cause LogContext :=
  match facts.find? fun f => !(["run_id", "phase", "variant"].contains f.1) with
  | some f => .error (unexpected f.1)
  | none => merge {} facts

/-- Facts with those of the context added; what is there already stays. -/
def stamp (c : LogContext) (fields : Ordered String Value) : Ordered String Value :=
  c.entries.foldl (fun fields f => if fields.has f.1 then fields else fields.put f.1 f.2) fields

def tag (c : LogContext) (e : Event) : Event := { e with fields := c.stamp e.fields }

/-- The context inside a phase; the phase cannot be among the other facts. -/
def enter (c : LogContext) (phase : String) (facts : List (String × Value)) :
    Except Cause LogContext :=
  if facts.any (·.1 == "phase") then
    .error (.wrongType "the phase is given twice")
  else c.merge (("phase", .text phase) :: facts)

end LogContext

/-! ### Entries of phases -/

/-- The entry at the start of a phase. -/
def Event.phaseStart (phase : String) : Event :=
  ⟨.debug, "clientgen.phase", phase ++ ".start", []⟩

/-- The entry at the end of a phase. -/
def Event.phaseEnd (phase : String) : Event :=
  ⟨.info, "clientgen.phase", phase ++ ".end", []⟩

/-- The entry for a phase that a failure ends. -/
def Event.phaseError (phase : String) (f : Failure) : Event :=
  ⟨.error, "clientgen.phase", phase ++ ".error",
    [("error_type", .text f.label), ("error_message", .text f.shown)]⟩

/-- What is logged about a phase that a failure ends: nothing, if it is an interrupt. -/
def Event.phaseFailed (phase : String) (f : Failure) : List Event :=
  if f.isInterrupt then [] else [.phaseError phase f]

/-! ### Results with entries -/

/-- A result together with the entries made on the way to it. -/
structure Logged (α : Type) where
  events : List Event
  result : Except Failure α

namespace Logged

variable {α β : Type}

/-- A result without entries. -/
def lift (r : Except Failure α) : Logged α := ⟨[], r⟩

def note (e : Event) : Logged Unit := ⟨[e], .ok ()⟩

instance : Monad Logged where
  pure a := ⟨[], .ok a⟩
  bind x f :=
    match x.result with
    | .error e => ⟨x.events, .error e⟩
    | .ok a => ⟨x.events ++ (f a).events, (f a).result⟩

end Logged

end SoapStubs
