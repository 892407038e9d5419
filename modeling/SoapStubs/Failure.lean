import SoapStubs.Compiler.Report
import SoapStubs.Failure.Cause
import SoapStubs.Failure.Context
import SoapStubs.Failure.Problem

/-!
# Failures

An `Error` is a problem of the library together with its category, the context it arose in and
what caused it.  A `Failure` is either such an error or a bare cause that no part of the library
took for its own.

* `Error.tag` adds context; `Error.shown` is the message with the context behind it;
* `Error.summary` is the error as a record for logs;
* `Failure.tag` adds context to errors and leaves bare causes alone.
-/

namespace SoapStubs

/-- A problem with its category, context and cause. -/
structure Error where
  problem : Problem
  /-- The concern the error is reported under. -/
  category : Category := problem.kind.category
  context : Context := {}
  cause : Option Cause := none
  /-- What the compiler said, for sources that it rejected. -/
  report : Option Report := none
  deriving Inhabited

namespace Error

/-- The error of a problem, with facts about where it arose. -/
def of (problem : Problem) (facts : List (String × Value) := []) (cause : Option Cause := none) :
    Error :=
  { problem, category := problem.kind.category, context := Context.tag {} facts, cause }

def kind (e : Error) : Kind := e.problem.kind

/-- The wording of the problem. -/
def message (e : Error) : String := e.problem.message

/-- The error with more context; what is set already stays. -/
def tag (e : Error) (facts : List (String × Value)) : Error :=
  { e with context := e.context.tag facts }

/-- The message with the context behind it. -/
def shown (e : Error) : String := e.message ++ e.context.suffix

/-- The error as the call that makes it. -/
def call (e : Error) : String :=
  e.kind.label ++ "(" ++ Text.quote e.message ++ ", category=" ++ e.category.label ++ ")"

/-- The error as a record. -/
def summary (e : Error) : Value :=
  .record <|
    [("error_type", .text e.kind.label), ("message", .text e.message),
      ("category", .text e.category.label)] ++
    (if e.context.entries.isEmpty then [] else [("context", .record e.context.entries)]) ++
    (match e.cause with
      | none => []
      | some c => [("cause", .text c.message)])

end Error

/-- What stops a computation of the library. -/
inductive Failure where
  | error (e : Error)
  /-- A cause that no part of the library took for its own. -/
  | bare (c : Cause)
  deriving Inhabited

namespace Failure

/-- The class of the failure. -/
def label : Failure → String
  | .error e => e.kind.label
  | .bare c => c.label

/-- The failure in words. -/
def shown : Failure → String
  | .error e => e.shown
  | .bare c => c.message

/-- Is the program told to stop? -/
def isInterrupt : Failure → Bool
  | .error _ => false
  | .bare c => c.isInterrupt

/-- The failure with more context, if it is an error. -/
def tag (facts : List (String × Value)) : Failure → Failure
  | .error e => .error (e.tag facts)
  | .bare c => .bare c

/-- The failure of a problem, with facts about where it arose. -/
def of (problem : Problem) (facts : List (String × Value) := []) (cause : Option Cause := none) :
    Failure :=
  .error (Error.of problem facts cause)

end Failure

/-- A computation whose causes of failure are nobody's own. -/
def bare {α : Type u} : Except Cause α → Except Failure α
  | .ok a => .ok a
  | .error c => .error (.bare c)

end SoapStubs
