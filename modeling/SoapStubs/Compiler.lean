import SoapStubs.Compiler.Program
import SoapStubs.Session
import SoapStubs.Settings
import SoapStubs.Value.Order

/-!
# Compilers

* `Compiler` turns the sources of a variant into classes and reports on it;
* `Javac` is the external compiler: `Javac.command` is the command it is run with, and
  `Javac.invoke` runs it;
* `Patience` is how long a program may take.
-/

namespace SoapStubs

/-- Turns the sources of a variant into classes. -/
structure Compiler where
  compile : CompileRequest → Run Report

/-- How long a program may take. -/
inductive Patience where
  | none
  /-- Longer than any of the programs takes. -/
  | enough
  deriving DecidableEq, Repr, Inhabited

namespace Patience

/-- The number of seconds from which on nobody can wait. -/
def tooLong : Int := 2147484

/-- The patience of a number of seconds. -/
def ofSeconds (v : Value) : Except Cause Patience :=
  match v, v.number? with
  | .null, _ => .ok .enough
  | _, some x =>
    if !(Value.exact 0).less x then .ok .none
    else if x.less (Value.exact tooLong) then .ok .enough
    else .error (.overflow "timeout is too large")
  | _, _ =>
    .error (.wrongType ("unsupported operand type(s) for +: 'float' and '" ++ v.fullTypeName ++
      "'"))

end Patience

/-- The external compiler. -/
structure Javac where
  executable : String := "javac"
  /-- The seconds it may take; null if it may take any time. -/
  timeout : Value := .int 600
  options : List (Variant × List String) :=
    [(.legacy, ["-g", "--release", "8"]), (.modern, ["-g"])]
  deriving Inhabited

namespace Javac

variable (j : Javac)

def command (q : CompileRequest) : List String :=
  [j.executable] ++ (j.options.lookup q.variant).getD [] ++ ["-d", q.outputDir.text] ++
    (if q.classpath.isEmpty then [] else ["-classpath", Text.join ":" q.classpath]) ++
    q.sources.map Path.text

/-- The log entry about a finished compiler. -/
def finished (q : CompileRequest) (code : Int) : Event :=
  ⟨.debug, "clientgen.compiler", "javac_finished",
    [("variant", .text q.variant.name), ("returncode", .int code),
      ("sources", .int q.sources.length)]⟩

/-- The program of a command.  No part of a command can have the character with the code 0. -/
def program (command : List String) : Run (Option Program) := do
  if command.any fun part => part.toList.contains '\x00' then
    Run.fail (.bare (FileProblem.nullCharacter.cause j.executable))
  else Run.lift (bare (Program.find (← get).files j.executable))

/-- What a program wrote as text. -/
def outputText (bytes : List UInt8) : Except Cause String :=
  match String.fromUTF8? ⟨bytes.toArray⟩ with
  | some s => .ok (Text.unifyNewlines s)
  | none => .error (.undecodable "'utf-8' codec can't decode bytes")

/-- Runs the command for a request.  A program that is not there and one that takes too long are
reported like errors of the compiler. -/
def invoke (q : CompileRequest) : Run Report := do
  let command := j.command q
  let report (code : Int) (output : String) : Report :=
    { success := code == 0, returncode := code, output, command, sources := q.sources.length }
  match ← j.program command with
  | none => return report 127 ("Compiler executable not found: " ++ j.executable)
  | some program =>
    match ← Run.lift (bare (Patience.ofSeconds j.timeout)) with
    | .none => return report (-1) ("Compilation timed out after " ++ j.timeout.plain ++ "s")
    | .enough =>
      -- the program is given what follows its own name
      let exit := program (command.drop 1)
      let output ← Run.lift (bare (outputText exit.output))
      Run.note (finished q exit.code)
      return report exit.code output

/-- Makes the directory of the classes. -/
def prepare (outputDir : Path) : Run Unit :=
  Run.onFiles fun t => bare (t.makeDirectories outputDir)

/-- Compiles the sources of a request; without sources there is nothing to do. -/
def compile (q : CompileRequest) : Run Report := do
  prepare q.outputDir
  if q.sources.isEmpty then return { success := true } else j.invoke q

/-- Compiles for the variant that a value names; it is read only if there are sources. -/
def compileIn (sources : List Path) (classpath : List String) (outputDir : Path)
    (variant : Value) : Run Report := do
  prepare outputDir
  if sources.isEmpty then return { success := true }
  else
    let variant ← Run.lift (bare (Labelled.read variant))
    j.invoke { sources, classpath, outputDir, variant }

/-- The external compiler as a compiler. -/
def compiler : Compiler := ⟨j.compile⟩

/-- The external compiler of the settings. -/
def ofSettings (s : Settings) : Javac := { executable := s.javac, timeout := .int s.javacTimeout }

end Javac

end SoapStubs
