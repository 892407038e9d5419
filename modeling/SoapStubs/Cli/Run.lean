import SoapStubs.Cli.Arguments
import SoapStubs.Console.Table
import SoapStubs.Generation.Generator
import SoapStubs.Log.Output
import SoapStubs.Model.File
import SoapStubs.Settings.File

/-!
# Commands

* `Machine` is what commands run on: files, the environment and the log;
* `Machine.run` runs a command line and gives what it printed and its exit code;
* `reportLines` shows a run of the generator and `inspectLines` a metadata file.
-/

namespace SoapStubs.Cli

/-- What commands run on. -/
structure Machine where
  /-- The files, the environment and the clock. -/
  surroundings : Surroundings := {}
  /-- How the log is written. -/
  log : LogOutput := {}
  width : Nat := 80
  deriving Inhabited

/-- How a command ended. -/
structure Outcome where
  code : Nat
  /-- The lines that were printed. -/
  printed : List String := []
  events : List Event := []
  /-- What ended the command, if it was not handled. -/
  unhandled : Option Failure := none
  deriving Inhabited

/-- The exit code for a command line that is not understood. -/
def usageCode : Nat := 2

/-- Lines printed one text after another, up to the first that cannot be printed. -/
structure Printed where
  lines : List String := []
  /-- Why no more were printed. -/
  stopped : Option Cause := none
  deriving Inhabited

namespace Printed

/-- The lines with those of one more part. -/
def add (p : Printed) (part : Except Cause (List String)) : Printed :=
  match p.stopped, part with
  | some _, _ => p
  | none, .ok lines => { p with lines := p.lines ++ lines }
  | none, .error c => { p with stopped := some c }

/-- The lines of parts. -/
def ofParts (parts : List (Except Cause (List String))) : Printed := parts.foldl add {}

/-- The outcome of a command that printed the lines. -/
def outcome (p : Printed) (code : Nat) : Outcome :=
  match p.stopped with
  | none => { code, printed := p.lines }
  | some c => { code := 1, printed := p.lines, unhandled := some (.bare c) }

end Printed

/-- What is printed of an error. -/
def errorText (e : Error) : String := "[red]" ++ e.kind.label ++ ":[/red] " ++ e.shown

/-- The outcome of a command that failed: an error of the library is printed. -/
def failed (width : Nat) : Failure → Outcome
  | .error e => (Printed.ofParts [Console.lines width (errorText e)]).outcome 1
  | f => { code := 1, unhandled := some f }

/-! ### Generating -/

/-- What is said of a variant. -/
def status (r : RunReport) (v : Variant) : String :=
  if r.failures.any (·.1 == v) then "[red]compile failed[/red]"
  else if r.compiled.any (·.variant == v) then "[green]ok[/green]"
  else "generated"

def variantRow (r : RunReport) (v : VariantResult) : List String :=
  [v.variant.name, toString (r.common.artifacts.length + v.artifacts.length),
    status r v.variant,
    ((r.libraries.find? (·.variant == v.variant)).map (·.binaries.text)).getD "-"]

def reportTable (r : RunReport) : Console.Table :=
  { title := "clientgen run " ++ r.common.runId
    columns := [⟨"Variant", false⟩, ⟨"Sources", true⟩, ⟨"Status", false⟩, ⟨"Library", false⟩]
    rows := r.variants.map (variantRow r) }

def countsText (r : RunReport) : String :=
  "[bold]Types:[/bold] " ++ toString r.common.manifest.size ++
    "  [bold]Faults:[/bold] " ++ toString r.common.plan.faults.length ++
    "  [bold]Binding records:[/bold] " ++ toString r.common.registry.size

/-- The number of diagnostics that are printed. -/
def mostDiagnostics : Nat := 20

/-- What is printed of a variant that did not compile. -/
def failureTexts (v : Variant) (e : Error) : List String :=
  ("[red]" ++ v.name ++ ":[/red] " ++ e.shown) ::
    (((e.report.map (·.diagnostics)).getD []).take mostDiagnostics).map ("  " ++ ·)

/-- The lines about a run. -/
def reportLines (width : Nat) (r : RunReport) : Printed :=
  let texts := countsText r :: r.failures.flatMap fun (v, e) => failureTexts v e
  Printed.ofParts ((reportTable r).lines width :: texts.map (Console.lines width))

/-- The settings that the options of a generation give. -/
def GenerateOptions.given (o : GenerateOptions) : List (String × Value) :=
  [("output_dir", .ofOption (o.outputDir.map Path.text)), ("run_id", .ofOption o.runId),
    ("parallel_variants", if o.parallel then .bool true else .null)]

/-- Runs a generation. -/
def generate (m : Machine) (o : GenerateOptions) : Machine × Outcome :=
  match Settings.load m.surroundings o.config o.given with
  | .error f => (m, failed m.width f)
  | .ok settings =>
    let (log, ready) := m.log.configure m.surroundings.environment (.text settings.logLevel)
      (.text settings.logFormat)
    let m := { m with log }
    match bare ready >>= fun _ => ServiceModel.load m.surroundings.files o.model >>=
        fun model => Generator.make model settings with
    | .error f => (m, failed m.width f)
    | .ok g =>
      let (done, session) := (g.run !o.skipCompile).run.run { files := m.surroundings.files }
      let m := { m with surroundings := { m.surroundings with files := session.files } }
      let outcome := match done with
        | .error f => failed m.width f
        | .ok r => (reportLines m.width r).outcome (if r.ok then 0 else 1)
      (m, { outcome with events := session.events })

/-! ### Inspecting -/

/-- The file with the types of a run, beside a metadata file. -/
def typesBeside (p : Path) : Path :=
  p.withName (Metadata.runOf p.name ++ Metadata.typesSuffix)

/-- The row of a record; its key has to be a text. -/
def recordRow (r : Record) : Except Cause (List String) :=
  match r.key with
  | .text key => .ok [key, r.kind.name, r.descriptor.shown]
  | v => .error (.unprintable ("unable to render " ++ v.typeName))

/-- The lines about a metadata file. -/
def inspectLines (width : Nat) (p : Path) (registry : Registry) (types : Option Manifest) :
    Printed :=
  let table : Except Cause (List String) := do
    let rows ← registry.records.mapM recordRow
    Console.Table.lines
      { title := p.text, columns := [⟨"Key", false⟩, ⟨"Kind", false⟩, ⟨"Descriptor", false⟩]
        rows } width
  let texts := match types with
    | none => []
    | some m =>
      ("\n[bold]Generated types (" ++ toString m.size ++ "):[/bold]") ::
        m.identifiers.map ("  • " ++ ·)
  Printed.ofParts (table :: texts.map (Console.lines width))

/-- Shows a metadata file. -/
def inspect (m : Machine) (p : Path) : Outcome :=
  let t := m.surroundings.files
  let read : Except Failure (Registry × Option Manifest) := do
    let registry ← (Metadata.loadRegistry t p).result
    let types := typesBeside p
    let manifest ← if t.has types then (Metadata.loadManifest t types).map some else .ok none
    return (registry, manifest)
  match read with
  | .error f => failed m.width f
  | .ok (registry, types) => (inspectLines m.width p registry types).outcome 0

/-! ### Command lines -/

/-- The version of the program. -/
def version : String := "clientgen 0.1.0"

/-- Runs a command line. -/
def Machine.run (m : Machine) (arguments : List String) : Machine × Outcome :=
  match Command.read? m.surroundings.files arguments with
  | none => (m, { code := usageCode })
  | some .version => (m, { code := 0, printed := [version] })
  | some (.generate o) => generate m o
  | some (.inspect p) => (m, inspect m p)

end SoapStubs.Cli
