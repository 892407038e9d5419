import SoapStubs.Archive
import SoapStubs.Compiler
import SoapStubs.Generation.CommonPhase
import SoapStubs.Generation.Site
import SoapStubs.Generation.VariantPhase
import SoapStubs.Metadata.Store

/-!
# The generator

Generates, compiles and packages the client libraries of a service.

* `Generator` is a model with settings, rules and tools; `Generator.make` makes one from settings;
* `runCommon` and `runVariant` run the phases of generation, `generate` runs all of them;
* `compile` compiles a variant and stores its metadata beside the classes;
* `build` packages compiled variants;
* `run` does everything.  A variant that does not compile is reported and does not keep the other
  one from being packaged.
-/

namespace SoapStubs

/-- A model with settings, rules and tools. -/
structure Generator where
  model : ServiceModel
  settings : Settings
  resolver : Resolver
  renderer : TemplateRenderer
  compiler : Compiler

/-- A compiled variant. -/
structure CompiledVariant where
  variant : Variant
  outputDir : Path
  metadata : Metadata.Files
  deriving Repr, Inhabited

/-- A packaged client library. -/
structure Library where
  id : String
  name : String
  variant : Variant
  binaries : Path
  sources : Path
  description : String
  deriving Repr, Inhabited

/-- What a run produced. -/
structure RunReport where
  common : CommonResult
  variants : List VariantResult
  compiled : List CompiledVariant := []
  libraries : List Library := []
  /-- The variants that did not compile. -/
  failures : List (Variant × Error) := []
  deriving Inhabited

namespace RunReport

/-- Did all variants compile? -/
def ok (r : RunReport) : Bool := r.failures.isEmpty

/-- Fails with the first error, if a variant did not compile. -/
def check (r : RunReport) : Except Failure Unit :=
  match r.failures with
  | [] => .ok ()
  | (_, e) :: _ => .error (.error e)

end RunReport

namespace Generator

/-- The generator of settings; without a compiler of its own it takes the external one, and without
a renderer the templates that the settings name. -/
def make (model : ServiceModel) (settings : Settings) (compiler : Option Compiler := none)
    (renderer : Option TemplateRenderer := none) : Except Failure Generator := do
  let resolver ← Resolver.ofRules settings.conversions
  return { model, settings, resolver
           renderer := renderer.getD (Renderer.mk settings.templateDir).templates
           compiler := compiler.getD (Javac.ofSettings settings).compiler }

variable (g : Generator)

def site : Site := ⟨g.renderer, g.settings.generateDir, g.settings.runId⟩

/-! ### Generation -/

/-- The body of the common phase. -/
def commonBody : Run CommonResult := do
  let (plan, bench) ← g.site.play {} (commonScript g.resolver g.model)
  return { runId := g.settings.runId, manifest := bench.manifest.freeze
           registry := bench.registry.freeze, plan, artifacts := bench.artifacts
           sourceDir := g.site.sourceDir none }

/-- The log entry about the common result. -/
def commonGenerated (c : CommonResult) : Event :=
  ⟨.info, "clientgen.orchestrator", "common_generated",
    [("types", .int c.manifest.size), ("faults", .int c.plan.faults.length),
      ("records", .int c.registry.size), ("artifacts", .int c.artifacts.length)]⟩

/-- Runs the common phase. -/
def runCommon : Run CommonResult := do
  let facts : List (String × Value) := [("run_id", .text g.settings.runId)]
  let common ← Run.inPhase "common" facts
    (Run.tagging (facts ++ [("phase", .text "common")]) g.commonBody)
  modify fun s => { s with common := some common }
  Run.note (commonGenerated common)
  return common

/-- The body of a variant phase. -/
def variantBody (v : Variant) (common : CommonResult) : Run VariantResult := do
  let registry ← Run.lift common.registry.above
  let ((), bench) ← g.site.play { registry }
    (variantScript g.resolver v g.settings.deployment common.registry common.plan)
  return { variant := v, registry := bench.registry, artifacts := bench.artifacts
           sourceDir := g.site.sourceDir (some v) }

/-- The log entry about the result of a variant. -/
def variantGenerated (r : VariantResult) : Event :=
  ⟨.info, "clientgen.orchestrator", "variant_generated",
    [("variant", .text r.variant.name), ("artifacts", .int r.artifacts.length)]⟩

/-- Runs a variant phase on top of a common result. -/
def runVariantOn (v : Variant) (common : CommonResult) : Run VariantResult := do
  let facts : List (String × Value) :=
    [("run_id", .text common.runId), ("variant", .text v.name)]
  let result ← Run.inPhase "variant" facts
    (Run.tagging (("phase", .text "variant") :: facts) (g.variantBody v common))
  Run.note (variantGenerated result)
  return result

/-- Runs a variant phase on top of the given or else the last common result. -/
def runVariant (v : Variant) (common : Option CommonResult := none) : Run VariantResult := do
  match common.or (← get).common with
  | some common => g.runVariantOn v common
  | none =>
    Run.fail (.of .variantBeforeCommon [("run_id", .text g.settings.runId),
      ("phase", .text "variant"), ("variant", .text v.name)])

/-- Runs the variant phases one after another; the first failure ends it. -/
def inSequence (common : CommonResult) : List Variant → Run (List VariantResult)
  | [] => return []
  | v :: rest => do
    let r ← g.runVariantOn v common
    return r :: (← inSequence common rest)

/-- Runs all variant phases to their end, whether they fail or not. -/
def allToEnd (common : CommonResult) : List Variant → Run (List (Except Failure VariantResult))
  | [] => return []
  | v :: rest => do
    let r ← Run.outcome (g.runVariantOn v common)
    return r :: (← allToEnd common rest)

/-- Runs the variant phases side by side: all come to their end, and the failure of the first one
that failed counts. -/
def inParallel (common : CommonResult) : Run (List VariantResult) := do
  Run.lift ((← g.allToEnd common Variant.all).mapM id)

/-- Runs the common phase and then the variant phases. -/
def generate (parallel : Option Bool := none) : Run (CommonResult × List VariantResult) := do
  let common ← g.runCommon
  let variants ←
    if parallel.getD g.settings.parallelVariants then g.inParallel common
    else g.inSequence common Variant.all
  return (common, variants)

/-! ### Compilation -/

/-- The sources of a variant, each once. -/
def sourcesOf (common : CommonResult) (result : VariantResult) : List Path :=
  (Ordered.ofList ((common.artifacts ++ result.artifacts).map fun a => (a.path, ()))).keys

/-- The body of the compile phase. -/
def compileBody (result : VariantResult) (common : CommonResult) (outputDir : Path) :
    Run Metadata.Files := do
  let request : CompileRequest :=
    ⟨sourcesOf common result, g.settings.classpath, outputDir, result.variant⟩
  -- noted before the compiler is asked, whatever comes of it
  modify fun s => { s with compilations := s.compilations ++ [request] }
  let report ← g.compiler.compile request
  if !report.success then
    Run.fail (.error
      { Error.of (.compileFailed result.variant.name) with report := some report })
  else
    let s ← get
    let (files, done) := Metadata.persist .none s.files
      { manifest := some common.manifest, registry := some result.registry, directory := outputDir
        run := common.runId, variant := some result.variant.name }
    set { s with files }
    Run.logged done

/-- Compiles a variant and stores its metadata, on top of a common result. -/
def compileOn (result : VariantResult) (common : CommonResult) : Run CompiledVariant := do
  let outputDir := g.settings.compileDir.child result.variant.name
  let facts : List (String × Value) :=
    [("run_id", .text common.runId), ("variant", .text result.variant.name)]
  let metadata ← Run.inPhase "compile" facts
    (Run.tagging (("phase", .text "compile") :: facts) (g.compileBody result common outputDir))
  return ⟨result.variant, outputDir, metadata⟩

/-- Compiles a variant, on top of the given or else the last common result. -/
def compile (result : VariantResult) (common : Option CommonResult := none) :
    Run CompiledVariant := do
  match common.or (← get).common with
  | some common => g.compileOn result common
  | none => Run.fail (.of .compileBeforeCommon)

/-! ### Packaging -/

/-- The library of a compiled variant. -/
def libraryOf (v : Variant) : Library :=
  let base := g.settings.archiveBase ++ "-" ++ v.name
  let binaries := g.settings.buildDir.child (base ++ ".jar")
  { id := "client." ++ v.name ++ ".library", name := binaries.name, variant := v, binaries
    sources := g.settings.buildDir.child (base ++ "-src.jar")
    description := "SOAP client library for " ++ v.name ++ " runtimes." }

/-- The directories of the sources of a compiled variant. -/
def sourceRoots (common : Option CommonResult) (variants : List VariantResult) (v : Variant) :
    List Path :=
  (common.map (·.sourceDir)).toList ++
    [((variants.find? (·.variant == v)).map (·.sourceDir)).getD (g.site.sourceDir (some v))]

/-- Packages a compiled variant. -/
def package (common : Option CommonResult) (variants : List VariantResult)
    (c : CompiledVariant) : Run Library := do
  let library := g.libraryOf c.variant
  Run.onFiles fun t => bare (Archive.write t library.binaries [c.outputDir])
  Run.onFiles fun t =>
    bare (Archive.write t library.sources (g.sourceRoots common variants c.variant))
  return library

/-- Packages compiled variants. -/
def packageAll (common : Option CommonResult) (variants : List VariantResult) :
    List CompiledVariant → Run (List Library)
  | [] => return []
  | c :: rest => do
    let library ← g.package common variants c
    return library :: (← packageAll common variants rest)

/-- Packages compiled variants. -/
def build (compiled : List CompiledVariant) (variants : List VariantResult := []) :
    Run (List Library) := do
  let common := (← get).common
  Run.inPhase "build" [("run_id", .text g.settings.runId)] (g.packageAll common variants compiled)

/-! ### Everything -/

/-- The log entry about a variant that did not compile. -/
def compileFailed (v : Variant) (e : Error) : Event :=
  ⟨.error, "clientgen.orchestrator", "variant_compile_failed",
    [("variant", .text v.name), ("error", .text e.shown)]⟩

/-- What became of the variants that were compiled. -/
structure Compilation where
  compiled : List CompiledVariant := []
  /-- Those that did not. -/
  failures : List (Variant × Error) := []
  deriving Inhabited

/-- Compiles variants one after another.  One that the compiler rejects is noted; any other failure
ends it. -/
def compileEach (common : CommonResult) (done : Compilation) :
    List VariantResult → Run Compilation
  | [] => return done
  | r :: rest => do
    match ← Run.outcome (g.compileOn r common) with
    | .ok c => compileEach common { done with compiled := done.compiled ++ [c] } rest
    | .error (.error e) =>
      if e.kind = .compilation then
        Run.note (compileFailed r.variant e)
        compileEach common { done with failures := done.failures ++ [(r.variant, e)] } rest
      else Run.fail (.error e)
    | .error f => Run.fail f

/-- Generates, compiles and packages. -/
def run (compiling : Bool := true) (parallel : Option Bool := none) : Run RunReport := do
  let (common, variants) ← g.generate parallel
  if !compiling then return { common, variants }
  else
    let done ← g.compileEach common {} variants
    let libraries ← if done.compiled.isEmpty then pure [] else g.build done.compiled variants
    return { common, variants, compiled := done.compiled, libraries, failures := done.failures }

end Generator

end SoapStubs
