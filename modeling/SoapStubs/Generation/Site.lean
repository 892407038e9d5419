import SoapStubs.Generation.Script
import SoapStubs.Session
import SoapStubs.Template.Renderer

/-!
# Taking the steps of a script

* `Site` is where sources are rendered to, and `Site.target` the file of a source;
* `Bench` is what the steps of one phase build up;
* `Site.perform` takes a step, `Site.performAll` one after another, and `Site.play` a whole
  script.
-/

namespace SoapStubs

/-- Where sources are rendered to. -/
structure Site where
  renderer : TemplateRenderer
  /-- The directory of the generated sources. -/
  generateDir : Path
  runId : String
  deriving Inhabited

/-- What the steps of one phase build up. -/
structure Bench where
  manifest : Manifest := {}
  registry : Registry := .empty
  artifacts : List Artifact := []
  deriving Inhabited

namespace Site

variable (site : Site)

/-- The directory of a variant's sources, or of those that both share. -/
def sourceDir (v : Option Variant) : Path :=
  site.generateDir.child (match v with
    | none => "common"
    | some v => v.name)

/-- The file of a source: its class with dots as slashes. -/
def target (s : Source) : Except Failure Path :=
  let place := (site.sourceDir s.variant).descend (Text.split '.' s.identifier)
  match place.withSuffix? ".java" with
  | some p => .ok p
  | none => .error (.bare (.invalid ("PosixPath(" ++ Text.quote place.text ++
      ") has an empty name")))

/-- What the names of a source's template stand for. -/
def bindings (s : Source) : List (String × Value) :=
  Ordered.putAll
    [("run_id", .text site.runId), ("identifier", .text s.identifier),
      ("package", .text (Name.package s.identifier)),
      ("class_name", .text (Name.simple s.identifier))]
    s.bindings

/-- Renders a source. -/
def emit (s : Source) : Run Artifact := do
  let target ← Run.lift (site.target s)
  let bindings := site.bindings s
  modify fun session =>
    { session with renderings := session.renderings ++ [⟨s.template, target, bindings⟩] }
  Run.onFiles fun t => site.renderer.render t s.template bindings target
  Run.note (Renderer.rendered s.template target)
  return ⟨s.category, s.template, s.identifier, target, s.variant⟩

/-- Takes a step. -/
def perform (b : Bench) : Step → Run Bench
  | .declare identifier origin => do
    let (manifest, _) ← Run.lift (b.manifest.add identifier (some origin))
    return { b with manifest }
  | .record key d => do
    let registry ← Run.logged (b.registry.recordLogged (.text key) d)
    return { b with registry }
  | .emit s => do
    let a ← site.emit s
    return { b with artifacts := b.artifacts ++ [a] }
  | .note e => do
    Run.note e
    return b

/-- Takes steps one after another. -/
def performAll (b : Bench) : List Step → Run Bench
  | [] => return b
  | s :: rest => do
    let b ← site.perform b s
    performAll b rest

/-- Takes the steps of a script and gives its result. -/
def play {α : Type} (b : Bench) (script : Script α) : Run (α × Bench) := do
  let b ← site.performAll b script.steps
  return (← Run.lift script.result, b)

end Site

end SoapStubs
