import SoapStubs.FileTree
import SoapStubs.Log
import SoapStubs.Template.Shipped

/-!
# Rendering templates to files

* `TemplateRenderer` says what text a template gives with bindings; `TemplateRenderer.render` writes
  it to a file;
* `Renderer` is a place to look for templates: the shipped ones, which `Renderer.template?` finds and
  `TemplateRenderer.shipped` fills, or a directory of one's own;
* `Renderer.templates` is what fills the templates of that place.
-/

namespace SoapStubs

/-- What fills templates. -/
structure TemplateRenderer where
  /-- The text of a template with bindings. -/
  text : String → List (String × Value) → Except Cause String

/-- Where templates are looked for. -/
structure Renderer where
  /-- A directory other than that of the shipped templates. -/
  directory : Option Path := none
  deriving Inhabited

namespace Renderer

/-- The file of a template. -/
def fileName (id : String) : String := id ++ ".java.j2"

/-- A file name without superfluous slashes and dots; one that leads upwards names nothing. -/
def normalName? (file : String) : Option String :=
  let pieces := Text.split '/' file
  if pieces.contains ".." then none else some (Text.join "/" (pieces.filter Path.isPart))

/-- The shipped template with a name. -/
def template? (id : String) : Option (List Template.Node) :=
  (normalName? (fileName id)).bind fun file =>
    (Template.shipped.find? fun s => fileName s.1 == file).map Prod.snd

/-- Trouble with a template is an error about the target; other causes stay as they are. -/
def blame (id : String) (target : Path) : Cause → Failure
  | .undefined reason => failure (.undefined reason)
  | .noTemplate name => failure (.noTemplate name)
  | .template label reason => failure (.template label reason)
  | c => .bare c
where
  /-- The error about the target. -/
  failure (c : Cause) : Failure := .of (.cannotRender id) [("entity", .text target.text)] (some c)

/-- The log entry about a rendered template. -/
def rendered (id : String) (target : Path) : Event :=
  ⟨.debug, "clientgen.rendering", "template_rendered",
    [("template", .text id), ("target", .text target.text)]⟩

/-- Writes a text to a file, with the directories above it. -/
def save (t : FileTree) (target : Path) (text : String) : Except Cause FileTree := do
  (← t.makeDirectories target.parent).write target (.text text)

end Renderer

namespace TemplateRenderer

/-- Fills the shipped templates. -/
def shipped : TemplateRenderer where
  text id bindings :=
    match Renderer.template? id with
    | none => .error (.noTemplate (Renderer.fileName id))
    | some nodes => Template.renderAll nodes (.ofBindings bindings)

theorem shipped_text {id : String} {nodes : List Template.Node}
    (h : Renderer.template? id = some nodes) (bindings : List (String × Value)) :
    shipped.text id bindings = Template.renderAll nodes (.ofBindings bindings) := by
  simp only [shipped, h]

def empty : TemplateRenderer := ⟨fun id _ => .error (.noTemplate (Renderer.fileName id))⟩

instance : Inhabited TemplateRenderer := ⟨shipped⟩

/-- Fills a template and writes the result to a file. -/
def render (r : TemplateRenderer) (t : FileTree) (id : String) (bindings : List (String × Value))
    (target : Path) : Except Failure FileTree := do
  let text ← (r.text id bindings).mapError (Renderer.blame id target)
  bare (Renderer.save t target text)

end TemplateRenderer

namespace Renderer

/-- What fills the templates of the place.  Those in a directory of one's own are what they are
there; without a word about them, there are none. -/
def templates (r : Renderer) (own : Path → TemplateRenderer := fun _ => .empty) :
    TemplateRenderer :=
  r.directory.elim .shipped own

/-- Fills a template of the place and writes the result to a file. -/
def render (r : Renderer) : FileTree → String → List (String × Value) → Path →
    Except Failure FileTree :=
  r.templates.render

end Renderer

end SoapStubs
