import SoapStubs.Failure
import SoapStubs.FileTree
import SoapStubs.Json.Reader
import SoapStubs.Model.Document
import SoapStubs.Yaml.Document

/-!
# Models in files

* `ServiceModel.documentOf` reads a document: JSON if the name of the file says so, or else YAML;
* `ServiceModel.load` reads the model of a file.
-/

namespace SoapStubs.ServiceModel

/-- The document of a file's text. -/
def documentOf (p : Path) (text : String) : Except Cause Value :=
  if p.suffix = ".json" then Json.read text else Yaml.read text

/-- A file that cannot be opened, and a text that is no document, are errors of the model; any other
cause stands for itself. -/
def blame {α : Type} (p : Path) : Except Cause α → Except Failure α
  | .ok a => .ok a
  | .error c =>
    match c with
    | .file .. | .json _ | .yaml _ => .error (.of (.cannotLoad p.text) [] (some c))
    | _ => .error (.bare c)

/-- The model of a file; an empty document is an empty model. -/
def load (t : FileTree) (p : Path) : Except Failure ServiceModel := do
  let document ← blame p (t.readText p >>= documentOf p)
  bare (ofValue (document.orElse (.map [])))

end SoapStubs.ServiceModel
