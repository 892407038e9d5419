import SoapStubs.Json.Reader
import SoapStubs.Json.Writer
import SoapStubs.Manifest
import SoapStubs.Metadata.Document
import SoapStubs.Metadata.Location
import SoapStubs.Metadata.Publish

/-!
# Stored metadata

The metadata of a run in a directory: the list of generated types and the binding metadata, which
are written as one unit and read back one by one.

* `Metadata.persist` writes the two files;
* `Metadata.loadManifest` and `Metadata.loadRegistry` read them.
-/

namespace SoapStubs.Metadata

/-- The two files of a run. -/
structure Files where
  /-- The list of generated types. -/
  types : Path
  bindings : Path
  deriving DecidableEq, Repr, Inhabited

/-- What is written for a run. -/
structure Request where
  manifest : Option Manifest
  registry : Option Registry
  directory : Path
  run : String
  variant : Option String := none

namespace Request

/-- The facts that errors about the request are tagged with. -/
def facts (q : Request) : List (String × Value) :=
  [("run_id", .text q.run), ("variant", .ofOption q.variant)]

/-- The facts that errors about the directory are tagged with. -/
def placeFacts (q : Request) : List (String × Value) :=
  q.facts ++ [("entity", .text q.directory.text)]

/-- Where the files go. -/
def files (q : Request) : Files :=
  ⟨typesPath q.directory q.run, bindingsPath q.directory q.run⟩

end Request

/-- The text of the binding metadata. -/
def bindingsText (r : Registry) (run : String) (variant : Option String) : String :=
  Json.render .indented (document r (.text run) (.ofOption variant)) ++ "\n"

/-- The log entry about written metadata. -/
def persisted (f : Files) (m : Manifest) (r : Registry) : Event :=
  ⟨.info, "clientgen.persistence", "metadata_persisted",
    [("types_file", .text f.types.text), ("bindings_file", .text f.bindings.text),
      ("types", .int m.size), ("records", .int r.records.length)]⟩

variable (chance : Chance)

/-- Stages the two texts and publishes them.  Whatever the file system refuses leaves no staged
file behind; a document that cannot be written leaves the first one. -/
def writeBoth (t : FileTree) (f : Files) (m : Manifest) (r : Registry) (run : String)
    (variant : Option String) : FileTree × Except Cause Unit :=
  match stage chance t 0 f.types m.toLines with
  | (t, .error c) => (t, .error c)
  | (t, .ok types) =>
    -- only here is it noticed that the document cannot be written
    match Json.check (document r (.text run) (.ofOption variant)) with
    | .error c => (t, .error c)
    | .ok () =>
      match stage chance t 1 f.bindings (bindingsText r run variant) with
      | (t, .error c) => (discard t [types.temp], .error c)
      | (t, .ok bindings) =>
        match publish chance t [types, bindings] with
        | (t, .error c) => (discard t [types.temp, bindings.temp], .error c)
        | (t, .ok ()) => (t, .ok ())

/-- A refusal of the file system is an error about the directory; other causes stay as they
are. -/
def placeFailure (q : Request) (problem : Problem) : Cause → Failure
  | .file p path => .of problem q.placeFacts (some (.file p path))
  | c => .bare c

/-- Writes the metadata of a run. -/
def persist (t : FileTree) (q : Request) : FileTree × Logged Files :=
  match q.manifest, q.registry with
  | none, _ => (t, .lift (.error (.of .noTypes q.facts)))
  | some _, none => (t, .lift (.error (.of .noBindings q.facts)))
  | some m, some r =>
    match t.makeDirectories q.directory with
    | .error c => (t, .lift (.error (placeFailure q (.cannotCreate q.directory.text) c)))
    | .ok t =>
      match writeBoth chance t q.files m r q.run q.variant with
      | (t, .error c) => (t, .lift (.error (placeFailure q (.cannotWrite q.directory.text) c)))
      | (t, .ok ()) => (t, ⟨[persisted q.files m r], .ok q.files⟩)

/-! ### Reading -/

/-- A cause that a file cannot be used is an error; others stay as they are. -/
def unreadable (problem : Problem) : Cause → Failure
  | .file p path => .of problem [] (some (.file p path))
  | .json m => .of problem [] (some (.json m))
  | c => .bare c

/-- Reads a list of generated types. -/
def loadManifest (t : FileTree) (p : Path) : Except Failure Manifest := do
  let text ← (t.readText p).mapError (unreadable (.cannotReadTypes p.text))
  Manifest.ofLines text

def readJson (t : FileTree) (p : Path) (room : Nat := Json.room) : Except Cause Value := do
  Json.read (← t.readText p) room

/-- Reads binding metadata. -/
def loadRegistry (t : FileTree) (p : Path) (room : Nat := Json.room) : Logged Registry := do
  let v ← Logged.lift ((readJson t p room).mapError (unreadable (.cannotReadBindings p.text)))
  ofDocument v

end SoapStubs.Metadata
