import SoapStubs.Failure.Cause
import SoapStubs.Ordered
import SoapStubs.Path
import SoapStubs.Text.Line

/-!
# File trees

The directories and files below a working directory, as a map from locations to what is there.

* `Content` is what a file holds, `Entry` a directory or a file;
* `FileTree.locate` follows a path to a location; the directories on the way have to be there;
* `FileTree.makeDirectories` makes a directory with those above it, `FileTree.write` writes a file,
  `FileTree.move` moves one over another, `FileTree.remove` removes one;
* `FileTree.readText` reads a file as text, with unified line ends;
* `FileTree.filesBelow` are the files below a directory and `FileTree.listing` their paths in
  order;
* `FileTree.plant` puts an entry at a path, whatever is missing on the way.
-/

namespace SoapStubs

/-- What a file holds. -/
inductive Content where
  | text (s : String)
  | bytes (b : List UInt8)
  /-- An archive of named contents. -/
  | archive (entries : List (String × Content))
  deriving Inhabited

namespace Content

/-- The number of bytes; that of an archive is left open. -/
def size : Content → Nat
  | .text s => s.utf8ByteSize
  | .bytes b => b.length
  | .archive _ => 0

def ofBytes (b : List UInt8) : Content :=
  match String.fromUTF8? ⟨b.toArray⟩ with
  | some s => .text s
  | none => .bytes b

end Content

/-- What is at a location. -/
inductive Entry where
  | directory
  | file (content : Content)
  deriving Inhabited

/-- The names on the way from the working directory. -/
abbrev Location := List String

/-- The directories and files below the working directory. -/
structure FileTree where
  entries : Ordered Location Entry := []
  deriving Inhabited

namespace FileTree

/-- What is at a location; the working directory is always there. -/
def lookup (t : FileTree) (l : Location) : Option Entry :=
  if l = [] ∨ l = ["/"] ∨ l = ["//"] then some .directory else t.entries.get? l

/-- The longest name in bytes. -/
def longestName : Nat := 255

/-- One step from a directory. -/
def step (t : FileTree) (l : Location) (name : String) : Except FileProblem Location :=
  match t.lookup l with
  | none => .error .missing
  | some (.file _) => .error .notDirectory
  | some .directory =>
    if longestName < name.utf8ByteSize then .error .nameTooLong
    else if name = ".." then .ok l.dropLast
    else .ok (l ++ [name])

/-- The longest path in bytes. -/
def longestPath : Nat := 4095

/-- What is wrong with a path, whatever is there. -/
def pathProblem? (p : Path) : Option FileProblem :=
  if p.text.toList.contains '\x00' then some .nullCharacter
  else if longestPath < p.text.utf8ByteSize then some .nameTooLong
  else none

def locate (t : FileTree) (p : Path) : Except FileProblem Location :=
  match pathProblem? p with
  | some problem => .error problem
  | none => p.parts.foldlM t.step (if p.root = "" then [] else [p.root])

def find? (t : FileTree) (p : Path) : Option Entry :=
  match t.locate p with
  | .ok l => t.lookup l
  | .error _ => none

/-- Is anything at the path? -/
def has (t : FileTree) (p : Path) : Bool := (t.find? p).isSome

def isDirectory (t : FileTree) (p : Path) : Bool :=
  match t.find? p with
  | some .directory => true
  | _ => false

def isFile (t : FileTree) (p : Path) : Bool :=
  match t.find? p with
  | some (.file _) => true
  | _ => false

/-! ### Directories -/

def makeDirectory (t : FileTree) (p : Path) : Except FileProblem FileTree := do
  let l ← t.locate p
  match t.lookup l with
  | some _ => .error .exists
  | none => .ok ⟨t.entries.put l .directory⟩

/-- Makes one directory unless it is there. -/
def ensureDirectory (t : FileTree) (p : Path) : Except Cause FileTree :=
  match t.makeDirectory p with
  | .ok t => .ok t
  | .error problem => if t.isDirectory p then .ok t else .error (problem.cause p.text)

/-- Makes a directory, given by its root and its parts from the last to the first, with those
above it. -/
def makeUpwards (t : FileTree) (root : String) : List String → Except Cause FileTree
  | [] => t.ensureDirectory ⟨root, []⟩
  | last :: above =>
    let p : Path := ⟨root, (last :: above).reverse⟩
    match t.makeDirectory p with
    | .ok t => .ok t
    | .error .missing => do
      -- the directory may be there by now, if its last part leads back up
      let t ← makeUpwards t root above
      t.ensureDirectory p
    | .error problem => if t.isDirectory p then .ok t else .error (problem.cause p.text)

/-- Makes a directory with those above it, unless it is there. -/
def makeDirectories (t : FileTree) (p : Path) : Except Cause FileTree :=
  t.makeUpwards p.root p.parts.reverse

/-! ### Files -/

def blame {α : Type} (p : Path) : Except FileProblem α → Except Cause α
  | .ok a => .ok a
  | .error problem => .error (problem.cause p.text)

def write (t : FileTree) (p : Path) (c : Content) : Except Cause FileTree := do
  let l ← blame p (t.locate p)
  match t.lookup l with
  | some .directory => .error (.file .isDirectory p.text)
  | _ => .ok ⟨t.entries.put l (.file c)⟩

/-- What a file holds. -/
def read (t : FileTree) (p : Path) : Except Cause Content := do
  let l ← blame p (t.locate p)
  match t.lookup l with
  | none => .error (.file .missing p.text)
  | some .directory => .error (.file .isDirectory p.text)
  | some (.file c) => .ok c

/-- What a file holds as text, with unified line ends. -/
def readText (t : FileTree) (p : Path) : Except Cause String := do
  match ← t.read p with
  | .text s => .ok (Text.unifyNewlines s)
  | _ => .error (.undecodable "'utf-8' codec can't decode bytes")

def remove (t : FileTree) (p : Path) : Except Cause FileTree := do
  let l ← blame p (t.locate p)
  match t.lookup l with
  | none => .error (.file .missing p.text)
  | some .directory => .error (.file .isDirectory p.text)
  | some (.file _) => .ok ⟨t.entries.erase l⟩

/-- The entries below a location. -/
def inside (t : FileTree) (l : Location) : Ordered Location Entry :=
  t.entries.filter fun e => l.isPrefixOf e.1 && e.1 != l

/-- The tree with what is at and below one location moved to another, where nothing is kept. -/
def relocate (t : FileTree) (l m : Location) : FileTree :=
  ⟨(t.entries.filter fun e => !m.isPrefixOf e.1 || l.isPrefixOf e.1).map fun e =>
    if l.isPrefixOf e.1 then (m ++ e.1.drop l.length, e.2) else e⟩

/-- Moves what is at one path over what is at another: a file over a file, a directory over an
empty directory. -/
def move (t : FileTree) (p q : Path) : Except Cause FileTree := do
  let l ← blame p (t.locate p)
  let m ← blame q (t.locate q)
  match t.lookup l, t.lookup m with
  | none, _ => .error (.file .missing p.text)
  | some .directory, some (.file _) => .error (.file .notDirectory p.text)
  | some .directory, some .directory =>
    if l = m then .ok t
    else if (t.inside m).isEmpty then .ok (t.relocate l m)
    else .error (.file .notEmpty p.text)
  | some .directory, none => .ok (t.relocate l m)
  | some (.file _), some .directory => .error (.file .isDirectory p.text)
  | some (.file c), _ => if l = m then .ok t else .ok ⟨(t.entries.erase l).put m (.file c)⟩

/-! ### Listings -/

/-- The files below a directory: their locations from there on, with what they hold. -/
def filesBelow (t : FileTree) (p : Path) : List (Location × Content) :=
  match t.locate p with
  | .error _ => []
  | .ok l => (t.inside l).filterMap fun e =>
      match e.2 with
      | .directory => none
      | .file c => some (e.1.drop l.length, c)

/-- The files below a directory by path, in the order of their paths. -/
def listing (t : FileTree) (p : Path) : List (String × Content) :=
  ((t.filesBelow p).map fun (l, c) => ((p.join ⟨"", l⟩).text, c)).mergeSort fun a b => a.1 ≤ b.1

/-- The names of what is directly in a directory. -/
def namesIn (t : FileTree) (p : Path) : List String :=
  match t.locate p with
  | .error _ => []
  | .ok l => (t.inside l).filterMap fun e =>
      match e.1.drop l.length with
      | [name] => some name
      | _ => none

/-- Puts an entry at a path, with the directories above it. -/
def plant (t : FileTree) (p : Path) (e : Entry) : Except Cause FileTree :=
  match e with
  | .directory => t.makeDirectories p
  | .file c => do (← t.makeDirectories p.parent).write p c

end FileTree

end SoapStubs
