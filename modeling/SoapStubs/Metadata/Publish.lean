import SoapStubs.Calendar
import SoapStubs.FileTree

/-!
# Publishing files as one unit

Several files are written next to their final places first and then moved there.  What stands at
a final place is set aside before.  If anything goes wrong on the way, all that was moved is moved
back, so that either all files are new or all are as they were.

* `Point` names the places where the file system may refuse; a `Chance` says where it does, and
  which names it makes up for new files;
* `makeBeside` makes an empty file under such a name;
* `stage` writes a file under a name of its own beside its final place;
* `setAside` moves what stands at a final place out of the way;
* `publish` moves staged files to their final places, and `rollBack` undoes what it did.
-/

namespace SoapStubs.Metadata

/-- Where the file system may refuse while the files of a unit, numbered from zero, are
published. -/
inductive Point where
  /-- While the file is made that a text is staged in. -/
  | create (i : Nat)
  /-- While the text is written. -/
  | write (i : Nat)
  /-- While the file is made that what stands at a final place is to replace. -/
  | reserve (i : Nat)
  /-- While what stands at a final place is moved there. -/
  | setAside (i : Nat)
  /-- While a staged file is moved to its final place. -/
  | move (i : Nat)
  deriving DecidableEq, Repr

/-- The first name `base` + eight digits + `ending` that nothing in the directory of `p` has. -/
def freshPath (t : FileTree) (p : Path) (ending : String) : (fuel n : Nat) → Path
  | 0, n => p.withName ("." ++ p.name ++ "." ++ padded 8 n ++ ending)
  | fuel + 1, n =>
    let q := p.withName ("." ++ p.name ++ "." ++ padded 8 n ++ ending)
    if t.has q then freshPath t p ending fuel (n + 1) else q

/-- A name beside `p` that nothing has. -/
def beside (t : FileTree) (p : Path) (ending : String) : Path :=
  freshPath t p ending t.entries.length 0

/-- What is left to chance while files are published. -/
structure Chance where
  /-- What the file system refuses of itself, beyond what the tree makes impossible. -/
  refuses : Point → Option FileProblem := fun _ => none
  /-- The name it makes up for a new file beside a path, with an ending. -/
  name : FileTree → Path → String → Path := beside

/-- Nothing is refused, and names are numbered. -/
def Chance.none : Chance := {}

/-- A file beside its final place. -/
structure Staged where
  temp : Path
  final : Path

/-- A final place that was written, and where what stood there is. -/
structure Published where
  final : Path
  /-- What stood there, if anything did. -/
  backup : Option Path

/-- The tree after an attempt that may fail without harm. -/
def attempt (t : FileTree) : Except Cause FileTree → FileTree
  | .ok t' => t'
  | .error _ => t

/-- Removes files that are no longer needed. -/
def discard (t : FileTree) (paths : List Path) : FileTree :=
  paths.foldl (fun t p => attempt t (t.remove p)) t

variable (chance : Chance)

/-- Makes an empty file under a name of its own beside a path. -/
def makeBeside (t : FileTree) (point : Point) (p : Path) (ending : String) :
    Except Cause (FileTree × Path) :=
  let q := chance.name t p ending
  match chance.refuses point with
  | some problem => .error (.file problem q.text)
  | none => do return (← t.write q (.text ""), q)

/-- Moves a file, unless that is refused. -/
def moveAt (t : FileTree) (point : Point) (p q : Path) : Except Cause FileTree :=
  match chance.refuses point with
  | some problem => .error (.file problem p.text)
  | none => t.move p q

/-- Writes a text over a file, unless that is refused. -/
def writeAt (t : FileTree) (point : Point) (p : Path) (text : String) : Except Cause FileTree :=
  match chance.refuses point with
  | some problem => .error (.file problem p.text)
  | none => t.write p (.text text)

/-- Writes a text beside its final place.  A file that was made and cannot be written is removed
again. -/
def stage (t : FileTree) (i : Nat) (final : Path) (text : String) :
    FileTree × Except Cause Staged :=
  match makeBeside chance t (.create i) final ".tmp" with
  | .error c => (t, .error c)
  | .ok (made, temp) =>
    match writeAt chance made (.write i) temp text with
    | .error c => (discard made [temp], .error c)
    | .ok written => (written, .ok ⟨temp, final⟩)

/-- Moves what stands at a final place out of the way, and says where it is.  A file that was made
for it is removed again if it cannot be moved there. -/
def setAside (t : FileTree) (i : Nat) (final : Path) : FileTree × Except Cause (Option Path) :=
  if !t.has final then (t, .ok none)
  else
    -- the name is taken with an empty file, over which the other one is moved
    match makeBeside chance t (.reserve i) final ".bak" with
    | .error c => (t, .error c)
    | .ok (made, backup) =>
      match moveAt chance made (.setAside i) final backup with
      | .error c => (discard made [backup], .error c)
      | .ok moved => (moved, .ok (some backup))

/-- Puts one final place back to what it was. -/
def putBack (t : FileTree) (p : Published) : FileTree :=
  match p.backup with
  | none => attempt t (t.remove p.final)
  | some backup => attempt t (t.move backup p.final)

/-- Puts final places back to what they were, the one written last first. -/
def rollBack (t : FileTree) (published : List Published) : FileTree := published.foldl putBack t

/-- Moves staged files, numbered from `i`, to their final places.  `published` are the places
written before, the last one first; they are put back if something goes wrong. -/
def publishFrom (t : FileTree) (published : List Published) :
    (i : Nat) → List Staged → FileTree × Except Cause (List Published)
  | _, [] => (t, .ok published)
  | i, s :: rest =>
    match setAside chance t i s.final with
    | (t, .error c) => (rollBack t published, .error c)
    | (t, .ok backup) =>
      -- from here on the place counts as written, for what stood there is gone
      let published := ⟨s.final, backup⟩ :: published
      match moveAt chance t (.move i) s.temp s.final with
      | .error c => (rollBack t published, .error c)
      | .ok t => publishFrom t published (i + 1) rest

/-- Moves staged files to their final places as one unit. -/
def publish (t : FileTree) (staged : List Staged) : FileTree × Except Cause Unit :=
  match publishFrom chance t [] 0 staged with
  | (t, .error c) => (t, .error c)
  | (t, .ok published) => (discard t (published.reverse.filterMap (·.backup)), .ok ())

end SoapStubs.Metadata
