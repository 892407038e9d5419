import SoapStubs.FileTree
import SoapStubs.Metadata.Publish

/-!
# Archives

The files below directories as one file.

* `Archive.entries` are the entries for some directories: one directory after another, and in each
  the files in the order of the parts of their paths;
* `Archive.write` writes an archive, replacing what is there.
-/

namespace SoapStubs.Archive

/-- Does the first location come before the second, part by part? -/
def before : Location → Location → Bool
  | [], _ => true
  | _ :: _, [] => false
  | a :: as, b :: bs => if a = b then before as bs else a < b

/-- The entries for a directory. -/
def entriesBelow (t : FileTree) (root : Path) : List (String × Content) :=
  if t.isDirectory root then
    ((t.filesBelow root).mergeSort fun a b => before a.1 b.1).map fun (l, c) =>
      (Text.join "/" l, c)
  else []

/-- The entries for directories. -/
def entries (t : FileTree) (roots : List Path) : List (String × Content) :=
  roots.flatMap (entriesBelow t)

/-- Writes an archive of the files below the directories. -/
def write (t : FileTree) (archive : Path) (roots : List Path) : Except Cause FileTree := do
  let t ← t.makeDirectories archive.parent
  let temp := Metadata.beside t archive ".tmp"
  let t ← t.write temp (.archive [])
  let t ← t.write temp (.archive (entries t roots))
  t.move temp archive

end SoapStubs.Archive
