import SoapStubs.Text.Split

/-!
# Paths

Paths of files and directories in normal form: a root, which is empty for relative paths, and the
parts between slashes without the empty ones and the dots.

* `Path.ofText` brings a text into normal form and `Path.text` writes a path; the path without
  parts is written as a dot;
* `Path.join` puts one path behind another; a path with a root replaces what stands before it;
* `Path.name`, `Path.suffix`, `Path.stem` and `Path.parent` look at the last part, and
  `Path.withSuffix?` changes its ending.
-/

namespace SoapStubs

/-- A path in normal form. -/
structure Path where
  /-- The slashes in front: none, one or two. -/
  root : String := ""
  /-- The parts between slashes. -/
  parts : List String := []
  deriving DecidableEq, Repr, Inhabited

namespace Path

/-- The root of a text: two slashes stay two, more are one. -/
def rootOf (s : String) : String :=
  match (s.toList.takeWhile (· == '/')).length with
  | 0 => ""
  | 2 => "//"
  | _ => "/"

/-- Is the text a part of a path in normal form? -/
def isPart (s : String) : Bool := s != "" && s != "."

def ofText (s : String) : Path := ⟨rootOf s, (Text.split '/' s).filter isPart⟩

def text (p : Path) : String :=
  if p.root = "" ∧ p.parts = [] then "." else p.root ++ Text.join "/" p.parts

/-- The second path behind the first. -/
def join (p q : Path) : Path := if q.root = "" then { p with parts := p.parts ++ q.parts } else q

/-- The path of a text behind a path. -/
def child (p : Path) (s : String) : Path := p.join (ofText s)

/-- The paths of texts one behind another. -/
def descend (p : Path) (names : List String) : Path := names.foldl child p

/-- The last part, or nothing. -/
def name (p : Path) : String := p.parts.getLast?.getD ""

def parent (p : Path) : Path := { p with parts := p.parts.dropLast }

/-- A name in two: up to its last dot, and from there on.  A dot at either end does not count. -/
def cutName (name : String) : String × String :=
  match Text.cutLast? '.' name.toList with
  | some (c :: before, d :: after) =>
    (String.ofList (c :: before), String.ofList ('.' :: d :: after))
  | _ => (name, "")

/-- The ending of the last part, from its last dot on. -/
def suffix (p : Path) : String := (cutName p.name).2

/-- The last part without its ending. -/
def stem (p : Path) : String := (cutName p.name).1

/-- The path with another last part. -/
def withName (p : Path) (name : String) : Path := { p with parts := p.parts.dropLast ++ [name] }

/-- The path with another ending of its last part, if it has one. -/
def withSuffix? (p : Path) (suffix : String) : Option Path :=
  if p.name = "" then none else some (p.withName (p.stem ++ suffix))

end Path

end SoapStubs
