import SoapStubs.Failure
import SoapStubs.Ordered
import SoapStubs.Text.Blank
import SoapStubs.Text.Line

/-!
# The manifest of generated types

The identifiers of all generated classes, in the order they were declared and each of them once.
A client reads it to register the types it knows.

* `Manifest` keeps with each identifier the name it came from;
* `Manifest.add` declares an identifier: again from the same origin changes nothing, and from
  another origin is refused;
* `Manifest.toLines` and `Manifest.ofLines` write and read it, one identifier on a line.
-/

namespace SoapStubs

/-- The generated types in the order of their declaration. -/
structure Manifest where
  /-- The name each identifier came from. -/
  origins : Ordered String String := []
  frozen : Bool := false
  deriving Repr, Inhabited

namespace Manifest

/-- The identifiers, in the order of their declaration. -/
def identifiers (m : Manifest) : List String := m.origins.keys

/-- The number of identifiers. -/
def size (m : Manifest) : Nat := m.origins.length

/-- Is the identifier declared? -/
def contains (m : Manifest) (identifier : String) : Bool := m.origins.has identifier

/-- The closed manifest. -/
def freeze (m : Manifest) : Manifest := { m with frozen := true }

/-- The name an identifier comes from: the given one, or the identifier if none is given. -/
def originOf (identifier : String) : Option String → String
  | none => identifier
  | some "" => identifier
  | some origin => origin

/-- Declares an identifier and says whether it is new. -/
def add (m : Manifest) (identifier : String) (origin : Option String := none) :
    Except Failure (Manifest × Bool) :=
  if m.frozen then .error (.of (.manifestClosed identifier))
  else
    let origin := originOf identifier origin
    match m.origins.get? identifier with
    | none => .ok ({ m with origins := m.origins.put identifier origin }, true)
    | some existing =>
      if existing = origin then .ok (m, false)
      else
        .error (.of (.sameType origin existing identifier) [("entity", .text identifier)])

def ofList (identifiers : List String) : Except Failure Manifest :=
  identifiers.foldlM (fun m i => (m.add i).map Prod.fst) {}

def toLines (m : Manifest) : String := Text.concat (m.identifiers.map (· ++ "\n"))

/-- The identifiers that a text lists: its lines without blanks at their ends, but for the
blank ones. -/
def listed (text : String) : List String :=
  ((Text.lines text).map Text.strip).filter (· != "")

def ofLines (text : String) : Except Failure Manifest := ofList (listed text)

/-- Have the manifests the same identifiers in the same order? -/
def same (m n : Manifest) : Bool := m.identifiers == n.identifiers

def call (m : Manifest) : String :=
  "GeneratedTypeManifest(" ++ (Value.texts m.identifiers).quoted ++ ")"

end Manifest

end SoapStubs
