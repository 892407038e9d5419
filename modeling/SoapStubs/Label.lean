import SoapStubs.Failure.Cause
import SoapStubs.Failure.Problem

/-!
# Labels

Small closed types whose members are written as words in documents.

* `Labelled` gives the name of the type, its members and their words;
* `Labelled.read` finds the member of a word, or says that the value is none;
* `Labelled.shown` writes a member together with its type.
-/

namespace SoapStubs

/-- A closed type whose members are written as words. -/
class Labelled (α : Type) where
  typeName : String
  members : List α
  label : α → String

namespace Labelled

variable {α : Type} [Labelled α]

def find? (word : String) : Option α := (members : List α).find? fun a => label a == word

/-- The member with the word that the value is. -/
def read (v : Value) : Except Cause α :=
  match v.text?.bind find? with
  | some a => .ok a
  | none => .error (.invalid (v.quoted ++ " is not a valid " ++ typeName α))

/-- The name of a member: its word in upper case, with hyphens as low lines. -/
def memberName (a : α) : String :=
  String.ofList ((label a).toList.map fun c => if c = '-' then '_' else c.toUpper)

/-- The member together with its type. -/
def shown (a : α) : String :=
  "<" ++ typeName α ++ "." ++ memberName a ++ ": " ++ Text.quote (label a) ++ ">"

/-- The member as a value. -/
def value (a : α) : Value := .text (label a)

end Labelled

/-- The two flavours of client library. -/
inductive Variant where
  /-- Without parameterised types and enumerations. -/
  | legacy
  | modern
  deriving DecidableEq, Repr, Inhabited

namespace Variant

/-- The word of a variant. -/
def name : Variant → String
  | .legacy => "legacy"
  | .modern => "modern"

/-- The variants in the order they are worked on. -/
def all : List Variant := [.legacy, .modern]

instance : Labelled Variant := ⟨"Variant", all, name⟩

end Variant

instance : Labelled Category :=
  ⟨"ErrorCategory", [.config, .model, .storage, .compile, .internal], Category.label⟩

end SoapStubs
