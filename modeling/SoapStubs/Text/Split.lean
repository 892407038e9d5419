/-!
# Splitting and joining text

Cutting a text at a separator character and putting pieces together again.  All cutting is
defined on lists of characters, by recursion on the list, and carried over to `String`.

* `pieces` / `split` cut at every separator; there is always at least one piece;
* `cutLast?` / `splitLast` cut at the last separator only;
* `join` puts texts together with a separator between them;
* `joinPieces` is `join` for one separator character, on lists of characters;
* `after?` is what follows the start of a text.
-/

namespace SoapStubs.Text

/-- The pieces of `cs` between the occurrences of `sep`. -/
def pieces (sep : Char) : List Char → List (List Char)
  | [] => [[]]
  | c :: cs =>
    if c = sep then [] :: pieces sep cs
    else
      match pieces sep cs with
      | [] => [[c]]
      | p :: ps => (c :: p) :: ps

/-- The pieces put together again, one `sep` between neighbours. -/
def joinPieces (sep : Char) : List (List Char) → List Char
  | [] => []
  | [p] => p
  | p :: q :: ps => p ++ sep :: joinPieces sep (q :: ps)

/-- What stands before and after the last `sep`, if there is one. -/
def cutLast? (sep : Char) : List Char → Option (List Char × List Char)
  | [] => none
  | c :: cs =>
    match cutLast? sep cs with
    | some (before, after) => some (c :: before, after)
    | none => if c = sep then some ([], cs) else none

/-- The pieces of `s` between the occurrences of `sep`. -/
def split (sep : Char) (s : String) : List String :=
  (pieces sep s.toList).map String.ofList

/-- The part of `s` before the last `sep` and the part after it; without a `sep` the first
part is empty. -/
def splitLast (sep : Char) (s : String) : String × String :=
  match cutLast? sep s.toList with
  | some (before, after) => (String.ofList before, String.ofList after)
  | none => ("", s)

/-- The texts in a row with `sep` between neighbours. -/
def join (sep : String) : List String → String
  | [] => ""
  | [s] => s
  | s :: t :: rest => s ++ sep ++ join sep (t :: rest)

/-- The texts in a row. -/
def concat (parts : List String) : String := parts.foldr (· ++ ·) ""

/-- The text without its last `n` characters. -/
def dropEnd (n : Nat) (s : String) : String :=
  String.ofList (s.toList.take (s.toList.length - n))

/-- The first `n` characters of the text. -/
def takeStart (n : Nat) (s : String) : String := String.ofList (s.toList.take n)

/-- Does the text end in `tail`? -/
def endsIn (tail s : String) : Bool := tail.toList.isSuffixOf s.toList

/-- Does `part` occur in the text? -/
def occursIn (part : List Char) : List Char → Bool
  | [] => part.isEmpty
  | c :: cs => part.isPrefixOf (c :: cs) || occursIn part cs

theorem pieces_ne_nil (sep : Char) (cs : List Char) : pieces sep cs ≠ [] := by
  cases cs with
  | nil => simp [pieces]
  | cons c cs =>
    simp only [pieces]
    split
    · simp
    · split <;> simp

/-- What follows the start of a text. -/
def after? (start s : String) : Option String :=
  if start.toList.isPrefixOf s.toList then some (String.ofList (s.toList.drop start.length))
  else none

/-- Joining the pieces gives the text back. -/
theorem joinPieces_pieces (sep : Char) (cs : List Char) :
    joinPieces sep (pieces sep cs) = cs := by
  induction cs with
  | nil => rfl
  | cons c cs ih =>
    simp only [pieces]
    split
    · rename_i h
      subst h
      cases hp : pieces c cs with
      | nil => exact absurd hp (pieces_ne_nil c cs)
      | cons p ps =>
        rw [hp] at ih
        rw [show joinPieces c ([] :: p :: ps) = c :: joinPieces c (p :: ps) from rfl, ih]
    · cases hp : pieces sep cs with
      | nil => exact absurd hp (pieces_ne_nil sep cs)
      | cons p ps =>
        rw [hp] at ih
        cases ps with
        | nil => simpa [joinPieces] using ih
        | cons q qs => simp [joinPieces] at ih ⊢; exact ih

end SoapStubs.Text
