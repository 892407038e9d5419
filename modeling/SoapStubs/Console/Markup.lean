import SoapStubs.Console.Emoji
import SoapStubs.Console.Literal
import SoapStubs.Console.Style
import SoapStubs.Text.Quoted

/-!
# Console markup

Texts for the console have tags in brackets that set the style: `[bold]` opens a style and
`[/bold]` or `[/]` closes one.  A tag such as `[@press=stop(1)]` names a handler instead.  A console
without styles shows the text without the tags.  Codes of emoji between the tags are replaced.

* `Markup.Piece` is a stretch of text or a tag, and `Markup.pieces` cuts a text into them;
* `Markup.Tag` is an open tag;
* `Markup.read` is the text without its tags; a closing tag has to close something;
* `Markup.Shown.settled` are its characters, if it can be shown.

A tag starts with a small letter or one of `#`, `/` and `@`.  An odd number of backslashes before
a tag makes it text.
-/

namespace SoapStubs.Markup

/-- A part of a text. -/
inductive Piece where
  | text (cs : List Char)
  /-- A tag, without its brackets. -/
  | tag (cs : List Char)
  deriving DecidableEq, Repr, Inhabited

/-- May the character start a tag? -/
def startsTag (c : Char) : Bool :=
  ('a' ≤ c && c ≤ 'z') || c == '#' || c == '/' || c == '@'

/-- The tag behind an opening bracket, and what follows its closing bracket. -/
def tag? : List Char → Option (List Char × List Char)
  | [] => none
  | c :: rest =>
    if startsTag c then
      match rest.span fun d => d != '[' && d != ']' with
      | (more, ']' :: after) => some (c :: more, after)
      | _ => none
    else none

/-- The parts of a text, after some characters that are shown and were not put into a part yet. -/
def cut : (fuel : Nat) → (shown : List Char) → List Char → List Piece
  | 0, shown, cs => [.text (shown ++ cs)]
  | _ + 1, shown, [] => [.text shown]
  | fuel + 1, shown, c :: cs =>
    let (slashes, rest) := (c :: cs).span (· == '\\')
    match rest with
    | '[' :: inside =>
      match tag? inside with
      | some (tag, after) =>
        let kept := List.replicate (slashes.length / 2) '\\'
        if slashes.length % 2 = 1 then
          .text shown :: .text kept :: .text ('[' :: tag ++ [']']) :: cut fuel [] after
        else .text shown :: .text kept :: .tag tag :: cut fuel [] after
      | none => cut fuel (shown ++ slashes ++ ['[']) inside
    | d :: rest => cut fuel (shown ++ slashes ++ [d]) rest
    | [] => [.text (shown ++ slashes)]

/-- The parts of a text. -/
def pieces (s : String) : List Piece := cut (s.length + 1) [] s.toList

/-- The characters with a backslash before an opening bracket removed. -/
def unescape : List Char → List Char
  | '\\' :: '[' :: cs => '[' :: unescape cs
  | c :: cs => c :: unescape cs
  | [] => []

/-! ### Tags -/

/-- A tag that is open. -/
structure Tag where
  /-- The name in normal form. -/
  name : String
  /-- What stands behind the equals sign. -/
  parameters : Option String := none
  deriving DecidableEq, Repr, Inhabited

namespace Tag

/-- The name of a tag and what stands behind the equals sign. -/
def cut (cs : List Char) : List Char × Option String :=
  match cs.span (· != '=') with
  | (name, _ :: parameters) => (name, some (String.ofList parameters))
  | (name, []) => (name, none)

/-- The tag as the definition of a style. -/
def definition (t : Tag) : String :=
  match t.parameters with
  | none => t.name
  | some p => t.name ++ " " ++ p

/-- Does the tag name a handler? -/
def isHandler (t : Tag) : Bool := t.name.toList.head? == some '@'

/-- The arguments of a handler: what stands in brackets behind its name, nothing if there is only a
name, and all of it if it has another form. -/
def arguments (call : String) : String :=
  match call.toList.dropWhile fun c => Text.isWord c || c == '.' with
  | [] => "()"
  | rest =>
    if rest.head? == some '(' && rest.getLast? == some ')' && !rest.contains '\n' then
      String.ofList rest
    else call

/-- Is the tag one that can be closed?  The arguments of a handler are a literal. -/
def closes (t : Tag) : Bool :=
  match t.isHandler, t.parameters with
  | true, some p => p.isEmpty || Console.Literal.accepts (arguments (Text.strip p))
  | _, _ => true

end Tag

/-- The open tags without the innermost one of a name, and that one. -/
def close? (name : String) : List Tag → Option (Tag × List Tag)
  | [] => none
  | t :: rest => if t.name = name then some (t, rest) else (close? name rest).map fun (u, ts) =>
      (u, t :: ts)

/-- The open tags after a closing one, and the tag that it closes. -/
def closed (cs : List Char) (opened : List Tag) : Except Cause (Tag × List Tag) := do
  let name := Text.strip (String.ofList (Tag.cut cs).1)
  let found ← if name.isEmpty then pure (opened.head?.map fun t => (t, opened.tail))
    else pure (close? (← Console.Style.normal name) opened)
  match found with
  | some (t, rest) =>
    if t.closes then return (t, rest)
    else throw (.markup ("error parsing " ++ Text.quote (t.parameters.getD "")))
  | none =>
    throw (.markup ("closing tag '[/" ++ String.ofList cs ++ "]' doesn't match any open tag"))

/-- The tag that an opening one makes. -/
def opening (cs : List Char) : Except Cause Tag := do
  let (name, parameters) := Tag.cut cs
  return ⟨← Console.Style.normal (String.ofList name), parameters⟩

/-- The text of parts with some tags open, and the tags whose styles it has. -/
def showWith (opened : List Tag) : List Piece → Except Cause (List Char × List Tag)
  | [] => .ok ([], opened)
  | .text cs :: rest => do
    let (more, styled) ← showWith opened rest
    return (Console.Emoji.replace (unescape cs) ++ more, styled)
  | .tag ('/' :: cs) :: rest => do
    let (t, opened) ← closed cs opened
    let (more, styled) ← showWith opened rest
    return (more, t :: styled)
  | .tag cs :: rest => do showWith ((← opening cs) :: opened) rest

/-- A text without its tags. -/
structure Shown where
  chars : List Char
  tags : List Tag := []
  deriving DecidableEq, Repr, Inhabited

/-- The text without its tags. -/
def read (s : String) : Except Cause Shown := do
  let (chars, tags) ← showWith [] (pieces s)
  return ⟨chars, tags⟩

/-- The characters of a text that is shown.  The styles of its tags have to be readable then, though
a tag need not name a style. -/
def Shown.settled (s : Shown) : Except Cause (List Char) := do
  s.tags.forM fun t => do
    if !t.isHandler then let _ ← Console.Style.ofText t.definition
  return s.chars

end SoapStubs.Markup
