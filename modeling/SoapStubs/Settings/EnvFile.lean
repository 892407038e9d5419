import SoapStubs.Ordered
import SoapStubs.Text.Blank
import SoapStubs.Text.Split

/-!
# Files of variables

A file of variables has a line `NAME=value` for each variable.  A value may stand in quotes, and
then it may have escapes and go over several lines; comments start with `#`; a line that is no
assignment is passed over.

* `EnvFile.read` gives the variables of a file's text;
* `EnvFile.expand` puts the values of variables in place of their names in braces.
-/

namespace SoapStubs.EnvFile

/-- Does the character end a line? -/
def isLineEnd (c : Char) : Bool := c == '\n' || c == '\r'

/-- Is the character blank inside a line? -/
def isGap (c : Char) : Bool := Text.isBlank c && !isLineEnd c

/-- What follows the rest of the line. -/
def nextLine (cs : List Char) : List Char :=
  match cs.dropWhile fun c => !isLineEnd c with
  | '\r' :: '\n' :: rest => rest
  | _ :: rest => rest
  | [] => []

/-- What stands before the closing quote `q` and what follows it.  A backslash keeps the character
behind it from closing. -/
def quoted (q : Char) : List Char → Option (List Char × List Char)
  | [] => none
  | '\\' :: d :: cs => (quoted q cs).map fun (value, rest) => ('\\' :: d :: value, rest)
  | c :: cs =>
    if c = q then some ([], cs)
    else (quoted q cs).map fun (value, rest) => (c :: value, rest)

/-- The characters that escapes in double quotes stand for. -/
def escapes : List (Char × Char) :=
  [('\\', '\\'), ('\'', '\''), ('"', '"'), ('a', '\x07'), ('b', '\x08'), ('f', '\x0c'),
    ('n', '\n'), ('r', '\r'), ('t', '\t'), ('v', '\x0b')]

/-- The characters that escapes in single quotes stand for. -/
def plainEscapes : List (Char × Char) := [('\\', '\\'), ('\'', '\'')]

/-- The text with its escapes resolved; a backslash before any other character stays. -/
def unescape (table : List (Char × Char)) : List Char → List Char
  | '\\' :: c :: cs =>
    match table.lookup c with
    | some d => d :: unescape table cs
    | none => '\\' :: unescape table (c :: cs)
  | c :: cs => c :: unescape table cs
  | [] => []

/-- The value without a comment that follows a blank. -/
def dropComment : List Char → List Char
  | [] => []
  | c :: cs =>
    if Text.isBlank c && ((c :: cs).dropWhile Text.isBlank).head? == some '#' then []
    else c :: dropComment cs

/-- The name at the start and what follows it; a comment has no name. -/
def name (cs : List Char) : Option (Option String × List Char) :=
  match cs with
  | '#' :: _ => some (none, cs)
  | '\'' :: rest =>
    match rest.span (· != '\'') with
    | ([], _) => none
    | (key, '\'' :: rest) => some (some (String.ofList key), rest)
    | _ => none
  | _ =>
    match cs.span fun c => c != '=' && c != '#' && !Text.isBlank c with
    | ([], _) => none
    | (key, rest) => some (some (String.ofList key), rest)

/-- The value at the start and what follows it. -/
def value (cs : List Char) : Option (String × List Char) :=
  match cs with
  | '\'' :: rest =>
    (quoted '\'' rest).map fun (v, rest) => (String.ofList (unescape plainEscapes v), rest)
  | '"' :: rest =>
    (quoted '"' rest).map fun (v, rest) => (String.ofList (unescape escapes v), rest)
  | _ =>
    let (v, rest) := cs.span fun c => !isLineEnd c
    some (Text.stripEnd (String.ofList (dropComment v)), rest)

/-- What follows the end of the line, if nothing but a comment stands before it. -/
def lineEnd (cs : List Char) : Option (List Char) :=
  let cs := cs.dropWhile isGap
  let cs := if cs.head? == some '#' then cs.dropWhile fun c => !isLineEnd c else cs
  match cs with
  | [] => some []
  | c :: _ => if isLineEnd c then some (nextLine cs) else none

/-- What follows the word `export` and blanks, if they stand at the start. -/
def dropExport (cs : List Char) : List Char :=
  let word := "export".toList
  if word.isPrefixOf cs && ((cs.drop word.length).head?.map isGap).getD false then
    (cs.drop word.length).dropWhile isGap
  else cs

/-- The assignment at the start and what follows it; a name alone is assigned nothing.  After
something that is no assignment the reading goes on with the next line. -/
def binding (cs : List Char) : Option (String × Option String) × List Char :=
  match name (dropExport cs) with
  | none => (none, nextLine (dropExport cs))
  | some (key, rest) =>
    let rest := rest.dropWhile isGap
    match rest with
    | '=' :: after =>
      let after := after.dropWhile isGap
      match value after with
      | none => (none, nextLine after)
      | some (v, rest) =>
        match lineEnd rest with
        | some next => (key.map fun k => (k, some v), next)
        | none => (none, nextLine rest)
    | _ =>
      match lineEnd rest with
      | some next => (key.map fun k => (k, none), next)
      | none => (none, nextLine rest)

/-- The assignments of at most `fuel` lines. -/
def bindings : (fuel : Nat) → List Char → List (String × Option String)
  | 0, _ => []
  | fuel + 1, cs =>
    match cs.dropWhile Text.isBlank with
    | [] => []
    | cs =>
      let (found, rest) := binding cs
      found.toList ++ bindings fuel rest

/-- The text with `$` and a name in braces replaced by what the name stands for.  A default may
follow the name after `:-`; a name that is assigned nothing needs none. -/
def expand (known : String → Option (Option String)) : (fuel : Nat) → List Char → List Char
  | 0, cs => cs
  | fuel + 1, cs =>
    match cs with
    | [] => []
    | '$' :: '\x7b' :: rest =>
      let (name, after) := rest.span fun c => c != '\x7d' && c != ':'
      match after with
      | '\x7d' :: after =>
        ((known (String.ofList name)).join.getD "").toList ++ expand known fuel after
      | ':' :: '-' :: after =>
        match after.span (· != '\x7d') with
        | (default, '\x7d' :: after) =>
          (((known (String.ofList name)).getD (some (String.ofList default))).getD "").toList ++
            expand known fuel after
        | _ => '$' :: expand known fuel ('\x7b' :: rest)
      | _ => '$' :: expand known fuel ('\x7b' :: rest)
    | c :: cs => c :: expand known fuel cs

/-- The variables with their values expanded: by the variables before them or else by the
environment. -/
def resolve (environment : List (String × String)) (found : Ordered String (Option String)) :
    List (String × Option String) → Ordered String (Option String)
  | [] => found
  | (key, v) :: rest =>
    let known (name : String) : Option (Option String) :=
      (found.get? name).or ((Ordered.get? environment name).map some)
    let expanded := v.map fun s => String.ofList (expand known (s.length + 1) s.toList)
    resolve environment (found.put key expanded) rest

/-- The variables of a file. -/
def read (environment : List (String × String)) (text : String) :
    Ordered String (Option String) :=
  resolve environment [] (bindings (text.length + 1) text.toList)

end SoapStubs.EnvFile
