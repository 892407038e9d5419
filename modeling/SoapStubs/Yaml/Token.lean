import SoapStubs.Yaml.Scalar

/-!
# Tokens of YAML

A YAML text as a list of tokens.  Indentation is made explicit: the start of a block collection and
its end are tokens.  That something was the key of a mapping is known only at the colon after it, so
the places of possible keys are remembered; the tokens of keys are kept apart from the others and
put at their places at the end.

* `Token` is a token;
* `Scanner` is the state of reading: the place, the open collections, the possible keys;
* `Scanner.next` reads a token, and `scan` a whole text.

A text is read only as far as its tokens are asked for, so an objection counts from its place on:
`Scanned` has the tokens before it.
-/

namespace SoapStubs.Yaml

/-- A token of a text. -/
inductive Token where
  | version (major : Nat)
  /-- What a tag handle stands for. -/
  | handle (name start : String)
  | directive
  | documentStart
  | documentEnd
  | blockSequenceStart
  | blockMappingStart
  /-- The end of an indented collection. -/
  | blockEnd
  | flowSequenceStart
  | flowSequenceEnd
  | flowMappingStart
  | flowMappingEnd
  /-- The dash before an item. -/
  | blockEntry
  /-- The comma between items. -/
  | flowEntry
  | key
  | value
  /-- A reference to a named node. -/
  | alias (name : String)
  /-- A name for the next node. -/
  | anchor (name : String)
  /-- The tag of the next node. -/
  | tag (handle : Option String) (suffix : String)
  | scalar (text : String) (isPlain : Bool)
  deriving DecidableEq, Repr, Inhabited

/-- A place where a key may have started. -/
structure PossibleKey where
  /-- The number of tokens before it. -/
  position : Nat
  required : Bool
  /-- The number of characters before it. -/
  index : Nat
  line : Nat
  column : Nat
  deriving Repr, Inhabited

/-- The state of reading tokens. -/
structure Scanner where
  cursor : Cursor
  /-- The number of open brackets and braces. -/
  flow : Nat := 0
  /-- The indentation of the innermost indented collection. -/
  indent : Int := -1
  /-- The indentations of those around it. -/
  outer : List Int := []
  /-- May a key start here? -/
  keyAllowed : Bool := true
  /-- The possible keys by the number of brackets around them. -/
  possible : List (Nat × PossibleKey) := []
  /-- The tokens but for those of keys that were found late, last one first. -/
  tokens : List Token := []
  /-- The number of these tokens. -/
  count : Nat := 0
  /-- Tokens of keys that were found late, with the number of tokens before them. -/
  late : List (Nat × List Token) := []
  deriving Inhabited

/-! ### Tags, anchors and directives -/

/-- Is the character part of names? -/
def isNameChar (c : Char) : Bool := c.isAlphanum || c == '-' || c == '_'

/-- Is the character part of tags? -/
def isTagChar (c : Char) : Bool :=
  c.isAlphanum || "-;/?:@&=+$,_.!~*'()[]%".toList.contains c

/-- The bytes of escapes in a tag, and the place after them. -/
def tagBytes : (fuel : Nat) → Cursor → Except Cause (List UInt8 × Cursor)
  | 0, c => .ok ([], c)
  | fuel + 1, c =>
    if c.peek == '%' then
      match Json.hexValue? (c.peek 1), Json.hexValue? (c.peek 2) with
      | some a, some b => do
        let (more, c) ← tagBytes fuel (c.advanceBy 3)
        return (UInt8.ofNat (16 * a + b) :: more, c)
      | _, _ => malformed "expected URI escape sequence of 2 hexadecimal numbers"
    else .ok ([], c)

/-- The characters of a tag, and the place after them. -/
def tagRest : (fuel : Nat) → Cursor → Except Cause (List Char × Cursor)
  | 0, c => .ok ([], c)
  | fuel + 1, c => do
    let (start, c) := c.span fun ch => isTagChar ch && ch != '%'
    if c.peek == '%' then
      let (bytes, c) ← tagBytes (c.rest.length + 1) c
      match String.fromUTF8? ⟨bytes.toArray⟩ with
      | none => malformed "expected a UTF-8 sequence"
      | some s =>
        let (more, c) ← tagRest fuel c
        return (start ++ s.toList ++ more, c)
    else return (start, c)

/-- A tag without its handle. -/
def tagSuffix (c : Cursor) : Except Cause (String × Cursor) := do
  let (found, after) ← tagRest (c.rest.length + 1) c
  if after.index = c.index then malformed "expected URI"
  else return (String.ofList found, after)

/-- The handle of a tag: an exclamation mark, or a name between two. -/
def tagHandle (c : Cursor) : Except Cause (String × Cursor) :=
  if c.peek != '!' then malformed "expected '!'"
  else if c.peek 1 == ' ' then .ok ("!", c.advance)
  else
    let (name, after) := c.advance.span isNameChar
    if after.peek == '!' then .ok ("!" ++ String.ofList name ++ "!", after.advance)
    else malformed "expected '!'"

/-- Does a handle with a name start here? -/
def hasHandle (c : Cursor) : Bool :=
  ((c.rest.drop 1).takeWhile fun ch => !isSpaceOrEnd ch).contains '!'

/-- The tag at the place. -/
def tagToken (c : Cursor) : Except Cause (Token × Cursor) := do
  let (token, after) ←
    if c.peek 1 == '<' then do
      let (suffix, c) ← tagSuffix (c.advanceBy 2)
      if c.peek == '>' then pure (Token.tag none suffix, c.advance)
      else malformed "expected '>'"
    else if isBlankOrEnd (c.peek 1) then pure (Token.tag none "!", c.advance)
    else if hasHandle c then do
      let (handle, c) ← tagHandle c
      let (suffix, c) ← tagSuffix c
      pure (Token.tag (some handle) suffix, c)
    else do
      let (suffix, c) ← tagSuffix c.advance
      pure (Token.tag (some "!") suffix, c)
  if isSpaceOrEnd after.peek then return (token, after)
  else malformed "expected ' '"

/-- The name behind the sign of an anchor or an alias, and the place after it. -/
def anchorName (c : Cursor) : Except Cause (String × Cursor) :=
  let (name, after) := c.advance.span isNameChar
  let next := after.peek
  if name.isEmpty then malformed "expected alphabetic or numeric character"
  else if isBlankOrEnd next || "?:,]%@`".toList.contains next || next == '\x7d' then
    .ok (String.ofList name, after)
  else malformed "expected alphabetic or numeric character"

/-- A number of a version, and the place after it. -/
def versionNumber (c : Cursor) : Except Cause (Nat × Cursor) :=
  match c.span Char.isDigit with
  | ([], _) => malformed "expected a digit"
  | (digits, c) => .ok (Number.digitsValue digits, c)

/-- The directive at the place. -/
def directiveToken (c : Cursor) : Except Cause (Token × Cursor) := do
  let (name, c) := c.advance.span isNameChar
  if name.isEmpty || !isSpaceOrEnd c.peek then malformed "expected a directive"
  else
    let (token, c) ← match String.ofList name with
      | "YAML" => do
        let (major, c) ← versionNumber c.skipSpaces
        if c.peek != '.' then malformed "expected a digit or '.'"
        else
          let (_, c) ← versionNumber c.advance
          if isSpaceOrEnd c.peek then pure (Token.version major, c)
          else malformed "expected a digit or ' '"
      | "TAG" => do
        let (handle, c) ← tagHandle c.skipSpaces
        if c.peek != ' ' then malformed "expected ' '"
        else
          let (start, c) ← tagSuffix c.skipSpaces
          if isSpaceOrEnd c.peek then pure (Token.handle handle start, c)
          else malformed "expected ' '"
      | _ => pure (Token.directive, c.skip fun ch => !isLineEnd ch)
    return (token, ← c.ignoredLine)

namespace Scanner

/-! ### Keys and indentation -/

/-- The state with one more token. -/
def push (s : Scanner) (t : Token) : Scanner :=
  { s with tokens := t :: s.tokens, count := s.count + 1 }

/-- The state with one more token, after as many characters. -/
def pushBy (s : Scanner) (t : Token) (n : Nat) : Scanner :=
  { s.push t with cursor := s.cursor.advanceBy n }

/-- The longest distance of a colon from the start of its key. -/
def longestKey : Nat := 1024

/-- Can the key no longer be one here? -/
def isStale (s : Scanner) (k : PossibleKey) : Bool :=
  k.line != s.cursor.line || longestKey < s.cursor.index - k.index

/-- The state without the keys that can no longer be ones. -/
def dropStale (s : Scanner) : Except Cause Scanner :=
  if s.possible.any fun (_, k) => s.isStale k && k.required then
    malformed "could not find expected ':'"
  else .ok { s with possible := s.possible.filter fun (_, k) => !s.isStale k }

/-- The state without the possible key of the innermost collection. -/
def dropKey (s : Scanner) : Except Cause Scanner :=
  match s.possible.lookup s.flow with
  | some k =>
    if k.required then malformed "could not find expected ':'"
    else .ok { s with possible := s.possible.filter (·.1 != s.flow) }
  | none => .ok s

/-- The state that remembers that a key may start here. -/
def saveKey (s : Scanner) : Except Cause Scanner :=
  if s.keyAllowed then do
    let t ← s.dropKey
    let c := s.cursor
    let k : PossibleKey :=
      { position := s.count, required := s.flow == 0 && s.indent == c.column
        index := c.index, line := c.line, column := c.column }
    return { t with possible := (s.flow, k) :: t.possible }
  else .ok s

/-- The state with the block collections closed that are indented more than `column`. -/
def unwind (s : Scanner) (column : Int) : Scanner :=
  if s.flow == 0 then
    let closed := (s.indent :: s.outer).takeWhile (column < ·)
    match (s.indent :: s.outer).drop closed.length with
    | [] => s
    | indent :: outer =>
      closed.foldl (fun s _ => s.push .blockEnd) { s with indent, outer }
  else s

/-- The state inside a block collection at `column`, and whether that is a new one. -/
def indentAt (s : Scanner) (column : Nat) : Scanner × Bool :=
  if s.indent < column then
    ({ s with indent := column, outer := s.indent :: s.outer }, true)
  else (s, false)

/-! ### Tokens by their first character -/

/-- The state after a marker of documents. -/
def documentMarker (s : Scanner) (t : Token) : Except Cause Scanner := do
  let s ← (s.unwind (-1)).dropKey
  return { s with keyAllowed := false }.pushBy t 3

/-- The state after an opening bracket or brace. -/
def flowStart (s : Scanner) (t : Token) : Except Cause Scanner := do
  let s ← s.saveKey
  return { s with flow := s.flow + 1, keyAllowed := true }.pushBy t 1

/-- The state after a closing bracket or brace. -/
def flowEnd (s : Scanner) (t : Token) : Except Cause Scanner := do
  let s ← s.dropKey
  if s.flow == 0 then malformed "found a closing bracket without an opening one"
  else return { s with flow := s.flow - 1, keyAllowed := false }.pushBy t 1

/-- The state after a comma. -/
def flowEntry (s : Scanner) : Except Cause Scanner := do
  let s ← { s with keyAllowed := true }.dropKey
  return s.pushBy .flowEntry 1

/-- The state inside the block collection that a sign at the place belongs to. -/
def enterBlock (s : Scanner) (start : Token) : Except Cause Scanner :=
  if s.flow == 0 then
    if s.keyAllowed then
      let (s, isNew) := s.indentAt s.cursor.column
      .ok (if isNew then s.push start else s)
    else malformed "block collections are not allowed here"
  else .ok s

/-- The state after the dash of an item. -/
def blockEntry (s : Scanner) : Except Cause Scanner := do
  let s ← s.enterBlock .blockSequenceStart
  let s ← { s with keyAllowed := true }.dropKey
  return s.pushBy .blockEntry 1

/-- The state after the question mark of a key. -/
def keySign (s : Scanner) : Except Cause Scanner := do
  let s ← s.enterBlock .blockMappingStart
  let s ← { s with keyAllowed := s.flow == 0 }.dropKey
  return s.pushBy .key 1

/-- The state after the colon of a value.  What may have been a key is one then. -/
def valueSign (s : Scanner) : Except Cause Scanner := do
  match s.possible.lookup s.flow with
  | some k =>
    let s := { s with possible := s.possible.filter (·.1 != s.flow) }
    let (s, isNew) := if s.flow == 0 then s.indentAt k.column else (s, false)
    let found := if isNew then [.blockMappingStart, .key] else [.key]
    return { s with late := (k.position, found) :: s.late, keyAllowed := false }.pushBy .value 1
  | none =>
    let s ← s.enterBlock .blockMappingStart
    let s ← { s with keyAllowed := s.flow == 0 }.dropKey
    return s.pushBy .value 1

/-- The state after a token that may be a key by itself. -/
def keyLike (s : Scanner) (read : Cursor → Except Cause (Token × Cursor)) :
    Except Cause Scanner := do
  let s ← s.saveKey
  let (t, cursor) ← read s.cursor
  return { s.push t with cursor, keyAllowed := false }

/-- The state after a plain scalar. -/
def plainScalar (s : Scanner) : Except Cause Scanner := do
  let s ← s.saveKey
  let (text, crossed, cursor) := plain (s.flow != 0) (s.indent + 1) s.cursor
  return { s.push (.scalar (String.ofList text) true) with cursor, keyAllowed := crossed }

/-- The state after a block scalar. -/
def blockScalar (s : Scanner) : Except Cause Scanner := do
  let s ← { s with keyAllowed := true }.dropKey
  let (text, cursor) ← block s.indent s.cursor
  return { s.push (.scalar (String.ofList text) false) with cursor }

/-- May a plain scalar start here? -/
def startsPlain (s : Scanner) : Bool :=
  let c := s.cursor.peek
  let isSign := isFlowMark c || "-?:#&*!|>'\"%@`".toList.contains c
  !(isBlankOrEnd c || isSign) ||
    (!isBlankOrEnd (s.cursor.peek 1) && (c == '-' || (s.flow == 0 && (c == '?' || c == ':'))))

/-- The place of the next token, and whether a line ended before it. -/
def nextPlace : (fuel : Nat) → Cursor → Cursor × Bool
  | 0, c => (c, false)
  | fuel + 1, c =>
    let c := c.skipComment
    if isBreak c.peek then ((nextPlace fuel c.lineBreak.2).1, true) else (c, false)

/-- The state before the next token. -/
def approach (s : Scanner) : Except Cause Scanner := do
  let c := s.cursor
  let c := if c.index == 0 && c.peek == '\ufeff' then c.advance else c
  let (cursor, crossed) := nextPlace (c.rest.length + 1) c
  let s := { s with cursor, keyAllowed := s.keyAllowed || (crossed && s.flow == 0) }
  let s ← s.dropStale
  return s.unwind s.cursor.column

/-- The state after the token at the place. -/
def token (s : Scanner) : Except Cause Scanner :=
  let c := s.cursor
  let atStart := c.column == 0
  let isOpen := s.flow == 0
  let blankNext := isBlankOrEnd (c.peek 1)
  let ch := c.peek
  if ch == '%' && atStart then do
    let s ← (s.unwind (-1)).dropKey
    let (t, cursor) ← directiveToken s.cursor
    return { s.push t with cursor, keyAllowed := false }
  else if atStart && c.isMarker '-' then s.documentMarker .documentStart
  else if atStart && c.isMarker '.' then s.documentMarker .documentEnd
  else if ch == '[' then s.flowStart .flowSequenceStart
  else if ch == '\x7b' then s.flowStart .flowMappingStart
  else if ch == ']' then s.flowEnd .flowSequenceEnd
  else if ch == '\x7d' then s.flowEnd .flowMappingEnd
  else if ch == ',' then s.flowEntry
  -- before anything but a blank these three may begin a plain scalar
  else if ch == '-' && blankNext then s.blockEntry
  else if ch == '?' && (!isOpen || blankNext) then s.keySign
  else if ch == ':' && (!isOpen || blankNext) then s.valueSign
  else if ch == '*' then
    s.keyLike fun c => (anchorName c).map fun (name, c) => (.alias name, c)
  else if ch == '&' then
    s.keyLike fun c => (anchorName c).map fun (name, c) => (.anchor name, c)
  else if ch == '!' then s.keyLike tagToken
  else if (ch == '|' || ch == '>') && isOpen then s.blockScalar
  else if ch == '\'' || ch == '"' then
    s.keyLike fun c => (quoted c).map fun (text, c) => (.scalar (String.ofList text) false, c)
  else if s.startsPlain then s.plainScalar
  else malformed "found character that cannot start any token"

/-- The state after the next token; nothing at the end of the text. -/
def next (s : Scanner) : Except Cause (Option Scanner) := do
  let s ← s.approach
  if s.cursor.rest.isEmpty then return none else return some (← s.token)

/-- The state at the end of the text. -/
def finish (s : Scanner) : Except Cause Scanner := do
  let s ← s.approach
  (s.unwind (-1)).dropKey

/-- The number of tokens that are known for certain.  What may be a key is not known before what
follows it. -/
def settled (s : Scanner) : Nat :=
  ((s.possible.filter fun (_, k) => !s.isStale k).map fun (_, k) => k.position).foldl min s.count

end Scanner

/-- The tokens with those of late keys at their places, counted from `i`. -/
def splice (late : List (Nat × List Token)) : (i : Nat) → List Token → List Token
  | _, [] => []
  | i, t :: rest => (late.lookup i).getD [] ++ t :: splice late (i + 1) rest

/-- The tokens of a text up to an objection to what follows them. -/
structure Scanned where
  tokens : List Token := []
  objection : Option Cause := none
  deriving Inhabited

namespace Scanner

/-- The first `n` tokens with those of late keys at their places. -/
def output (s : Scanner) (n : Nat) : List Token := splice s.late 0 (s.tokens.reverse.take n)

/-- All tokens; each takes at least one character. -/
def all : (fuel : Nat) → Scanner → Scanned
  | 0, s => { tokens := s.output s.count }
  | fuel + 1, s =>
    match s.next with
    | .error e => { tokens := s.output s.settled, objection := some e }
    | .ok (some s) => all fuel s
    | .ok none =>
      match s.finish with
      | .error e => { tokens := s.output s.settled, objection := some e }
      | .ok s => { tokens := s.output s.count }

end Scanner

/-- The tokens of a text. -/
def scan (text : String) : Scanned :=
  let cs := text.toList
  if !cs.all isAllowed then { objection := some (.yaml "special characters are not allowed") }
  else Scanner.all (cs.length + 1) { cursor := { rest := cs } }

end SoapStubs.Yaml
