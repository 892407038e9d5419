import SoapStubs.Text.Line
import SoapStubs.Text.Split
import SoapStubs.Text.Word

/-!
# Literals

The arguments of a handler in a tag are literals: numbers, texts, tuples, sets and mappings.

* `Literal.Token` is a part of a literal, and `Literal.tokens?` cuts a text into them;
* `Literal.Kind` says what a literal can be part of: only numbers have signs, and what can change
  is no key;
* `Literal.accepts` decides whether a text is a literal.
-/

namespace SoapStubs.Console.Literal

/-- A part of a literal. -/
inductive Token where
  /-- A number without a sign. -/
  | real
  /-- An imaginary number without a sign. -/
  | imaginary
  | text
  | bytes
  | constant
  /-- The name of the empty set. -/
  | set
  | mark (c : Char)
  deriving DecidableEq, Repr, Inhabited

/-! ### Numbers -/

/-- Digits with single underscores between them, and what follows. -/
def digitRun (p : Char → Bool) : List Char → List Char × List Char
  | '_' :: c :: cs =>
    if p c then let (run, rest) := digitRun p cs; ('_' :: c :: run, rest) else ([], '_' :: c :: cs)
  | c :: cs => if p c then let (run, rest) := digitRun p cs; (c :: run, rest) else ([], c :: cs)
  | [] => ([], [])

/-- Digits of a number, which do not start with an underscore. -/
def digitPart : List Char → List Char × List Char
  | '_' :: cs => ([], '_' :: cs)
  | cs => digitRun Char.isDigit cs

/-- What follows an exponent; all of it, if there is none. -/
def skipExponent (cs : List Char) : Bool × List Char :=
  match cs with
  | e :: rest =>
    if e = 'e' || e = 'E' then
      let digits := match rest with
        | '+' :: more | '-' :: more => more
        | _ => rest
      match digitPart digits with
      | ([], _) => (false, cs)
      | (_, rest) => (true, rest)
    else (false, cs)
  | [] => (false, [])

/-- The digits of the base that a letter after a zero stands for. -/
def baseDigit? (c : Char) : Option (Char → Bool) :=
  if c = 'x' || c = 'X' then some fun d => d.isDigit || ('a' ≤ d.toLower && d.toLower ≤ 'f')
  else if c = 'o' || c = 'O' then some fun d => '0' ≤ d && d ≤ '7'
  else if c = 'b' || c = 'B' then some fun d => d = '0' || d = '1'
  else none

/-- The most digits of a whole number. -/
def mostDigits : Nat := 4300

/-- A decimal number, and what follows it.  A whole number does not start with a zero, unless all
its digits are zeros. -/
def decimal? (cs : List Char) : Option (Token × List Char) :=
  let (whole, rest) := digitPart cs
  let (point, fraction, rest) := match rest with
    | '.' :: more => let (fraction, rest) := digitPart more; (true, fraction, rest)
    | _ => (false, [], rest)
  if whole.isEmpty && fraction.isEmpty then none
  else
    let (power, rest) := skipExponent rest
    match rest with
    | 'j' :: rest | 'J' :: rest => some (.imaginary, rest)
    | _ =>
      let digits := whole.filter Char.isDigit
      if point || power then some (.real, rest)
      else if digits.head? = some '0' && digits.any (· != '0') then none
      else if mostDigits < digits.length then none
      else some (.real, rest)

/-- A number, and what follows it, which is no further part of a name. -/
def number? (cs : List Char) : Option (Token × List Char) := do
  let (token, rest) ← match cs with
    | '0' :: c :: more =>
      match baseDigit? c with
      | some p =>
        match digitRun p more with
        | ([], _) => none
        | (_, rest) => some (.real, rest)
      | none => decimal? cs
    | _ => decimal? cs
  if rest.head?.any Text.isWord then none else some (token, rest)

/-! ### Texts -/

/-- The digits that an escape needs, by its letter. -/
def escapeLength (c : Char) : Nat :=
  if c = 'x' then 2 else if c = 'u' then 4 else if c = 'U' then 8 else 0

def isHexDigit (c : Char) : Bool := c.isDigit || ('a' ≤ c.toLower && c.toLower ≤ 'f')

/-- Does an escape, behind its backslash, have the digits it needs? -/
def isEscape (inBytes : Bool) (cs : List Char) : Bool :=
  match cs with
  | [] => false
  | c :: cs =>
    let n := if inBytes && c ≠ 'x' then 0 else escapeLength c
    let digits := cs.take n
    digits.length = n && digits.all isHexDigit &&
      (n < 8 || digits.take 2 = ['0', '0'] && digits.getD 2 '0' ≤ '1' &&
        (digits.getD 2 '0' = '0' || digits.getD 3 '0' = '0'))

/-- What follows a text up to its closing quotes.  A text in single quotes has one line. -/
def closeText? (quote : List Char) (isRaw inBytes : Bool) : (fuel : Nat) → List Char →
    Option (List Char)
  | 0, _ => none
  | fuel + 1, cs =>
    if quote.isPrefixOf cs then some (cs.drop quote.length)
    else
      match cs with
      | [] => none
      | '\\' :: rest =>
        match rest with
        | [] => none
        | d :: more =>
          if (isRaw || isEscape inBytes rest) && !(inBytes && 0x80 ≤ d.toNat) then
            closeText? quote isRaw inBytes fuel more
          else none
      | c :: rest =>
        if (c = '\n' && quote.length = 1) || (inBytes && 0x80 ≤ c.toNat) then none
        else closeText? quote isRaw inBytes fuel rest

/-- The letters that may stand before quotes. -/
def quoteLetters : List (List Char) := [[], ['r'], ['u'], ['b'], ['b', 'r'], ['r', 'b']]

/-- A text in quotes, behind the letters before it, and what follows. -/
def quoted? (letters cs : List Char) : Option (Token × List Char) := do
  let c ← cs.head?
  let single := [c]
  let triple := [c, c, c]
  let small := letters.map Char.toLower
  let isRaw := small.contains 'r'
  let inBytes := small.contains 'b'
  if !(quoteLetters.contains small) then none
  else
    let quote := if triple.isPrefixOf cs then triple else single
    let rest ← closeText? quote isRaw inBytes (cs.length + 1) (cs.drop quote.length)
    some (if inBytes then .bytes else .text, rest)

/-! ### Tokens -/

def constants : List String := ["None", "True", "False"]

/-- A name or what a name stands before, and what follows. -/
def named? (cs : List Char) : Option (Token × List Char) :=
  let (name, rest) := cs.span Text.isWord
  match rest with
  | '"' :: _ | '\'' :: _ => quoted? name rest
  | _ =>
    let name := String.ofList name
    if constants.contains name then some (.constant, rest)
    else if name = "set" then some (.set, rest)
    else none

/-- The first token of characters that do not start with a blank. -/
def token? : List Char → Option (Token × List Char)
  | [] => none
  | '.' :: '.' :: '.' :: rest => some (.constant, rest)
  | c :: cs =>
    if "()\x7b\x7d,:+-".toList.contains c then some (.mark c, cs)
    else if c = '"' || c = '\'' then quoted? [] (c :: cs)
    else if c.isDigit || c = '.' then number? (c :: cs)
    else if Text.isWord c then named? (c :: cs)
    else none

/-- How much deeper in brackets one is after a token. -/
def deeper (depth : Nat) : Token → Nat
  | .mark '(' | .mark '\x7b' => depth + 1
  | .mark ')' | .mark '\x7d' => depth - 1
  | _ => depth

/-- Is the character a blank inside a line? -/
def isSpace (c : Char) : Bool := c = ' ' || c = '\t' || c = '\x0c'

/-- Does a line have no more than a comment? -/
def isEmptyLine (line : List Char) : Bool :=
  let rest := line.dropWhile isSpace
  rest.isEmpty || rest.head? = some '#'

/-- The tokens of characters.  A line goes on in the next one only inside brackets or behind
a backslash. -/
def tokensFrom : (fuel depth : Nat) → List Char → Option (List Token)
  | 0, _, _ => none
  | _ + 1, _, [] => some []
  | fuel + 1, depth, c :: cs =>
    if isSpace c then tokensFrom fuel depth cs
    else if c = '\n' then
      if 0 < depth then tokensFrom fuel depth cs
      else if (Text.pieces '\n' cs).all isEmptyLine then some []
      else none
    else if c = '#' then tokensFrom fuel depth (cs.dropWhile (· ≠ '\n'))
    else if c = '\\' && cs.head? = some '\n' then tokensFrom fuel depth (cs.drop 1)
    else
      match token? (c :: cs) with
      | some (t, rest) => (tokensFrom fuel (deeper depth t) rest).map (t :: ·)
      | none => none

/-- The tokens of a text.  Lines before it have no more than comments, and then it stands at the
start of its line. -/
def tokens? (s : String) : Option (List Token) :=
  let lines := Text.pieces '\n' (Text.unifyNewlineChars s.toList)
  match lines.dropWhile isEmptyLine with
  | [] => some []
  | first :: rest =>
    if rest.length + 1 < lines.length && first.head?.any isSpace then none
    else tokensFrom (s.length + 1) 0 (Text.joinPieces '\n' (first :: rest))

/-! ### Literals -/

/-- What a literal can be part of. -/
inductive Kind where
  /-- A number, which may have a sign. -/
  | real
  /-- A number with a sign, to which an imaginary one may be added. -/
  | signed
  /-- An imaginary number, which may have a sign. -/
  | imaginary
  /-- Anything else that can be a key. -/
  | fixed
  /-- What can change, and so is no key. -/
  | changing
  deriving DecidableEq, Repr, Inhabited

/-- A literal with a sign. -/
def Kind.sign? : Kind → Option Kind
  | .real => some .signed
  | .imaginary => some .fixed
  | _ => none

/-- The sum of two literals. -/
def Kind.sum? : Kind → Kind → Option Kind
  | .real, .imaginary | .signed, .imaginary => some .fixed
  | _, _ => none

/-- The literal that holds others and does not change. -/
def Kind.tuple (items : List Kind) : Kind :=
  if items.contains .changing then .changing else .fixed

def isSign (t : Token) : Bool := t = .mark '+' || t = .mark '-'

mutual

/-- A literal or a sum at the start of tokens, and what follows. -/
def literal : (fuel : Nat) → List Token → Option (Kind × List Token)
  | 0, _ => none
  | fuel + 1, ts => do
    let (left, rest) ← signed fuel ts
    match rest with
    | t :: more =>
      if isSign t then
        let (right, rest) ← simple fuel more
        if rest.head?.any isSign then none else return (← left.sum? right, rest)
      else return (left, rest)
    | [] => return (left, [])

/-- A literal that may have a sign. -/
def signed : (fuel : Nat) → List Token → Option (Kind × List Token)
  | 0, _ => none
  | fuel + 1, ts =>
    match ts with
    | t :: rest =>
      if isSign t then do
        let (k, rest) ← simple fuel rest
        return (← k.sign?, rest)
      else simple fuel ts
    | [] => none

/-- A literal without a sign. -/
def simple : (fuel : Nat) → List Token → Option (Kind × List Token)
  | 0, _ => none
  | fuel + 1, ts =>
    match ts with
    | .real :: rest => some (.real, rest)
    | .imaginary :: rest => some (.imaginary, rest)
    | .constant :: rest => some (.fixed, rest)
    | .text :: rest =>
      -- texts beside each other are one, but texts and bytes do not mix
      let rest := rest.dropWhile (· = .text)
      if rest.head? = some .bytes then none else some (.fixed, rest)
    | .bytes :: rest =>
      let rest := rest.dropWhile (· = .bytes)
      if rest.head? = some .text then none else some (.fixed, rest)
    | .set :: .mark '(' :: .mark ')' :: rest => some (.changing, rest)
    | .mark '(' :: .mark ')' :: rest => some (.fixed, rest)
    | .mark '(' :: rest => do
      let (first, rest) ← literal fuel rest
      match rest with
      | .mark ')' :: rest => return (first, rest)
      | .mark ',' :: rest =>
        let (others, rest) ← items fuel (.mark ')') rest
        return (Kind.tuple (first :: others), rest)
      | _ => none
    | .mark '\x7b' :: .mark '\x7d' :: rest => some (.changing, rest)
    | .mark '\x7b' :: rest => do
      let (first, rest) ← literal fuel rest
      -- neither a member nor a key can be something that changes
      if first = .changing then none
      else
        match rest with
        | .mark '\x7d' :: rest => return (.changing, rest)
        | .mark ',' :: rest =>
          let (others, rest) ← items fuel (.mark '\x7d') rest
          if others.contains .changing then none else return (.changing, rest)
        | .mark ':' :: rest => do
          let (_, rest) ← literal fuel rest
          return (.changing, ← entries fuel rest)
        | _ => none
    | _ => none

/-- Literals with commas between them up to a closing token, and what follows. -/
def items : (fuel : Nat) → (closing : Token) → List Token → Option (List Kind × List Token)
  | 0, _, _ => none
  | fuel + 1, closing, ts => do
    if ts.head? = some closing then return ([], ts.drop 1)
    let (k, rest) ← literal fuel ts
    match rest with
    | t :: rest =>
      if t = closing then return ([k], rest)
      else if t = .mark ',' then
        let (ks, rest) ← items fuel closing rest
        return (k :: ks, rest)
      else none
    | [] => none

/-- What follows the further entries of a mapping. -/
def entries : (fuel : Nat) → List Token → Option (List Token)
  | 0, _ => none
  | fuel + 1, ts =>
    match ts with
    | .mark '\x7d' :: rest => some rest
    | .mark ',' :: .mark '\x7d' :: rest => some rest
    | .mark ',' :: rest => do
      let (k, rest) ← literal fuel rest
      if k = .changing then none
      else
        match rest with
        | .mark ':' :: rest =>
          let (_, rest) ← literal fuel rest
          entries fuel rest
        | _ => none
    | _ => none

end

/-- Is the text a literal?  At the top a tuple needs no brackets. -/
def accepts (s : String) : Bool :=
  match tokens? s with
  | none => false
  | some ts =>
    let fuel := 4 * ts.length + 4
    match literal fuel ts with
    | some (_, []) => true
    | some (_, .mark ',' :: rest) =>
      (items fuel (.mark ')') (rest ++ [.mark ')'])).any (·.2.isEmpty)
    | _ => false

end SoapStubs.Console.Literal
