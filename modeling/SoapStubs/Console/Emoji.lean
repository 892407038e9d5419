import SoapStubs.Console.EmojiNames
import SoapStubs.Text.Blank
import SoapStubs.Text.Lower
import SoapStubs.Text.Split

/-!
# Emoji codes

A text for the console may have emoji by their names between colons, such as `:key:`.  An ending
of the name chooses the form of the symbol: `:key-text:` or `:key-emoji:`.

* `Emoji.symbol?` is the symbol of a name;
* `Emoji.code?` reads a code;
* `Emoji.replace` puts the symbols in the place of the codes; a code without a symbol stays.
-/

namespace SoapStubs.Console.Emoji

/-- The value of a hexadecimal digit. -/
def hexDigit (c : Char) : Nat := if c.isDigit then c.toNat - 48 else c.toNat - 87

def codePoint (digits : List Char) : Nat := digits.foldl (fun n c => 16 * n + hexDigit c) 0

/-- The symbol of code points in hexadecimal digits. -/
def symbolOf (codes : List String) : String :=
  String.ofList (codes.map fun code => Char.ofNat (codePoint code.toList))

/-- The symbols of the names in words, from a code point on. -/
def inOrder : Nat → List String → List (String × String)
  | _, [] => []
  | n, word :: rest =>
    match word.toList with
    | '=' :: digits => inOrder (codePoint digits) rest
    | _ =>
      (Text.split '|' word).map (·, String.singleton (Char.ofNat n)) ++ inOrder (n + 1) rest

/-- Pairs from a list of words in which the parts of pairs alternate. -/
def paired : List String → List (String × String)
  | first :: second :: rest => (first, second) :: paired rest
  | _ => []

/-- The pairs in rows of words. -/
def pairsIn (rows : List String) : List (String × String) := paired (rows.flatMap (Text.split ' '))

/-- The tones of skin, each with its code point. -/
def tones : List (String × String) :=
  [("light", "1f3fb"), ("medium-light", "1f3fc"), ("medium", "1f3fd"), ("medium-dark", "1f3fe"),
    ("dark", "1f3ff")]

/-- The symbol of a name without a tone and with each of them. -/
def toned (name : String) (codes : List String) : List (String × String) :=
  (name, symbolOf (codes.filter (· != "+"))) :: tones.map fun (tone, point) =>
    (name ++ "_" ++ tone ++ "_skin_tone",
      symbolOf (codes.map fun code => if code = "+" then point else code))

/-- The symbols of a name for men and for women. -/
def gendered (name : String) (man woman : List String) : List (String × String) :=
  toned ("man_" ++ name) man ++ toned ("woman_" ++ name) woman

/-- The flag of a country, by both its names. -/
def flagged (letters country : String) : List (String × String) :=
  let flag := String.ofList (letters.toList.map fun c => Char.ofNat (0x1f1a5 + c.toNat))
  [(country, flag), ("flag_for_" ++ country, flag)]

/-- The members of families with their code points. -/
def members : List (String × String) :=
  [("man", "1f468"), ("woman", "1f469"), ("boy", "1f466"), ("girl", "1f467")]

/-- The symbol of a family: those of its members, joined. -/
def family (name : String) : String × String :=
  ("family_" ++ name,
    symbolOf (((Text.split '_' name).filterMap (members.lookup ·)).intersperse "200d"))

def digitNames : List String :=
  ["zero", "one", "two", "three", "four", "five", "six", "seven", "eight", "nine"]

/-- The keys of the digits, by three names each. -/
def keycaps : List (String × String) :=
  digitNames.zipIdx.flatMap fun (name, n) =>
    let digit := toString n
    [("keycap_" ++ digit, digit ++ symbolOf ["fe0f", "20e3"]),
      (name, digit ++ symbolOf ["fe0f", "20e3"]),
      ("keycap_digit_" ++ name, digit ++ symbolOf ["20e3"])]

/-- The letters that flags are made of, by two names each. -/
def indicators : List (String × String) :=
  "abcdefghijklmnopqrstuvwxyz".toList.flatMap fun c =>
    let letter := String.singleton (Char.ofNat (0x1f185 + c.toNat))
    [("regional_indicator_symbol_letter_".push c, letter), ("regional_indicator_".push c, letter)]

/-- The symbols by name; the first one of a name counts. -/
def symbols : List (String × String) :=
  inOrder 0 (emojiRows.flatMap (Text.split ' ')) ++ indicators ++ keycaps ++
  (familyRows.flatMap (Text.split ' ')).map family ++
  ((pairsIn sequenceRows).map fun (name, codes) => (name, symbolOf (Text.split '.' codes))) ++
  ((pairsIn tonedRows).flatMap fun (name, codes) => toned name (Text.split '.' codes)) ++
  ((pairsIn genderedRows).flatMap fun (name, code) => gendered name
    [code, "+", "200d", "2642", "fe0f"] [code, "+", "200d", "2640", "fe0f"]) ++
  ((pairsIn tradeRows).flatMap fun (name, codes) =>
    let codes := Text.split '.' codes
    gendered name (["1f468", "+", "200d"] ++ codes) (["1f469", "+", "200d"] ++ codes)) ++
  (pairsIn flagRows).flatMap fun (letters, country) => flagged letters country

/-- The symbol of a name, in any case. -/
def symbol? (name : String) : Option String := symbols.lookup (Text.lower name)

/-- The endings of a code that choose a form, each with the character that does so. -/
def endings : List (List Char × Char) :=
  [("-emoji:".toList, '\ufe0f'), ("-text:".toList, '\ufe0e')]

/-- A code behind its first colon: the name, what chooses a form, and what follows the code.  The
code ends as soon as it can, and has no blanks. -/
def code? : List Char → Option (List Char × List Char × List Char)
  | [] => none
  | c :: cs =>
    match endings.find? fun e => e.1.isPrefixOf (c :: cs) with
    | some (ending, form) => some ([], [form], (c :: cs).drop ending.length)
    | none =>
      if c = ':' then some ([], [], cs)
      else if Text.isBlank c then none
      else (code? cs).map fun (name, form, rest) => (c :: name, form, rest)

/-- What stands for a code: its symbol, or the characters `shown` of the code. -/
def standing (name form shown : List Char) : List Char :=
  match symbol? (String.ofList name) with
  | some symbol => symbol.toList ++ form
  | none => shown

/-- The characters with symbols in the place of codes, with enough `fuel` for each character. -/
def replaceFrom : (fuel : Nat) → List Char → List Char
  | 0, cs => cs
  | _ + 1, [] => []
  | fuel + 1, c :: cs =>
    if c = ':' then
      match code? cs with
      | some (name, form, rest) =>
        standing name form ((c :: cs).take (cs.length + 1 - rest.length)) ++ replaceFrom fuel rest
      | none => c :: replaceFrom fuel cs
    else c :: replaceFrom fuel cs

/-- The characters with symbols in the place of codes. -/
def replace (cs : List Char) : List Char := replaceFrom cs.length cs

end SoapStubs.Console.Emoji
