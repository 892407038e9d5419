import SoapStubs.Text.Casing

/-!
# Lower case

Full lower-casing.  Each character has a lower case of its own, but for the Greek capital sigma: at
the end of a word it becomes `ς`, elsewhere `σ`.

* `lowerRuns` lists the characters with a one-character lower case: the upper cases, and a few more;
* `lowerChars` is the lower case of a character, whatever stands beside it;
* `lower` maps a text.
-/

namespace SoapStubs.Text

/-- The runs of characters whose lower case has another upper case, or more than one. -/
def lowerOnlyRuns : List CaseRun := CaseRun.ofRows 0 [
  (452, 0, 1, 2), (1, 0, 1, 1), (2, 0, 1, 2), (1, 0, 1, 1), (2, 0, 1, 2), (1, 0, 1, 1),
  (38, 0, 1, 2), (1, 0, 1, 1), (423, 0, 1, 32), (3, 0, 1, 32), (7, 0, 1, 32), (81, 0, 1, -60),
  (6826, 0, 1, -7615), (234, 7, 1, -8), (9, 7, 1, -8), (9, 7, 1, -8), (13, 0, 1, -9),
  (16, 0, 1, -9), (48, 0, 1, -9), (298, 0, 1, -7517), (4, 0, 1, -8383), (1, 0, 1, -8262),
  (34079, 0, 1, 1)]

/-- The runs of characters with a one-character lower case. -/
def lowerRuns : List CaseRun := lowerOnlyRuns ++ upperRuns.map CaseRun.inverse

/-- The lower case of a character; the one of a capital sigma inside a word. -/
def lowerChars (c : Char) : List Char :=
  let n := c.toNat
  if n = 0x130 then ['i', Char.ofNat 0x307]
  else
    match lowerRuns.find? (·.covers n) with
    | some r => [r.other n]
    | none => [c]

def isCased (c : Char) : Bool := upperChars c != [c] || lowerChars c != [c]

/-- Does the character leave it open whether a word ends? -/
def isCaseless (c : Char) : Bool :=
  let n := c.toNat
  "'.:^`".toList.contains c || n == 0xA8 || n == 0xAD || n == 0xAF || n == 0xB4 || n == 0xB7 ||
    n == 0xB8 || (0x2B0 ≤ n && n ≤ 0x36F) || n == 0x2018 || n == 0x2019 || n == 0x2024

/-- Does the first of the characters that tells anything have a case? -/
def meetsCased (cs : List Char) : Bool := (cs.dropWhile isCaseless).head?.any isCased

/-- The characters in lower case, after those of `before`, the last one first. -/
def lowerFrom : (before : List Char) → List Char → List Char
  | _, [] => []
  | before, c :: rest =>
    (if c = 'Σ' then (if meetsCased before && !meetsCased rest then ['ς'] else ['σ'])
      else lowerChars c) ++ lowerFrom (c :: before) rest

/-- The text in lower case. -/
def lower (s : String) : String := String.ofList (lowerFrom [] s.toList)

end SoapStubs.Text
