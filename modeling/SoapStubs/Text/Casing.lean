/-!
# Upper case

Full upper-casing: a character becomes one or several characters (`ß` becomes `SS`), whatever
stands beside it.

* `CaseRun` is a run of characters with the same distance from their other case;
* `upperRuns` lists the characters with a one-character upper case;
* `upperExpansions` lists those whose upper case has several characters;
* `upperChars` applies them, `upper` maps a text, `capitalize` its first character only.
-/

namespace SoapStubs.Text

/-- Characters `first, first + stride, …, last` whose other case is `shift` away. -/
structure CaseRun where
  /-- The first character of the run. -/
  first : Nat
  /-- The last character of the run. -/
  last : Nat
  /-- The distance of neighbours in the run. -/
  stride : Nat
  /-- The distance from a character to its other case. -/
  shift : Int

/-- Does the run hold the character? -/
def CaseRun.covers (r : CaseRun) (n : Nat) : Bool :=
  r.first ≤ n && n ≤ r.last && (n - r.first) % r.stride == 0

def CaseRun.other (r : CaseRun) (n : Nat) : Char := Char.ofNat (Int.toNat (n + r.shift))

/-- The run of the other cases. -/
def CaseRun.inverse (r : CaseRun) : CaseRun :=
  ⟨Int.toNat (r.first + r.shift), Int.toNat (r.last + r.shift), r.stride, -r.shift⟩

/-- The runs of rows: how far a run begins behind the end of the last one, how many characters
follow the first, and the two distances. -/
def CaseRun.ofRows (last : Nat) : List (Nat × Nat × Nat × Int) → List CaseRun
  | [] => []
  | (gap, more, stride, shift) :: rest =>
    let first := last + gap
    ⟨first, first + more * stride, stride, shift⟩ :: ofRows (first + more * stride) rest

/-- The runs of characters with a one-character upper case. -/
def upperRuns : List CaseRun := CaseRun.ofRows 0 [
  (97, 25, 1, -32), (59, 0, 1, 743), (43, 22, 1, -32), (2, 6, 1, -32), (1, 0, 1, 121),
  (2, 23, 2, -1), (2, 0, 1, -232), (2, 2, 2, -1), (3, 7, 2, -1), (3, 22, 2, -1), (3, 2, 2, -1),
  (1, 0, 1, -300), (1, 0, 1, 195), (3, 1, 2, -1), (3, 0, 1, -1), (4, 0, 1, -1), (6, 0, 1, -1),
  (3, 0, 1, 97), (4, 0, 1, -1), (1, 0, 1, 163), (4, 0, 1, 130), (3, 2, 2, -1), (3, 0, 1, -1),
  (5, 0, 1, -1), (3, 0, 1, -1), (4, 1, 2, -1), (3, 0, 1, -1), (4, 0, 1, -1), (2, 0, 1, 56),
  (6, 0, 1, -1), (1, 0, 1, -2), (2, 0, 1, -1), (1, 0, 1, -2), (2, 0, 1, -1), (1, 0, 1, -2),
  (2, 7, 2, -1), (1, 0, 1, -79), (2, 8, 2, -1), (3, 0, 1, -1), (1, 0, 1, -2), (2, 0, 1, -1),
  (4, 19, 2, -1), (4, 8, 2, -1), (9, 0, 1, -1), (3, 1, 1, 10815), (2, 0, 1, -1), (5, 4, 2, -1),
  (1, 0, 1, 10783), (1, 0, 1, 10780), (1, 0, 1, 10782), (1, 0, 1, -210), (1, 0, 1, -206),
  (2, 1, 1, -205), (2, 0, 1, -202), (2, 0, 1, -203), (1, 0, 1, 42319), (4, 0, 1, -205),
  (1, 0, 1, 42315), (2, 0, 1, -207), (2, 0, 1, 42280), (1, 0, 1, 42308), (2, 0, 1, -209),
  (1, 0, 1, -211), (1, 0, 1, 42308), (1, 0, 1, 10743), (1, 0, 1, 42305), (3, 0, 1, -211),
  (2, 0, 1, 10749), (1, 0, 1, -213), (3, 0, 1, -214), (8, 0, 1, 10727), (3, 0, 1, -218),
  (2, 0, 1, 42307), (1, 0, 1, -218), (4, 0, 1, 42282), (1, 0, 1, -218), (1, 0, 1, -69),
  (1, 1, 1, -217), (1, 0, 1, -71), (6, 0, 1, -219), (11, 0, 1, 42261), (1, 0, 1, 42258),
  (167, 0, 1, 84), (44, 1, 2, -1), (4, 0, 1, -1), (4, 2, 1, 130), (47, 0, 1, -38), (1, 2, 1, -37),
  (2, 16, 1, -32), (1, 0, 1, -31), (1, 8, 1, -32), (1, 0, 1, -64), (1, 1, 1, -63), (2, 0, 1, -62),
  (1, 0, 1, -57), (4, 0, 1, -47), (1, 0, 1, -54), (1, 0, 1, -8), (2, 11, 2, -1), (1, 0, 1, -86),
  (1, 0, 1, -80), (1, 0, 1, 7), (1, 0, 1, -116), (2, 0, 1, -96), (3, 0, 1, -1), (3, 0, 1, -1),
  (53, 31, 1, -32), (1, 15, 1, -80), (2, 16, 2, -1), (10, 26, 2, -1), (3, 6, 2, -1),
  (1, 0, 1, -15), (2, 47, 2, -1), (50, 37, 1, -48), (2890, 42, 1, 3008), (3, 2, 1, 3008),
  (761, 5, 1, -8), (2179, 0, 1, -6254), (1, 0, 1, -6253), (1, 0, 1, -6244), (1, 1, 1, -6242),
  (1, 0, 1, -6243), (1, 0, 1, -6236), (1, 0, 1, -6181), (1, 0, 1, 35266), (241, 0, 1, 35332),
  (4, 0, 1, 3814), (17, 0, 1, 35384), (115, 74, 2, -1), (6, 0, 1, -59), (6, 47, 2, -1),
  (1, 7, 1, 8), (9, 5, 1, 8), (11, 7, 1, 8), (9, 7, 1, 8), (9, 5, 1, 8), (12, 3, 2, 8),
  (9, 7, 1, 8), (9, 1, 1, 74), (1, 3, 1, 86), (1, 1, 1, 100), (1, 1, 1, 128), (1, 1, 1, 112),
  (1, 1, 1, 126), (51, 1, 1, 8), (13, 0, 1, -7205), (18, 1, 1, 8), (15, 1, 1, 8), (4, 0, 1, 7),
  (361, 0, 1, -28), (34, 15, 1, -16), (5, 0, 1, -1), (844, 25, 1, -26), (1863, 47, 1, -48),
  (2, 0, 1, -1), (4, 0, 1, -10795), (1, 0, 1, -10792), (2, 2, 2, -1), (7, 0, 1, -1), (3, 0, 1, -1),
  (11, 49, 2, -1), (9, 1, 2, -1), (5, 0, 1, -1), (13, 37, 1, -7264), (2, 0, 1, -7264),
  (6, 0, 1, -7264), (30996, 22, 2, -1), (20, 13, 2, -1), (136, 6, 2, -1), (4, 30, 2, -1),
  (11, 1, 2, -1), (3, 4, 2, -1), (5, 0, 1, -1), (5, 1, 2, -1), (1, 0, 1, 48), (3, 9, 2, -1),
  (12, 7, 2, -1), (5, 1, 2, -1), (7, 0, 1, -1), (6, 1, 2, -1), (29, 0, 1, -1), (861, 0, 1, -928),
  (29, 79, 1, -38864), (21378, 25, 1, -32), (1230, 39, 1, -40), (137, 35, 1, -40),
  (156, 10, 1, -39), (2, 14, 1, -39), (2, 6, 1, -39), (2, 1, 1, -39), (1796, 50, 1, -64),
  (3022, 31, 1, -32), (21889, 31, 1, -32), (31395, 33, 1, -34)]

/-- The Greek vowels with an iota: the first of sixteen, and the first of their eight capitals. -/
def iotaRuns : List (Nat × Nat) := [(0x1F80, 0x1F08), (0x1F90, 0x1F28), (0x1FA0, 0x1F68)]

/-- The characters with a longer upper case. -/
def upperExpansions : List (Nat × List Nat) :=
  (iotaRuns.flatMap fun (first, capital) =>
    (List.range 16).map fun i => (first + i, [capital + i % 8, 0x399])) ++ [
  (0xDF, [0x53, 0x53]), (0x149, [0x2BC, 0x4E]), (0x1F0, [0x4A, 0x30C]),
  (0x390, [0x399, 0x308, 0x301]), (0x3B0, [0x3A5, 0x308, 0x301]), (0x587, [0x535, 0x552]),
  (0x1E96, [0x48, 0x331]), (0x1E97, [0x54, 0x308]), (0x1E98, [0x57, 0x30A]),
  (0x1E99, [0x59, 0x30A]), (0x1E9A, [0x41, 0x2BE]), (0x1F50, [0x3A5, 0x313]),
  (0x1F52, [0x3A5, 0x313, 0x300]), (0x1F54, [0x3A5, 0x313, 0x301]),
  (0x1F56, [0x3A5, 0x313, 0x342]), (0x1FB2, [0x1FBA, 0x399]), (0x1FB3, [0x391, 0x399]),
  (0x1FB4, [0x386, 0x399]), (0x1FB6, [0x391, 0x342]), (0x1FB7, [0x391, 0x342, 0x399]),
  (0x1FBC, [0x391, 0x399]), (0x1FC2, [0x1FCA, 0x399]), (0x1FC3, [0x397, 0x399]),
  (0x1FC4, [0x389, 0x399]), (0x1FC6, [0x397, 0x342]), (0x1FC7, [0x397, 0x342, 0x399]),
  (0x1FCC, [0x397, 0x399]), (0x1FD2, [0x399, 0x308, 0x300]), (0x1FD3, [0x399, 0x308, 0x301]),
  (0x1FD6, [0x399, 0x342]), (0x1FD7, [0x399, 0x308, 0x342]), (0x1FE2, [0x3A5, 0x308, 0x300]),
  (0x1FE3, [0x3A5, 0x308, 0x301]), (0x1FE4, [0x3A1, 0x313]), (0x1FE6, [0x3A5, 0x342]),
  (0x1FE7, [0x3A5, 0x308, 0x342]), (0x1FF2, [0x1FFA, 0x399]), (0x1FF3, [0x3A9, 0x399]),
  (0x1FF4, [0x38F, 0x399]), (0x1FF6, [0x3A9, 0x342]), (0x1FF7, [0x3A9, 0x342, 0x399]),
  (0x1FFC, [0x3A9, 0x399]), (0xFB00, [0x46, 0x46]), (0xFB01, [0x46, 0x49]), (0xFB02, [0x46, 0x4C]),
  (0xFB03, [0x46, 0x46, 0x49]), (0xFB04, [0x46, 0x46, 0x4C]), (0xFB05, [0x53, 0x54]),
  (0xFB06, [0x53, 0x54]), (0xFB13, [0x544, 0x546]), (0xFB14, [0x544, 0x535]),
  (0xFB15, [0x544, 0x53B]), (0xFB16, [0x54E, 0x546]), (0xFB17, [0x544, 0x53D])]

def upperChars (c : Char) : List Char :=
  let n := c.toNat
  match upperRuns.find? (·.covers n) with
  | some r => [r.other n]
  | none =>
    match upperExpansions.find? (·.1 == n) with
    | some (_, us) => us.map Char.ofNat
    | none => [c]

/-- The text in upper case. -/
def upper (s : String) : String := String.ofList (s.toList.flatMap upperChars)

/-- The text with its first character in upper case. -/
def capitalize (s : String) : String :=
  match s.toList with
  | [] => ""
  | c :: cs => String.ofList (upperChars c ++ cs)

/-- The text with the letters `A` to `Z` in lower case. -/
def lowerAscii (s : String) : String := String.ofList (s.toList.map Char.toLower)

end SoapStubs.Text
