import Mathlib.Data.List.Basic
import SoapStubs.Json.Reader
import SoapStubs.Json.Writer

/-!
# Strings in JSON texts

A string that is written in its quotes is read back, with every character that is escaped.

* `charUnits` are the code units of a character, one or two;
* `Escape` lists the ways in which a character is written;
* `units?_escape` says that the reader finds the units of what the writer escapes;
* `ofUnits_charUnits` says that the units of characters make the characters again;
* `string?_escape` is both together.
-/

namespace SoapStubs.Json

variable {c : Char} {cs rest tail : List Char} {n : Nat}

/-! ### Hexadecimal digits -/

theorem hexValue?_hexDigit (h : n < 16) : hexValue? (Text.hexDigit n) = some n := by
  revert n
  decide

theorem units?_unitEscape (h : n < 0x10000) :
    units? (unitEscape n ++ tail) = (units? tail).map fun p => (n :: p.1, p.2) := by
  have ha : hexValue? (Text.hexDigit (n / 16 / 16 / 16 % 16)) = some (n / 16 / 16 / 16 % 16) :=
    hexValue?_hexDigit (by omega)
  have hb : hexValue? (Text.hexDigit (n / 16 / 16 % 16)) = some (n / 16 / 16 % 16) :=
    hexValue?_hexDigit (by omega)
  have hc : hexValue? (Text.hexDigit (n / 16 % 16)) = some (n / 16 % 16) :=
    hexValue?_hexDigit (by omega)
  have hd : hexValue? (Text.hexDigit (n % 16)) = some (n % 16) := hexValue?_hexDigit (by omega)
  have hn : 4096 * (n / 16 / 16 / 16 % 16) + 256 * (n / 16 / 16 % 16) + 16 * (n / 16 % 16) + n % 16
      = n := by omega
  simp only [unitEscape, Text.hexDigits, List.nil_append, List.cons_append, units?, hexUnit?, ha,
    hb, hc, hd, hn, bind, Option.bind, pure]
  cases units? tail <;> rfl

/-! ### Code units -/

/-- The code units of a character: a character beyond U+FFFF has two. -/
def charUnits (c : Char) : List Nat :=
  if c.toNat < 0x10000 then [c.toNat]
  else [0xD800 + (c.toNat - 0x10000) / 0x400, 0xDC00 + (c.toNat - 0x10000) % 0x400]

theorem ofUnits_cons_of_not_high {units : List Nat} (h : isHigh n = false) :
    ofUnits (n :: units) = unitChar n :: ofUnits units := by
  cases units with
  | nil => rfl
  | cons m units => simp [ofUnits, h]

/-- No character is half of a surrogate pair. -/
theorem toNat_lt_or_le (c : Char) : c.toNat < 0xD800 ∨ 0xE000 ≤ c.toNat ∧ c.toNat < 0x110000 := by
  have h := c.valid
  simp only [UInt32.isValidChar, Nat.isValidChar] at h
  change c.toNat < 0xD800 ∨ 0xDFFF < c.toNat ∧ c.toNat < 0x110000 at h
  omega

theorem unitChar_toNat (c : Char) : unitChar c.toNat = c := by
  have h := toNat_lt_or_le c
  have hhigh : isHigh c.toNat = false := by simp [isHigh]; omega
  have hlow : isLow c.toNat = false := by simp [isLow]; omega
  simp [unitChar, hhigh, hlow]

theorem ofUnits_charUnits_append (c : Char) (units : List Nat) :
    ofUnits (charUnits c ++ units) = c :: ofUnits units := by
  have h := toNat_lt_or_le c
  unfold charUnits
  split
  · have hhigh : isHigh c.toNat = false := by simp [isHigh]; omega
    rw [List.singleton_append, ofUnits_cons_of_not_high hhigh, unitChar_toNat]
  · have hhigh : isHigh (0xD800 + (c.toNat - 0x10000) / 0x400) = true := by simp [isHigh]; omega
    have hlow : isLow (0xDC00 + (c.toNat - 0x10000) % 0x400) = true := by simp [isLow]; omega
    have hn : 0x10000 + (0xD800 + (c.toNat - 0x10000) / 0x400 - 0xD800) * 0x400 +
        (0xDC00 + (c.toNat - 0x10000) % 0x400 - 0xDC00) = c.toNat := by omega
    simp only [List.cons_append, List.nil_append, ofUnits, hhigh, hlow, Bool.and_self, if_true, hn,
      Char.ofNat_toNat]

theorem ofUnits_charUnits (cs : List Char) : ofUnits (cs.flatMap charUnits) = cs := by
  induction cs with
  | nil => rfl
  | cons c cs ih => rw [List.flatMap_cons, ofUnits_charUnits_append, ih]

/-! ### Escapes -/

theorem units?_plain (hn : 0x20 ≤ c.toNat) (hq : c ≠ '"') (hb : c ≠ '\\') :
    units? (c :: tail) = (units? tail).map fun p => (c.toNat :: p.1, p.2) := by
  rw [units?]
  · rw [if_neg (by simp [hb]; omega)]
    cases units? tail <;> rfl
  · simpa using hq
  · intros; simp_all
  · intros; simp_all

theorem units?_short {e : Char} (he : escaped? e = some c) (hc : c.toNat < 0x10000) :
    units? ('\\' :: e :: tail) = (units? tail).map fun p => (charUnits c ++ p.1, p.2) := by
  have hu : e ≠ 'u' := by
    rintro rfl
    cases he
  rw [units?, he, charUnits, if_pos hc]
  · cases units? tail <;> rfl
  · intros; simp_all

/-- The ways in which a character is written. -/
inductive Escape (c : Char) : List Char → Prop
  /-- By a letter or sign behind a backslash. -/
  | short {e : Char} (he : escaped? e = some c) (hc : c.toNat < 0x10000) (hle : 0x20 ≤ e.toNat) :
      Escape c ['\\', e]
  | plain (hle : 0x20 ≤ c.toNat) (hc : c.toNat < 0x10000) (hq : c ≠ '"') (hb : c ≠ '\\') :
      Escape c [c]
  | unit (hc : c.toNat < 0x10000) : Escape c (unitEscape c.toNat)
  /-- By two codes. -/
  | pair (hc : ¬c.toNat < 0x10000) :
      Escape c (unitEscape (0xD800 + (c.toNat - 0x10000) / 0x400) ++
        unitEscape (0xDC00 + (c.toNat - 0x10000) % 0x400))

theorem escape_spec (c : Char) : Escape c (escape c) := by
  -- seven characters have a short form; of the others, printable ASCII stays as it is
  by_cases hq : c = '"'
  · subst hq; exact .short rfl (by decide) (by decide)
  by_cases hb : c = '\\'
  · subst hb; exact .short rfl (by decide) (by decide)
  by_cases hn : c = '\n'
  · subst hn; exact .short rfl (by decide) (by decide)
  by_cases hr : c = '\r'
  · subst hr; exact .short rfl (by decide) (by decide)
  by_cases ht : c = '\t'
  · subst ht; exact .short rfl (by decide) (by decide)
  by_cases hf : c = '\x0c'
  · subst hf; exact .short rfl (by decide) (by decide)
  by_cases hs : c = '\x08'
  · subst hs; exact .short rfl (by decide) (by decide)
  simp only [escape, hq, hb, hn, hr, ht, hf, hs, if_false]
  split
  · rename_i h
    exact .plain h.1 (by omega) hq hb
  · split
    · rename_i h
      exact .unit h
    · rename_i h
      exact .pair h

/-- The reader finds the units of an escaped character. -/
theorem units?_escape_append (c : Char) (tail : List Char) :
    units? (escape c ++ tail) = (units? tail).map fun p => (charUnits c ++ p.1, p.2) := by
  have hs := escape_spec c
  generalize escape c = cs at hs ⊢
  cases hs with
  | short he hc => exact units?_short he hc
  | plain hle hc hq hb =>
    rw [List.singleton_append, units?_plain hle hq hb, charUnits, if_pos hc]
    rfl
  | unit hc =>
    rw [units?_unitEscape hc, charUnits, if_pos hc]
    rfl
  | pair hc =>
    have hvalid := toNat_lt_or_le c
    rw [List.append_assoc, units?_unitEscape (by omega), units?_unitEscape (by omega), charUnits,
      if_neg hc]
    cases units? tail <;> rfl

theorem units?_escape (cs rest : List Char) :
    units? (cs.flatMap escape ++ '"' :: rest) = some (cs.flatMap charUnits, rest) := by
  induction cs with
  | nil => rfl
  | cons c cs ih =>
    rw [List.flatMap_cons, List.append_assoc, units?_escape_append, ih, List.flatMap_cons]
    rfl

/-- **A string is read back**: behind its opening quote the reader finds it, and what follows its
closing quote. -/
theorem string?_escape (s : String) (rest : List Char) :
    string? (s.toList.flatMap escape ++ '"' :: rest) = some (s, rest) := by
  rw [string?, units?_escape, Option.map_some]
  dsimp only
  rw [ofUnits_charUnits, String.ofList_toList]

/-! ### Line ends -/

theorem toNat_hexDigit (h : n < 16) : 48 ≤ (Text.hexDigit n).toNat := by
  revert n
  decide

theorem le_toNat_of_mem_unitEscape (h : c ∈ unitEscape n) : 0x20 ≤ c.toNat := by
  simp only [unitEscape, Text.hexDigits, List.nil_append, List.cons_append, List.mem_cons,
    List.not_mem_nil, or_false] at h
  rcases h with rfl | rfl | rfl | rfl | rfl | rfl
  · decide
  · decide
  all_goals exact Nat.le_trans (by decide) (toNat_hexDigit (Nat.mod_lt _ (by decide)))

/-- What is written for a character has no control characters. -/
theorem le_toNat_of_mem_escape {d : Char} (h : d ∈ escape c) : 0x20 ≤ d.toNat := by
  have hs := escape_spec c
  generalize escape c = cs at hs h
  cases hs with
  | short _ _ hle =>
    rcases List.mem_pair.1 h with rfl | rfl
    · decide
    · exact hle
  | plain hle =>
    rw [List.mem_singleton.1 h]
    exact hle
  | unit => exact le_toNat_of_mem_unitEscape h
  | pair => exact (List.mem_append.1 h).elim le_toNat_of_mem_unitEscape le_toNat_of_mem_unitEscape

theorem le_toNat_of_mem_string {s : String} (h : c ∈ string s) : 0x20 ≤ c.toNat := by
  simp only [string, List.mem_append, List.mem_cons, List.mem_flatMap, List.not_mem_nil,
    or_false] at h
  rcases h with (rfl | ⟨d, -, hd⟩) | rfl
  · decide
  · exact le_toNat_of_mem_escape hd
  · decide

end SoapStubs.Json
