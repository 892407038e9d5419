import Mathlib.Data.List.Induction
import Mathlib.Data.List.TakeWhile
import Mathlib.Data.Nat.Digits.Defs
import SoapStubs.Json.Reader
import SoapStubs.Proofs.Ordered
import SoapStubs.Proofs.Writable

/-!
# What the reader of JSON reads

* `Json.Reads` is the specification of a reader: what it reads has a property and what it leaves is
  the end of the text, or it objects to a text that is not well formed, to an integer with too many
  digits, which are then in the text, or to a bracket too many;
* `Json.reads`: the readers of values, items and members fulfil it, and what they read has a form;
* `Json.read_cases`: so a text is read or it is no JSON, if no integer in it is too long and there is
  room for all its brackets.
-/

namespace SoapStubs.Json

open Number

variable {α β : Type} {P : α → Prop} {Q : β → Prop} {cs ds rest : List Char} {room : Nat}
  {x : Except Cause (α × List Char)}

/-- There are more digits in a row than an integer may have. -/
def LongRun (cs : List Char) : Prop :=
  ∃ digits, digits <:+: cs ∧ (∀ c ∈ digits, c.isDigit = true) ∧ mostDigits < digits.length

/-- Does the character open a list or a mapping? -/
def isOpening (c : Char) : Bool := c == '[' || c == '\x7b'

/-- The outcome of reading a text with some room. -/
inductive Reads (P : α → Prop) (room : Nat) (cs : List Char) :
    Except Cause (α × List Char) → Prop where
  /-- Something was read, and the end of the text is left. -/
  | found {a : α} {rest : List Char} (h : P a) (left : rest <:+ cs) : Reads P room cs (.ok (a, rest))
  /-- The text is not well formed. -/
  | malformed (m : String) : Reads P room cs (.error (.json m))
  /-- An integer has too many digits. -/
  | long (m : String) (h : LongRun cs) : Reads P room cs (.error (.invalid m))
  /-- There are more opening brackets than there is room for. -/
  | deep (m : String) (h : room < cs.countP isOpening) : Reads P room cs (.error (.recursion m))

namespace Reads

theorem suffix (h : Reads P room cs x) (hs : cs <:+ ds) : Reads P room ds x := by
  cases h with
  | found h left => exact .found h (left.trans hs)
  | malformed m => exact .malformed m
  | long m h =>
    obtain ⟨digits, hinfix, hdigits, hlong⟩ := h
    exact .long m ⟨digits, hinfix.trans hs.isInfix, hdigits, hlong⟩
  | deep m h => exact .deep m (h.trans_le (hs.sublist.countP_le))

theorem map {f : α → β} (h : Reads P room cs x) (hf : ∀ a, P a → Q (f a)) :
    Reads Q room cs (x.map fun (a, rest) => (f a, rest)) := by
  cases h with
  | found h left => exact .found (hf _ h) left
  | malformed m => exact .malformed m
  | long m h => exact .long m h
  | deep m h => exact .deep m h

theorem bind {f : α × List Char → Except Cause (β × List Char)} (h : Reads P room cs x)
    (hf : ∀ a rest, P a → rest <:+ cs → Reads Q room cs (f (a, rest))) :
    Reads Q room cs (x >>= f) := by
  cases h with
  | found h left => exact hf _ _ h left
  | malformed m => exact .malformed m
  | long m h => exact .long m h
  | deep m h => exact .deep m h

/-- Behind an opening bracket there is room for one bracket less. -/
theorem inside {c : Char} {doing : String} {next : Nat → Except Cause (α × List Char)}
    (hc : isOpening c = true) (h : ∀ room, Reads P room cs (next room)) :
    Reads P room (c :: cs) (inside room doing next) := by
  have hcount : (c :: cs).countP isOpening = cs.countP isOpening + 1 := List.countP_cons_of_pos hc
  cases room with
  | zero => exact .deep _ (hcount ▸ Nat.succ_pos _)
  | succ room =>
    have hnext := h room
    show Reads P (room + 1) (c :: cs) (next room)
    generalize next room = x at hnext
    cases hnext with
    | found h left => exact .found h (left.trans (List.suffix_cons _ _))
    | malformed m => exact .malformed m
    | long m h => exact (Reads.long m h).suffix (List.suffix_cons _ _)
    | deep m h => exact .deep m (hcount ▸ Nat.succ_lt_succ h)

end Reads

theorem skip_suffix (cs : List Char) : skip cs <:+ cs := List.dropWhile_suffix _

/-- What stands behind the first character after the blanks. -/
theorem suffix_of_skip {c : Char} (h : skip cs = c :: rest) : rest <:+ cs :=
  (List.suffix_cons c rest).trans (h ▸ skip_suffix cs)

/-! ### Strings and words -/

theorem units?_suffix {units : List Nat} (h : units? cs = some (units, rest)) : rest <:+ cs := by
  fun_induction units? cs generalizing units rest with
  | case1 => cases h
  | case2 rest' =>
    cases h
    exact List.suffix_cons _ _
  | case3 a b c d rest' ih =>
    obtain ⟨unit, -, h⟩ := Option.bind_eq_some_iff.1 h
    obtain ⟨⟨us, rest''⟩, hrest, h⟩ := Option.bind_eq_some_iff.1 h
    cases h
    exact (ih hrest).trans (List.suffix_append ['\\', 'u', a, b, c, d] rest')
  | case4 c rest' _ ih =>
    obtain ⟨unit, -, h⟩ := Option.bind_eq_some_iff.1 h
    obtain ⟨⟨us, rest''⟩, hrest, h⟩ := Option.bind_eq_some_iff.1 h
    cases h
    exact (ih hrest).trans (List.suffix_append ['\\', c] rest')
  | case5 => cases h
  | case6 c rest' _ _ _ _ ih =>
    obtain ⟨⟨us, rest''⟩, hrest, h⟩ := Option.bind_eq_some_iff.1 h
    cases h
    exact (ih hrest).trans (List.suffix_cons c rest')

theorem string?_suffix {s : String} (h : string? cs = some (s, rest)) : rest <:+ cs := by
  obtain ⟨⟨units, rest'⟩, hunits, heq⟩ := Option.map_eq_some_iff.1 h
  cases heq
  exact units?_suffix hunits

theorem word?_suffix {v : Value} (h : word? cs = some (v, rest)) : rest <:+ cs ∧ Writable v := by
  obtain ⟨w, hw, heq⟩ := Option.map_eq_some_iff.1 h
  cases heq
  have hwords : ∀ w ∈ words, Writable w.2 := by decide
  exact ⟨List.drop_suffix _ _, hwords w (List.mem_of_find?_eq_some hw)⟩

/-! ### Numbers -/

theorem digitsValue_lt {digits : List Char} (h : ∀ c ∈ digits, c.isDigit = true) :
    digitsValue digits < 10 ^ digits.length := by
  induction digits using List.reverseRecOn with
  | nil => decide
  | append_singleton digits c ih =>
    have hc : c.toNat - 48 < 10 := by
      have := h c (by simp)
      simp only [Char.isDigit, Bool.and_eq_true, decide_eq_true_eq] at this
      have hle : c.toNat ≤ 57 := this.2
      omega
    have hfront := ih fun c hc => h c (List.mem_append_left _ hc)
    rw [digitsValue, List.foldl_append, List.length_append, List.length_singleton, pow_succ]
    rw [digitsValue] at hfront
    simp only [List.foldl_cons, List.foldl_nil]
    omega

theorem writable_int {n : Nat} {e : Nat} (h : n < 10 ^ e) (he : 0 < e) (hle : e ≤ mostDigits)
    (negative : Bool) : Writable (.int (if negative then -(n : Int) else n)) := by
  have hdigits : (Nat.toDigits 10 n).length ≤ mostDigits :=
    (Nat.toDigits_length 10 n e he h).trans hle
  have habs : (if negative then -(n : Int) else n).natAbs = n := by cases negative <;> simp
  show checkInt _ = .ok ()
  rw [checkInt, habs, if_neg (by omega)]

/-- The digits of the whole part are digits in the text. -/
theorem whole?_spec {whole : List Char} (h : whole? cs = some (whole, rest)) :
    whole ++ rest = cs ∧ (∀ c ∈ whole, c.isDigit = true) ∧ whole ≠ [] := by
  unfold whole? at h
  split at h
  · cases h
    exact ⟨rfl, List.forall_mem_singleton.2 rfl, by simp⟩
  · split at h
    · rename_i c cs' hne hc
      cases h
      refine ⟨List.takeWhile_append_dropWhile, fun c hc => List.mem_takeWhile_imp hc, ?_⟩
      simp [hc]
    · cases h
  · cases h

theorem fraction_suffix (cs : List Char) : (fraction cs).2 <:+ cs := by
  unfold fraction
  split
  · rename_i rest
    split
    · exact List.suffix_refl _
    · exact (List.dropWhile_suffix _).trans (List.suffix_cons '.' rest)
  · exact List.suffix_refl _

theorem exponent_suffix (cs : List Char) : (exponent cs).2 <:+ cs := by
  unfold exponent
  split
  · exact List.suffix_refl _
  · rename_i c rest
    split
    · exact List.suffix_refl _
    · have hsigned : ∀ digits, digits <:+ rest → digits.dropWhile Char.isDigit <:+ c :: rest :=
        fun digits h => ((List.dropWhile_suffix _).trans h).trans (List.suffix_cons c rest)
      dsimp only
      split
      · exact List.suffix_refl _
      · rename_i heq
        obtain ⟨rfl, rfl⟩ := Prod.mk.inj heq
        refine hsigned _ ?_
        split
        · exact List.suffix_cons _ _
        · exact List.suffix_cons _ _
        · exact List.suffix_refl _

theorem wholeNumber_cases (digits : List Char) :
    (∃ m, wholeNumber digits = .error (.invalid m) ∧ mostDigits < digits.length) ∨
      wholeNumber digits = .ok (digitsValue digits) ∧ digits.length ≤ mostDigits := by
  unfold wholeNumber
  split
  · rename_i h
    exact .inl ⟨_, rfl, h⟩
  · rename_i h
    exact .inr ⟨rfl, not_lt.1 h⟩

theorem magnitude_reads (negative : Bool) (cs : List Char) :
    Reads Writable room cs (magnitude negative cs) := by
  unfold magnitude
  split
  · exact .malformed _
  · rename_i whole rest hwhole
    obtain ⟨hcs, hdigits, hne⟩ := whole?_spec hwhole
    have hleft : (exponent (fraction rest).2).2 <:+ cs :=
      ((exponent_suffix _).trans (fraction_suffix rest)).trans ⟨whole, hcs⟩
    dsimp only
    split
    · rcases wholeNumber_cases whole with ⟨m, hm, hlong⟩ | ⟨hn, hle⟩
      · rw [hm]
        exact .long m ⟨whole, ⟨[], rest, hcs⟩, hdigits, hlong⟩
      · rw [hn]
        have hint := writable_int (digitsValue_lt hdigits) (List.length_pos_iff.2 hne) hle negative
        exact .found hint hleft
    · exact .found rfl hleft

theorem number_reads (cs : List Char) : Reads Writable room cs (number cs) := by
  unfold number
  split
  · exact (magnitude_reads true _).suffix (List.suffix_cons _ _)
  · exact magnitude_reads false cs

/-! ### Values -/

/-- Names and the values they stand for. -/
def IsMember (e : Value × Value) : Prop := IsMemberName e.1 ∧ Writable e.2

theorem writable_ofList {es : List (Value × Value)} (h : ∀ e ∈ es, IsMember e) :
    Writable (.map (Ordered.ofList es)) :=
  writable_map.2 (Ordered.forall_mem_putAll nofun h)

theorem value_reads_succ {fuel : Nat}
    (hitems : ∀ room cs, Reads (fun vs => ∀ v ∈ vs, Writable v) room cs (items fuel room cs))
    (hmembers : ∀ room cs, Reads (fun es => ∀ e ∈ es, IsMember e) room cs (members fuel room cs))
    (room : Nat) (cs : List Char) : Reads Writable room cs (value (fuel + 1) room cs) := by
  unfold value
  split
  · rename_i rest
    split
    · rename_i s rest' hs
      exact .found (writable_text s) ((string?_suffix hs).trans (List.suffix_cons _ _))
    · exact .malformed _
  · rename_i rest
    refine .inside rfl fun room => ?_
    split
    · rename_i rest' hskip
      exact .found writable_nil (suffix_of_skip hskip)
    · exact ((hitems room _).map fun _ => writable_list.2).suffix (skip_suffix rest)
  · rename_i rest
    refine .inside rfl fun room => ?_
    split
    · rename_i rest' hskip
      exact .found writable_empty (suffix_of_skip hskip)
    · exact ((hmembers room _).map fun _ => writable_ofList).suffix (skip_suffix rest)
  · split
    · rename_i found hword
      exact .found (word?_suffix hword).2 (word?_suffix hword).1
    · exact number_reads cs

theorem items_reads_succ {fuel : Nat}
    (hvalue : ∀ room cs, Reads Writable room cs (value fuel room cs))
    (hitems : ∀ room cs, Reads (fun vs => ∀ v ∈ vs, Writable v) room cs (items fuel room cs))
    (room : Nat) (cs : List Char) :
    Reads (fun vs => ∀ v ∈ vs, Writable v) room cs (items (fuel + 1) room cs) := by
  unfold items
  refine (hvalue room cs).bind fun item rest hitem hrest => ?_
  dsimp only
  split
  · rename_i rest' hskip
    exact .found (by simpa using hitem) ((suffix_of_skip hskip).trans hrest)
  · rename_i rest' hskip
    have hmore := (hitems room (skip rest')).suffix
      ((skip_suffix rest').trans ((suffix_of_skip hskip).trans hrest))
    exact hmore.bind fun more left hmore hleft =>
      .found (List.forall_mem_cons.2 ⟨hitem, hmore⟩) hleft
  · exact .malformed _

theorem members_reads_succ {fuel : Nat}
    (hvalue : ∀ room cs, Reads Writable room cs (value fuel room cs))
    (hmembers : ∀ room cs, Reads (fun es => ∀ e ∈ es, IsMember e) room cs (members fuel room cs))
    (room : Nat) (cs : List Char) :
    Reads (fun es => ∀ e ∈ es, IsMember e) room cs (members (fuel + 1) room cs) := by
  unfold members
  split
  · rename_i behind
    split
    · exact .malformed _
    · rename_i name named hname
      have hnamed : named <:+ '"' :: behind :=
        (string?_suffix hname).trans (List.suffix_cons _ _)
      split
      · rename_i colon hcolon
        have hcolon : skip colon <:+ '"' :: behind :=
          (skip_suffix colon).trans ((suffix_of_skip hcolon).trans hnamed)
        refine ((hvalue room (skip colon)).suffix hcolon).bind fun v rest hv hrest => ?_
        have hmember : IsMember (.text name, v) := ⟨trivial, hv⟩
        dsimp only
        split
        · rename_i rest' hskip
          exact .found (by simpa using hmember) ((suffix_of_skip hskip).trans hrest)
        · rename_i rest' hskip
          have hmore := (hmembers room (skip rest')).suffix
            ((skip_suffix rest').trans ((suffix_of_skip hskip).trans hrest))
          exact hmore.bind fun more left hmore hleft =>
            .found (List.forall_mem_cons.2 ⟨hmember, hmore⟩) hleft
        · exact .malformed _
      · exact .malformed _
  · exact .malformed _

/-- The three readers at once: each reads with the fuel that the one above it has left. -/
theorem reads (fuel : Nat) : (∀ room cs, Reads Writable room cs (value fuel room cs)) ∧
    (∀ room cs, Reads (fun vs => ∀ v ∈ vs, Writable v) room cs (items fuel room cs)) ∧
    ∀ room cs, Reads (fun es => ∀ e ∈ es, IsMember e) room cs (members fuel room cs) := by
  induction fuel with
  | zero => exact ⟨fun _ _ => .malformed _, fun _ _ => .malformed _, fun _ _ => .malformed _⟩
  | succ fuel ih =>
    obtain ⟨hvalue, hitems, hmembers⟩ := ih
    exact ⟨value_reads_succ hitems hmembers, items_reads_succ hvalue hitems,
      members_reads_succ hvalue hmembers⟩

/-- **What a text is read as.**  A value that has a form, or it is no JSON, or there is an integer in
it that is too long, or there are more opening brackets in it than there is room for. -/
theorem read_cases (s : String) (room : Nat) : (∃ v, read s room = .ok v ∧ Writable v) ∨
    (∃ m, read s room = .error (.json m)) ∨
    (∃ m, read s room = .error (.invalid m) ∧ LongRun s.toList) ∨
    ∃ m, read s room = .error (.recursion m) ∧ room < s.toList.countP isOpening := by
  have h : Reads Writable room s.toList (value (2 * s.toList.length + 2) room (skip s.toList)) :=
    ((reads _).1 _ _).suffix (skip_suffix _)
  unfold read
  dsimp only
  -- The reader must not be unfolded by the case split on its outcome.
  generalize value (2 * s.toList.length + 2) room (skip s.toList) = x at h ⊢
  cases h with
  | @found v rest h left =>
    by_cases hend : skip rest = []
    · exact .inl ⟨v, by simp [hend], h⟩
    · exact .inr (.inl ⟨_, by simp [hend, malformed]; rfl⟩)
  | malformed m => exact .inr (.inl ⟨m, rfl⟩)
  | long m h => exact .inr (.inr (.inl ⟨m, rfl, h⟩))
  | deep m h => exact .inr (.inr (.inr ⟨m, rfl, h⟩))

theorem writable_of_read {s : String} {v : Value} (h : read s room = .ok v) : Writable v := by
  rcases read_cases s room with ⟨v', hv, hwritable⟩ | ⟨m, hm⟩ | ⟨m, hm, -⟩ | ⟨m, hm, -⟩
  · cases h.symm.trans hv
    exact hwritable
  all_goals cases h.symm.trans hm

end SoapStubs.Json
