import SoapStubs.Proofs.JsonString
import SoapStubs.Proofs.Ordered
import SoapStubs.Proofs.Outcome
import SoapStubs.Text.Line

/-!
# JSON texts are read back

A value that the format has a form of its own for is read back from its text, in both layouts.  The
argument is by induction on the value.  What it carries is the text that follows: a value is found
in front of any text that cannot go on with a number.

* `Plain` values are those that the format has a form of its own for, and there is room for;
* `value_write` says that a plain value is found where it is written;
* `read_render` says that a whole text is read back, `unifyNewlines_render` that reading a file as
  text does not change it.
-/

namespace SoapStubs.Json

open Number

variable {layout : Layout} {level fuel room n : Nat} {c : Char} {cs rest tail ds : List Char} {v : Value}

/-! ### Blanks -/

theorem skip_append (h : ∀ c ∈ cs, isGap c = true) : skip (cs ++ rest) = skip rest :=
  List.dropWhile_append_of_pos h

theorem skip_cons_of_not_gap (h : isGap c = false) : skip (c :: cs) = c :: cs := by
  simp [skip, h]

theorem isGap_of_mem_lead (h : c ∈ layout.lead n) : isGap c = true := by
  cases layout with
  | line => simp [Layout.lead] at h
  | indented =>
    simp only [Layout.lead, List.mem_cons, List.mem_replicate] at h
    rcases h with rfl | ⟨-, rfl⟩ <;> rfl

theorem skip_lead : skip (layout.lead n ++ rest) = skip rest :=
  skip_append fun _ => isGap_of_mem_lead

theorem exists_comma (layout : Layout) (n : Nat) :
    ∃ gap, layout.comma n = ',' :: gap ∧ ∀ c ∈ gap, isGap c = true := by
  cases layout with
  | line => exact ⟨[' '], rfl, by simp [isGap]⟩
  | indented => exact ⟨_, rfl, fun _ => isGap_of_mem_lead⟩

/-- The text cannot go on with a number. -/
def Ends (rest : List Char) : Prop :=
  ∀ c ∈ rest.head?, c.isDigit = false ∧ c ≠ '.' ∧ c ≠ 'e' ∧ c ≠ 'E'

theorem ends_cons (h : c.isDigit = false ∧ c ≠ '.' ∧ c ≠ 'e' ∧ c ≠ 'E') : Ends (c :: rest) := by
  intro d hd
  obtain rfl : c = d := by simpa using hd
  exact h

theorem ends_lead (h : Ends rest) : Ends (layout.lead n ++ rest) := by
  cases layout with
  | line => exact h
  | indented => exact ends_cons (by decide)

/-! ### Numbers -/

theorem spanDigits_of_ends (hd : ∀ c ∈ ds, c.isDigit = true) (h : Ends rest) :
    spanDigits (ds ++ rest) = (ds, rest) := by
  have hrest : rest.takeWhile Char.isDigit = [] ∧ rest.dropWhile Char.isDigit = rest := by
    cases rest with
    | nil => exact ⟨rfl, rfl⟩
    | cons c rest =>
      have hc := (h c rfl).1
      simp [hc]
  rw [spanDigits, List.takeWhile_append_of_pos hd, List.dropWhile_append_of_pos hd, hrest.1,
    hrest.2, List.append_nil]

theorem exists_toDigits (hn : 0 < n) : ∃ c cs, Nat.toDigits 10 n = c :: cs ∧ c ≠ '0' := by
  induction n using Nat.strongRecOn with
  | ind n ih =>
    rw [Nat.toDigits_eq_if (by decide)]
    split
    · rename_i h
      have hdigit : ∀ m < 10, 0 < m → m.digitChar ≠ '0' := by decide
      exact ⟨_, _, rfl, hdigit n h hn⟩
    · rename_i h
      obtain ⟨c, cs, hcs, hc⟩ := ih (n / 10) (by omega) (by omega)
      exact ⟨c, cs ++ [(n % 10).digitChar], by rw [hcs]; rfl, hc⟩

theorem whole?_toDigits (n : Nat) (h : Ends rest) :
    whole? (Nat.toDigits 10 n ++ rest) = some (Nat.toDigits 10 n, rest) := by
  have hdigits : ∀ c ∈ Nat.toDigits 10 n, c.isDigit = true := fun c hc =>
    Nat.isDigit_of_mem_toDigits (by decide) (by decide) hc
  rcases Nat.eq_zero_or_pos n with rfl | hn
  · rfl
  · obtain ⟨c, cs, hcs, hc⟩ := exists_toDigits hn
    have hspan := spanDigits_of_ends hdigits h
    rw [hcs] at hdigits hspan ⊢
    have hdigit := hdigits c List.mem_cons_self
    rw [List.cons_append] at hspan ⊢
    rw [whole?]
    · rw [if_pos hdigit, hspan]
    · simpa using hc

theorem magnitude_toDigits (negative : Bool) (hn : (Nat.toDigits 10 n).length ≤ mostDigits)
    (h : Ends rest) : magnitude negative (Nat.toDigits 10 n ++ rest) =
      .ok (.int (if negative then -n else n), rest) := by
  have hfraction : fraction rest = ([], rest) := by
    unfold fraction
    split
    · exact absurd rfl (h '.' rfl).2.1
    · rfl
  have hexponent : exponent rest = (none, rest) := by
    unfold exponent
    split
    · rfl
    · rename_i c rest
      obtain ⟨-, -, he, hE⟩ := h c rfl
      simp [he, hE]
  have hvalue : digitsValue (Nat.toDigits 10 n) = n := Nat.ofDigitChars_ten_toDigits
  have hwhole : wholeNumber (Nat.toDigits 10 n) = .ok n := by
    rw [wholeNumber, if_neg (by omega), hvalue]
  simp [magnitude, whole?_toDigits n h, hfraction, hexponent, hwhole]

theorem word?_eq_none (h : ∀ w ∈ words, w.1.isPrefixOf cs = false) : word? cs = none := by
  rw [word?, Option.map_eq_none_iff, List.find?_eq_none]
  intro w hw
  simp [h w hw]

theorem digit_ne (h : c.isDigit = true) : c ≠ '"' ∧ c ≠ '[' ∧ c ≠ ']' ∧ c ≠ '\x7b' ∧ c ≠ '-' := by
  refine ⟨?_, ?_, ?_, ?_, ?_⟩ <;> (rintro rfl; revert h; decide)

theorem word?_digit (h : c.isDigit = true) :
    word? (c :: cs) = none ∧ word? ('-' :: c :: cs) = none := by
  have hne : 'n' ≠ c ∧ 't' ≠ c ∧ 'f' ≠ c ∧ 'N' ≠ c ∧ 'I' ≠ c ∧ '-' ≠ c := by
    refine ⟨?_, ?_, ?_, ?_, ?_, ?_⟩ <;> (rintro rfl; revert h; decide)
  obtain ⟨h₁, h₂, h₃, h₄, h₅, h₆⟩ := hne
  constructor
  · refine word?_eq_none fun w hw => ?_
    simp only [words, List.mem_cons, List.not_mem_nil, or_false] at hw
    rcases hw with rfl | rfl | rfl | rfl | rfl | rfl <;>
      simp [List.isPrefixOf, h₁, h₂, h₃, h₄, h₅, h₆]
  · refine word?_eq_none fun w hw => ?_
    simp only [words, List.mem_cons, List.not_mem_nil, or_false] at hw
    rcases hw with rfl | rfl | rfl | rfl | rfl | rfl <;> simp [List.isPrefixOf, h₅]

theorem value_of_word?_eq_none (hq : c ≠ '"') (hl : c ≠ '[') (hm : c ≠ '\x7b')
    (h : word? (c :: cs) = none) : value (fuel + 1) room (c :: cs) = number (c :: cs) := by
  rw [value]
  · rw [h]
  all_goals simp_all

theorem exists_digit (n : Nat) : ∃ c cs, Nat.toDigits 10 n = c :: cs ∧ c.isDigit = true := by
  obtain ⟨c, cs, hcs⟩ : ∃ c cs, Nat.toDigits 10 n = c :: cs :=
    List.exists_cons_of_length_pos Nat.length_toDigits_pos
  exact ⟨c, cs, hcs, Nat.isDigit_of_mem_toDigits (by decide) (by decide) (hcs ▸ List.mem_cons_self)⟩

theorem value_int {m : Int} (hm : (Nat.toDigits 10 m.natAbs).length ≤ mostDigits) (h : Ends rest) :
    value (fuel + 1) room (int m ++ rest) = .ok (.int m, rest) := by
  obtain ⟨c, cs, hcs, hdigit⟩ := exists_digit m.natAbs
  obtain ⟨hq, hl, -, hb, hminus⟩ := digit_ne hdigit
  have hmag := fun negative => magnitude_toDigits negative hm h
  unfold int
  split
  · rename_i hneg
    rw [hcs, List.cons_append, List.cons_append, value_of_word?_eq_none (by decide) (by decide)
      (by decide) (word?_digit hdigit).2, number, ← List.cons_append, ← hcs, hmag]
    simp only [if_true]
    congr
    omega
  · rename_i hneg
    rw [hcs, List.cons_append, value_of_word?_eq_none hq hl hb (word?_digit hdigit).1, number,
      ← List.cons_append, ← hcs, hmag]
    · simp only [Bool.false_eq_true, if_false]
      congr
      omega
    · simpa using hminus

/-! ### Values -/

/-- The format has a form of its own for the value: words, strings, integers that are not too long,
lists, and mappings from texts of which no two are the same.  There is room for its nesting. -/
inductive Plain : Nat → Value → Prop
  /-- No value. -/
  | null {room : Nat} : Plain room .null
  /-- A truth value. -/
  | bool {room : Nat} (b : Bool) : Plain room (.bool b)
  | int {room : Nat} (n : Int) (h : (Nat.toDigits 10 n.natAbs).length ≤ mostDigits) :
      Plain room (.int n)
  | text {room : Nat} (s : String) : Plain room (.text s)
  | list {room : Nat} (items : List Value) (h : ∀ v ∈ items, Plain room v) :
      Plain (room + 1) (.list items)
  | map {room : Nat} (entries : List (Value × Value)) (names : ∀ e ∈ entries, ∃ s, e.1 = .text s)
      (distinct : entries.Pairwise fun e e' => (e.1 == e'.1) = false)
      (h : ∀ e ∈ entries, Plain room e.2) : Plain (room + 1) (.map entries)

theorem write_eq_cons (hv : Plain room v) (layout : Layout) (level : Nat) :
    ∃ c cs, write layout level v = c :: cs ∧ isGap c = false ∧ c ≠ ']' := by
  cases hv with
  | null => exact ⟨'n', _, rfl, rfl, by decide⟩
  | bool b =>
    cases b
    · exact ⟨'f', _, rfl, rfl, by decide⟩
    · exact ⟨'t', _, rfl, rfl, by decide⟩
  | int n h =>
    rw [write, int]
    split
    · exact ⟨'-', _, rfl, rfl, by decide⟩
    · obtain ⟨c, cs, hcs, hdigit⟩ := exists_digit n.natAbs
      refine ⟨c, cs, hcs, ?_, (digit_ne hdigit).2.2.1⟩
      simp only [isGap, Bool.or_eq_false_iff, beq_eq_false_iff_ne]
      refine ⟨⟨⟨?_, ?_⟩, ?_⟩, ?_⟩ <;> (rintro rfl; revert hdigit; decide)
  | text s => exact ⟨'"', _, rfl, rfl, by decide⟩
  | list items =>
    cases items
    · exact ⟨'[', _, rfl, rfl, by decide⟩
    · exact ⟨'[', _, rfl, rfl, by decide⟩
  | map entries =>
    cases entries
    · exact ⟨'\x7b', _, rfl, rfl, by decide⟩
    · exact ⟨'\x7b', _, rfl, rfl, by decide⟩

theorem skip_write (hv : Plain room v) :
    skip (write layout level v ++ rest) = write layout level v ++ rest := by
  obtain ⟨c, cs, hcs, hgap, -⟩ := write_eq_cons hv layout level
  rw [hcs, List.cons_append, skip_cons_of_not_gap hgap]

theorem skip_string {s : String} : skip (string s ++ rest) = string s ++ rest :=
  skip_cons_of_not_gap (by decide)

theorem items_last (hv : value fuel room cs = .ok (v, rest)) (h : skip rest = ']' :: tail) :
    items (fuel + 1) room cs = .ok ([v], tail) := by
  simp [items, hv, h]

theorem items_more {more : List Char} {vs : List Value} (hv : value fuel room cs = .ok (v, rest))
    (h : skip rest = ',' :: more) (hm : items fuel room (skip more) = .ok (vs, tail)) :
    items (fuel + 1) room cs = .ok (v :: vs, tail) := by
  simp [items, hv, h, hm]

/-- The value is found where it is written, in front of any text that ends it. -/
def Found (layout : Layout) (room : Nat) (v : Value) : Prop :=
  ∀ {level fuel rest}, (write layout level v).length ≤ fuel → Ends rest →
    value fuel room (write layout level v ++ rest) = .ok (v, rest)

theorem items_write {vs : List Value} (m : Nat) (rest : List Char) : ∀ {v fuel},
    (∀ w ∈ v :: vs, Found layout room w) → (∀ w ∈ v :: vs, Plain room w) →
    (write layout level v).length + (writeItems layout level vs).length + 1 ≤ fuel →
    items fuel room (write layout level v ++ (writeItems layout level vs ++
      (layout.lead m ++ ']' :: rest))) = .ok (v :: vs, rest) := by
  induction vs with
  | nil =>
    intro v fuel hfound hplain hfuel
    obtain ⟨fuel, rfl⟩ := Nat.exists_eq_succ_of_ne_zero (show fuel ≠ 0 by omega)
    rw [writeItems, List.nil_append]
    have hends : Ends (layout.lead m ++ ']' :: rest) := ends_lead (ends_cons (by decide))
    refine items_last (hfound v List.mem_cons_self (by omega) hends) ?_
    rw [skip_lead, skip_cons_of_not_gap (by decide)]
  | cons w vs ih =>
    intro v fuel hfound hplain hfuel
    -- an item takes one unit of fuel, and its comma is a character
    obtain ⟨fuel, rfl⟩ := Nat.exists_eq_succ_of_ne_zero (show fuel ≠ 0 by omega)
    obtain ⟨gap, hcomma, hgap⟩ := exists_comma layout level
    simp only [writeItems, hcomma, List.cons_append, List.append_assoc, List.length_cons,
      List.length_append] at hfuel ⊢
    refine items_more (hfound v List.mem_cons_self (by omega) (ends_cons (by decide)))
      (skip_cons_of_not_gap (by decide)) ?_
    rw [skip_append hgap, skip_write (hplain w (by simp))]
    exact ih (fun x hx => hfound x (List.mem_cons_of_mem _ hx))
      (fun x hx => hplain x (List.mem_cons_of_mem _ hx)) (by omega)

theorem members_last {s : String} (hv : value fuel room cs = .ok (v, rest)) (hcs : skip cs = cs)
    (h : skip rest = '\x7d' :: tail) :
    members (fuel + 1) room (string s ++ ':' :: ' ' :: cs) = .ok ([(.text s, v)], tail) := by
  have hstring : string? (s.toList.flatMap escape ++ '"' :: ':' :: ' ' :: cs) =
      some (s, ':' :: ' ' :: cs) := string?_escape s _
  have hcolon : skip (':' :: ' ' :: cs) = ':' :: ' ' :: cs := skip_cons_of_not_gap (by decide)
  have hblank : skip (' ' :: cs) = cs := hcs
  simp [string, members, hstring, hcolon, hblank, hv, h]

theorem members_more {s : String} {more : List Char} {es : List (Value × Value)}
    (hv : value fuel room cs = .ok (v, rest)) (hcs : skip cs = cs) (h : skip rest = ',' :: more)
    (hm : members fuel room (skip more) = .ok (es, tail)) :
    members (fuel + 1) room (string s ++ ':' :: ' ' :: cs) = .ok ((.text s, v) :: es, tail) := by
  have hstring : string? (s.toList.flatMap escape ++ '"' :: ':' :: ' ' :: cs) =
      some (s, ':' :: ' ' :: cs) := string?_escape s _
  have hcolon : skip (':' :: ' ' :: cs) = ':' :: ' ' :: cs := skip_cons_of_not_gap (by decide)
  have hblank : skip (' ' :: cs) = cs := hcs
  simp [string, members, hstring, hcolon, hblank, hv, h, hm]

theorem members_write {es : List (Value × Value)} (m : Nat) (rest : List Char) : ∀ {s v fuel},
    (∀ e ∈ es, ∃ s, e.1 = .text s) → (∀ e ∈ (.text s, v) :: es, Found layout room e.2) →
    (∀ e ∈ (.text s, v) :: es, Plain room e.2) →
    (write layout level v).length + (writeMembers layout level es).length + 1 ≤ fuel →
    members fuel room (string s ++ ':' :: ' ' :: (write layout level v ++
      (writeMembers layout level es ++ (layout.lead m ++ '\x7d' :: rest)))) =
        .ok ((.text s, v) :: es, rest) := by
  induction es with
  | nil =>
    intro s v fuel _ hfound hplain hfuel
    obtain ⟨fuel, rfl⟩ := Nat.exists_eq_succ_of_ne_zero (show fuel ≠ 0 by omega)
    have hv : Found layout room v := hfound _ List.mem_cons_self
    rw [writeMembers, List.nil_append]
    refine members_last (hv (by omega) (ends_lead (ends_cons (by decide))))
      (skip_write (hplain _ List.mem_cons_self)) ?_
    rw [skip_lead, skip_cons_of_not_gap (by decide)]
  | cons e es ih =>
    intro s v fuel hnames hfound hplain hfuel
    obtain ⟨fuel, rfl⟩ := Nat.exists_eq_succ_of_ne_zero (show fuel ≠ 0 by omega)
    obtain ⟨gap, hcomma, hgap⟩ := exists_comma layout level
    have hv : Found layout room v := hfound _ List.mem_cons_self
    obtain ⟨k, w⟩ := e
    obtain ⟨s', hk⟩ := hnames _ List.mem_cons_self
    simp only at hk
    subst hk
    simp only [writeMembers, hcomma, name, List.cons_append, List.append_assoc, List.length_cons,
      List.length_append] at hfuel ⊢
    refine members_more (hv (by omega) (ends_cons (by decide)))
      (skip_write (hplain _ List.mem_cons_self)) (skip_cons_of_not_gap (by decide)) ?_
    rw [skip_append hgap, skip_string]
    exact ih (fun e he => hnames e (List.mem_cons_of_mem _ he))
      (fun x hx => hfound x (List.mem_cons_of_mem _ hx))
      (fun x hx => hplain x (List.mem_cons_of_mem _ hx)) (by omega)

theorem value_list (h : skip cs = c :: tail) (hc : c ≠ ']') :
    value (fuel + 1) (room + 1) ('[' :: cs) =
      (items fuel room (c :: tail)).map fun (items, rest) => (.list items, rest) := by
  rw [value, inside, h]
  split
  · rename_i heq; cases heq; exact absurd rfl hc
  · rfl

theorem value_map (h : skip cs = c :: tail) (hc : c ≠ '\x7d') :
    value (fuel + 1) (room + 1) ('\x7b' :: cs) =
      (members fuel room (c :: tail)).map fun (members, rest) =>
        (.map (Ordered.ofList members), rest) := by
  rw [value, inside, h]
  split
  · rename_i heq; cases heq; exact absurd rfl hc
  · rfl

theorem found_of_succ (hv : Plain room v) (h : ∀ {level fuel rest},
    (write layout level v).length ≤ fuel + 1 → Ends rest →
      value (fuel + 1) room (write layout level v ++ rest) = .ok (v, rest)) :
    Found layout room v := by
  intro level fuel rest hfuel hends
  obtain ⟨c, cs, hcs, -⟩ := write_eq_cons hv layout level
  cases fuel with
  | zero => simp [hcs] at hfuel
  | succ fuel => exact h hfuel hends

/-- **A plain value is found where it is written.** -/
theorem value_write (hv : Plain room v) : Found layout room v := by
  induction hv with
  | null => exact found_of_succ .null fun _ _ => rfl
  | bool b => cases b <;> exact found_of_succ (.bool _) fun _ _ => rfl
  | int n h =>
    refine found_of_succ (.int n h) fun _ hends => ?_
    rw [write]
    exact value_int h hends
  | text s =>
    refine found_of_succ (.text s) fun {level fuel rest} _ _ => ?_
    have hs := string?_escape s rest
    simp [write, string, value, hs]
  | list items h ih =>
    refine found_of_succ (.list items h) fun {level fuel rest} hfuel hends => ?_
    cases items with
    | nil => rfl
    | cons v vs =>
      have hlen : (write layout (level + 1) v).length +
          (writeItems layout (level + 1) vs).length + 1 ≤ fuel := by
        simp only [write, list, List.cons_append, List.length_cons, List.length_append] at hfuel
        omega
      have hitems := items_write level rest ih h hlen
      obtain ⟨c, cs, hcs, hgap, hc⟩ := write_eq_cons (h v List.mem_cons_self) layout (level + 1)
      simp only [write, list, List.cons_append, List.append_assoc, List.nil_append]
      rw [hcs, List.cons_append] at hitems ⊢
      rw [value_list (skip_lead.trans (skip_cons_of_not_gap hgap)) hc, hitems]
      rfl
  | map entries names distinct h ih =>
    refine found_of_succ (.map entries names distinct h) fun {level fuel rest} hfuel hends => ?_
    cases entries with
    | nil => rfl
    | cons e es =>
      obtain ⟨k, v⟩ := e
      obtain ⟨s, hk⟩ := names _ List.mem_cons_self
      simp only at hk
      subst hk
      have hlen : (write layout (level + 1) v).length +
          (writeMembers layout (level + 1) es).length + 1 ≤ fuel := by
        simp only [write, List.cons_append, List.length_cons, List.length_append] at hfuel
        omega
      have hmembers := members_write level rest
        (fun e he => names e (List.mem_cons_of_mem _ he)) ih h hlen
      simp only [write, name, List.cons_append, List.append_assoc, List.nil_append]
      rw [value_map (skip_lead.trans skip_string) (by decide)]
      change (members fuel _ (string s ++ _)).map _ = _
      rw [hmembers, Except.map]
      dsimp only
      rw [Ordered.ofList_eq_self distinct]

/-! ### Whole texts -/

/-- **A plain value is read back from its text.**  Blanks may follow. -/
theorem read_render (hv : Plain room v) (h : ∀ c ∈ rest, isGap c = true) :
    read (render layout v ++ String.ofList rest) room = .ok v := by
  have hends : Ends rest := by
    intro c hc
    have hgap := h c (List.mem_of_mem_head? hc)
    simp only [isGap, Bool.or_eq_true, beq_iff_eq] at hgap
    rcases hgap with ((rfl | rfl) | rfl) | rfl <;> decide
  have hskip : skip rest = [] := by
    rw [← List.append_nil rest, skip_append h]
    rfl
  have htext : (render layout v ++ String.ofList rest).toList = write layout 0 v ++ rest := by
    simp [render, String.toList_append]
  rw [read, htext]
  dsimp only
  rw [skip_write hv, value_write hv (by simp only [List.length_append]; omega) hends]
  simp [hskip]

/-! ### Line ends -/

/-- The text has no carriage return. -/
def Unbroken (cs : List Char) : Prop := '\r' ∉ cs

theorem unbroken_append {ds : List Char} (h : Unbroken cs) (h' : Unbroken ds) :
    Unbroken (cs ++ ds) := by
  simp only [Unbroken, List.mem_append, not_or]
  exact ⟨h, h'⟩

theorem unbroken_lead : Unbroken (layout.lead n) := by
  cases layout <;> simp [Unbroken, Layout.lead]

theorem unbroken_comma : Unbroken (layout.comma n) := by
  cases layout <;> simp [Unbroken, Layout.comma, Layout.lead]

theorem unbroken_string {s : String} : Unbroken (string s) := fun h =>
  absurd (le_toNat_of_mem_string h) (by decide)

theorem unbroken_int {m : Int} : Unbroken (int m) := by
  have hdigits : '\r' ∉ Nat.toDigits 10 m.natAbs := fun h =>
    absurd (Nat.isDigit_of_mem_toDigits (by decide) (by decide) h) (by decide)
  unfold int
  split <;> simp [Unbroken, hdigits]

theorem unbroken_writeItems {vs : List Value} (h : ∀ v ∈ vs, Unbroken (write layout level v)) :
    Unbroken (writeItems layout level vs) := by
  induction vs with
  | nil => simp [Unbroken, writeItems]
  | cons v vs ih =>
    rw [writeItems]
    exact unbroken_append (unbroken_append unbroken_comma (h v List.mem_cons_self))
      (ih fun w hw => h w (List.mem_cons_of_mem _ hw))

theorem unbroken_writeMembers {es : List (Value × Value)}
    (h : ∀ e ∈ es, Unbroken (write layout level e.2)) :
    Unbroken (writeMembers layout level es) := by
  induction es with
  | nil => simp [Unbroken, writeMembers]
  | cons e es ih =>
    have hv : Unbroken (':' :: ' ' :: write layout level e.2) := by
      simpa [Unbroken] using h e List.mem_cons_self
    rw [writeMembers]
    exact unbroken_append (unbroken_append (unbroken_append unbroken_comma unbroken_string) hv)
      (ih fun e he => h e (List.mem_cons_of_mem _ he))

theorem unbroken_write (hv : Plain room v) : ∀ {level}, Unbroken (write layout level v) := by
  induction hv with
  | null => intro level; simp [Unbroken, write]
  | bool b => intro level; cases b <;> simp [Unbroken, write]
  | int n => intro level; rw [write]; exact unbroken_int
  | text s => intro level; rw [write]; exact unbroken_string
  | list items h ih =>
    intro level
    cases items with
    | nil => simp [Unbroken, write, list]
    | cons v vs =>
      have hopen : Unbroken ('[' :: layout.lead (level + 1)) := by
        simpa [Unbroken] using unbroken_lead
      rw [write, list]
      refine unbroken_append (unbroken_append (unbroken_append (unbroken_append hopen ?_) ?_)
        unbroken_lead) (by simp [Unbroken])
      · exact ih v List.mem_cons_self
      · exact unbroken_writeItems fun w hw => ih w (List.mem_cons_of_mem _ hw)
  | map entries names distinct h ih =>
    intro level
    cases entries with
    | nil => simp [Unbroken, write]
    | cons e es =>
      have hopen : Unbroken ('\x7b' :: layout.lead (level + 1)) := by
        simpa [Unbroken] using unbroken_lead
      have hv : Unbroken (':' :: ' ' :: write layout (level + 1) e.2) := by
        simpa [Unbroken] using ih e List.mem_cons_self
      rw [write]
      refine unbroken_append (unbroken_append (unbroken_append (unbroken_append
        (unbroken_append hopen unbroken_string) hv) ?_) unbroken_lead) (by simp [Unbroken])
      exact unbroken_writeMembers fun e he => ih e (List.mem_cons_of_mem _ he)

theorem unifyNewlineChars_of_unbroken (h : Unbroken cs) : Text.unifyNewlineChars cs = cs := by
  induction cs with
  | nil => rfl
  | cons c cs ih =>
    simp only [Unbroken, List.mem_cons, not_or] at h
    rw [Text.unifyNewlineChars, ih h.2]
    · intro ds hc; exact absurd hc.symm h.1
    · intro hc; exact absurd hc.symm h.1

/-- Reading a written text as a text file does not change it. -/
theorem unifyNewlines_render (hv : Plain room v) (h : Unbroken rest) :
    Text.unifyNewlines (render layout v ++ String.ofList rest) =
      render layout v ++ String.ofList rest := by
  have htext : (render layout v ++ String.ofList rest).toList = write layout 0 v ++ rest := by
    simp [render, String.toList_append]
  rw [Text.unifyNewlines, htext,
    unifyNewlineChars_of_unbroken (unbroken_append (unbroken_write hv) h), ← htext,
    String.ofList_toList]

end SoapStubs.Json
