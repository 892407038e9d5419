import Mathlib.Data.List.DropRight
import SoapStubs.Text.Blank
import SoapStubs.Text.Line
import SoapStubs.Text.Split

/-!
# Lines and their ends

What cutting a text into lines and taking the blanks off a line do, for all texts.

* `boundaries` are the characters that end a line, and `isBoundary_iff` says that there are no
  others;
* `lines_concat`: texts with no boundary in them, each ended with a newline, are the lines;
* `unbroken_of_mem_lines`: no line has a boundary in it;
* `lines_unifyNewlines`: reading the text from a file changes no line;
* `trimmed_strip`, `strip_of_trimmed`: what is left has no blank at its ends, and a text that has
  none is left alone.
-/

namespace SoapStubs.Text

variable {cs l : List Char} {p : Char → Bool}

/-! ### Line ends -/

/-- The characters that end a line: LF, CR, VT, FF, the file, group and record separators, NEL,
LS and PS. -/
def boundaries : List Char :=
  ['\n', '\r', '\u000b', '\u000c', '\u001c', '\u001d', '\u001e', '\u0085', '\u2028', '\u2029']

theorem isBoundary_iff {c : Char} : isBoundary c = true ↔ c ∈ boundaries := by
  have hchar : ∀ d : Char, c = d ↔ c.toNat = d.toNat := fun d => Char.toNat_inj.symm
  simp only [isBoundary, boundaries, List.mem_cons, List.not_mem_nil, or_false, hchar,
    Bool.or_eq_true, Bool.and_eq_true, decide_eq_true_eq, beq_iff_eq]
  generalize c.toNat = n
  simp only [Char.reduceToNat]
  omega

/-- Has the list no character that ends a line? -/
def Unbroken (cs : List Char) : Prop := ∀ c ∈ cs, c ∉ boundaries

-- (instance search finds one that goes through all characters there are)
instance (cs : List Char) : Decidable (Unbroken cs) :=
  List.decidableBAll (fun c => c ∉ boundaries) cs

/-- A character that does not end a line goes to the front of the first line. -/
theorem lineChars_cons {c : Char} (h : c ∉ boundaries) (cs : List Char) :
    lineChars (c :: cs) = (c :: (lineChars cs).headD []) :: (lineChars cs).tail := by
  have hc : isBoundary c = false := by simpa [← isBoundary_iff] using h
  rw [lineChars]
  · rw [if_neg (by simp [hc])]
    cases lineChars cs <;> rfl
  · rintro rest rfl -
    exact h (by decide)

/-- A character that ends a line leaves an empty first line, but for CR, which may be one line end
with the character after it. -/
theorem lineChars_boundary {c : Char} (h : c ∈ boundaries) (hc : c ≠ '\r') (cs : List Char) :
    lineChars (c :: cs) = [] :: lineChars cs := by
  rw [lineChars]
  · exact if_pos (isBoundary_iff.2 h)
  · rintro rest rfl -
    exact hc rfl

/-- A line that has been ended with a newline is cut off as it is. -/
theorem lineChars_append_newline (h : Unbroken l) (cs : List Char) :
    lineChars (l ++ '\n' :: cs) = l :: lineChars cs := by
  induction l with
  | nil => exact lineChars_boundary (by decide) (by decide) cs
  | cons c l ih =>
    rw [List.cons_append, lineChars_cons (h c List.mem_cons_self),
      ih fun d hd => h d (List.mem_cons_of_mem _ hd)]
    rfl

/-- No line has a boundary in it. -/
theorem unbroken_of_mem_lineChars (h : l ∈ lineChars cs) : Unbroken l := by
  fun_induction lineChars cs generalizing l with
  | case1 => cases h
  | case2 cs ih =>
    rcases List.mem_cons.1 h with rfl | h
    · simp [Unbroken]
    · exact ih h
  | case3 c cs _ hc ih =>
    rcases List.mem_cons.1 h with rfl | h
    · simp [Unbroken]
    · exact ih h
  | case4 c cs _ hc hnil ih =>
    rw [List.mem_singleton.1 h, Unbroken, List.forall_mem_singleton, ← isBoundary_iff]
    exact hc
  | case5 c cs _ hc first rest hcons ih =>
    rw [hcons] at ih
    rcases List.mem_cons.1 h with rfl | h
    · refine List.forall_mem_cons.2 ⟨?_, ih List.mem_cons_self⟩
      rw [← isBoundary_iff]
      exact hc
    · exact ih (List.mem_cons_of_mem _ h)

/-- CR and CR LF end a line as LF does, so that unifying them keeps the lines. -/
theorem lineChars_unifyNewlineChars (cs : List Char) :
    lineChars (unifyNewlineChars cs) = lineChars cs := by
  fun_induction unifyNewlineChars cs with
  | case1 => rfl
  | case2 cs ih => rw [lineChars_boundary (by decide) (by decide), ih, lineChars]
  | case3 cs hcs ih =>
    rw [lineChars_boundary (by decide) (by decide), ih, lineChars]
    · exact (if_pos rfl).symm
    · rintro rest - rfl
      exact hcs rest rfl
  | case4 c cs hpair hcr ih =>
    by_cases hc : c ∈ boundaries
    · rw [lineChars_boundary hc hcr, lineChars_boundary hc hcr, ih]
    · rw [lineChars_cons hc, lineChars_cons hc, ih]

/-- **Lines that were ended with a newline are cut off as they are.** -/
theorem lines_concat {texts : List String} (h : ∀ s ∈ texts, Unbroken s.toList) :
    lines (concat (texts.map (· ++ "\n"))) = texts := by
  induction texts with
  | nil => rfl
  | cons s texts ih =>
    have htext : (concat ((s :: texts).map (· ++ "\n"))).toList =
        s.toList ++ '\n' :: (concat (texts.map (· ++ "\n"))).toList := by
      simp [concat]
    rw [lines, htext, lineChars_append_newline (h s List.mem_cons_self), List.map_cons,
      String.ofList_toList]
    exact congrArg _ (ih fun t ht => h t (List.mem_cons_of_mem _ ht))

theorem unbroken_of_mem_lines {text s : String} (h : s ∈ lines text) : Unbroken s.toList := by
  obtain ⟨l, hl, rfl⟩ := List.mem_map.1 h
  rw [String.toList_ofList]
  exact unbroken_of_mem_lineChars hl

theorem lines_unifyNewlines (s : String) : lines (unifyNewlines s) = lines s := by
  simp [lines, unifyNewlines, lineChars_unifyNewlineChars]

/-! ### The ends of a line -/

/-- Has the list no character of the class at either end? -/
def Trimmed (p : Char → Bool) (cs : List Char) : Prop :=
  (∀ c ∈ cs.head?, p c = false) ∧ ∀ c ∈ cs.getLast?, p c = false

instance (p : Char → Bool) (cs : List Char) : Decidable (Trimmed p cs) :=
  decidable_of_iff (cs.head?.all (!p ·) = true ∧ cs.getLast?.all (!p ·) = true)
    (by simp [Trimmed, Option.all_eq_true])

theorem trimBy_eq_rdropWhile (p : Char → Bool) (cs : List Char) :
    trimBy p cs = (cs.dropWhile p).rdropWhile p := rfl

/-- A list that is trimmed is left alone. -/
theorem trimBy_of_trimmed (h : Trimmed p cs) : trimBy p cs = cs := by
  have hfirst : cs.dropWhile p = cs := by
    cases cs with
    | nil => rfl
    | cons c cs => exact List.dropWhile_cons_of_neg (by simp [h.1 c rfl])
  rw [trimBy_eq_rdropWhile, hfirst, List.rdropWhile_eq_self_iff]
  intro hne
  simp [h.2 _ (List.getLast?_eq_some_getLast hne)]

/-- Trimming the end keeps the first character that is left. -/
theorem head?_trimBy (p : Char → Bool) (cs : List Char) :
    (trimBy p cs).head? = (cs.dropWhile p).head? := by
  rw [trimBy_eq_rdropWhile]
  have hfirst := List.head?_dropWhile_not p cs
  obtain ⟨rest, hrest⟩ := List.rdropWhile_prefix p (cs.dropWhile p)
  cases hleft : (cs.dropWhile p).rdropWhile p with
  | nil =>
    have hall := List.rdropWhile_eq_nil_iff.1 hleft
    cases hdrop : cs.dropWhile p with
    | nil => rfl
    | cons c cs => simp_all
  | cons c cs => rw [← hrest, hleft]; rfl

/-- What is left is trimmed. -/
theorem trimmed_trimBy (p : Char → Bool) (cs : List Char) : Trimmed p (trimBy p cs) := by
  constructor
  · intro c hc
    rw [head?_trimBy] at hc
    simpa [Option.mem_def.1 hc] using List.head?_dropWhile_not p cs
  · intro c hc
    rw [trimBy_eq_rdropWhile] at hc
    obtain ⟨hne, rfl⟩ := List.mem_getLast?_eq_getLast hc
    simpa using List.rdropWhile_last_not p _ hne

theorem mem_of_mem_trimBy {c : Char} (h : c ∈ trimBy p cs) : c ∈ cs :=
  (List.dropWhile_suffix p).mem ((List.rdropWhile_prefix p _).mem h)

theorem strip_of_trimmed {s : String} (h : Trimmed isBlank s.toList) : strip s = s := by
  rw [strip, trimBy_of_trimmed h, String.ofList_toList]

theorem trimmed_strip (s : String) : Trimmed isBlank (strip s).toList := by
  rw [strip, String.toList_ofList]
  exact trimmed_trimBy isBlank s.toList

theorem unbroken_strip {s : String} (h : Unbroken s.toList) : Unbroken (strip s).toList := by
  intro c hc
  rw [strip, String.toList_ofList] at hc
  exact h c (mem_of_mem_trimBy hc)

end SoapStubs.Text
