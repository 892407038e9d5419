import Mathlib.Logic.Function.Iterate
import SoapStubs.Deployment
import SoapStubs.Proofs.Lines

/-!
# Normal forms of context paths

`normalContext` takes the blanks off the ends of a text, then the slashes off the ends of what is
left, and puts one slash behind the rest.  Each of this is done once, so that a blank behind the
slashes in front stays, and stands in front after the pass.

* `ContextPath.stem` is what is left of a text, and `ContextPath.ofStem` puts the slash behind it;
* the slash keeps a further pass from the end of a path: on the part before the slash, such a pass
  is `ContextPath.shed` (`ContextPath.semiconj_ofStem`);
* `ContextPath.iterate_shed`: passes end where neither a blank nor a slash is in front;
* `normalContext_settles_iff` is the theorem, and `normalContext_bares_blank` shows a path that one
  pass does not settle.
-/

namespace SoapStubs

/-! ### Trimming -/

namespace Text

variable {p q : Char → Bool} {c : Char} {cs : List Char}

theorem length_trimBy_le (p : Char → Bool) (cs : List Char) : (trimBy p cs).length ≤ cs.length :=
  (List.rdropWhile_prefix p _).length_le.trans (List.dropWhile_suffix p).length_le

/-- A last character that is not of the class guards the end. -/
theorem trimBy_concat_of_not (hc : p c = false) (cs : List Char) :
    trimBy p (cs ++ [c]) = cs.dropWhile p ++ [c] := by
  have hfront : (cs ++ [c]).dropWhile p = cs.dropWhile p ++ [c] := by
    rw [List.dropWhile_append]
    cases cs.dropWhile p <;> simp [hc]
  rw [trimBy_eq_rdropWhile, hfront, List.rdropWhile_concat_neg p _ _ (by simp [hc])]

/-- A last character of the class is trimmed. -/
theorem trimBy_concat (hc : p c = true) (cs : List Char) : trimBy p (cs ++ [c]) = trimBy p cs := by
  rw [trimBy_eq_rdropWhile, trimBy_eq_rdropWhile, List.dropWhile_append]
  cases cs.dropWhile p with
  | nil => simp [hc]
  | cons d ds => exact List.rdropWhile_concat_pos p _ _ hc

/-- From a part of a trimmed list that lacks something in front, only the front is trimmed. -/
theorem trimBy_dropWhile (h : Trimmed p cs) :
    trimBy p (cs.dropWhile q) = (cs.dropWhile q).dropWhile p := by
  rw [trimBy_eq_rdropWhile, List.rdropWhile_eq_self_iff]
  intro hne
  have hsuffix : (cs.dropWhile q).dropWhile p <:+ cs :=
    (List.dropWhile_suffix p).trans (List.dropWhile_suffix q)
  rw [hsuffix.getLast hne]
  simp [h.2 _ (List.getLast?_eq_some_getLast _)]

/-- Dropping a smaller class first makes no difference. -/
theorem dropWhile_dropWhile (h : ∀ c, q c = true → p c = true) (cs : List Char) :
    (cs.dropWhile q).dropWhile p = cs.dropWhile p := by
  induction cs with
  | nil => rfl
  | cons c cs ih =>
    cases hq : q c with
    | false => rw [List.dropWhile_cons_of_neg (by simp [hq])]
    | true => rw [List.dropWhile_cons_of_pos hq, List.dropWhile_cons_of_pos (h c hq), ih]

end Text

open Text

/-! ### Passes -/

namespace ContextPath

variable {cs ds : List Char}

/-- What is left of a text without the blanks and then without the slashes at its ends. -/
def stem (s : String) : List Char := trimBy (· == '/') (trimBy isBlank s.toList)

/-- The context path with a given part before its last slash. -/
def ofStem (cs : List Char) : String := if cs = [] then "" else String.ofList (cs ++ ['/'])

/-- What a further pass leaves of the part before the last slash. -/
def shed (cs : List Char) : List Char := trimBy (· == '/') (cs.dropWhile isBlank)

/-- Is the character a blank or a slash? -/
def isMargin (c : Char) : Bool := isBlank c || c == '/'

theorem normalContext_eq (s : String) : normalContext s = ofStem (stem s) := by
  have hstem : stripChar '/' (strip s) = String.ofList (stem s) := by
    simp [stripChar, strip, stem]
  simp only [normalContext, ofStem, hstem, ← String.toList_inj, String.toList_ofList]
  split <;> simp_all

theorem toList_ofStem (hne : cs ≠ []) : (ofStem cs).toList = cs ++ ['/'] := by
  rw [ofStem, if_neg hne, String.toList_ofList]

theorem ofStem_inj : ofStem cs = ofStem ds ↔ cs = ds := by
  refine ⟨fun h => ?_, congrArg ofStem⟩
  have htext : (ofStem cs).toList = (ofStem ds).toList := congrArg String.toList h
  by_cases hcs : cs = [] <;> by_cases hds : ds = []
  · rw [hcs, hds]
  · rw [toList_ofStem hds, hcs] at htext
    simp [ofStem] at htext
  · rw [toList_ofStem hcs, hds] at htext
    simp [ofStem] at htext
  · rw [toList_ofStem hcs, toList_ofStem hds] at htext
    exact List.append_cancel_right htext

/-- The last slash guards the end from being stripped of blanks, and is then taken off itself. -/
theorem stem_ofStem (cs : List Char) : stem (ofStem cs) = shed cs := by
  by_cases hne : cs = []
  · rw [hne]
    rfl
  · rw [stem, toList_ofStem hne, trimBy_concat_of_not rfl, trimBy_concat rfl, shed]

theorem semiconj_ofStem : Function.Semiconj ofStem shed normalContext := by
  intro cs
  rw [normalContext_eq, stem_ofStem]

theorem iterate_normalContext (n : Nat) (s : String) :
    normalContext^[n + 1] s = ofStem (shed^[n] (stem s)) := by
  rw [Function.iterate_succ_apply, normalContext_eq]
  exact ((semiconj_ofStem.iterate_right n).eq (stem s)).symm

theorem trimmed_stem (s : String) : Trimmed (· == '/') (stem s) := trimmed_trimBy _ _

theorem trimmed_shed (cs : List Char) : Trimmed (· == '/') (shed cs) := trimmed_trimBy _ _

theorem length_stem_le (s : String) : (stem s).length ≤ s.length :=
  (length_trimBy_le _ _).trans (length_trimBy_le _ _)

/-! ### Shedding -/

/-- A blank in front is shed. -/
theorem length_shed_cons {c : Char} (hc : isBlank c = true) (cs : List Char) :
    (shed (c :: cs)).length ≤ cs.length := by
  rw [shed, List.dropWhile_cons_of_pos hc]
  exact (length_trimBy_le _ _).trans (List.dropWhile_suffix _).length_le

/-- Nothing is shed if and only if there is no blank in front. -/
theorem shed_eq_self_iff (h : Trimmed (· == '/') cs) :
    shed cs = cs ↔ ∀ c ∈ cs.head?, isBlank c = false := by
  cases cs with
  | nil => simp [shed, trimBy]
  | cons c cs =>
    cases hc : isBlank c with
    | false => simpa [shed, hc] using trimBy_of_trimmed h
    | true =>
      have hlength := length_shed_cons hc cs
      refine iff_of_false (fun heq => ?_) fun hblank => ?_
      · rw [heq, List.length_cons] at hlength
        omega
      · exact Bool.false_ne_true ((hblank c rfl).symm.trans hc)

/-- Nothing but blanks and slashes is shed. -/
theorem dropWhile_shed (h : Trimmed (· == '/') cs) :
    (shed cs).dropWhile isMargin = cs.dropWhile isMargin := by
  have hslash : ∀ c, (c == '/') = true → isMargin c = true := by simp [isMargin]
  have hblank : ∀ c, isBlank c = true → isMargin c = true := by simp +contextual [isMargin]
  rw [shed, trimBy_dropWhile h, dropWhile_dropWhile hslash, dropWhile_dropWhile hblank]

/-- As long as there is a blank in front the next pass sheds it, so that there are no more such
passes than characters. -/
theorem iterate_shed {n : Nat} (h : Trimmed (· == '/') cs) (hn : cs.length ≤ n) :
    shed^[n] cs = cs.dropWhile isMargin := by
  induction n generalizing cs with
  | zero =>
    rw [List.length_eq_zero_iff.1 (Nat.le_zero.1 hn)]
    rfl
  | succ n ih =>
    cases cs with
    | nil => exact Function.iterate_fixed rfl _
    | cons c cs =>
      cases hc : isBlank c with
      | false =>
        have hfixed : shed (c :: cs) = c :: cs := (shed_eq_self_iff h).2 (by simpa using hc)
        have hslash : (c == '/') = false := h.1 c rfl
        rw [Function.iterate_fixed hfixed,
          List.dropWhile_cons_of_neg (by simp [isMargin, hc, hslash])]
      | true =>
        have hlength := length_shed_cons hc cs
        rw [List.length_cons] at hn
        rw [Function.iterate_succ_apply, ih (trimmed_shed _) (by omega), dropWhile_shed h]

end ContextPath

open ContextPath

/-- **When a context path is in normal form.**  What a pass gives is empty, or has exactly one slash
behind it and none in front.  A second pass leaves it alone if and only if no blank comes right
after the slashes in front; and further passes end at the path with neither blanks nor slashes in
front. -/
theorem normalContext_settles_iff (s : String) :
    (normalContext s = "" ∨ ∃ path, path ≠ "" ∧ normalContext s = path ++ "/" ∧
      Trimmed (· == '/') path.toList) ∧
    (normalContext (normalContext s) = normalContext s ↔
      ∀ c ∈ ((strip s).toList.dropWhile (· == '/')).head?, isBlank c = false) ∧
    ∀ n, normalContext^[n + s.length + 1] s = ofStem ((stem s).dropWhile isMargin) := by
  refine ⟨?_, ?_, fun n => ?_⟩
  · by_cases hne : stem s = []
    · left
      rw [normalContext_eq, hne]
      rfl
    · refine .inr ⟨String.ofList (stem s), by simpa using hne, ?_, ?_⟩
      · rw [normalContext_eq, ← String.toList_inj, toList_ofStem hne]
        simp
      · simpa using trimmed_stem s
  · have hhead : (stem s).head? = ((strip s).toList.dropWhile (· == '/')).head? := by
      rw [stem, head?_trimBy, strip, String.toList_ofList]
    rw [normalContext_eq s, ← semiconj_ofStem (stem s), ofStem_inj,
      shed_eq_self_iff (trimmed_stem s), hhead]
  · have hlength := length_stem_le s
    rw [iterate_normalContext, iterate_shed (trimmed_stem s) (by omega)]

/-- The blank after the slash is in front after one pass, and the next one takes it off. -/
theorem normalContext_bares_blank :
    normalContext "/ api" = " api/" ∧
      normalContext (normalContext "/ api") ≠ normalContext "/ api" := by
  decide +kernel

end SoapStubs
