import Mathlib.Algebra.Group.Nat.Defs
import Mathlib.Data.List.Nodup
import Mathlib.Data.List.Perm.Subperm
import SoapStubs.Proofs.Stage

/-!
# Numbered names are fresh

The names that are numbered one after another lead to a name that nothing has: the candidates are
one more than the entries of the tree, no two of them are the same, and so they cannot all be taken.

* `padded_injective` says that numbers are told apart by their digits;
* `beside_madeUp` says that the name that is found is made up as it should be;
* `usable_beside` says that it can be used if the path leaves room for it.
-/

namespace SoapStubs

theorem ofDigitChars_padded (width n : Nat) :
    Nat.ofDigitChars 10 (padded width n).toList 0 = n := by
  simp [padded, Nat.ofDigitChars_append, Nat.ofDigitChars_replicate_zero]

theorem padded_injective {width i j : Nat} (h : padded width i = padded width j) : i = j := by
  rw [← ofDigitChars_padded width i, h, ofDigitChars_padded]

theorem isDigit_of_mem_padded {width n : Nat} {c : Char} (h : c ∈ (padded width n).toList) :
    c.isDigit := by
  simp only [padded, String.toList_ofList, List.mem_append, List.mem_replicate] at h
  rcases h with ⟨-, rfl⟩ | h
  · decide
  · exact Nat.isDigit_of_mem_toDigits (by decide) (by decide) h

theorem le_length_padded (width n : Nat) : width ≤ (padded width n).length := by
  simp only [padded, String.length_ofList, List.length_append, List.length_replicate]
  omega

theorem utf8Size_of_isDigit {c : Char} (h : c.isDigit) : c.utf8Size = 1 := by
  simp only [Char.isDigit, ge_iff_le, Bool.and_eq_true, decide_eq_true_eq] at h
  rw [Char.utf8Size_eq_one_iff]
  exact UInt32.le_trans h.2 (by decide)

theorem utf8ByteSize_digits {cs : List Char} (h : ∀ c ∈ cs, c.isDigit = true) :
    (String.ofList cs).utf8ByteSize = cs.length := by
  induction cs with
  | nil => rfl
  | cons c cs ih =>
    have hc : (String.ofList [c]).utf8ByteSize = 1 := by
      simpa using utf8Size_of_isDigit (h c List.mem_cons_self)
    rw [← List.singleton_append, String.ofList_append, String.utf8ByteSize_append, hc,
      ih fun d hd => h d (List.mem_cons_of_mem _ hd), List.length_append]
    rfl

theorem utf8ByteSize_padded {width n : Nat} (hw : 0 < width) (h : n < 10 ^ width) :
    (padded width n).utf8ByteSize = width := by
  have hlen : (Nat.toDigits 10 n).length ≤ width :=
    (Nat.length_toDigits_le_iff (by decide) hw).2 h
  have hdigits : ∀ c ∈ (padded width n).toList, c.isDigit = true := fun c => isDigit_of_mem_padded
  rw [padded, String.toList_ofList] at hdigits
  rw [padded, utf8ByteSize_digits hdigits, List.length_append, List.length_replicate]
  omega

namespace Metadata

open FileTree

variable {t : FileTree} {p : Path} {ending : String} {l : Location}

/-- The name with number `n` beside a path. -/
def numbered (p : Path) (ending : String) (n : Nat) : String :=
  "." ++ p.name ++ "." ++ padded 8 n ++ ending

theorem numbered_injective {i j : Nat} (h : numbered p ending i = numbered p ending j) : i = j := by
  have h' := congrArg String.toList h
  simp only [numbered, String.toList_append] at h'
  have hdigits := List.append_cancel_left (List.append_cancel_right h')
  exact padded_injective (String.toList_inj.1 hdigits)

theorem lt_length_numbered (p : Path) (ending : String) (n : Nat) :
    2 < (numbered p ending n).length := by
  have := le_length_padded 8 n
  simp only [numbered, String.length_append]
  omega

theorem numbered_ne {s : String} (hs : s.length ≤ 2) {n : Nat} : numbered p ending n ≠ s := by
  rintro rfl
  have := lt_length_numbered p ending n
  omega

theorem exists_freshPath (t : FileTree) (p : Path) (ending : String) :
    ∀ fuel n, ∃ k ≤ n + fuel, freshPath t p ending fuel n = p.withName (numbered p ending k) := by
  intro fuel
  induction fuel with
  | zero => exact fun n => ⟨n, Nat.le_refl _, rfl⟩
  | succ fuel ih =>
    intro n
    unfold freshPath
    dsimp only
    split
    · obtain ⟨k, hk, heq⟩ := ih (n + 1)
      exact ⟨k, by omega, heq⟩
    · exact ⟨n, by omega, rfl⟩

/-- If the name that is found is taken, so are all that were tried. -/
theorem has_numbered_of_has_freshPath {fuel : Nat} :
    ∀ {n}, t.has (freshPath t p ending fuel n) = true →
      ∀ k ≤ fuel, t.has (p.withName (numbered p ending (n + k))) = true := by
  induction fuel with
  | zero =>
    intro n h k hk
    obtain rfl : k = 0 := by omega
    exact h
  | succ fuel ih =>
    intro n h k hk
    unfold freshPath at h
    dsimp only at h
    split at h
    · rename_i hn
      cases k with
      | zero => exact hn
      | succ k =>
        rw [show n + (k + 1) = n + 1 + k by omega]
        exact ih h k (by omega)
    · rename_i hn
      exact absurd h hn

theorem mem_keys_of_lookup {e : Entry} (h : t.lookup l = some e)
    (hl : ¬ (l = [] ∨ l = ["/"] ∨ l = ["//"])) : l ∈ t.entries.map (·.1) := by
  rw [lookup, if_neg hl] at h
  obtain ⟨k, hk, heq⟩ := Ordered.exists_mem_of_get?_eq_some h
  exact List.mem_map.2 ⟨(k, e), hk, eq_of_beq heq⟩

/-- A numbered name that is taken is a key of the tree, in the directory of the path. -/
theorem mem_keys_of_has {n : Nat} (h : t.has (p.withName (numbered p ending n)) = true) :
    ∃ d, p.parts.dropLast.foldlM t.step (start p) = .ok d ∧
      d ++ [numbered p ending n] ∈ t.entries.map (·.1) := by
  cases hl : t.locate (p.withName (numbered p ending n)) with
  | error e => simp [has, find?, hl] at h
  | ok l =>
    obtain ⟨d, hd, -, -, rfl⟩ := locate_withName hl (numbered_ne (by decide))
    rw [has_of_locate hl] at h
    obtain ⟨e, he⟩ := Option.isSome_iff_exists.1 h
    refine ⟨d, hd, mem_keys_of_lookup he ?_⟩
    rintro (h | h | h)
    · simp at h
    · exact numbered_ne (s := "/") (by decide) (by simpa using congrArg List.getLast? h)
    · exact numbered_ne (s := "//") (by decide) (by simpa using congrArg List.getLast? h)

theorem has_beside (t : FileTree) (p : Path) (ending : String) :
    t.has (beside t p ending) = false := by
  by_contra hc
  have hall := has_numbered_of_has_freshPath (eq_true_of_ne_false hc)
  obtain ⟨d, hd, -⟩ := mem_keys_of_has (hall 0 (Nat.zero_le _))
  -- the candidates are distinct keys, and they are more than the keys
  let candidates := (List.range (t.entries.length + 1)).map fun k => d ++ [numbered p ending k]
  have hnodup : candidates.Nodup := by
    refine List.Nodup.map (fun i j h => ?_) List.nodup_range
    exact numbered_injective (by simpa using h)
  have hsub : candidates ⊆ t.entries.map (·.1) := by
    intro l hl
    obtain ⟨k, hk, rfl⟩ := List.mem_map.1 hl
    obtain ⟨d', hd', hmem⟩ := mem_keys_of_has (hall k (by simpa [Nat.lt_succ_iff] using hk))
    obtain rfl : d = d' := Except.ok.inj (hd.symm.trans hd')
    simpa using hmem
  have hle := (List.subperm_of_subset hnodup hsub).length_le
  simp only [candidates, List.length_map, List.length_range] at hle
  omega

/-- **Numbered names are made up as they should be.** -/
theorem beside_madeUp (t : FileTree) (p : Path) (ending : String) :
    MadeUp t p ending (beside t p ending) := by
  obtain ⟨k, -, hk⟩ := exists_freshPath t p ending t.entries.length 0
  refine ⟨⟨padded 8 k, fun c hc => ?_, hk⟩, has_beside t p ending⟩
  simp [Char.isAlphanum, isDigit_of_mem_padded hc]

/-- Numbered names can be used if the path and its name leave room for them. -/
theorem usable_beside {chance : Chance} (hchance : chance.name = beside) {n : Nat}
    (hl : t.locate p = .ok l) (hp : p.parts ≠ []) (he : '\x00' ∉ ending.toList)
    (hname : p.name.utf8ByteSize + ending.utf8ByteSize + 10 ≤ longestName)
    (htext : p.text.utf8ByteSize + ending.utf8ByteSize + 10 ≤ longestPath)
    (hlen : t.entries.length + n < 10 ^ 8) : Usable chance t n p ending := by
  intro u hu hulen
  obtain ⟨k, hk, hbeside⟩ := exists_freshPath u p ending u.entries.length 0
  obtain ⟨front, name, hp⟩ : ∃ front name, p.parts = front ++ [name] :=
    ⟨_, _, (List.dropLast_append_getLast hp).symm⟩
  have hpname : p.name = name := by simp [Path.name, hp]
  rw [hpname] at hname
  have hsize : (numbered p ending k).utf8ByteSize =
      name.utf8ByteSize + ending.utf8ByteSize + 10 := by
    have hdot : ".".utf8ByteSize = 1 := by decide
    simp only [numbered, String.utf8ByteSize_append, hpname, hdot,
      utf8ByteSize_padded (by decide) (show k < 10 ^ 8 by omega)]
    omega
  obtain ⟨hproblem, hfold⟩ := locate_eq_ok_iff.1 hl
  obtain ⟨hclean, -⟩ := pathProblem?_eq_none_iff.1 hproblem
  rw [hp] at hfold
  obtain ⟨d, hd, hstep⟩ := foldlM_step_concat.1 hfold
  obtain ⟨hdir, -, -⟩ := step_eq_ok_iff.1 hstep
  obtain ⟨before, hbefore⟩ := Path.text_of_parts p.root front
  have hpath : p.withName (numbered p ending k) = ⟨p.root, front ++ [numbered p ending k]⟩ := by
    rw [Path.withName, hp, List.dropLast_concat]
  have hq : (p.withName (numbered p ending k)).Clean := by
    have hmade : MadeUp u p ending (beside u p ending) := beside_madeUp u p ending
    rw [beside, hbeside] at hmade
    exact hmade.clean hclean he
  refine ⟨d ++ [numbered p ending k], ?_⟩
  rw [hchance, beside, hbeside, locate_eq_ok_iff, pathProblem?_eq_none_iff]
  refine ⟨⟨hq, ?_⟩, ?_⟩
  · have hptext : p.text = before ++ name := by rw [← hbefore, ← hp]
    rw [hpath, hbefore, String.utf8ByteSize_append, hsize]
    rw [hptext, String.utf8ByteSize_append] at htext
    omega
  · rw [hpath]
    refine foldlM_step_concat.2 ⟨d, foldlM_step_of_sameDirectories hu hd, step_eq_ok_iff.2 ?_⟩
    exact ⟨(hu d).1 hdir, by omega, by rw [if_neg (numbered_ne (by decide))]⟩

theorem Chance.Lawful.of_beside {chance : Chance} (h : chance.name = beside) : chance.Lawful :=
  fun t p ending => h ▸ beside_madeUp t p ending

end Metadata

end SoapStubs
