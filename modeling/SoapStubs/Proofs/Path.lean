import Mathlib.Data.List.Basic
import SoapStubs.Path

/-!
# Paths and their texts

How the last part of a path shows in its text and in what stands beside it.

* `Text.pieces_append` says that what is put behind a text without a separator stays in one piece;
* `Path.child_append` says that the endings of a name leave the rest of the path alone;
* `Path.descend_cases` says that what is put behind a path keeps it, or does not depend on it;
* `Path.Clean` paths have no null character, and neither have the paths made from them.
-/

namespace SoapStubs

namespace Text

variable {sep c : Char} {cs ys p : List Char} {s : String} {parts : List String}

/-! ### Pieces -/

theorem pieces_of_not_mem (h : sep ∉ ys) : pieces sep ys = [ys] := by
  induction ys with
  | nil => rfl
  | cons y ys ih =>
    rw [List.mem_cons, not_or] at h
    obtain ⟨hy, hys⟩ := h
    simp only [pieces, if_neg (Ne.symm hy), ih hys]

theorem split_of_not_mem (h : sep ∉ s.toList) : split sep s = [s] := by
  rw [split, pieces_of_not_mem h]
  simp

theorem pieces_cons_of_ne (h : c ≠ sep) {ps : List (List Char)} (hp : pieces sep cs = p :: ps) :
    pieces sep (c :: cs) = (c :: p) :: ps := by
  simp only [pieces, if_neg h, hp]

/-- What is put behind a text without a separator is put behind its last piece. -/
theorem pieces_append (sep : Char) (cs : List Char) :
    ∃ front last, ∀ ys, sep ∉ ys → pieces sep (cs ++ ys) = front ++ [last ++ ys] := by
  induction cs with
  | nil => exact ⟨[], [], fun ys h => pieces_of_not_mem h⟩
  | cons c cs ih =>
    obtain ⟨front, last, ih⟩ := ih
    by_cases hc : c = sep
    · exact ⟨[] :: front, last, fun ys h => by simp [pieces, hc, ih ys h]⟩
    · cases front with
      | nil => exact ⟨[], c :: last, fun ys h => pieces_cons_of_ne hc (ih ys h)⟩
      | cons p ps => exact ⟨(c :: p) :: ps, last, fun ys h => pieces_cons_of_ne hc (ih ys h)⟩

theorem mem_of_mem_pieces (hp : p ∈ pieces sep cs) (hc : c ∈ p) : c ∈ cs := by
  induction cs generalizing p with
  | nil => simp_all [pieces]
  | cons d cs ih =>
    by_cases hd : d = sep
    · simp only [pieces, if_pos hd, List.mem_cons] at hp
      rcases hp with rfl | hp
      · simp at hc
      · exact List.mem_cons_of_mem _ (ih hp hc)
    · cases hcs : pieces sep cs with
      | nil => exact absurd hcs (pieces_ne_nil sep cs)
      | cons q qs =>
        rw [pieces_cons_of_ne hd hcs] at hp
        rcases List.mem_cons.1 hp with rfl | hp
        · rcases List.mem_cons.1 hc with rfl | hc
          · exact List.mem_cons_self
          · exact List.mem_cons_of_mem _ (ih (hcs ▸ List.mem_cons_self) hc)
        · exact List.mem_cons_of_mem _ (ih (hcs ▸ List.mem_cons_of_mem _ hp) hc)

/-! ### Joined texts -/

theorem join_concat (sep : String) (front : List String) :
    ∃ before, ∀ last, join sep (front ++ [last]) = before ++ last := by
  induction front with
  | nil => exact ⟨"", fun last => by simp [join]⟩
  | cons s front ih =>
    obtain ⟨before, ih⟩ := ih
    refine ⟨s ++ sep ++ before, fun last => ?_⟩
    rw [String.append_assoc, ← ih last]
    cases front <;> rfl

theorem size_join_concat (sep : String) (front : List String) (last : String) :
    (join sep front).utf8ByteSize ≤ (join sep (front ++ [last])).utf8ByteSize := by
  induction front with
  | nil => exact Nat.zero_le _
  | cons s front ih =>
    cases front with
    | nil =>
      simp only [List.cons_append, List.nil_append, join, String.utf8ByteSize_append]
      omega
    | cons s' front =>
      simp only [List.cons_append, join, String.utf8ByteSize_append] at ih ⊢
      omega

theorem size_join_name (sep : String) (front back : List String) {name name' : String}
    (h : name.utf8ByteSize = name'.utf8ByteSize) :
    (join sep (front ++ name :: back)).utf8ByteSize =
      (join sep (front ++ name' :: back)).utf8ByteSize := by
  induction front with
  | nil => cases back <;> simp [join, h]
  | cons s front ih =>
    cases front with
    | nil => cases back <;> simp [join, h]
    | cons s' front => simpa [join] using ih

theorem mem_join : c ∈ (join s parts).toList ↔
    (c ∈ s.toList ∧ 2 ≤ parts.length) ∨ ∃ part ∈ parts, c ∈ part.toList := by
  induction parts with
  | nil => simp [join]
  | cons part parts ih =>
    cases parts with
    | nil => simp [join]
    | cons part' parts =>
      simp only [join, String.toList_append, List.mem_append, ih, List.mem_cons, List.length_cons]
      grind

end Text

namespace Path

variable {p directory : Path} {run ending s : String}

/-! ### Endings -/

/-- The text can stand at the end of a name without a change to the rest of a path: a dot, more
behind it, and no slash. -/
structure IsEnding (ending : String) : Prop where
  /-- It starts with a dot. -/
  head : ending.toList.head? = some '.'
  /-- More follows. -/
  length : 2 ≤ ending.length
  slash : '/' ∉ ending.toList

theorem isPart_append (h : 2 ≤ ending.length) : isPart (s ++ ending) = true := by
  have hl : (s ++ ending).length = s.length + ending.length := String.length_append ..
  have hempty : s ++ ending ≠ "" := fun h => by simp [h] at hl; omega
  have hdot : s ++ ending ≠ "." := fun h => by
    have h1 : ".".length = 1 := by decide
    rw [h] at hl
    omega
  simp [isPart, hempty, hdot]

theorem rootOf_append (h : ending.toList.head? = some '.') : rootOf (s ++ ending) = rootOf s := by
  obtain ⟨cs, hcs⟩ := List.head?_eq_some_iff.1 h
  have ht : ((s ++ ending).toList.takeWhile (· == '/')) = s.toList.takeWhile (· == '/') := by
    rw [String.toList_append, hcs, List.takeWhile_append]
    split
    · rename_i hl
      simpa using ((List.takeWhile_prefix _).eq_of_length hl).symm
    · rfl
  rw [rootOf, rootOf, ht]

/-- A text without slashes is a path of one part. -/
theorem ofText_of_isPart (hpart : isPart s = true) (hslash : '/' ∉ s.toList) :
    ofText s = ⟨"", [s]⟩ := by
  have hroot : rootOf s = "" := by
    have hnone : s.toList.takeWhile (· == '/') = [] := by
      cases hs : s.toList with
      | nil => rfl
      | cons c cs =>
        have hc : c ≠ '/' := by
          rintro rfl
          simp [hs] at hslash
        simp [hc]
    rw [rootOf, hnone]
    rfl
  rw [ofText, hroot, Text.split_of_not_mem hslash, List.filter_cons_of_pos hpart, List.filter_nil]

/-- Endings of a name leave the rest of the path alone. -/
theorem child_append (directory : Path) (run : String) : ∃ root front last, ∀ ending,
    IsEnding ending → directory.child (run ++ ending) = ⟨root, front ++ [last ++ ending]⟩ := by
  obtain ⟨front, last, hp⟩ := Text.pieces_append '/' run.toList
  have hof : ∀ ending, IsEnding ending → ofText (run ++ ending) =
      ⟨rootOf run, (front.map String.ofList).filter isPart ++ [String.ofList last ++ ending]⟩ := by
    intro ending he
    have hsplit : Text.split '/' (run ++ ending) =
        front.map String.ofList ++ [String.ofList last ++ ending] := by
      simp [Text.split, hp _ he.slash, String.ofList_append]
    rw [ofText, rootOf_append he.head, hsplit, List.filter_append]
    simp [isPart_append he.length]
  by_cases hroot : rootOf run = ""
  · refine ⟨directory.root, directory.parts ++ (front.map String.ofList).filter isPart,
      String.ofList last, fun ending he => ?_⟩
    simp [child, join, hof ending he, hroot]
  · refine ⟨rootOf run, (front.map String.ofList).filter isPart, String.ofList last,
      fun ending he => ?_⟩
    simp [child, join, hof ending he, hroot]

theorem text_of_parts (root : String) (front : List String) :
    ∃ before, ∀ last, text ⟨root, front ++ [last]⟩ = before ++ last := by
  obtain ⟨before, h⟩ := Text.join_concat "/" front
  exact ⟨root ++ before, fun last => by simp [text, h, String.append_assoc]⟩

/-- A path is not longer than one that goes on behind it, but for the dot of the empty one. -/
theorem size_text_concat (root : String) (front : List String) (last : String) :
    (text ⟨root, front⟩).utf8ByteSize ≤ max 1 (text ⟨root, front ++ [last]⟩).utf8ByteSize := by
  have hjoin := Text.size_join_concat "/" front last
  have hdot : ".".utf8ByteSize = 1 := by decide
  have hbehind : text ⟨root, front ++ [last]⟩ = root ++ Text.join "/" (front ++ [last]) := by
    simp [text]
  rw [hbehind, String.utf8ByteSize_append]
  unfold text
  split
  · omega
  · show (root ++ Text.join "/" front).utf8ByteSize ≤ _
    rw [String.utf8ByteSize_append]
    omega

/-- A path is as long as with another name of the same length. -/
theorem size_text_name (root : String) (front back : List String) {name name' : String}
    (h : name.utf8ByteSize = name'.utf8ByteSize) :
    (text ⟨root, front ++ name :: back⟩).utf8ByteSize =
      (text ⟨root, front ++ name' :: back⟩).utf8ByteSize := by
  simp [text, Text.size_join_name "/" front back h]

/-- The path has no null character. -/
structure Clean (p : Path) : Prop where
  /-- Its root has none. -/
  root : '\x00' ∉ p.root.toList
  /-- Its parts have none. -/
  parts : ∀ s ∈ p.parts, '\x00' ∉ s.toList

theorem clean_iff : p.Clean ↔ '\x00' ∉ p.text.toList := by
  unfold text
  split
  · rename_i h
    obtain ⟨hr, hp⟩ := h
    exact ⟨fun _ => by decide, fun _ => ⟨by simp [hr], by simp [hp]⟩⟩
  · have hsep : '\x00' ∉ "/".toList := by decide
    rw [String.toList_append, List.mem_append, Text.mem_join, not_or, not_or]
    constructor
    · rintro ⟨hr, hp⟩
      exact ⟨hr, fun h => hsep h.1, fun ⟨s, hs, h⟩ => hp s hs h⟩
    · rintro ⟨hr, -, hp⟩
      exact ⟨hr, fun s hs h => hp ⟨s, hs, h⟩⟩

theorem Clean.withName (h : p.Clean) (hs : '\x00' ∉ s.toList) : (p.withName s).Clean := by
  refine ⟨h.root, fun part hpart => ?_⟩
  rcases List.mem_append.1 hpart with hpart | hpart
  · exact h.parts part (List.dropLast_subset _ hpart)
  · rwa [List.mem_singleton.1 hpart]

theorem Clean.name (h : p.Clean) : '\x00' ∉ p.name.toList := by
  unfold Path.name
  cases hl : p.parts.getLast? with
  | none => simp
  | some s => exact h.parts s (List.mem_of_getLast? hl)

theorem clean_ofText (h : '\x00' ∉ s.toList) : (ofText s).Clean := by
  refine ⟨?_, fun part hpart => ?_⟩
  · unfold ofText rootOf
    split <;> simp
  · obtain ⟨cs, hcs, rfl⟩ := List.mem_map.1 (List.mem_filter.1 hpart).1
    rw [String.toList_ofList]
    exact fun hc => h (Text.mem_of_mem_pieces hcs hc)

theorem Clean.child (h : directory.Clean) (hs : '\x00' ∉ s.toList) : (directory.child s).Clean := by
  have ho := clean_ofText hs
  unfold Path.child join
  split
  · exact ⟨h.root, fun part hpart => (List.mem_append.1 hpart).elim (h.parts part) (ho.parts part)⟩
  · exact ho

end Path

end SoapStubs
