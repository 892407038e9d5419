import Mathlib.Data.List.Basic
import SoapStubs.Name
import SoapStubs.Proofs.Path

/-!
# Names and their parts

Cutting a text and putting it together again undo each other, so a qualified name is its package
and its simple name, and a package is its segments.

* `Text.join_split` and `Text.split_join` are about cutting at every separator;
* `Text.splitLast_append` and `Text.eq_of_cutLast?` are about cutting at the last one;
* `Name.split_qualify` and `Name.eq_simple_or` are about the two parts of a name;
* `Name.segments_dotted` is about the segments of a package.
-/

namespace SoapStubs

namespace Text

variable {sep : Char} {cs before after : List Char} {ps : List (List Char)}

/-! ### All separators -/

theorem not_mem_of_mem_pieces {p : List Char} (h : p ∈ pieces sep cs) : sep ∉ p := by
  induction cs generalizing p with
  | nil => simp_all [pieces]
  | cons c cs ih =>
    by_cases hc : c = sep
    · simp only [pieces, if_pos hc, List.mem_cons] at h
      rcases h with rfl | h
      · simp
      · exact ih h
    · cases hcs : pieces sep cs with
      | nil => exact absurd hcs (pieces_ne_nil sep cs)
      | cons q qs =>
        rw [pieces_cons_of_ne hc hcs] at h
        rw [hcs] at ih
        rcases List.mem_cons.1 h with rfl | h
        · simpa [Ne.symm hc] using ih List.mem_cons_self
        · exact ih (List.mem_cons_of_mem _ h)

/-- A separator cuts a text in two that are cut for themselves. -/
theorem pieces_append_sep (sep : Char) (before after : List Char) :
    pieces sep (before ++ sep :: after) = pieces sep before ++ pieces sep after := by
  induction before with
  | nil => simp [pieces]
  | cons c before ih =>
    by_cases hc : c = sep
    · simp only [List.cons_append, pieces, if_pos hc, ih]
    · cases hbefore : pieces sep before with
      | nil => exact absurd hbefore (pieces_ne_nil _ _)
      | cons p ps =>
        rw [hbefore, List.cons_append] at ih
        rw [List.cons_append, pieces_cons_of_ne hc ih, pieces_cons_of_ne hc hbefore,
          List.cons_append]

theorem pieces_append_cons (h : sep ∉ before) (after : List Char) :
    pieces sep (before ++ sep :: after) = before :: pieces sep after := by
  rw [pieces_append_sep, pieces_of_not_mem h]
  rfl

/-- Pieces without a separator come back. -/
theorem pieces_joinPieces (hne : ps ≠ []) (h : ∀ p ∈ ps, sep ∉ p) :
    pieces sep (joinPieces sep ps) = ps := by
  induction ps with
  | nil => exact absurd rfl hne
  | cons p ps ih =>
    cases ps with
    | nil => exact pieces_of_not_mem (h p List.mem_cons_self)
    | cons q qs =>
      rw [joinPieces, pieces_append_cons (h p List.mem_cons_self),
        ih (List.cons_ne_nil _ _) fun p hp => h p (List.mem_cons_of_mem _ hp)]

theorem toList_join (sep : Char) (parts : List String) :
    (join (String.singleton sep) parts).toList = joinPieces sep (parts.map String.toList) := by
  induction parts with
  | nil => rfl
  | cons p parts ih =>
    cases parts with
    | nil => rfl
    | cons q parts => simpa [join, joinPieces] using ih

/-- The pieces of a text, put together again. -/
theorem join_split (sep : Char) (s : String) : join (String.singleton sep) (split sep s) = s := by
  rw [← String.toList_inj, toList_join, split, List.map_map]
  simp [Function.comp_def, joinPieces_pieces]

/-- The pieces of a text that was put together. -/
theorem split_join {parts : List String} (hne : parts ≠ [])
    (h : ∀ part ∈ parts, sep ∉ part.toList) :
    split sep (join (String.singleton sep) parts) = parts := by
  rw [split, toList_join, pieces_joinPieces (by simpa using hne) (by simpa using h), List.map_map]
  simp [Function.comp_def]

theorem split_append_sep (sep : Char) (a b : String) :
    split sep (a ++ String.singleton sep ++ b) = split sep a ++ split sep b := by
  simp [split, pieces_append_sep]

theorem split_ne_nil (sep : Char) (s : String) : split sep s ≠ [] := by
  simpa [split] using pieces_ne_nil sep s.toList

theorem not_mem_of_mem_split {s part : String} (h : part ∈ split sep s) : sep ∉ part.toList := by
  obtain ⟨p, hp, rfl⟩ := List.mem_map.1 h
  simpa using not_mem_of_mem_pieces hp

/-! ### The last separator -/

theorem cutLast?_eq_none_iff : cutLast? sep cs = none ↔ sep ∉ cs := by
  induction cs with
  | nil => simp [cutLast?]
  | cons c cs ih =>
    rw [cutLast?, List.mem_cons, not_or, ← ih, eq_comm (a := sep)]
    split
    · rename_i h
      simp [h]
    · rename_i h
      by_cases hc : c = sep <;> simp [hc, h]

theorem cutLast?_append (before : List Char) (h : sep ∉ after) :
    cutLast? sep (before ++ sep :: after) = some (before, after) := by
  induction before with
  | nil => simp [cutLast?, cutLast?_eq_none_iff.2 h]
  | cons c before ih => simp [cutLast?, ih]

theorem eq_of_cutLast? (h : cutLast? sep cs = some (before, after)) :
    cs = before ++ sep :: after ∧ sep ∉ after := by
  induction cs generalizing before with
  | nil => cases h
  | cons c cs ih =>
    rw [cutLast?] at h
    split at h
    · rename_i hcut
      cases h
      obtain ⟨heq, hafter⟩ := ih hcut
      exact ⟨by rw [heq]; rfl, hafter⟩
    · rename_i hcut
      split_ifs at h with hc
      cases h
      exact ⟨by rw [hc]; rfl, cutLast?_eq_none_iff.1 hcut⟩

theorem splitLast_of_not_mem {s : String} (h : sep ∉ s.toList) : splitLast sep s = ("", s) := by
  rw [splitLast, cutLast?_eq_none_iff.2 h]

theorem splitLast_append {s : String} (front : String) (h : sep ∉ s.toList) :
    splitLast sep (front ++ String.singleton sep ++ s) = (front, s) := by
  have hcut : cutLast? sep (front ++ String.singleton sep ++ s).toList =
      some (front.toList, s.toList) := by
    simpa using cutLast?_append front.toList h
  rw [splitLast, hcut]
  simp

theorem not_mem_splitLast (sep : Char) (s : String) : sep ∉ (splitLast sep s).2.toList := by
  rw [splitLast]
  split
  · rename_i h
    simpa using (eq_of_cutLast? h).2
  · rename_i h
    exact cutLast?_eq_none_iff.1 h

end Text

namespace Name

variable {name simple : String} {parts : List String}

/-! ### Package and simple name -/

theorem dot_not_mem_simple (name : String) : '.' ∉ (Name.simple name).toList :=
  Text.not_mem_splitLast '.' name

/-- A name is its simple name, or has it behind its package. -/
theorem eq_simple_or (name : String) : (Name.package name = "" ∧ name = Name.simple name) ∨
    name = Name.package name ++ "." ++ Name.simple name := by
  unfold Name.package Name.simple split Text.splitLast
  cases hcut : Text.cutLast? '.' name.toList with
  | none => exact .inl ⟨rfl, rfl⟩
  | some parts =>
    obtain ⟨before, after⟩ := parts
    refine .inr ?_
    rw [← String.toList_inj, (Text.eq_of_cutLast? hcut).1]
    simp

theorem split_qualify (package : String) (h : '.' ∉ simple.toList) :
    split (qualify package simple) = (package, simple) := by
  unfold qualify
  split_ifs with hp
  · rw [hp]
    exact Text.splitLast_of_not_mem h
  · exact Text.splitLast_append package h

theorem package_qualify (package : String) (h : '.' ∉ simple.toList) :
    Name.package (qualify package simple) = package := by
  rw [Name.package, split_qualify package h]

theorem simple_qualify (package : String) (h : '.' ∉ simple.toList) :
    Name.simple (qualify package simple) = simple := by
  rw [Name.simple, split_qualify package h]

/-- Only the dot alone has neither a package nor a simple name, apart from the empty name. -/
theorem qualify_ne_empty (hne : name ≠ "") (hdot : name ≠ ".") {package : String}
    (h : Name.package name ≠ "" → package ≠ "") : qualify package (Name.simple name) ≠ "" := by
  unfold qualify
  split_ifs with hp
  · have hpackage : Name.package name = "" := not_not.1 fun hn => h hn hp
    intro hsimple
    simp only [Name.package, Name.simple, split, Text.splitLast] at hpackage hsimple
    split at hsimple
    · rename_i before after hcut
      rw [hcut] at hpackage
      rw [String.ofList_eq_empty_iff] at hpackage hsimple
      apply hdot
      rw [← String.toList_inj, (Text.eq_of_cutLast? hcut).1, hpackage, hsimple]
      rfl
    · exact hne hsimple
  · simp

/-! ### Segments of a package -/

theorem dot_not_mem_segment {package part : String} (h : part ∈ segments package) :
    '.' ∉ part.toList := by
  unfold segments at h
  split_ifs at h
  · cases h
  · exact Text.not_mem_of_mem_split h

theorem split_qualify_eq (package : String) (h : '.' ∉ simple.toList) :
    Text.split '.' (qualify package simple) = segments package ++ [simple] := by
  have hsimple : Text.split '.' simple = [simple] := Text.split_of_not_mem h
  unfold qualify segments
  split_ifs
  · exact hsimple
  · rw [← hsimple]
    exact Text.split_append_sep '.' package simple

theorem dotted_segments (package : String) : dotted (segments package) = package := by
  unfold segments
  split_ifs with hp
  · rw [hp]
    rfl
  · exact Text.join_split '.' package

theorem segments_eq_nil_iff {package : String} : segments package = [] ↔ package = "" := by
  unfold segments
  split_ifs with hp
  · simp [hp]
  · simp [hp, Text.split_ne_nil]

theorem dotted_cons_ne_empty {part : String} (h : part ≠ "") (parts : List String) :
    dotted (part :: parts) ≠ "" := by
  cases parts with
  | nil => exact h
  | cons q parts => simp [dotted, Text.join, h]

/-- The segments of a package that was put together of them; the first one must be a name. -/
theorem segments_dotted {part : String} (hne : part ≠ "")
    (h : ∀ p ∈ part :: parts, '.' ∉ p.toList) :
    segments (dotted (part :: parts)) = part :: parts := by
  rw [segments, if_neg (dotted_cons_ne_empty hne parts)]
  exact Text.split_join (List.cons_ne_nil _ _) h

end Name

end SoapStubs
