import SoapStubs.Metadata.Publish
import SoapStubs.Proofs.FileTree

/-!
# Setting aside and putting back

What the single steps of publishing do to a file tree, and how what they did is undone.

* `Chance.Lawful` is what is known of names that are made up, and `Chance.Fresh` says that they are
  none of the places that files belong at;
* `Aside` is what setting aside does: nothing, or a file is moved to where nothing was;
* `Undoable` says that places can be put back one after another, and `Undoable.rollBack_agree` that
  putting them back keeps trees as near as they are;
* `Aside.putBack_agree` says that putting back a place leads to the tree from before it was set
  aside.
-/

namespace SoapStubs.Metadata

open FileTree

variable {chance : Chance} {t t' t₁ u : FileTree} {F X Y : Set Location} {l m : Location}
  {final : Path} {backup : Option Path} {p : Published}

/-! ### Names that are made up -/

/-- `q` is made up for a new file beside `p`: the name of `p` between dots, letters, digits and low
lines to tell it from others, and an ending.  Nothing has the name. -/
def MadeUp (t : FileTree) (p : Path) (ending : String) (q : Path) : Prop :=
  (∃ middle, (∀ c ∈ middle.toList, c.isAlphanum || c == '_') ∧
    q = p.withName ("." ++ p.name ++ "." ++ middle ++ ending)) ∧ t.has q = false

/-- The names that are left to chance are made up as they should be. -/
def Chance.Lawful (chance : Chance) : Prop :=
  ∀ t p ending, MadeUp t p ending (chance.name t p ending)

/-- The names that are made up are fresh: nothing has them, and they are none of the locations. -/
structure Chance.Fresh (chance : Chance) (F : Set Location) : Prop where
  /-- Nothing has the names. -/
  lawful : chance.Lawful
  /-- They are none of the locations. -/
  avoids : ∀ (t : FileTree) (p : Path), ∀ ending ∈ [".tmp", ".bak"], ∀ l ∈ F,
    t.locate (chance.name t p ending) ≠ .ok l

theorem locate_withName {p : Path} {name : String} (h : t.locate (p.withName name) = .ok l)
    (hn : name ≠ "..") :
    ∃ d, p.parts.dropLast.foldlM t.step (start p) = .ok d ∧ t.lookup d = some .directory ∧
      name.utf8ByteSize ≤ longestName ∧ l = d ++ [name] := by
  obtain ⟨-, h⟩ := locate_eq_ok_iff.1 h
  obtain ⟨d, hd, hs⟩ := foldlM_step_concat.1 h
  obtain ⟨hdir, hsize, rfl⟩ := step_eq_ok_iff.1 hs
  exact ⟨d, hd, hdir, hsize, if_neg hn⟩

theorem append_ne_dots {s ending : String} (h : 2 < ending.length) : s ++ ending ≠ ".." := by
  intro he
  have := congrArg String.length he
  rw [String.length_append] at this
  have h2 : "..".length = 2 := by decide
  omega

/-- A name that is made up leads to a place where nothing is, whose name has the ending. -/
theorem MadeUp.locate {p q : Path} {ending : String} (h : MadeUp t p ending q)
    (he : 2 < ending.length) (hl : t.locate q = .ok l) :
    t.lookup l = none ∧ ∃ d name, l = d ++ [name ++ ending] := by
  obtain ⟨⟨middle, -, rfl⟩, hhas⟩ := h
  obtain ⟨d, -, -, -, hd⟩ := locate_withName hl (append_ne_dots he)
  refine ⟨?_, d, _, hd⟩
  rw [has_of_locate hl] at hhas
  simpa using hhas

/-! ### Single operations -/

theorem attempt_remove (hl : t.locate final = .ok l) (hd : t.lookup l ≠ some .directory) :
    (attempt t (t.remove final)).lookup = Function.update t.lookup l none := by
  cases he : t.lookup l with
  | none =>
    have hr : t.remove final = .error (.file .missing final.text) := by
      simp only [remove, hl, he, blame, ok_bind]
    rw [hr, attempt, ← he, Function.update_eq_self]
  | some e =>
    cases e with
    | directory => exact absurd he hd
    | file c =>
      obtain ⟨t', hr, hv⟩ := remove_spec hl he
      rw [hr, attempt, hv]

theorem moveAt_inv {point : Point} {p q : Path} (h : moveAt chance t point p q = .ok t') :
    chance.refuses point = none ∧ t.move p q = .ok t' := by
  unfold moveAt at h
  split at h
  · cases h
  · rename_i hr; exact ⟨hr, h⟩

/-- An empty file is written beside the path. -/
theorem makeBeside_write {point : Point} {p q : Path} {ending : String}
    (h : makeBeside chance t point p ending = .ok (t', q)) : chance.refuses point = none ∧
      q = chance.name t p ending ∧ t.write q (.text "") = .ok t' := by
  unfold makeBeside at h
  cases hr : chance.refuses point with
  | some problem => simp [hr] at h
  | none =>
    simp only [hr, return_eq_ok, Prod.mk.injEq] at h
    obtain ⟨u, hw, rfl, rfl⟩ := h
    exact ⟨rfl, rfl, hw⟩

theorem makeBeside_inv (law : chance.Lawful) {point : Point} {p q : Path} {ending : String}
    (he : 2 < ending.length) (h : makeBeside chance t point p ending = .ok (t', q)) :
    chance.refuses point = none ∧ q = chance.name t p ending ∧
      ∃ m, t.locate q = .ok m ∧ t.lookup m = none ∧
        t'.lookup = Function.update t.lookup m (some (.file (.text ""))) := by
  obtain ⟨hr, rfl, hw⟩ := makeBeside_write h
  obtain ⟨m, hm, -, hv⟩ := write_inv hw
  exact ⟨hr, rfl, m, hm, ((law t p ending).locate he hm).1, hv⟩

theorem makeBeside_length {point : Point} {p q : Path} {ending : String}
    (h : makeBeside chance t point p ending = .ok (t', q)) :
    t'.entries.length ≤ t.entries.length + 1 := write_length (makeBeside_write h).2.2

theorem makeBeside_ok (law : chance.Lawful) {point : Point} {p : Path} {ending : String}
    (he : 2 < ending.length) (hr : chance.refuses point = none)
    (hm : t.locate (chance.name t p ending) = .ok m) :
    ∃ t', makeBeside chance t point p ending = .ok (t', chance.name t p ending) := by
  have hnone := ((law t p ending).locate he hm).1
  obtain ⟨t', hw, -⟩ := write_spec hm (by simp [hnone]) (.text "")
  exact ⟨t', by simp [makeBeside, hr, hw]⟩

/-- What was set aside: nothing, or a file that now stands outside `F` where nothing was. -/
inductive Aside (F : Set Location) (t : FileTree) (l : Location) : Option Path → FileTree → Prop
  /-- Nothing stood at the place. -/
  | nothing (h : t.lookup l = none) : Aside F t l none t
  /-- The file at the place was moved to where nothing was. -/
  | file {b : Path} {m : Location} {c : Content} {t₁ : FileTree}
      (hl : t.lookup l = some (.file c)) (hb : t.locate b = .ok m) (hm : t.lookup m = none)
      (hF : m ∉ F)
      (h : t₁.lookup = Function.update (Function.update t.lookup l none) m (some (.file c))) :
      Aside F t l (some b) t₁

theorem discard_made {q : Path} (hq : t.locate q = .ok m) (hm : t.lookup m = none)
    {c : Content} (h : t₁.lookup = Function.update t.lookup m (some (.file c))) :
    (discard t₁ [q]).lookup = t.lookup := by
  have hd : SameDirectories t t₁ := .of_update (by simp [hm]) (by simp) h
  have hr := attempt_remove (t := t₁) (hd.locate hq) (by simp [h])
  simp only [discard, List.foldl_cons, List.foldl_nil, hr, h, Function.update_idem]
  rw [← hm, Function.update_eq_self]

/-- What a success in setting aside tells: nothing stood at the place, or a file was made beside it
and what stood there was moved over that file. -/
theorem setAside_inv {i : Nat} (h : setAside chance t i final = (t₁, .ok backup)) :
    t.has final = false ∧ t₁ = t ∧ backup = none ∨
      t.has final = true ∧ ∃ made b, makeBeside chance t (.reserve i) final ".bak" = .ok (made, b) ∧
        moveAt chance made (.setAside i) final b = .ok t₁ ∧ backup = some b := by
  unfold setAside at h
  cases hhas : t.has final with
  | false =>
    simp only [hhas, Bool.not_false, if_true, Prod.mk.injEq, Except.ok.injEq] at h
    exact .inl ⟨rfl, h.1.symm, h.2.symm⟩
  | true =>
    rw [if_neg (by simp [hhas])] at h
    split at h
    · cases h
    · rename_i made b hmade
      split at h
      · cases h
      · rename_i moved hmoved
        cases h
        exact .inr ⟨rfl, made, b, hmade, hmoved, rfl⟩

/-- What a failure tells: no file could be made, or what stood at the place could not be moved over
the one that was made. -/
theorem setAside_error_inv {i : Nat} {c : Cause}
    (h : setAside chance t i final = (t₁, .error c)) :
    t₁ = t ∧ makeBeside chance t (.reserve i) final ".bak" = .error c ∨
      ∃ made b, makeBeside chance t (.reserve i) final ".bak" = .ok (made, b) ∧
        moveAt chance made (.setAside i) final b = .error c ∧ t₁ = discard made [b] := by
  unfold setAside at h
  split at h
  · cases h
  · split at h
    · rename_i hmade
      cases h
      exact .inl ⟨rfl, hmade⟩
    · rename_i made b hmade
      split at h
      · rename_i hmoved
        cases h
        exact .inr ⟨made, b, hmade, hmoved, rfl⟩
      · cases h

theorem setAside_error (law : chance.Lawful) {i : Nat} {c : Cause}
    (h : setAside chance t i final = (t', .error c)) : t'.lookup = t.lookup := by
  obtain ⟨rfl, -⟩ | ⟨made, b, hmade, -, rfl⟩ := setAside_error_inv h
  · rfl
  · obtain ⟨-, -, m, hb, hm, hv⟩ := makeBeside_inv law (by decide) hmade
    exact discard_made hb hm hv

theorem setAside_ok (fresh : chance.Fresh F) {i : Nat} (hl : t.locate final = .ok l)
    (h : setAside chance t i final = (t₁, .ok backup)) : Aside F t l backup t₁ := by
  obtain ⟨hhas, rfl, rfl⟩ | ⟨hhas, made, b, hmade, hmoved, rfl⟩ := setAside_inv h
  · rw [has_of_locate hl] at hhas
    exact .nothing (by simpa using hhas)
  · obtain ⟨-, rfl, m, hb, hm, hv⟩ := makeBeside_inv fresh.lawful (by decide) hmade
    have hF : m ∉ F := fun hmem => fresh.avoids t final ".bak" (by simp) m hmem hb
    have hlm : l ≠ m := by
      rintro rfl
      simp [has_of_locate hl, hm] at hhas
    have hd : SameDirectories t made := .of_update (by simp [hm]) (by simp) hv
    have hmove := (moveAt_inv hmoved).2
    have hel : made.lookup l = t.lookup l := by rw [hv, Function.update_of_ne hlm]
    have hem : made.lookup m = some (.file (.text "")) := by rw [hv, Function.update_self]
    cases he : t.lookup l with
    | none => simp [has_of_locate hl, he] at hhas
    | some e =>
      rw [he] at hel
      cases e with
      | directory =>
        rw [move_directory_over_file (hd.locate hl) (hd.locate hb) hel hem] at hmove
        cases hmove
      | file c =>
        obtain ⟨t'', hmv, hv'⟩ :=
          move_spec (hd.locate hl) (hd.locate hb) hel (by simp [hem]) hlm
        rw [hmv] at hmove
        obtain rfl := Except.ok.inj hmove
        refine .file he hb hm hF ?_
        rw [hv', hv, Function.update_comm (Ne.symm hlm), Function.update_idem]

/-! ### Putting back -/

/-- The locations outside `F` where nothing is, so that a backup may be made there. -/
def spare (F : Set Location) (t : FileTree) : Set Location := {m | t.lookup m = none ∧ m ∉ F}

theorem Aside.not_directory (h : Aside F t l backup t₁) : t.lookup l ≠ some .directory := by
  cases h with
  | nothing h => simp [h]
  | file hl => simp [hl]

theorem Aside.lookup_eq_none (h : Aside F t l backup t₁) : t₁.lookup l = none := by
  cases h with
  | nothing h => exact h
  | file hl _ hm _ h =>
    rw [h, Function.update_of_ne, Function.update_self]
    rintro rfl
    rw [hl] at hm
    cases hm

/-- Setting aside changes the place and a spare one. -/
theorem Aside.agree (h : Aside F t l backup t₁) :
    AgreeOff (insert l (spare F t)) t.lookup t₁.lookup := by
  have hX : ∀ x ∈ insert l (spare F t), t.lookup x ≠ some .directory := by
    rintro x (rfl | ⟨hx, -⟩)
    · exact h.not_directory
    · simp [hx]
  cases h with
  | nothing h => exact .refl hX
  | file hl hb hm hF h =>
    rw [h]
    exact ((AgreeOff.refl hX).update_mem (Set.mem_insert _ _) (by simp)).update_mem
      (Set.mem_insert_of_mem _ ⟨hm, hF⟩) (by simp)

/-- A place that can be put back, by changes outside `X` only. -/
inductive Restorable (X : Set Location) (t : FileTree) : Published → Prop
  /-- Nothing stood at the place. -/
  | nothing {final : Path} {l : Location} (hl : t.locate final = .ok l) (hX : l ∉ X)
      (hd : t.lookup l ≠ some .directory) : Restorable X t ⟨final, none⟩
  /-- What stood at the place is in a file. -/
  | file {final b : Path} {l m : Location} {c : Content} (hl : t.locate final = .ok l)
      (hX : l ∉ X) (hd : t.lookup l ≠ some .directory) (hb : t.locate b = .ok m) (hm : m ∉ X)
      (hne : m ≠ l) (hc : t.lookup m = some (.file c)) : Restorable X t ⟨final, some b⟩

theorem putBack_nothing (hl : t.locate final = .ok l) (hd : t.lookup l ≠ some .directory) :
    (putBack t ⟨final, none⟩).lookup = Function.update t.lookup l none :=
  attempt_remove hl hd

theorem putBack_file {b : Path} {c : Content} (hl : t.locate final = .ok l)
    (hd : t.lookup l ≠ some .directory) (hb : t.locate b = .ok m) (hne : m ≠ l)
    (hc : t.lookup m = some (.file c)) :
    (putBack t ⟨final, some b⟩).lookup =
      Function.update (Function.update t.lookup m none) l (some (.file c)) := by
  obtain ⟨t', hmove, hv⟩ := move_spec hb hl hc hd hne
  simp only [putBack, hmove, attempt, hv]

theorem Restorable.anti (h : Restorable Y t p) (hXY : X ⊆ Y) : Restorable X t p := by
  cases h with
  | nothing hl hX hd => exact .nothing hl (fun hx => hX (hXY hx)) hd
  | file hl hX hd hb hm hne hc =>
    exact .file hl (fun hx => hX (hXY hx)) hd hb (fun hx => hm (hXY hx)) hne hc

theorem Restorable.congr (h : Restorable X t p) (ha : AgreeOff X t.lookup t'.lookup) :
    Restorable X t' p := by
  have hs := ha.sameDirectories
  cases h with
  | nothing hl hX hd => exact .nothing (hs.locate hl) hX (ha.entry _ hX ▸ hd)
  | file hl hX hd hb hm hne hc =>
    exact .file (hs.locate hl) hX (ha.entry _ hX ▸ hd) (hs.locate hb) hm hne (ha.entry _ hm ▸ hc)

/-- Trees that agree still do so after a place was put back. -/
theorem Restorable.putBack_agree (h : Restorable X t p) (ha : AgreeOff X t.lookup t'.lookup) :
    AgreeOff X (putBack t p).lookup (putBack t' p).lookup := by
  have hs := ha.sameDirectories
  cases h with
  | nothing hl hX hd =>
    rw [putBack_nothing hl hd, putBack_nothing (hs.locate hl) (ha.entry _ hX ▸ hd)]
    exact ha.update hX
  | file hl hX hd hb hm hne hc =>
    rw [putBack_file hl hd hb hne hc, putBack_file (hs.locate hl) (ha.entry _ hX ▸ hd)
      (hs.locate hb) hne (ha.entry _ hm ▸ hc)]
    exact (ha.update hm).update hX

/-- The places can be put back one after another, by changes outside `X` only. -/
def Undoable (X : Set Location) : FileTree → List Published → Prop
  | _, [] => True
  | t, p :: ps => Restorable X t p ∧ Undoable X (putBack t p) ps

theorem Undoable.anti (hXY : X ⊆ Y) {ps : List Published} :
    ∀ {t}, Undoable Y t ps → Undoable X t ps := by
  induction ps with
  | nil => exact fun _ => trivial
  | cons p ps ih => exact fun h => ⟨h.1.anti hXY, ih h.2⟩

theorem Undoable.congr {ps : List Published} :
    ∀ {t t'}, Undoable X t ps → AgreeOff X t.lookup t'.lookup → Undoable X t' ps := by
  induction ps with
  | nil => exact fun _ _ => trivial
  | cons p ps ih => exact fun h ha => ⟨h.1.congr ha, ih h.2 (h.1.putBack_agree ha)⟩

theorem Undoable.rollBack_agree {ps : List Published} :
    ∀ {t t'}, Undoable X t ps → AgreeOff X t.lookup t'.lookup →
      AgreeOff X (rollBack t ps).lookup (rollBack t' ps).lookup := by
  induction ps with
  | nil => exact fun _ ha => ha
  | cons p ps ih => exact fun h ha => ih h.2 (h.1.putBack_agree ha)

/-- A place that was set aside can be put back, also after a file was moved there from `Y`. -/
theorem Aside.restorable (h : Aside F t l backup t₁) (hl : t.locate final = .ok l)
    (hY : ∀ x ∈ Y, t.lookup x ≠ none) (hu : AgreeOff (insert l Y) t₁.lookup u.lookup)
    (hX : ∀ x ∈ X, t.lookup x ≠ none) (hlX : l ∉ X) : Restorable X u ⟨final, backup⟩ := by
  have hs : SameDirectories t u := fun x => (h.agree.directory_iff x).trans (hu.directory_iff x)
  have hd := hu.right l (Set.mem_insert _ _)
  cases h with
  | nothing h => exact .nothing (hs.locate hl) hlX hd
  | @file b m c t₁ hc hb hm _ h =>
    have hml : m ≠ l := by rintro rfl; rw [hc] at hm; cases hm
    have hmX : m ∉ insert l Y := by
      rintro (rfl | hx)
      · exact hml rfl
      · exact hY m hx hm
    have hum : u.lookup m = some (.file c) := by rw [← hu.entry m hmX, h, Function.update_self]
    exact .file (hs.locate hl) hlX hd (hs.locate hb) (fun hx => hX m hx hm) hml hum

/-- Putting back a place leads to the tree from before it was set aside, also after a file was moved
there from `Y`. -/
theorem Aside.putBack_agree (h : Aside F t l backup t₁) (hl : t.locate final = .ok l)
    (hY : ∀ x ∈ Y, t.lookup x ≠ none) (hlY : l ∉ Y)
    (hu : AgreeOff (insert l Y) t₁.lookup u.lookup) :
    AgreeOff Y t.lookup (putBack u ⟨final, backup⟩).lookup := by
  have hs : SameDirectories t u := fun x => (h.agree.directory_iff x).trans (hu.directory_iff x)
  have hd := hu.right l (Set.mem_insert _ _)
  have hYd : ∀ x ∈ Y, t.lookup x ≠ some .directory := fun x hx e =>
    hu.right x (Set.mem_insert_of_mem _ hx) ((hs x).1 e)
  have hnl : ∀ x, x ∉ Y → x ≠ l → u.lookup x = t₁.lookup x := fun x hx hxl =>
    (hu.entry x (by simp [hx, hxl])).symm
  cases h with
  | nothing h =>
    rw [putBack_nothing (hs.locate hl) hd]
    refine ⟨fun x hx => ?_, hYd, fun x hx => ?_⟩
    · by_cases hxl : x = l
      · subst hxl; simp [h]
      · rw [Function.update_of_ne hxl, hnl x hx hxl]
    · rw [Function.update_of_ne (ne_of_mem_of_not_mem hx hlY)]
      exact hu.right x (Set.mem_insert_of_mem _ hx)
  | @file b m c t₁ hc hb hm _ h =>
    have hml : m ≠ l := by rintro rfl; rw [hc] at hm; cases hm
    -- the backup was made under a free name, so it is none of the files in `Y`
    have hmY : m ∉ Y := fun hx => hY m hx hm
    have hum : u.lookup m = some (.file c) := by rw [hnl m hmY hml, h, Function.update_self]
    rw [putBack_file (hs.locate hl) hd (hs.locate hb) hml hum]
    refine ⟨fun x hx => ?_, hYd, fun x hx => ?_⟩
    · by_cases hxl : x = l
      · subst hxl; simp [hc]
      · rw [Function.update_of_ne hxl]
        by_cases hxm : x = m
        · subst hxm; simp [hm]
        · rw [Function.update_of_ne hxm, hnl x hx hxl, h, Function.update_of_ne hxm,
            Function.update_of_ne hxl]
    · rw [Function.update_of_ne (ne_of_mem_of_not_mem hx hlY),
        Function.update_of_ne (ne_of_mem_of_not_mem hx hmY)]
      exact hu.right x (Set.mem_insert_of_mem _ hx)

end SoapStubs.Metadata
