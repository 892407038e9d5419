import SoapStubs.Archive
import SoapStubs.Proofs.Persist
import SoapStubs.Proofs.Places

/-!
# What archives hold

The entries of an archive are put into order, so they depend on the files below its directories and
not on how the tree came about.

* `FileTree.Distinct` says that a tree has one entry for each location, which all operations keep;
* `Archive.before` is a linear order on locations;
* `Archive.Inventory` is the list of the files below a directory, in this order and each once, and
  `Archive.inventory_inOrder` says that the entries for a directory are those of its inventory;
* `Archive.entriesBelow_congr`: trees with the same files below a directory have the same entries
  for it;
* `Archive.write_spec`: writing an archive makes the way to it and writes one file.
-/

namespace SoapStubs

/-! ### Trees with one entry for each location -/

namespace FileTree

variable {t t' : FileTree} {p q : Path} {l m : Location}

/-- There is one entry for each location. -/
def Distinct (t : FileTree) : Prop := t.entries.keys.Nodup

namespace Distinct

theorem put (h : t.Distinct) (l : Location) (e : Entry) : Distinct ⟨t.entries.put l e⟩ :=
  Ordered.nodup_keys_put h l e

theorem erase (h : t.Distinct) (l : Location) : Distinct ⟨t.entries.erase l⟩ :=
  List.Nodup.sublist (List.filter_sublist.map Prod.fst) h

/-- What is moved takes a place of its own: nothing is kept at or below it. -/
theorem relocate (h : t.Distinct) (l m : Location) : (t.relocate l m).Distinct := by
  have hkept : List.Pairwise (fun a b : Location × Entry => a.1 ≠ b.1)
      (t.entries.filter fun e => !m.isPrefixOf e.1 || l.isPrefixOf e.1) :=
    (List.pairwise_map.1 h).filter _
  refine List.pairwise_map.2 (List.pairwise_map.2 (hkept.imp_of_mem ?_))
  intro a b ha hb hne heq
  simp only [List.mem_filter, Bool.or_eq_true, Bool.not_eq_true', ← Bool.not_eq_true,
    List.isPrefixOf_iff_prefix] at ha hb heq
  have hback : ∀ {x : Location}, l <+: x → l ++ x.drop l.length = x := by
    rintro x ⟨rest, rfl⟩
    simp
  by_cases hla : l <+: a.1
  · by_cases hlb : l <+: b.1
    · rw [if_pos hla, if_pos hlb] at heq
      refine hne ?_
      rw [← hback hla, ← hback hlb, List.append_cancel_left heq]
    · rw [if_pos hla, if_neg hlb] at heq
      exact (hb.2.resolve_right hlb) (heq ▸ List.prefix_append m _)
  · by_cases hlb : l <+: b.1
    · rw [if_neg hla, if_pos hlb] at heq
      exact (ha.2.resolve_right hla) (heq ▸ List.prefix_append m _)
    · rw [if_neg hla, if_neg hlb] at heq
      exact hne heq

theorem write {c : Content} (h : t.Distinct) (hw : t.write p c = .ok t') : t'.Distinct := by
  obtain ⟨l, -, -, rfl⟩ := write_eq_ok.1 hw
  exact h.put l _

theorem remove (h : t.Distinct) (hr : t.remove p = .ok t') : t'.Distinct := by
  obtain ⟨l, -, -, rfl⟩ := remove_eq_ok.1 hr
  exact h.erase l

theorem move (h : t.Distinct) (hm : t.move p q = .ok t') : t'.Distinct := by
  obtain ⟨l, m, -, -, ⟨-, rfl⟩ | ⟨-, rfl⟩ | ⟨c, -, -, rfl⟩⟩ := move_inv hm
  · exact h
  · exact h.relocate l m
  · exact Distinct.put (h.erase l) m _

theorem ensureDirectory (h : t.Distinct) (hd : t.ensureDirectory p = .ok t') : t'.Distinct := by
  rcases ensureDirectory_ok hd with hmade | ⟨rfl, -⟩
  · obtain ⟨l, -, -, rfl⟩ := makeDirectory_eq_ok.1 hmade
    exact h.put l _
  · exact h

theorem makeDirectories (h : t.Distinct) (hd : t.makeDirectories p = .ok t') : t'.Distinct :=
  makeDirectories_induction (R := fun _ t t' => t.Distinct → t'.Distinct)
    (fun hd h => h.ensureDirectory hd) (fun habove hbelow h => hbelow (habove h)) hd h

end Distinct

end FileTree

/-! ### Metadata in such trees -/

namespace Metadata

open FileTree

variable {chance : Chance} {t t' : FileTree} {i : Nat} {final : Path} {text : String}

theorem distinct_attempt {r : Except Cause FileTree} (h : t.Distinct)
    (hr : ∀ t', r = .ok t' → t'.Distinct) : (attempt t r).Distinct := by
  cases r with
  | error c => exact h
  | ok t' => exact hr t' rfl

theorem distinct_discard {paths : List Path} (h : t.Distinct) : (discard t paths).Distinct := by
  induction paths generalizing t with
  | nil => exact h
  | cons p paths ih =>
    rw [discard_cons]
    exact ih (distinct_attempt h fun t' ht' => h.remove ht')

theorem distinct_makeBeside {point : Point} {p q : Path} {ending : String} (h : t.Distinct)
    (hm : makeBeside chance t point p ending = .ok (t', q)) : t'.Distinct :=
  h.write (makeBeside_write hm).2.2

theorem distinct_stage (h : t.Distinct) : (stage chance t i final text).1.Distinct := by
  unfold stage
  split
  · exact h
  · rename_i made temp hmade
    have hdistinct := distinct_makeBeside h hmade
    split
    · exact distinct_discard hdistinct
    · rename_i written hwritten
      exact hdistinct.write (writeAt_inv hwritten).2

theorem distinct_setAside (h : t.Distinct) : (setAside chance t i final).1.Distinct := by
  unfold setAside
  split
  · exact h
  · split
    · exact h
    · rename_i made backup hmade
      have hdistinct := distinct_makeBeside h hmade
      split
      · exact distinct_discard hdistinct
      · rename_i moved hmoved
        exact hdistinct.move (moveAt_inv hmoved).2

theorem distinct_rollBack {published : List Published} (h : t.Distinct) :
    (rollBack t published).Distinct := by
  induction published generalizing t with
  | nil => exact h
  | cons p published ih =>
    refine ih ?_
    unfold putBack
    split
    · exact distinct_attempt h fun t' ht' => h.remove ht'
    · exact distinct_attempt h fun t' ht' => h.move ht'

theorem distinct_publishFrom {published : List Published} {staged : List Staged}
    (h : t.Distinct) : (publishFrom chance t published i staged).1.Distinct := by
  induction staged generalizing t published i with
  | nil => exact h
  | cons s staged ih =>
    have haside : (setAside chance t i s.final).1.Distinct := distinct_setAside h
    unfold publishFrom
    split
    · rename_i u c hu
      rw [hu] at haside
      exact distinct_rollBack haside
    · rename_i u backup hu
      rw [hu] at haside
      dsimp only
      split
      · exact distinct_rollBack haside
      · rename_i moved hmoved
        exact ih (haside.move (moveAt_inv hmoved).2)

theorem distinct_publish {staged : List Staged} (h : t.Distinct) :
    (publish chance t staged).1.Distinct := by
  have hpublished : (publishFrom chance t [] 0 staged).1.Distinct := distinct_publishFrom h
  unfold publish
  split
  · rename_i hp
    rwa [hp] at hpublished
  · rename_i hp
    rw [hp] at hpublished
    exact distinct_discard hpublished

theorem distinct_writeBoth {f : Files} {m : Manifest} {r : Registry} {run : String}
    {variant : Option String} (h : t.Distinct) :
    (writeBoth chance t f m r run variant).1.Distinct := by
  have htypes : (stage chance t 0 f.types m.toLines).1.Distinct := distinct_stage h
  -- every way out is a stage, a publication, or one of them with files discarded
  unfold writeBoth
  split
  · rename_i hs
    rwa [hs] at htypes
  · rename_i t₁ types hs
    rw [hs] at htypes
    have hbindings : (stage chance t₁ 1 f.bindings (bindingsText r run variant)).1.Distinct :=
      distinct_stage htypes
    split
    · exact htypes
    · split
      · rename_i hs'
        rw [hs'] at hbindings
        exact distinct_discard hbindings
      · rename_i t₂ bindings hs'
        rw [hs'] at hbindings
        have hpublished : (publish chance t₂ [types, bindings]).1.Distinct :=
          distinct_publish hbindings
        split
        · rename_i hp
          rw [hp] at hpublished
          exact distinct_discard hpublished
        · rename_i hp
          rwa [hp] at hpublished

/-- **Writing metadata keeps one entry for each location.** -/
theorem distinct_persist {q : Request} (h : t.Distinct) : (persist chance t q).1.Distinct := by
  unfold persist
  split
  · exact h
  · exact h
  · rename_i m r _ _
    split
    · exact h
    · rename_i t₁ hmade
      have hwritten : (writeBoth chance t₁ q.files m r q.run q.variant).1.Distinct :=
        distinct_writeBoth (h.makeDirectories hmade)
      split
      · rename_i hw
        rwa [hw] at hwritten
      · rename_i hw
        rwa [hw] at hwritten

/-- **Writing metadata changes its two files only**, and makes the way to them. -/
theorem persist_changes (law : chance.Lawful) {q : Request} {f : Files} {m : Manifest}
    {r : Registry} (hm : q.manifest = some m) (hr : q.registry = some r)
    (h : (persist chance t q).2.result = .ok f) :
    Changes q.directory.way {q.files.types.place, q.files.bindings.place} t (persist chance t q).1 ∧
      (persist chance t q).1.isDirectory q.directory = true := by
  obtain ⟨-, t₁, hmade, hwritten⟩ := persist_ok_inv hm hr h
  obtain ⟨hsame, hother⟩ := writeBoth_lookup law hwritten
  refine ⟨?_, hsame.keeps.isDirectory (isDirectory_makeDirectories hmade)⟩
  have hmono := (makeDirectories_changes hmade).mono (fun l hl _ => hl)
    (Set.empty_subset {q.files.types.place, q.files.bindings.place})
  refine hmono.trans fun l hl => .inl (hother l (fun hlt => hl ?_) fun hlb => hl ?_)
  · exact .inl (place_of_locate hlt).symm
  · exact .inr (place_of_locate hlb).symm

end Metadata

/-! ### The order of entries -/

namespace Archive

open FileTree

variable {t t' u : FileTree} {p root archive : Path} {l x : Location} {c : Content}
  {files files' : List (Location × Content)}

theorem before_total (a b : Location) : (before a b || before b a) = true := by
  induction a generalizing b with
  | nil => rfl
  | cons s a ih =>
    cases b with
    | nil => rfl
    | cons s' b =>
      by_cases hs : s = s'
      · simpa [before, hs] using ih b
      · rcases Std.lt_trichotomy s s' with hlt | heq | hlt
        · simp [before, hs, hlt]
        · exact absurd heq hs
        · simp [before, hs, Ne.symm hs, hlt]

theorem before_trans {a b d : Location} (h : before a b = true) (h' : before b d = true) :
    before a d = true := by
  induction a generalizing b d with
  | nil => rfl
  | cons s a ih =>
    cases b with
    | nil => cases h
    | cons s' b =>
      cases d with
      | nil => cases h'
      | cons s'' d =>
        simp only [before] at h h' ⊢
        -- the first two names that differ decide; there, names are compared as texts
        by_cases hs : s = s'
        · subst hs
          rw [if_pos rfl] at h
          split at h'
          · rename_i heq
            rw [if_pos heq]
            exact ih h h'
          · rename_i hne
            rw [if_neg hne]
            exact h'
        · rw [if_neg hs, decide_eq_true_eq] at h
          split at h'
          · rename_i heq
            rw [← heq, if_neg hs, decide_eq_true_eq]
            exact h
          · rw [decide_eq_true_eq] at h'
            have hlt := String.lt_trans h h'
            rw [if_neg (by rintro rfl; exact String.lt_asymm hlt hlt), decide_eq_true_eq]
            exact hlt

/-- The first location comes before the second, or they are the same. -/
theorem before_iff {a b : Location} : before a b = true ↔ a = b ∨ a < b := by
  induction a generalizing b with
  | nil => cases b <;> simp [before]
  | cons s a ih =>
    cases b with
    | nil => simp [before]
    | cons s' b =>
      by_cases hs : s = s'
      · subst hs
        simp [before, ih]
      · simp [before, hs, List.cons_lt_cons_iff]

/-! ### The files below a directory -/

theorem mem_filesBelow (hl : t.locate p = .ok l) :
    (x, c) ∈ t.filesBelow p ↔ x ≠ [] ∧ (l ++ x, .file c) ∈ t.entries := by
  simp only [filesBelow, hl, inside, List.mem_filterMap, List.mem_filter, Bool.and_eq_true,
    List.isPrefixOf_iff_prefix, bne_iff_ne]
  constructor
  · rintro ⟨⟨k, e⟩, ⟨hmem, ⟨rest, hrest⟩, hne⟩, he⟩
    cases e with
    | directory => cases he
    | file content =>
      obtain rfl := hrest
      simp only [List.drop_left, Option.some.injEq, Prod.mk.injEq] at he
      obtain ⟨rfl, rfl⟩ := he
      exact ⟨by simpa using hne, hmem⟩
  · rintro ⟨hne, hmem⟩
    exact ⟨(l ++ x, .file c), ⟨hmem, List.prefix_append l x, by simpa using hne⟩, by simp⟩

theorem mem_entries_iff (h : t.Distinct) (hl : 2 ≤ l.length) :
    (l, .file c) ∈ t.entries ↔ t.fileAt l = some c := by
  have hroot : ¬(l = [] ∨ l = ["/"] ∨ l = ["//"]) := by
    rintro (rfl | rfl | rfl) <;> simp at hl
  rw [fileAt_eq_some_iff, lookup, if_neg hroot]
  constructor
  · exact Ordered.get?_of_mem (List.pairwise_map.1 h)
  · intro hget
    obtain ⟨k, hmem, hk⟩ := Ordered.exists_mem_of_get?_eq_some hget
    rwa [eq_of_beq hk] at hmem

theorem nodup_filesBelow (h : t.Distinct) (hl : t.locate p = .ok l) :
    ((t.filesBelow p).map Prod.fst).Nodup := by
  simp only [filesBelow, hl, inside]
  refine List.pairwise_map.2 (List.pairwise_filterMap.2 ?_)
  refine ((List.pairwise_map.1 h).filter _).imp_of_mem ?_
  rintro ⟨k, e⟩ ⟨k', e'⟩ ha hb hne b he b' he' heq
  simp only [List.mem_filter, Bool.and_eq_true, List.isPrefixOf_iff_prefix] at ha hb
  obtain ⟨-, ⟨rest, rfl⟩, -⟩ := ha
  obtain ⟨-, ⟨rest', rfl⟩, -⟩ := hb
  cases e with
  | directory => cases he
  | file content =>
    cases e' with
    | directory => cases he'
    | file content' =>
      cases he
      cases he'
      simp only [List.drop_left] at heq
      exact hne (congrArg (l ++ ·) heq)

/-- The files below a directory, in the order of the parts of their paths. -/
structure Inventory (t : FileTree) (root : Path) (files : List (Location × Content)) : Prop where
  /-- They are in order, and none occurs twice. -/
  sorted : (files.map Prod.fst).Pairwise (· < ·)
  /-- They are the files below the directory. -/
  complete : ∀ x c, (x, c) ∈ files ↔ x ≠ [] ∧ t.fileAt (root.place ++ x) = some c

/-- The entries for files: the parts of their paths are put together. -/
def pack (files : List (Location × Content)) : List (String × Content) :=
  files.map fun (l, c) => (Text.join "/" l, c)

namespace Inventory

/-- An inventory depends on the files below the directory only. -/
theorem congr (h : Inventory t root files)
    (hfiles : ∀ x, root.place <+: x → t.fileAt x = u.fileAt x) : Inventory u root files :=
  ⟨h.sorted, fun x c => by rw [h.complete, hfiles _ (List.prefix_append _ x)]⟩

/-- There is only one order for the files. -/
theorem unique (h : Inventory t root files) (h' : Inventory t root files') : files = files' := by
  have hsorted := List.pairwise_map.1 h.sorted
  have hsorted' := List.pairwise_map.1 h'.sorted
  have hnodup : ∀ {l : List (Location × Content)}, l.Pairwise (fun a b => a.1 < b.1) → l.Nodup := by
    refine fun hl => hl.imp ?_
    rintro a b hlt rfl
    exact List.lt_irrefl _ hlt
  have hperm : files.Perm files' := by
    refine (List.perm_ext_iff_of_nodup (hnodup hsorted) (hnodup hsorted')).2 ?_
    rintro ⟨x, c⟩
    rw [h.complete, h'.complete]
  refine List.Perm.eq_of_pairwise ?_ hsorted hsorted' hperm
  exact fun a b _ _ hab hba => absurd hba (List.lt_asymm hab)

theorem mem_names (h : Inventory t root files) :
    x ∈ files.map Prod.fst ↔ x ≠ [] ∧ ∃ c, t.fileAt (root.place ++ x) = some c := by
  simp [h.complete]

end Inventory

/-- The files below a directory, put into order. -/
def inOrder (t : FileTree) (root : Path) : List (Location × Content) :=
  (t.filesBelow root).mergeSort fun a b => before a.1 b.1

theorem entriesBelow_of_isDirectory (h : t.isDirectory root = true) :
    entriesBelow t root = pack (inOrder t root) := if_pos h

/-- **The entries for a directory** are those of its inventory. -/
theorem inventory_inOrder (ht : t.Distinct) (hplace : root.place ≠ [])
    (hdir : t.isDirectory root = true) : Inventory t root (inOrder t root) := by
  have hl := (leads_iff_isDirectory.2 hdir).locate
  refine ⟨?_, fun x c => ?_⟩
  · have hsorted : ∀ l : List (Location × Content),
        (l.mergeSort fun a b => before a.1 b.1).Pairwise fun a b => before a.1 b.1 = true :=
      List.pairwise_mergeSort (fun a b d => before_trans) fun a b => before_total a.1 b.1
    have hnodup : (inOrder t root).Pairwise fun a b => a.1 ≠ b.1 :=
      (List.pairwise_map.1 (nodup_filesBelow ht hl)).perm (List.mergeSort_perm ..).symm Ne.symm
    refine List.pairwise_map.2 ((hsorted _).imp₂ ?_ hnodup)
    intro a b hbefore hne
    exact (before_iff.1 hbefore).resolve_left hne
  · rw [inOrder, List.mem_mergeSort, mem_filesBelow hl]
    refine and_congr_right fun hx => ?_
    have hlength : 2 ≤ (root.place ++ x).length := by
      have hpos := List.length_pos_iff.2 hplace
      have hpos' := List.length_pos_iff.2 hx
      rw [List.length_append]
      omega
    exact mem_entries_iff ht hlength

/-- There are entries for all files below a path, if there are none unless it is a directory. -/
theorem exists_inventory (ht : t.Distinct) (hplace : root.place ≠ [])
    (hdir : ∀ x c, t.fileAt (root.place ++ x) = some c → x ≠ [] → t.isDirectory root = true) :
    ∃ files, Inventory t root files ∧ entriesBelow t root = pack files := by
  by_cases hroot : t.isDirectory root = true
  · exact ⟨_, inventory_inOrder ht hplace hroot, entriesBelow_of_isDirectory hroot⟩
  · refine ⟨[], ⟨List.Pairwise.nil, fun x c => ⟨nofun, ?_⟩⟩, if_neg hroot⟩
    rintro ⟨hx, hfile⟩
    exact absurd (hdir x c hfile hx) hroot

/-- **The entries for a directory depend on its files only**, not on how the tree came about. -/
theorem entriesBelow_congr (ht : t.Distinct) (hu : u.Distinct) (hplace : root.place ≠ [])
    (hdir : t.isDirectory root = u.isDirectory root)
    (hfiles : ∀ x, root.place <+: x → t.fileAt x = u.fileAt x) :
    entriesBelow t root = entriesBelow u root := by
  by_cases hroot : t.isDirectory root = true
  · have hroot' : u.isDirectory root = true := hdir ▸ hroot
    have hinventory := (inventory_inOrder ht hplace hroot).congr hfiles
    rw [entriesBelow_of_isDirectory hroot, entriesBelow_of_isDirectory hroot',
      hinventory.unique (inventory_inOrder hu hplace hroot')]
  · rw [entriesBelow, entriesBelow, if_neg hroot, if_neg (hdir ▸ hroot)]

/-! ### Writing an archive -/

theorem entries_congr {roots : List Path} (ht : t.Distinct) (hu : u.Distinct)
    (h : ∀ root ∈ roots, root.place ≠ [] ∧ t.isDirectory root = u.isDirectory root ∧
      ∀ x, root.place <+: x → t.fileAt x = u.fileAt x) : entries t roots = entries u roots := by
  refine List.flatMap_congr fun root hroot => ?_
  obtain ⟨hplace, hdir, hfiles⟩ := h root hroot
  exact entriesBelow_congr ht hu hplace hdir hfiles

/-- A file that was moved was moved over none or over a file. -/
theorem move_file_inv {q : Path} (hl : t.locate p = .ok l) (hc : t.lookup l = some (.file c))
    (h : t.move p q = .ok t') : ∃ m, t.locate q = .ok m ∧ t.lookup m ≠ some .directory := by
  obtain ⟨l', m, hl', hm, hmoved⟩ := move_inv h
  obtain rfl := Except.ok.inj (hl.symm.trans hl')
  refine ⟨m, hm, ?_⟩
  rcases hmoved with ⟨rfl, -⟩ | ⟨hdir, -⟩ | ⟨-, -, hdir, -⟩
  · simp [hc]
  · rw [hc] at hdir
    cases hdir
  · exact hdir

/-- The file in which an archive is staged. -/
theorem locate_staged {s : String} (hs : Path.IsName s) {directory : Path}
    (h : t.locate (Metadata.beside t (directory.child s) ".tmp") = .ok l) :
    t.lookup l = none ∧ ∃ x, l = directory.place ++ [x] ∧ x ≠ s := by
  have hmade := Metadata.beside_madeUp t (directory.child s) ".tmp"
  refine ⟨(hmade.locate (by decide) h).1, ?_⟩
  obtain ⟨⟨middle, -, hname⟩, -⟩ := hmade
  rw [hname] at h
  obtain ⟨d, hd, -, -, hl⟩ := Metadata.locate_withName h (Metadata.append_ne_dots (by decide))
  rw [hs.child_eq, List.dropLast_concat] at hd
  have hplace : directory.place = d := (foldlM_step_place hd).symm
  refine ⟨_, hplace ▸ hl, fun heq => ?_⟩
  have hlast : (directory.child s).name = s := by simp [hs.child_eq, Path.name]
  have hlength := congrArg String.length heq
  rw [hlast] at hlength
  simp only [String.length_append] at hlength
  have hdot : ".".length = 1 := by decide
  omega

theorem write_inv {roots : List Path} (h : write t archive roots = .ok t') :
    ∃ t₁ temp t₂ t₃, t.makeDirectories archive.parent = .ok t₁ ∧
      temp = Metadata.beside t₁ archive ".tmp" ∧ t₁.write temp (.archive []) = .ok t₂ ∧
      t₂.write temp (.archive (entries t₂ roots)) = .ok t₃ ∧ t₃.move temp archive = .ok t' := by
  obtain ⟨t₁, h₁, h⟩ := bind_eq_ok.1 h
  obtain ⟨t₂, h₂, h⟩ := bind_eq_ok.1 h
  obtain ⟨t₃, h₃, h⟩ := bind_eq_ok.1 h
  exact ⟨t₁, _, t₂, t₃, h₁, rfl, h₂, h₃, h⟩

/-- The file in which an archive is staged is in none of the directories. -/
theorem entries_of_staged {roots : List Path} {directory : Path} {x : String} {content : Content}
    (ht : t.Distinct) (hu : u.Distinct) (hsame : SameDirectories t u)
    (hroots : ∀ root ∈ roots, root.place ≠ [] ∧ ∀ x, ¬root.place <+: directory.place ++ [x])
    (hlookup : u.lookup = Function.update t.lookup (directory.place ++ [x])
      (some (.file content))) : entries u roots = entries t roots := by
  refine entries_congr hu ht fun root hroot => ?_
  obtain ⟨hplace, houtside⟩ := hroots root hroot
  refine ⟨hplace, ?_, fun y hy => ?_⟩
  · rw [Bool.eq_iff_iff]
    exact ⟨hsame.symm.keeps.isDirectory, hsame.keeps.isDirectory⟩
  · refine fileAt_congr ?_
    rw [hlookup, Function.update_of_ne]
    rintro rfl
    exact houtside x hy

/-- **Writing an archive** makes the way to it and puts one file there, with the entries for the
directories.  The file in which it is staged is not below any of them, and is gone then. -/
theorem write_spec (ht : t.Distinct) {s : String} (hs : Path.IsName s) {directory : Path}
    {roots : List Path}
    (hroots : ∀ root ∈ roots, root.place ≠ [] ∧ ∀ x, ¬root.place <+: directory.place ++ [x])
    (h : write t (directory.child s) roots = .ok t') :
    ∃ t₁, t.makeDirectories directory = .ok t₁ ∧ t'.Distinct ∧ SameDirectories t₁ t' ∧
      t'.lookup = Function.update t₁.lookup (directory.place ++ [s])
        (some (.file (.archive (entries t₁ roots)))) ∧
      t'.read (directory.child s) = .ok (.archive (entries t₁ roots)) := by
  obtain ⟨t₁, temp, t₂, t₃, h₁, htemp, h₂, h₃, hmove⟩ := write_inv h
  rw [hs.parent_child] at h₁
  have hd₁ := ht.makeDirectories h₁
  have hd₂ := hd₁.write h₂
  obtain ⟨l, hl, hnot, hlookup₂⟩ := FileTree.write_inv h₂
  obtain ⟨hnone, x, rfl, hx⟩ := locate_staged hs (htemp ▸ hl)
  have hsame₂ : SameDirectories t₁ t₂ := .of_update hnot (by simp) hlookup₂
  obtain ⟨l', hl', hnot', hlookup₃⟩ := FileTree.write_inv h₃
  obtain rfl := Except.ok.inj ((hsame₂.locate hl).symm.trans hl')
  have hsame₃ : SameDirectories t₂ t₃ := .of_update hnot' (by simp) hlookup₃
  have hfile : t₃.lookup (directory.place ++ [x]) = some (.file (.archive (entries t₂ roots))) := by
    rw [hlookup₃, Function.update_self]
  obtain ⟨m, hm, hdir⟩ := move_file_inv (hsame₃.locate hl') hfile hmove
  obtain rfl := place_of_locate hm
  rw [hs.place_child] at hm hdir
  have hne : directory.place ++ [x] ≠ directory.place ++ [s] := by simpa using hx
  obtain ⟨t'', hmoved, hlookup⟩ := move_spec (hsame₃.locate hl') hm hfile hdir hne
  obtain rfl := Except.ok.inj (hmove.symm.trans hmoved)
  have hentries := entries_of_staged hd₁ hd₂ hsame₂ hroots hlookup₂
  have hlookup' : t'.lookup = Function.update t₁.lookup (directory.place ++ [s])
      (some (.file (.archive (entries t₁ roots)))) := by
    funext y
    rw [hlookup, hlookup₃, hlookup₂, hentries]
    by_cases hys : y = directory.place ++ [s]
    · rw [hys, Function.update_self, Function.update_self]
    · by_cases hyx : y = directory.place ++ [x]
      · rw [Function.update_of_ne hys, Function.update_of_ne hys, hyx, Function.update_self, hnone]
      · simp only [Function.update_of_ne hys, Function.update_of_ne hyx]
  have hdir₁ : t₁.lookup (directory.place ++ [s]) ≠ some .directory := fun hdir' =>
    hdir ((hsame₃ _).1 ((hsame₂ _).1 hdir'))
  have hsame : SameDirectories t₁ t' := .of_update hdir₁ (by simp) hlookup'
  have hread : t'.read (directory.child s) = .ok (.archive (entries t₁ roots)) := by
    refine read_eq_ok.2 ⟨_, hsame.locate (hsame₂.symm.locate (hsame₃.symm.locate hm)), ?_⟩
    rw [hlookup', Function.update_self]
  exact ⟨t₁, h₁, (hd₂.write h₃).move hmove, hsame, hlookup', hread⟩

end Archive

end SoapStubs
