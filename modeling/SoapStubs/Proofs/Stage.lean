import SoapStubs.Metadata.Store
import SoapStubs.Proofs.Path
import SoapStubs.Proofs.Publish

/-!
# Staging texts

Texts are staged beside their final places, one after the other.  Where that succeeds, the staged
files can be published; where it fails, nothing is left of them.

* `MadeUp.exists_locate` says that a path leads somewhere if a name made up beside it does;
* `stage_ok` and `stage_error` say what staging a text does to the tree;
* `StagesAll` is staging texts one after another, and `Publishable` says which texts can be published
  together: `StagesAll.ready` says that they can once they are staged, and `files_staged` that the
  two texts of a run are such texts;
* `publish_error_file` says that on paths without null characters only the file system is to
  blame.
-/

namespace SoapStubs

theorem FileTree.pathProblem?_eq_none_iff {p : Path} : FileTree.pathProblem? p = none ↔
    p.Clean ∧ p.text.utf8ByteSize ≤ FileTree.longestPath := by
  unfold FileTree.pathProblem?
  rw [Path.clean_iff]
  split
  · rename_i h; simp [List.contains_iff_mem.1 h]
  · rename_i h
    rw [List.contains_iff_mem] at h
    split <;> simp_all

namespace Metadata

open FileTree

variable {chance : Chance} {F : Set Location} {t t' u : FileTree} {l m : Location}
  {final p q : Path} {s : Staged}
  {c : Cause} {i : Nat} {text : String}

/-! ### Names beside a path -/

/-- A path leads somewhere if a name made up beside it does. -/
theorem MadeUp.exists_locate {ending : String} (h : MadeUp t p ending q) (he : 2 < ending.length)
    (hl : t.locate q = .ok m) : ∃ l, t.locate p = .ok l := by
  obtain ⟨⟨middle, -, rfl⟩, -⟩ := h
  obtain ⟨d, hd, hdir, hsize, -⟩ := locate_withName hl (append_ne_dots he)
  obtain ⟨hclean, hlen⟩ := pathProblem?_eq_none_iff.1 (locate_eq_ok_iff.1 hl).1
  obtain ⟨root, parts⟩ := p
  cases parts using List.reverseRecOn with
  | nil =>
    have hshort := Path.size_text_concat root [] ("." ++ "" ++ "." ++ middle ++ ending)
    have hone : 1 ≤ longestPath := by decide
    refine ⟨_, locate_eq_ok_iff.2 ⟨pathProblem?_eq_none_iff.2 ⟨⟨hclean.root, nofun⟩, ?_⟩, rfl⟩⟩
    exact hshort.trans (max_le hone hlen)
  | append_singleton front name =>
    have hname : Path.name ⟨root, front ++ [name]⟩ = name := by simp [Path.name]
    rw [hname] at hclean hlen hsize
    rw [Path.withName, List.dropLast_concat] at hclean hlen
    rw [List.dropLast_concat] at hd
    obtain ⟨before, htext⟩ := Path.text_of_parts root front
    rw [Path.clean_iff] at hclean
    rw [htext] at hclean hlen
    simp only [String.toList_append, List.mem_append, not_or,
      String.utf8ByteSize_append] at hclean hlen hsize
    refine ⟨_, locate_eq_ok_iff.2 ⟨pathProblem?_eq_none_iff.2 ⟨Path.clean_iff.2 ?_, ?_⟩,
      foldlM_step_concat.2 ⟨d, hd, step_eq_ok_iff.2 ⟨hdir, ?_, rfl⟩⟩⟩⟩
    · rw [htext, String.toList_append, List.mem_append, not_or]
      exact ⟨hclean.1, hclean.2.1.1.1.2⟩
    · rw [htext, String.utf8ByteSize_append]
      omega
    · omega

theorem append_ne_append {x y e e' : String} {a b : Char} (ha : e.toList.getLast? = some a)
    (hb : e'.toList.getLast? = some b) (hab : a ≠ b) : x ++ e ≠ y ++ e' := by
  intro h
  have := congrArg (fun s => s.toList.getLast?) h
  simp [List.getLast?_append, ha, hb] at this
  exact hab this

/-! ### Staging one text -/

theorem writeAt_inv {point : Point} (h : writeAt chance t point p text = .ok t') :
    chance.refuses point = none ∧ t.write p (.text text) = .ok t' := by
  unfold writeAt at h
  split at h
  · cases h
  · rename_i hr; exact ⟨hr, h⟩

/-- What a success in staging tells: a file was made beside the final place and written. -/
theorem stage_inv (h : stage chance t i final text = (t', .ok s)) :
    ∃ made temp, makeBeside chance t (.create i) final ".tmp" = .ok (made, temp) ∧
      writeAt chance made (.write i) temp text = .ok t' ∧ s = ⟨temp, final⟩ := by
  unfold stage at h
  split at h
  · cases h
  · rename_i made temp hmade
    split at h
    · cases h
    · rename_i written hw
      cases h
      exact ⟨made, temp, hmade, hw, rfl⟩

/-- What a failure tells: no file could be made, or the one that was made could not be written. -/
theorem stage_error_inv (h : stage chance t i final text = (t', .error c)) :
    t' = t ∧ makeBeside chance t (.create i) final ".tmp" = .error c ∨
      ∃ made temp, makeBeside chance t (.create i) final ".tmp" = .ok (made, temp) ∧
        writeAt chance made (.write i) temp text = .error c ∧ t' = discard made [temp] := by
  unfold stage at h
  split at h
  · rename_i hmade
    cases h
    exact .inl ⟨rfl, hmade⟩
  · rename_i made temp hmade
    split at h
    · rename_i hw
      cases h
      exact .inr ⟨made, temp, hmade, hw, rfl⟩
    · cases h

/-- A text that cannot be staged leaves the tree as it was. -/
theorem stage_error (law : chance.Lawful) (h : stage chance t i final text = (t', .error c)) :
    t'.lookup = t.lookup := by
  obtain ⟨rfl, -⟩ | ⟨made, temp, hmade, -, rfl⟩ := stage_error_inv h
  · rfl
  · obtain ⟨-, -, m, hm, hnone, hv⟩ := makeBeside_inv law (by decide) hmade
    exact discard_made hm hnone hv

/-- A staged text stands in a file of its own where nothing was. -/
theorem stage_ok (law : chance.Lawful) (h : stage chance t i final text = (t', .ok s)) :
    s = ⟨chance.name t final ".tmp", final⟩ ∧ chance.refuses (.create i) = none ∧
      chance.refuses (.write i) = none ∧ ∃ m, t.locate s.temp = .ok m ∧ t.lookup m = none ∧
        t'.lookup = Function.update t.lookup m (some (.file (.text text))) := by
  obtain ⟨made, temp, hmade, hwritten, rfl⟩ := stage_inv h
  obtain ⟨hcreate, rfl, m, hm, hnone, hv⟩ := makeBeside_inv law (by decide) hmade
  obtain ⟨hwrite, hw⟩ := writeAt_inv hwritten
  obtain ⟨m', hm', -, hv'⟩ := write_inv hw
  have hs : SameDirectories t made := .of_update (by simp [hnone]) (by simp) hv
  obtain rfl : m = m' := Except.ok.inj ((hs.locate hm).symm.trans hm')
  exact ⟨rfl, hcreate, hwrite, m, hm, hnone, by rw [hv', hv, Function.update_idem]⟩

theorem stage_length (h : stage chance t i final text = (t', .ok s)) :
    t'.entries.length ≤ t.entries.length + 2 := by
  obtain ⟨made, temp, hmade, hwritten, -⟩ := stage_inv h
  have h₁ := makeBeside_length hmade
  have h₂ := write_length (writeAt_inv hwritten).2
  omega

theorem stage_succeeds (text : String) (law : chance.Lawful)
    (hcreate : chance.refuses (.create i) = none) (hwrite : chance.refuses (.write i) = none)
    (hm : t.locate (chance.name t final ".tmp") = .ok m) :
    ∃ t' s, stage chance t i final text = (t', .ok s) := by
  obtain ⟨made, hmade⟩ := makeBeside_ok law (by decide) hcreate hm
  obtain ⟨-, -, m', hm', hnone, hv⟩ := makeBeside_inv law (by decide) hmade
  have hs : SameDirectories t made := .of_update (by simp [hnone]) (by simp) hv
  obtain ⟨t', hw, -⟩ := write_spec (hs.locate hm') (by simp [hv]) (.text text)
  exact ⟨t', ⟨chance.name t final ".tmp", final⟩, by simp only [stage, hmade, writeAt, hwrite, hw]⟩

/-! ### Staging texts one after another -/

/-- The name at the end of the location has the ending. -/
def HasEnding (ending : String) (l : Location) : Prop := ∃ d name, l = d ++ [name ++ ending]

theorem HasEnding.ne {e e' : String} {a b : Char} (h : HasEnding e l) (h' : HasEnding e' m)
    (ha : e.toList.getLast? = some a) (hb : e'.toList.getLast? = some b) (hab : a ≠ b) : l ≠ m := by
  obtain ⟨d, x, rfl⟩ := h
  obtain ⟨d', y, rfl⟩ := h'
  intro heq
  exact append_ne_append ha hb hab (List.append_inj' heq rfl |>.2 |> List.singleton_inj.1)

/-- The texts are staged, numbered from `i`, each one beside the place where it belongs. -/
inductive StagesAll (chance : Chance) :
    FileTree → Nat → List (Path × String) → List Staged → FileTree → Prop where
  /-- There is none. -/
  | nil {t : FileTree} {i : Nat} : StagesAll chance t i [] [] t
  /-- One, and then the others. -/
  | cons {t t₁ u : FileTree} {i : Nat} {final : Path} {text : String} {s : Staged}
      {texts : List (Path × String)} {staged : List Staged}
      (first : stage chance t i final text = (t₁, .ok s))
      (others : StagesAll chance t₁ (i + 1) texts staged u) :
      StagesAll chance t i ((final, text) :: texts) (s :: staged) u

/-- The places where texts belong. -/
def places (t : FileTree) (texts : List (Path × String)) : Set Location :=
  {l | ∃ p ∈ texts, t.locate p.1 = .ok l}

/-- The texts can be published together: no two places are the same, and names that are made up are
fresh, so they are none of them. -/
structure Publishable (chance : Chance) (t : FileTree) (texts : List (Path × String)) : Prop where
  /-- No two places are the same. -/
  distinct : texts.Pairwise fun p p' => t.locate p.1 ≠ t.locate p'.1
  /-- No name that is made up is one of them. -/
  fresh : chance.Fresh (places t texts)

namespace StagesAll

variable {texts : List (Path × String)} {staged : List Staged} {x : Location}

theorem sameDirectories (h : StagesAll chance t i texts staged u) (law : chance.Lawful) :
    SameDirectories t u := by
  induction h with
  | nil => exact fun _ => Iff.rfl
  | cons first _ ih =>
    obtain ⟨-, -, -, m, -, hnone, hv⟩ := stage_ok law first
    have hd := SameDirectories.of_update (by simp [hnone]) (by simp) hv
    exact fun x => (hd x).trans (ih x)

/-- The places of texts that are staged can be reached. -/
theorem reached (h : StagesAll chance t i texts staged u) (law : chance.Lawful) :
    ∀ p ∈ texts, ∃ l, t.locate p.1 = .ok l := by
  induction h with
  | nil => exact fun _ hp => absurd hp List.not_mem_nil
  | cons first _ ih =>
    obtain ⟨rfl, -, -, m, hm, hnone, hv⟩ := stage_ok law first
    have hd := SameDirectories.of_update (by simp [hnone]) (by simp) hv
    refine List.forall_mem_cons.2 ⟨(law _ _ ".tmp").exists_locate (by decide) hm, fun p hp => ?_⟩
    obtain ⟨l, hl⟩ := ih p hp
    exact ⟨l, hd.symm.locate hl⟩

theorem finals (h : StagesAll chance t i texts staged u) (law : chance.Lawful) :
    staged.map (·.final) = texts.map (·.1) := by
  induction h with
  | nil => rfl
  | cons first _ ih =>
    obtain ⟨rfl, -⟩ := stage_ok law first
    rw [List.map_cons, List.map_cons, ih]

/-- The files stand at none of the places that names which are made up avoid. -/
theorem temp_ne (h : StagesAll chance t i texts staged u) (fresh : chance.Fresh F) :
    ∀ s ∈ staged, ∀ l ∈ F, t.locate s.temp ≠ .ok l := by
  induction h with
  | nil => exact fun _ hs => absurd hs List.not_mem_nil
  | cons first _ ih =>
    obtain ⟨rfl, -, -, m, -, hnone, hv⟩ := stage_ok fresh.lawful first
    have hd := SameDirectories.of_update (by simp [hnone]) (by simp) hv
    refine List.forall_mem_cons.2 ⟨fun l => fresh.avoids _ _ _ (by simp) l, ?_⟩
    exact fun s hs l hl htemp => ih s hs l hl (hd.locate htemp)

/-- Nothing was where the files are. -/
theorem lookup_temps (h : StagesAll chance t i texts staged u) (law : chance.Lawful)
    (hx : x ∈ temps t staged) : t.lookup x = none := by
  induction h with
  | nil =>
    obtain ⟨s, hs, -⟩ := hx
    cases hs
  | cons first _ ih =>
    obtain ⟨-, -, -, m, hm, hnone, hv⟩ := stage_ok law first
    have hd := SameDirectories.of_update (by simp [hnone]) (by simp) hv
    obtain ⟨s, hs, hl⟩ := hx
    rcases List.mem_cons.1 hs with rfl | hs
    · obtain rfl := Except.ok.inj (hm.symm.trans hl)
      exact hnone
    · have hnew := ih ⟨s, hs, hd.locate hl⟩
      by_cases hxm : x = m
      · rw [hxm, hnone]
      · rwa [hv, Function.update_of_ne hxm] at hnew

/-- Nothing else changes. -/
theorem lookup_other (h : StagesAll chance t i texts staged u) (law : chance.Lawful)
    (hx : x ∉ temps t staged) : u.lookup x = t.lookup x := by
  induction h with
  | nil => rfl
  | cons first _ ih =>
    obtain ⟨-, -, -, m, hm, hnone, hv⟩ := stage_ok law first
    have hd := SameDirectories.of_update (by simp [hnone]) (by simp) hv
    have hxm : x ≠ m := by
      rintro rfl
      exact hx ⟨_, List.mem_cons_self, hm⟩
    rw [ih fun hmem => hx ?_, hv, Function.update_of_ne hxm]
    rw [temps_eq_of_sameDirectories hd] at hmem
    exact temps_subset_cons _ _ _ hmem

/-- No two of the files are the same. -/
theorem temps_ne (h : StagesAll chance t i texts staged u) (law : chance.Lawful) :
    staged.Pairwise fun s s' => u.locate s.temp ≠ u.locate s'.temp := by
  induction h with
  | nil => exact .nil
  | cons first others ih =>
    obtain ⟨-, -, -, m, hm, hnone, hv⟩ := stage_ok law first
    have hd := SameDirectories.of_update (by simp [hnone]) (by simp) hv
    have hd' := others.sameDirectories law
    refine List.pairwise_cons.2 ⟨fun s hs heq => ?_, ih⟩
    rw [hd'.locate (hd.locate hm)] at heq
    have hnew := others.lookup_temps law ⟨s, hs, hd'.symm.locate heq.symm⟩
    rw [hv, Function.update_self] at hnew
    cases hnew

/-- The file with a number holds the text with that number. -/
theorem getElem? (h : StagesAll chance t i texts staged u) (law : chance.Lawful) {j : Nat}
    {p : Path × String} (hp : texts[j]? = some p) :
    ∃ s, staged[j]? = some s ∧ s.final = p.1 ∧ u.read s.temp = .ok (.text p.2) := by
  induction h generalizing j with
  | nil => simp at hp
  | @cons t t₁ u i final text s texts staged first others ih =>
    cases j with
    | succ j => exact ih (by simpa using hp)
    | zero =>
      obtain rfl : (final, text) = p := by simpa using hp
      obtain ⟨rfl, -, -, m, hm, hnone, hv⟩ := stage_ok law first
      have hd := SameDirectories.of_update (by simp [hnone]) (by simp) hv
      have hthere : t₁.lookup m = some (.file (.text text)) := by rw [hv, Function.update_self]
      have hkept : m ∉ temps t₁ staged := fun hmem => by
        cases hthere.symm.trans (others.lookup_temps law hmem)
      refine ⟨_, rfl, rfl, read_eq_ok.2 ⟨m, ?_, (others.lookup_other law hkept).trans hthere⟩⟩
      exact (others.sameDirectories law).locate (hd.locate hm)

theorem exists_getElem? (h : StagesAll chance t i texts staged u) (law : chance.Lawful) {j : Nat}
    (hs : staged[j]? = some s) :
    ∃ p, texts[j]? = some p ∧ s.final = p.1 ∧ u.read s.temp = .ok (.text p.2) := by
  have hmap : (staged.map (·.final))[j]? = (texts.map (·.1))[j]? := by rw [h.finals law]
  rw [List.getElem?_map, List.getElem?_map, hs] at hmap
  obtain ⟨p, hp, -⟩ := Option.map_eq_some_iff.1 hmap.symm
  obtain ⟨s', hs', htext⟩ := h.getElem? law hp
  obtain rfl := Option.some.inj (hs.symm.trans hs')
  exact ⟨p, hp, htext⟩

theorem exists_text (h : StagesAll chance t i texts staged u) (law : chance.Lawful)
    (hs : s ∈ staged) : ∃ p ∈ texts, s.final = p.1 ∧ u.read s.temp = .ok (.text p.2) := by
  obtain ⟨j, hj⟩ := List.mem_iff_getElem?.1 hs
  obtain ⟨p, hp, htext⟩ := h.exists_getElem? law hj
  exact ⟨p, List.mem_of_getElem? hp, htext⟩

/-- Once the files are gone again, all is as it was before they were staged. -/
theorem lookup_undone (h : StagesAll chance t i texts staged u) (law : chance.Lawful)
    (hu : Undone u staged t') : t'.lookup = t.lookup := by
  have htemps : temps u staged = temps t staged :=
    temps_eq_of_sameDirectories (h.sameDirectories law)
  funext x
  by_cases hx : x ∈ temps t staged
  · rw [hu.temp x (htemps ▸ hx), h.lookup_temps law hx]
  · rw [hu.other x (htemps ▸ hx), h.lookup_other law hx]

/-- So it is if the next text cannot be staged. -/
theorem lookup_discard (h : StagesAll chance t i texts staged u) (law : chance.Lawful)
    (hu : t'.lookup = u.lookup) : (discard t' (staged.map (·.temp))).lookup = t.lookup := by
  have hd : SameDirectories u t' := fun x => by rw [hu]
  have hps : Removable t' (staged.map (·.temp)) := by
    intro p hp
    obtain ⟨s, hs, rfl⟩ := List.mem_map.1 hp
    obtain ⟨p, -, -, hread⟩ := h.exists_text law hs
    obtain ⟨m, hm, hc⟩ := read_eq_ok.1 hread
    exact ⟨m, hd.locate hm, by simp [hu, hc]⟩
  refine h.lookup_undone law ⟨fun x ⟨s, hs, hx⟩ => ?_, fun x hx => ?_⟩
  · exact (Metadata.lookup_discard hps x).1 ⟨_, List.mem_map_of_mem hs, hd.locate hx⟩
  · rw [(Metadata.lookup_discard hps x).2, hu]
    intro p hp hl
    obtain ⟨s, hs, rfl⟩ := List.mem_map.1 hp
    exact hx ⟨s, hs, hd.symm.locate hl⟩

section

variable (h : StagesAll chance t i texts staged u) (hp : Publishable chance t texts)

include h hp

/-- **What is staged can be published.** -/
theorem ready : Ready (places t texts) u staged := by
  have law := hp.fresh.lawful
  have hd := h.sameDirectories law
  have hlocate : ∀ {p : Path × String}, p ∈ texts → u.locate p.1 = t.locate p.1 := by
    intro p hmem
    obtain ⟨l, hl⟩ := h.reached hp.fresh.lawful p hmem
    rw [hl, hd.locate hl]
  constructor
  case temp =>
    intro s hs
    obtain ⟨p, -, -, hread⟩ := h.exists_text law hs
    exact ⟨_, hread⟩
  case final =>
    intro s hs
    obtain ⟨p, hmem, hfinal, -⟩ := h.exists_text law hs
    obtain ⟨l, hl⟩ := h.reached hp.fresh.lawful p hmem
    exact ⟨l, ⟨p, hmem, hl⟩, by rw [hfinal, hlocate hmem, hl]⟩
  case temps => exact h.temps_ne law
  case finals =>
    rw [← List.pairwise_map (R := fun p p' => u.locate p ≠ u.locate p'), h.finals law,
      List.pairwise_map]
    refine hp.distinct.imp_of_mem fun hmem hmem' hne => ?_
    rwa [hlocate hmem, hlocate hmem']
  case apart => exact fun s hs l hl htemp => h.temp_ne hp.fresh s hs l hl (hd.symm.locate htemp)

theorem not_mem_temps {p : Path × String} (hmem : p ∈ texts) (hl : t.locate p.1 = .ok l) :
    l ∉ temps t staged := fun ⟨s, hs, htemp⟩ =>
  h.temp_ne hp.fresh s hs l ⟨p, hmem, hl⟩ htemp

/-- What hinders a file from being published does so before the texts are staged. -/
theorem hindered_iff {p : Path × String} (hmem : p ∈ texts) {j : Nat} :
    Hindered chance u j p.1 ↔ Hindered chance t j p.1 := by
  obtain ⟨l, hl⟩ := h.reached hp.fresh.lawful p hmem
  exact hindered_congr (h.sameDirectories hp.fresh.lawful) hl
    (h.lookup_other hp.fresh.lawful (h.not_mem_temps hp hmem hl))

/-- Once the files are moved, the places hold the texts, and all else is as it was before they were
staged. -/
theorem lookup_moved (hm : Moved u staged t') :
    (∀ p ∈ texts, t'.read p.1 = .ok (.text p.2)) ∧
      ∀ l, (∀ p ∈ texts, t'.locate p.1 ≠ .ok l) → t'.lookup l = t.lookup l := by
  have law := hp.fresh.lawful
  have hd := h.sameDirectories law
  constructor
  · intro p hmem
    obtain ⟨j, hj⟩ := List.mem_iff_getElem?.1 hmem
    obtain ⟨s, hs, hfinal, hread⟩ := h.getElem? law hj
    obtain ⟨l, hl⟩ := h.reached hp.fresh.lawful p hmem
    obtain ⟨m, hm', hc⟩ := read_eq_ok.1 hread
    have hl' := hd.locate hl
    refine read_eq_ok.2 ⟨l, hm.directories.locate hl', ?_⟩
    rw [hm.final s (List.mem_of_getElem? hs) l m (hfinal ▸ hl') hm', hc]
  · intro l hl
    by_cases htemp : l ∈ temps u staged
    · obtain ⟨s, hs, hls⟩ := htemp
      rw [hm.temp s hs l hls, h.lookup_temps law ⟨s, hs, hd.symm.locate hls⟩]
    · rw [hm.other l fun s hs => ⟨fun hls => ?_, fun hls => htemp ⟨s, hs, hls⟩⟩]
      · rw [temps_eq_of_sameDirectories hd] at htemp
        exact h.lookup_other law htemp
      · obtain ⟨p, hmem, hfinal, -⟩ := h.exists_text law hs
        exact hl p hmem (hm.directories.locate (hfinal ▸ hls))

end

end StagesAll

/-! ### Publishing what is staged -/

/-- What publishing staged texts leads to: all places hold them, or everything is as it was.  The
tree `t` is that from before they were staged, and `u` is that in which they are. -/
structure PublishSpec (chance : Chance) (t : FileTree) (texts : List (Path × String))
    (staged : List Staged) (u : FileTree) : Prop where
  /-- After a success the places hold the texts, and everything else is as it was. -/
  moved : ∀ t', publish chance u staged = (t', .ok ()) → SameDirectories t t' ∧
    (∀ p ∈ texts, t'.read p.1 = .ok (.text p.2)) ∧
      ∀ l, (∀ p ∈ texts, t'.locate p.1 ≠ .ok l) → t'.lookup l = t.lookup l
  /-- After a failure everything is as it was, once the staged files are removed. -/
  undone : ∀ t' c, publish chance u staged = (t', .error c) →
    (discard t' (staged.map (·.temp))).lookup = t.lookup
  /-- So it is if one more text cannot be staged. -/
  unstaged : ∀ i final text t' c, stage chance u i final text = (t', .error c) →
    (discard t' (staged.map (·.temp))).lookup = t.lookup
  /-- What hinders one of the files is a failure. -/
  fails : ∀ j p, texts[j]? = some p → Hindered chance t j p.1 →
    ∃ t' c, publish chance u staged = (t', .error c)
  /-- If nothing hinders any of them, there is no failure. -/
  succeeds : (∀ j p, texts[j]? = some p → ¬ Hindered chance t j p.1) →
    (∀ p ∈ texts, Usable chance u (3 * texts.length) p.1 ".bak") →
    ∃ t', publish chance u staged = (t', .ok ())

/-- **Staged texts are published all together or not at all.** -/
theorem publishSpec {texts : List (Path × String)} {staged : List Staged}
    (h : StagesAll chance t i texts staged u) (htexts : Publishable chance t texts) :
    PublishSpec chance t texts staged u := by
  have fresh := htexts.fresh
  have hr := h.ready htexts
  have hpair : ∀ {x : Except Cause Unit}, (publish chance u staged).2 = x →
      publish chance u staged = ((publish chance u staged).1, x) := fun hx => Prod.ext rfl hx
  constructor
  case moved =>
    intro t' ht'
    have hmoved := publish_moved fresh hr (congrArg Prod.snd ht')
    rw [ht'] at hmoved
    have hd := h.sameDirectories fresh.lawful
    exact ⟨fun l => (hd l).trans (hmoved.directories l), h.lookup_moved htexts hmoved⟩
  case undone =>
    intro t' c ht'
    have hundone := publish_undone fresh hr (congrArg Prod.snd ht')
    rw [ht'] at hundone
    exact h.lookup_undone fresh.lawful hundone
  case unstaged =>
    exact fun i final text t' c ht' => h.lookup_discard fresh.lawful (stage_error fresh.lawful ht')
  case fails =>
    intro j p hj hindered
    obtain ⟨s, hs, hfinal, -⟩ := h.getElem? fresh.lawful hj
    rw [← h.hindered_iff htexts (List.mem_of_getElem? hj), ← hfinal] at hindered
    obtain ⟨c, hc⟩ := publish_error_of_hindered fresh hr hs hindered
    exact ⟨_, c, hpair hc⟩
  case succeeds =>
    intro hfree hname
    have hlength : staged.length = texts.length := by
      rw [← List.length_map (·.final), h.finals fresh.lawful, List.length_map]
    refine ⟨_, hpair (publish_ok_of_not_hindered fresh hr (fun j s hs => ?_) fun s hs => ?_)⟩
    · obtain ⟨p, hp, hfinal, -⟩ := h.exists_getElem? fresh.lawful hs
      rw [hfinal, h.hindered_iff htexts (List.mem_of_getElem? hp)]
      exact hfree j p hp
    · obtain ⟨p, hp, hfinal, -⟩ := h.exists_text fresh.lawful hs
      rw [hfinal, hlength]
      exact hname p hp

/-! ### The files of a run -/

theorem isEnding_typesSuffix : Path.IsEnding typesSuffix := ⟨by decide, by decide, by decide⟩

theorem isEnding_bindingsSuffix : Path.IsEnding bindingsSuffix := ⟨by decide, by decide, by decide⟩

/-- The texts of a run, with the places where they belong. -/
def Files.texts (f : Files) (a b : String) : List (Path × String) := [(f.types, a), (f.bindings, b)]

theorem hasEnding_of_locate {front : List String} {last ending : String}
    (hp : p.parts = front ++ [last ++ ending]) (he : 2 < ending.length)
    (hl : t.locate p = .ok l) : HasEnding ending l := by
  obtain ⟨-, hway⟩ := locate_eq_ok_iff.1 hl
  rw [hp] at hway
  obtain ⟨d, -, hstep⟩ := foldlM_step_concat.1 hway
  obtain ⟨-, -, rfl⟩ := step_eq_ok_iff.1 hstep
  exact ⟨d, last, if_neg (append_ne_dots he)⟩

/-- Names that are made up have other endings than the files of a run. -/
theorem Chance.Lawful.fresh (law : chance.Lawful)
    (hF : ∀ l ∈ F, HasEnding typesSuffix l ∨ HasEnding bindingsSuffix l) : chance.Fresh F := by
  refine ⟨law, fun t p ending hending l hl htemp => ?_⟩
  have hne : ∀ {e : String} {a : Char}, e.toList.getLast? = some a → a ≠ 's' → a ≠ 'n' →
      ¬HasEnding e l := by
    intro e a ha hs hn hend
    rcases hF l hl with hmeta | hmeta
    · exact hend.ne hmeta (b := 's') ha (by decide) hs rfl
    · exact hend.ne hmeta (b := 'n') ha (by decide) hn rfl
  rcases List.mem_pair.1 hending with rfl | rfl
  · exact hne (a := 'p') (by decide) (by decide) (by decide)
      ((law t p ".tmp").locate (by decide) htemp).2
  · exact hne (a := 'k') (by decide) (by decide) (by decide)
      ((law t p ".bak").locate (by decide) htemp).2

variable {types bindings : Staged} {a b : String}

/-- **The files of a run can be published together** once they are staged. -/
theorem files_staged (law : chance.Lawful) {q : Request} {t₁ t₂ : FileTree}
    (h₁ : stage chance t 0 q.files.types a = (t₁, .ok types))
    (h₂ : stage chance t₁ 1 q.files.bindings b = (t₂, .ok bindings)) :
    StagesAll chance t 0 (q.files.texts a b) [types, bindings] t₂ ∧
      Publishable chance t (q.files.texts a b) := by
  have hall : StagesAll chance t 0 (q.files.texts a b) [types, bindings] t₂ :=
    .cons h₁ (.cons h₂ .nil)
  refine ⟨hall, ?_⟩
  obtain ⟨l₁, hl₁⟩ := hall.reached law (q.files.types, a) (List.mem_pair.2 (.inl rfl))
  obtain ⟨l₂, hl₂⟩ := hall.reached law (q.files.bindings, b) (List.mem_pair.2 (.inr rfl))
  -- the run may have a slash, so only the last part of it has the ending
  obtain ⟨root, front, last, hchild⟩ := Path.child_append q.directory q.run
  have htypes : q.files.types.parts = front ++ [last ++ typesSuffix] :=
    congrArg Path.parts (hchild _ isEnding_typesSuffix)
  have hbindings : q.files.bindings.parts = front ++ [last ++ bindingsSuffix] :=
    congrArg Path.parts (hchild _ isEnding_bindingsSuffix)
  have hend₁ := hasEnding_of_locate htypes (by decide) hl₁
  have hend₂ := hasEnding_of_locate hbindings (by decide) hl₂
  constructor
  case distinct =>
    rw [Files.texts, List.pairwise_pair, hl₁, hl₂]
    exact fun heq => hend₁.ne hend₂ (a := 's') (b := 'n') (by decide) (by decide) (by decide)
      (Except.ok.inj heq)
  case fresh =>
    refine law.fresh ?_
    rintro l ⟨p, hp, hl⟩
    rcases List.mem_pair.1 hp with rfl | rfl
    · exact .inl (hasEnding_of_locate htypes (by decide) hl)
    · exact .inr (hasEnding_of_locate hbindings (by decide) hl)

/-! ### Causes -/

/-- The file system is to blame. -/
def IsFile (c : Cause) : Prop := ∃ problem path, c = .file problem path

theorem locate_error_ne_null {problem : FileProblem} (hp : p.Clean)
    (h : t.locate p = .error problem) : problem ≠ .nullCharacter := by
  rintro rfl
  have hstep : ∀ {parts : List String} {l}, parts.foldlM t.step l ≠ .error .nullCharacter := by
    intro parts
    induction parts with
    | nil => intro l; exact nofun
    | cons name parts ih =>
      intro l
      rw [List.foldlM_cons]
      cases hs : t.step l name with
      | ok l' => exact ih
      | error e =>
        rintro ⟨⟩
        unfold step at hs
        split at hs <;> (try split at hs) <;> (try split at hs) <;> cases hs
  unfold locate at h
  split at h
  · rename_i problem hprob
    cases h
    unfold pathProblem? at hprob
    rw [if_neg (by simpa using Path.clean_iff.1 hp)] at hprob
    split at hprob <;> cases hprob
  · exact hstep h

theorem blame_locate_file (hp : p.Clean) (h : blame p (t.locate p) = .error c) : IsFile c := by
  cases hl : t.locate p with
  | ok l => simp [hl, blame] at h
  | error problem =>
    have hne := locate_error_ne_null hp hl
    simp only [hl, blame, Except.error.injEq] at h
    subst h
    cases problem <;> first | exact ⟨_, _, rfl⟩ | exact absurd rfl hne

theorem write_error_file {e : Content} (hp : p.Clean) (h : t.write p e = .error c) : IsFile c := by
  rcases bind_eq_error.1 h with hb | ⟨l, -, h⟩
  · exact blame_locate_file hp hb
  · split at h <;> cases h
    exact ⟨_, _, rfl⟩

theorem move_error_file (hp : p.Clean) (hq : q.Clean) (h : t.move p q = .error c) : IsFile c := by
  rcases bind_eq_error.1 h with hb | ⟨l, -, h⟩
  · exact blame_locate_file hp hb
  rcases bind_eq_error.1 h with hb | ⟨m, -, h⟩
  · exact blame_locate_file hq hb
  split at h <;> (try split at h) <;> (try split at h) <;> cases h <;> exact ⟨_, _, rfl⟩

theorem MadeUp.clean {ending : String} (h : MadeUp t p ending q) (hp : p.Clean)
    (he : '\x00' ∉ ending.toList) : q.Clean := by
  obtain ⟨⟨middle, hm, rfl⟩, -⟩ := h
  have hmiddle : '\x00' ∉ middle.toList := fun hc => by simpa using hm _ hc
  have hdot : '\x00' ∉ ".".toList := by decide
  refine hp.withName ?_
  simp only [String.toList_append, List.mem_append, not_or]
  exact ⟨⟨⟨⟨hdot, hp.name⟩, hdot⟩, hmiddle⟩, he⟩

theorem makeBeside_error_file (law : chance.Lawful) {point : Point} {ending : String}
    (hp : p.Clean) (he : '\x00' ∉ ending.toList)
    (h : makeBeside chance t point p ending = .error c) : IsFile c := by
  unfold makeBeside at h
  dsimp only at h
  split at h
  · cases h; exact ⟨_, _, rfl⟩
  · rcases bind_eq_error.1 h with hw | ⟨u, -, h⟩
    · exact write_error_file ((law t p ending).clean hp he) hw
    · cases h

theorem moveAt_error_file {point : Point} (hp : p.Clean) (hq : q.Clean)
    (h : moveAt chance t point p q = .error c) : IsFile c := by
  unfold moveAt at h
  split at h
  · cases h; exact ⟨_, _, rfl⟩
  · exact move_error_file hp hq h

theorem writeAt_error_file {point : Point} (hp : p.Clean)
    (h : writeAt chance t point p text = .error c) : IsFile c := by
  unfold writeAt at h
  split at h
  · cases h; exact ⟨_, _, rfl⟩
  · exact write_error_file hp h

theorem stage_error_file (law : chance.Lawful) (hf : final.Clean)
    (h : stage chance t i final text = (t', .error c)) : IsFile c := by
  obtain ⟨-, hmade⟩ | ⟨made, temp, hmade, hw, -⟩ := stage_error_inv h
  · exact makeBeside_error_file law hf (by decide) hmade
  · obtain ⟨-, rfl, -⟩ := makeBeside_inv law (by decide) hmade
    exact writeAt_error_file ((law _ _ _).clean hf (by decide)) hw

theorem setAside_error_file (law : chance.Lawful) (hf : final.Clean)
    (h : setAside chance t i final = (t', .error c)) : IsFile c := by
  obtain ⟨-, hmade⟩ | ⟨made, b, hmade, hmoved, -⟩ := setAside_error_inv h
  · exact makeBeside_error_file law hf (by decide) hmade
  · obtain ⟨-, rfl, -⟩ := makeBeside_inv law (by decide) hmade
    exact moveAt_error_file hf ((law _ _ _).clean hf (by decide)) hmoved

theorem publishFrom_error_file (law : chance.Lawful) {staged : List Staged} :
    ∀ {t published i}, (∀ s ∈ staged, s.temp.Clean ∧ s.final.Clean) →
      publishFrom chance t published i staged = (t', .error c) → IsFile c := by
  induction staged with
  | nil => intro t published i _ h; cases h
  | cons s rest ih =>
    intro t published i hc h
    obtain ⟨htemp, hfinal⟩ := hc s List.mem_cons_self
    obtain ⟨_, _, ha, he⟩ | ⟨_, _, _, -, hm, he⟩ | ⟨_, _, _, -, -, he⟩ :=
      publishFrom_cons_cases chance t published i s rest
    · rw [he] at h
      cases h
      exact setAside_error_file law hfinal ha
    · rw [he] at h
      cases h
      exact moveAt_error_file htemp hfinal hm
    · exact ih (fun s' hs' => hc s' (List.mem_cons_of_mem _ hs')) (he.symm.trans h)

/-- **Where paths have no null characters, only the file system keeps files from being
published.** -/
theorem publish_error_file (law : chance.Lawful) {staged : List Staged}
    (hc : ∀ s ∈ staged, s.temp.Clean ∧ s.final.Clean)
    (h : publish chance t staged = (t', .error c)) : IsFile c := by
  unfold publish at h
  split at h
  · rename_i hp; cases h; exact publishFrom_error_file law hc hp
  · cases h

end Metadata

end SoapStubs
