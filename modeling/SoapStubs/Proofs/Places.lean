import SoapStubs.Proofs.Subtrees

/-!
# Where paths lead to

A path leads to the same location in every tree in which it leads anywhere, so what is done to
different trees along the same paths can be compared by location.

* `Path.place` is that location, and `Path.way` are the locations that a path passes;
* `FileTree.Changes ways X` relates a tree to one that has changed in `X` and has some more
  directories in `ways`: this is what writing files and making directories come to;
* `FileTree.Near ways X` relates trees that differ in `X` and, as far as directories go, in `ways`.
  What changes two such trees in the same places keeps them near (`Near.changes`).
-/

namespace SoapStubs

/-! ### Places -/

namespace Path

variable {p : Path} {s ending : String}

/-- Where a part of a path leads to from a location. -/
def follow (l : Location) (name : String) : Location :=
  if name = ".." then l.dropLast else l ++ [name]

def place (p : Path) : Location := p.parts.foldl follow (FileTree.start p)

/-- The locations that a path passes, up to its own. -/
def way (p : Path) : Set Location := { l | ∃ names, names <+: p.parts ∧ l = place ⟨p.root, names⟩ }

theorem place_mem_way (p : Path) : p.place ∈ p.way := ⟨p.parts, List.prefix_refl _, rfl⟩

theorem way_mono {root : String} {names names' : List String} (h : names <+: names') :
    way ⟨root, names⟩ ⊆ way ⟨root, names'⟩ := by
  rintro l ⟨front, hfront, rfl⟩
  exact ⟨front, hfront.trans h, rfl⟩

theorem foldl_follow {names : List String} (h : ".." ∉ names) (l : Location) :
    names.foldl follow l = l ++ names := by
  induction names generalizing l with
  | nil => simp
  | cons name names ih =>
    rw [List.mem_cons, not_or] at h
    rw [List.foldl_cons, ih h.2, follow, if_neg (Ne.symm h.1), List.append_assoc]
    rfl

/-- The text is the name of something in a directory. -/
structure IsName (s : String) : Prop where
  /-- It is a part of a path. -/
  part : isPart s = true
  /-- It does not lead upwards. -/
  down : s ≠ ".."
  slash : '/' ∉ s.toList

theorem isName_append (hs : '/' ∉ s.toList) (he : '/' ∉ ending.toList)
    (hlength : 2 < ending.length) : IsName (s ++ ending) :=
  ⟨isPart_append (by omega), Metadata.append_ne_dots hlength, by simp [hs, he]⟩

namespace IsName

variable (h : IsName s)

include h

theorem child_eq (p : Path) : p.child s = ⟨p.root, p.parts ++ [s]⟩ := by
  rw [child, ofText_of_isPart h.part h.slash, join, if_pos rfl]

theorem parent_child (p : Path) : (p.child s).parent = p := by
  rw [h.child_eq, parent, List.dropLast_concat]

theorem place_child (p : Path) : (p.child s).place = p.place ++ [s] := by
  rw [h.child_eq, place, List.foldl_append, List.foldl_cons, List.foldl_nil, follow, if_neg h.down]
  rfl

/-- The way to something in a directory is the way to the directory, and one step. -/
theorem mem_way_child {l : Location} : l ∈ (p.child s).way ↔ l ∈ p.way ∨ l = p.place ++ [s] := by
  rw [h.child_eq]
  constructor
  · rintro ⟨names, hnames, rfl⟩
    rcases List.prefix_concat_iff.1 hnames with rfl | hfront
    · rw [← h.place_child, h.child_eq]
      exact .inr rfl
    · exact .inl ⟨names, hfront, rfl⟩
  · rintro (hl | rfl)
    · exact way_mono (List.prefix_append _ _) hl
    · rw [← h.place_child, h.child_eq]
      exact place_mem_way _

end IsName

end Path

namespace FileTree

variable {t t' u u' v : FileTree} {p : Path} {l x : Location} {ways ways' X Y : Set Location}

theorem foldlM_step_place {names : List String} :
    ∀ {l}, names.foldlM t.step l = .ok x → x = names.foldl Path.follow l := by
  induction names with
  | nil =>
    intro l h
    exact (Except.ok.inj h).symm
  | cons name names ih =>
    intro l h
    rw [List.foldlM_cons] at h
    obtain ⟨m, hs, h⟩ := bind_eq_ok.1 h
    obtain ⟨-, -, rfl⟩ := step_eq_ok_iff.1 hs
    exact ih h

/-- **A path leads to its place**, if it leads anywhere. -/
theorem place_of_locate (h : t.locate p = .ok l) : p.place = l :=
  (foldlM_step_place (locate_eq_ok_iff.1 h).2).symm

theorem leads_iff_isDirectory : Leads t p p.place ↔ t.isDirectory p = true := by
  rw [isDirectory_iff]
  constructor
  · intro h
    exact ⟨_, h.locate, h.directory⟩
  · rintro ⟨l, hl, hdir⟩
    obtain rfl := place_of_locate hl
    exact ⟨hl, hdir⟩

/-- Where a path leads to a directory, it passes directories only. -/
theorem Leads.way (h : Leads t p l) (hx : x ∈ p.way) : t.lookup x = some .directory := by
  obtain ⟨names, ⟨rest, hparts⟩, rfl⟩ := hx
  have hway := (locate_eq_ok_iff.1 h.locate).2
  rw [← hparts, List.foldlM_append] at hway
  obtain ⟨d, hnames, hway⟩ := bind_eq_ok.1 hway
  have hd : d = Path.place ⟨p.root, names⟩ := foldlM_step_place hnames
  rw [← hd]
  cases rest with
  | nil =>
    obtain rfl := Except.ok.inj hway
    exact h.directory
  | cons name rest =>
    rw [List.foldlM_cons] at hway
    obtain ⟨m, hs, -⟩ := bind_eq_ok.1 hway
    exact (step_eq_ok_iff.1 hs).1

/-- When there is a directory in a directory. -/
theorem isDirectory_child {s : String} (hs : Path.IsName s) : t.isDirectory (p.child s) = true ↔
    t.isDirectory p = true ∧ pathProblem? (p.child s) = none ∧ s.utf8ByteSize ≤ longestName ∧
      t.lookup (p.place ++ [s]) = some .directory := by
  rw [← leads_iff_isDirectory, ← leads_iff_isDirectory, hs.place_child]
  constructor
  · rintro ⟨hl, hdir⟩
    rw [hs.child_eq] at hl ⊢
    obtain ⟨hproblem, hway⟩ := locate_eq_ok_iff.1 hl
    obtain ⟨d, hd, hstep⟩ := foldlM_step_concat.1 hway
    obtain ⟨hdird, hsize, -⟩ := step_eq_ok_iff.1 hstep
    have hl' : t.locate p = .ok d := locate_eq_ok_iff.2 ⟨pathProblem?_of_concat hproblem, hd⟩
    obtain rfl := place_of_locate hl'
    exact ⟨⟨hl', hdird⟩, hproblem, hsize, hdir⟩
  · rintro ⟨h, hproblem, hsize, hdir⟩
    refine ⟨?_, hdir⟩
    rw [hs.child_eq] at hproblem ⊢
    exact locate_eq_ok_iff.2 ⟨hproblem, foldlM_step_concat.2
      ⟨p.place, (locate_eq_ok_iff.1 h.locate).2, h.step hs.down hsize⟩⟩

/-! ### Changes -/

/-- The second tree has changed in `X`, and has some more directories in `ways`. -/
def Changes (ways X : Set Location) (t t' : FileTree) : Prop :=
  ∀ l ∉ X, t'.lookup l = t.lookup l ∨
    l ∈ ways ∧ t.lookup l = none ∧ t'.lookup l = some .directory

namespace Changes

theorem refl (ways X : Set Location) (t : FileTree) : Changes ways X t t := fun _ _ => .inl rfl

theorem trans (h : Changes ways X t u) (h' : Changes ways X u v) : Changes ways X t v := by
  intro l hl
  rcases h' l hl with hsame' | ⟨hway, hnone, hdir⟩
  · rw [hsame']
    exact h l hl
  · rcases h l hl with hsame | ⟨-, -, hdir'⟩
    · exact .inr ⟨hway, hsame ▸ hnone, hdir⟩
    · rw [hnone] at hdir'
      cases hdir'

theorem mono (h : Changes ways X t t') (hways : ∀ l ∈ ways, l ∉ Y → l ∈ ways') (hX : X ⊆ Y) :
    Changes ways' Y t t' := by
  intro l hl
  rcases h l (fun hx => hl (hX hx)) with hsame | ⟨hway, hmade⟩
  · exact .inl hsame
  · exact .inr ⟨hways l hway hl, hmade⟩

/-- One entry has changed. -/
theorem of_update {e : Option Entry} (ways : Set Location)
    (h : t'.lookup = Function.update t.lookup l e) : Changes ways {l} t t' := by
  intro x hx
  rw [h, Function.update_of_ne hx]
  exact .inl rfl

/-- Files elsewhere are as they were. -/
theorem fileAt (h : Changes ways X t t') (hl : l ∉ X) : t'.fileAt l = t.fileAt l := by
  rcases h l hl with hsame | ⟨-, hnone, hdir⟩
  · exact fileAt_congr hsame
  · simp only [FileTree.fileAt, hnone, hdir]

/-- Directories elsewhere are still there. -/
theorem directory (h : Changes ways X t t') (hl : l ∉ X) (hdir : t.lookup l = some .directory) :
    t'.lookup l = some .directory := by
  rcases h l hl with hsame | ⟨-, hnone, -⟩
  · rw [hsame, hdir]
  · rw [hdir] at hnone
    cases hnone

end Changes

theorem ensureDirectory_changes (h : t.ensureDirectory p = .ok t') : Changes p.way ∅ t t' := by
  rcases ensureDirectory_ok h with hmade | ⟨rfl, -⟩
  · obtain ⟨l, hl, hnone, hlookup⟩ := makeDirectory_ok hmade
    obtain rfl := place_of_locate hl
    intro x _
    by_cases hx : x = p.place
    · rw [hx, hlookup, Function.update_self]
      exact .inr ⟨p.place_mem_way, hnone, rfl⟩
    · rw [hlookup, Function.update_of_ne hx]
      exact .inl rfl
  · exact .refl _ _ t'

/-- **Directories are made on the way of the path only.** -/
theorem makeDirectories_changes (h : t.makeDirectories p = .ok t') : Changes p.way ∅ t t' := by
  refine makeDirectories_induction (R := fun p => Changes p.way ∅) ensureDirectory_changes ?_ h
  intro root k a t u t' habove hbelow
  have hmono := habove.mono (fun l hl _ => Path.way_mono (List.prefix_append k [a]) hl)
    (Set.Subset.refl ∅)
  exact hmono.trans hbelow

/-! ### Trees that are near -/

/-- Outside of `X` the trees have the same files, and outside of `ways` the same entries. -/
structure Near (ways X : Set Location) (t u : FileTree) : Prop where
  /-- They have the same files. -/
  files : ∀ l ∉ X, t.fileAt l = u.fileAt l
  /-- They have the same entries, but for directories. -/
  entries : ∀ l ∉ X, l ∉ ways → t.lookup l = u.lookup l

namespace Near

theorem refl (ways X : Set Location) (t : FileTree) : Near ways X t t :=
  ⟨fun _ _ => rfl, fun _ _ _ => rfl⟩

theorem mono (h : Near ways X t u) (hways : ways ⊆ ways') (hX : X ⊆ Y) : Near ways' Y t u :=
  ⟨fun l hl => h.files l fun hx => hl (hX hx),
    fun l hl hway => h.entries l (fun hx => hl (hX hx)) fun hw => hway (hways hw)⟩

/-- **What changes both trees in the same places** keeps them near. -/
theorem changes (h : Near ways X t u) (ht : Changes ways X t t') (hu : Changes ways X u u') :
    Near ways X t' u' := by
  constructor
  · intro l hl
    rw [ht.fileAt hl, hu.fileAt hl, h.files l hl]
  · intro l hl hway
    have hsame : ∀ {a a' : FileTree}, Changes ways X a a' → a'.lookup l = a.lookup l :=
      fun ha => (ha l hl).resolve_right fun hmade => hway hmade.1
    rw [hsame ht, hsame hu, h.entries l hl hway]

/-- Trees that have changed in `Y` are still near if they have the same there. -/
theorem changes_same (h : Near ways X t u) (ht : Changes ways (X ∪ Y) t t')
    (hu : Changes ways (X ∪ Y) u u') (hfiles : ∀ l ∈ Y, t'.fileAt l = u'.fileAt l)
    (hentries : ∀ l ∈ Y, l ∉ ways → t'.lookup l = u'.lookup l) : Near ways X t' u' := by
  have hnear := (h.mono (Set.Subset.refl ways) Set.subset_union_left).changes ht hu
  constructor
  · intro l hl
    by_cases hy : l ∈ Y
    · exact hfiles l hy
    · exact hnear.files l (by simp [hl, hy])
  · intro l hl hway
    by_cases hy : l ∈ Y
    · exact hentries l hy hway
    · exact hnear.entries l (by simp [hl, hy]) hway

end Near

end FileTree

end SoapStubs
