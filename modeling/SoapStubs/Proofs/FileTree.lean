import Mathlib.Data.Set.Insert
import SoapStubs.FileTree
import SoapStubs.Proofs.Ordered
import SoapStubs.Proofs.Outcome

/-!
# File trees as maps

What the operations on file trees do to the map `FileTree.lookup` from locations to entries.

* `KeepsDirectories` and `SameDirectories` relate trees by their directories; a path that leads to a
  location leads there also in a tree that keeps the directories (`KeepsDirectories.locate`);
* `write_spec`, `move_spec` and `remove_spec` describe the operations on files as updates of the
  map, `write_inv` says what a success tells about the tree before;
* `AgreeOff X` relates maps that differ at locations in `X` only, and have no directories there.
-/

namespace SoapStubs.FileTree

variable {t t' : FileTree} {p q : Path} {l m : Location}

/-! ### The map -/

/-- What the file at a location holds, if there is a file. -/
def fileAt (t : FileTree) (l : Location) : Option Content :=
  match t.lookup l with
  | some (.file c) => some c
  | _ => none

theorem fileAt_congr (h : t'.lookup l = t.lookup l) : t'.fileAt l = t.fileAt l := by
  simp only [fileAt, h]

theorem fileAt_eq_some_iff {c : Content} : t.fileAt l = some c ↔ t.lookup l = some (.file c) := by
  unfold fileAt
  split <;> simp_all

theorem lookup_put (h : t.lookup l ≠ some .directory) (e : Entry) :
    lookup ⟨t.entries.put l e⟩ = Function.update t.lookup l (some e) := by
  funext x
  by_cases hr : l = [] ∨ l = ["/"] ∨ l = ["//"]
  · simp [lookup, hr] at h
  by_cases hx : x = l
  · subst hx
    simp [lookup, hr, Ordered.get?_put]
  · simp [lookup, Ordered.get?_put, hx]

theorem lookup_erase (h : t.lookup l ≠ some .directory) :
    lookup ⟨t.entries.erase l⟩ = Function.update t.lookup l none := by
  funext x
  by_cases hr : l = [] ∨ l = ["/"] ∨ l = ["//"]
  · simp [lookup, hr] at h
  by_cases hx : x = l
  · subst hx
    simp [lookup, hr, Ordered.get?_erase]
  · simp [lookup, Ordered.get?_erase, hx]

/-! ### Paths -/

/-- The directories of the first tree are directories of the second. -/
def KeepsDirectories (t t' : FileTree) : Prop :=
  ∀ l, t.lookup l = some .directory → t'.lookup l = some .directory

/-- The trees have the same directories. -/
def SameDirectories (t t' : FileTree) : Prop :=
  ∀ l, t.lookup l = some .directory ↔ t'.lookup l = some .directory

theorem SameDirectories.keeps (h : SameDirectories t t') : KeepsDirectories t t' :=
  fun l => (h l).1

theorem SameDirectories.symm (h : SameDirectories t t') : SameDirectories t' t :=
  fun l => (h l).symm

theorem SameDirectories.of_update {e : Option Entry} (hl : t.lookup l ≠ some .directory)
    (he : e ≠ some .directory) (h : t'.lookup = Function.update t.lookup l e) :
    SameDirectories t t' := by
  intro x
  rw [h]
  by_cases hx : x = l
  · subst hx; simp [hl, he]
  · rw [Function.update_of_ne hx]

theorem step_eq_ok_iff {name : String} :
    t.step l name = .ok m ↔ t.lookup l = some .directory ∧ name.utf8ByteSize ≤ longestName ∧
      m = if name = ".." then l.dropLast else l ++ [name] := by
  unfold step
  split
  · rename_i h; simp [h]
  · rename_i h; simp [h]
  · rename_i h
    simp only [h, true_and]
    split
    · rename_i hn; simp [Nat.not_le.2 hn]
    · rename_i hn
      split <;> simp_all [eq_comm]

/-- A way through directories that are kept leads to the same location. -/
theorem KeepsDirectories.foldlM_step (h : KeepsDirectories t t') {parts : List String} :
    ∀ {l}, parts.foldlM t.step l = .ok m → parts.foldlM t'.step l = .ok m := by
  induction parts with
  | nil => exact id
  | cons name parts ih =>
    intro l hl
    rw [List.foldlM_cons, bind_eq_ok] at hl ⊢
    obtain ⟨l', hs, hl⟩ := hl
    obtain ⟨hdir, hname⟩ := step_eq_ok_iff.1 hs
    exact ⟨l', step_eq_ok_iff.2 ⟨h l hdir, hname⟩, ih hl⟩

theorem foldlM_step_of_sameDirectories (h : SameDirectories t t') {parts : List String} {l}
    (hl : parts.foldlM t.step l = .ok m) : parts.foldlM t'.step l = .ok m :=
  h.keeps.foldlM_step hl

/-- Where a path sets out from. -/
def start (p : Path) : Location := if p.root = "" then [] else [p.root]

theorem locate_eq_ok_iff :
    t.locate p = .ok l ↔ pathProblem? p = none ∧ p.parts.foldlM t.step (start p) = .ok l := by
  unfold locate
  split
  · rename_i h; simp [h]
  · rename_i h; simp [h, start]

theorem foldlM_step_concat {front : List String} {name : String} {d : Location} :
    (front ++ [name]).foldlM t.step d = .ok l ↔
      ∃ d', front.foldlM t.step d = .ok d' ∧ t.step d' name = .ok l := by
  rw [List.foldlM_append, bind_eq_ok]
  simp only [List.foldlM_cons, List.foldlM_nil, bind_pure]

theorem KeepsDirectories.locate (h : KeepsDirectories t t') (hl : t.locate p = .ok l) :
    t'.locate p = .ok l := by
  rw [locate_eq_ok_iff] at hl ⊢
  exact ⟨hl.1, h.foldlM_step hl.2⟩

/-- A path leads to the same location in trees with the same directories. -/
theorem SameDirectories.locate (h : SameDirectories t t') (hl : t.locate p = .ok l) :
    t'.locate p = .ok l :=
  h.keeps.locate hl

theorem find?_of_locate (h : t.locate p = .ok l) : t.find? p = t.lookup l := by
  simp [find?, h]

theorem has_of_locate (h : t.locate p = .ok l) : t.has p = (t.lookup l).isSome := by
  rw [has, find?_of_locate h]

theorem isDirectory_iff_of_locate (h : t.locate p = .ok l) :
    t.isDirectory p = true ↔ t.lookup l = some .directory := by
  unfold isDirectory
  rw [find?_of_locate h]
  split <;> simp_all

/-! ### Operations that succeed -/

theorem blame_eq_ok {α : Type} {x : Except FileProblem α} {a : α} :
    blame p x = .ok a ↔ x = .ok a := by
  cases x <;> simp [blame]

theorem write_eq_ok {c : Content} : t.write p c = .ok t' ↔ ∃ l, t.locate p = .ok l ∧
    t.lookup l ≠ some .directory ∧ t' = ⟨t.entries.put l (.file c)⟩ := by
  simp only [write, bind_eq_ok, blame_eq_ok]
  refine exists_congr fun l => and_congr_right fun _ => ?_
  split <;> grind

theorem read_eq_ok {c : Content} :
    t.read p = .ok c ↔ ∃ l, t.locate p = .ok l ∧ t.lookup l = some (.file c) := by
  simp only [read, bind_eq_ok, blame_eq_ok]
  refine exists_congr fun l => and_congr_right fun _ => ?_
  split <;> simp_all

theorem remove_eq_ok : t.remove p = .ok t' ↔ ∃ l, t.locate p = .ok l ∧
    (∃ c, t.lookup l = some (.file c)) ∧ t' = ⟨t.entries.erase l⟩ := by
  simp only [remove, bind_eq_ok, blame_eq_ok]
  refine exists_congr fun l => and_congr_right fun _ => ?_
  split <;> grind

theorem makeDirectory_eq_ok : t.makeDirectory p = .ok t' ↔ ∃ l, t.locate p = .ok l ∧
    t.lookup l = none ∧ t' = ⟨t.entries.put l .directory⟩ := by
  simp only [makeDirectory, bind_eq_ok]
  refine exists_congr fun l => and_congr_right fun _ => ?_
  split <;> grind

/-- A move does nothing, or takes a directory with all that is below it, or a file. -/
theorem move_inv (h : t.move p q = .ok t') : ∃ l m, t.locate p = .ok l ∧ t.locate q = .ok m ∧
    (l = m ∧ t' = t ∨ t.lookup l = some .directory ∧ t' = t.relocate l m ∨
      ∃ c, t.lookup l = some (.file c) ∧ t.lookup m ≠ some .directory ∧
        t' = ⟨(t.entries.erase l).put m (.file c)⟩) := by
  simp only [move, bind_eq_ok, blame_eq_ok] at h
  obtain ⟨l, hl, m, hm, h⟩ := h
  refine ⟨l, m, hl, hm, ?_⟩
  split at h <;> grind

/-! ### Operations on files -/

theorem write_spec (hl : t.locate p = .ok l) (hd : t.lookup l ≠ some .directory) (c : Content) :
    ∃ t', t.write p c = .ok t' ∧ t'.lookup = Function.update t.lookup l (some (.file c)) :=
  ⟨_, write_eq_ok.2 ⟨l, hl, hd, rfl⟩, lookup_put hd _⟩

theorem write_inv {c : Content} (h : t.write p c = .ok t') :
    ∃ l, t.locate p = .ok l ∧ t.lookup l ≠ some .directory ∧
      t'.lookup = Function.update t.lookup l (some (.file c)) := by
  obtain ⟨l, hl, hd, rfl⟩ := write_eq_ok.1 h
  exact ⟨l, hl, hd, lookup_put hd _⟩

theorem remove_spec {c : Content} (hl : t.locate p = .ok l) (hc : t.lookup l = some (.file c)) :
    ∃ t', t.remove p = .ok t' ∧ t'.lookup = Function.update t.lookup l none :=
  ⟨_, remove_eq_ok.2 ⟨l, hl, ⟨c, hc⟩, rfl⟩, lookup_erase (by simp [hc])⟩

theorem move_spec {c : Content} (hl : t.locate p = .ok l) (hm : t.locate q = .ok m)
    (hc : t.lookup l = some (.file c)) (hd : t.lookup m ≠ some .directory) (hne : l ≠ m) :
    ∃ t', t.move p q = .ok t' ∧
      t'.lookup = Function.update (Function.update t.lookup l none) m (some (.file c)) := by
  have he : lookup ⟨t.entries.erase l⟩ = Function.update t.lookup l none :=
    lookup_erase (by simp [hc])
  refine ⟨⟨(t.entries.erase l).put m (.file c)⟩, ?_, ?_⟩
  · simp only [move, hl, hm, hc, blame, ok_bind]
    split <;> simp_all
  · rw [lookup_put (t := ⟨t.entries.erase l⟩), he]
    rw [he, Function.update_of_ne (Ne.symm hne)]
    exact hd

theorem move_directory_over_file {c : Content} (hl : t.locate p = .ok l)
    (hm : t.locate q = .ok m) (hd : t.lookup l = some .directory)
    (hc : t.lookup m = some (.file c)) : t.move p q = .error (.file .notDirectory p.text) := by
  simp only [move, hl, hm, hd, hc, blame, ok_bind]

/-! ### The number of entries -/

theorem write_length {c : Content} (h : t.write p c = .ok t') :
    t'.entries.length ≤ t.entries.length + 1 := by
  obtain ⟨l, -, -, rfl⟩ := write_eq_ok.1 h
  exact Ordered.length_put_le ..

theorem relocate_length (t : FileTree) (l m : Location) :
    (t.relocate l m).entries.length ≤ t.entries.length := by
  simp only [relocate, List.length_map]
  exact List.length_filter_le ..

theorem move_length (h : t.move p q = .ok t') : t'.entries.length ≤ t.entries.length + 1 := by
  obtain ⟨l, m, -, -, ⟨-, rfl⟩ | ⟨-, rfl⟩ | ⟨c, -, -, rfl⟩⟩ := move_inv h
  · exact Nat.le_succ _
  · exact Nat.le_succ_of_le (t.relocate_length l m)
  · exact Nat.le_trans (Ordered.length_put_le ..) (Nat.succ_le_succ (List.length_filter_le ..))

/-! ### Operations on directories -/

theorem isDirectory_iff :
    t.isDirectory p = true ↔ ∃ l, t.locate p = .ok l ∧ t.lookup l = some .directory := by
  constructor
  · intro h
    cases hl : t.locate p with
    | error e => simp [isDirectory, find?, hl] at h
    | ok l => exact ⟨l, rfl, (isDirectory_iff_of_locate hl).1 h⟩
  · rintro ⟨l, hl, hdir⟩
    exact (isDirectory_iff_of_locate hl).2 hdir

theorem pathProblem?_of_isDirectory (h : t.isDirectory p = true) : pathProblem? p = none := by
  obtain ⟨l, hl, -⟩ := isDirectory_iff.1 h
  exact (locate_eq_ok_iff.1 hl).1

/-- Making a directory leaves all files as they are. -/
theorem makeDirectory_inv (h : t.makeDirectory p = .ok t') :
    pathProblem? p = none ∧ t'.fileAt = t.fileAt := by
  obtain ⟨l, hl, hn, rfl⟩ := makeDirectory_eq_ok.1 h
  refine ⟨(locate_eq_ok_iff.1 hl).1, funext fun x => ?_⟩
  unfold fileAt
  rw [lookup_put (by simp [hn])]
  by_cases hx : x = l
  · simp [hx, hn]
  · rw [Function.update_of_ne hx]

theorem ensureDirectory_inv (h : t.ensureDirectory p = .ok t') :
    pathProblem? p = none ∧ t'.fileAt = t.fileAt := by
  unfold ensureDirectory at h
  split at h
  · rename_i hm; cases h; exact makeDirectory_inv hm
  · split at h
    · rename_i hd; cases h; exact ⟨pathProblem?_of_isDirectory hd, rfl⟩
    · cases h

theorem makeUpwards_inv {root : String} {above : List String} :
    ∀ {t'}, t.makeUpwards root above = .ok t' →
      pathProblem? ⟨root, above.reverse⟩ = none ∧ t'.fileAt = t.fileAt := by
  induction above with
  | nil => exact ensureDirectory_inv
  | cons last above ih =>
    intro t' h
    unfold makeUpwards at h
    dsimp only at h
    split at h
    · rename_i hm; cases h; exact makeDirectory_inv hm
    · obtain ⟨u, hu, h⟩ := bind_eq_ok.1 h
      obtain ⟨hp, hf⟩ := ensureDirectory_inv h
      exact ⟨hp, hf.trans (ih hu).2⟩
    · split at h
      · rename_i hd; cases h; exact ⟨pathProblem?_of_isDirectory hd, rfl⟩
      · cases h

/-- **Making a directory with those above it leaves all files as they are.** -/
theorem makeDirectories_inv (h : t.makeDirectories p = .ok t') :
    pathProblem? p = none ∧ t'.fileAt = t.fileAt := by
  simpa using makeUpwards_inv h

theorem makeDirectory_of_isDirectory (h : t.isDirectory p = true) :
    t.makeDirectory p = .error .exists := by
  obtain ⟨l, hl, hd⟩ := isDirectory_iff.1 h
  simp [makeDirectory, hl, hd]

/-- A directory that is there is left as it is. -/
theorem makeDirectories_of_isDirectory (h : t.isDirectory p = true) :
    t.makeDirectories p = .ok t := by
  obtain ⟨root, parts⟩ := p
  rw [makeDirectories]
  cases hp : parts.reverse with
  | nil =>
    obtain rfl := List.reverse_eq_nil_iff.1 hp
    rw [makeUpwards, ensureDirectory, makeDirectory_of_isDirectory h]
    exact if_pos h
  | cons last above =>
    rw [makeUpwards, ← hp, List.reverse_reverse, makeDirectory_of_isDirectory h]
    exact if_pos h

/-! ### Trees that differ in few places -/

/-- The maps differ at locations in `X` only, and neither has a directory there. -/
structure AgreeOff (X : Set Location) (v w : Location → Option Entry) : Prop where
  /-- Elsewhere they have the same entries. -/
  entry : ∀ l, l ∉ X → v l = w l
  /-- The first has no directory there. -/
  left : ∀ l ∈ X, v l ≠ some .directory
  /-- The second has none either. -/
  right : ∀ l ∈ X, w l ≠ some .directory

namespace AgreeOff

variable {X Y : Set Location} {v w x : Location → Option Entry} {e : Option Entry}

theorem refl (hX : ∀ l ∈ X, v l ≠ some .directory) : AgreeOff X v v := ⟨fun _ _ => rfl, hX, hX⟩

theorem directory_iff (h : AgreeOff X v w) (l : Location) :
    v l = some .directory ↔ w l = some .directory := by
  by_cases hl : l ∈ X
  · simp [h.left l hl, h.right l hl]
  · rw [h.entry l hl]

theorem sameDirectories (h : AgreeOff X t.lookup t'.lookup) : SameDirectories t t' :=
  h.directory_iff

theorem mono (h : AgreeOff X v w) (hXY : X ⊆ Y) (hY : ∀ l ∈ Y, v l ≠ some .directory) :
    AgreeOff Y v w :=
  ⟨fun l hl => h.entry l fun hx => hl (hXY hx), hY,
    fun l hl hd => hY l hl ((h.directory_iff l).2 hd)⟩

theorem trans (h : AgreeOff X v w) (h' : AgreeOff X w x) : AgreeOff X v x :=
  ⟨fun l hl => (h.entry l hl).trans (h'.entry l hl), h.left, h'.right⟩

/-- A change that both maps undergo keeps them as near as they are. -/
theorem update (h : AgreeOff X v w) (hl : l ∉ X) :
    AgreeOff X (Function.update v l e) (Function.update w l e) := by
  refine ⟨fun k hk => ?_, fun k hk => ?_, fun k hk => ?_⟩
  · by_cases hkl : k = l
    · subst hkl; simp
    · rw [Function.update_of_ne hkl, Function.update_of_ne hkl, h.entry k hk]
  · rw [Function.update_of_ne (ne_of_mem_of_not_mem hk hl)]
    exact h.left k hk
  · rw [Function.update_of_ne (ne_of_mem_of_not_mem hk hl)]
    exact h.right k hk

/-- A change at a location in `X` to what is no directory does not count. -/
theorem update_mem (h : AgreeOff X v w) (hl : l ∈ X) (he : e ≠ some .directory) :
    AgreeOff X v (Function.update w l e) := by
  refine ⟨fun k hk => ?_, h.left, fun k hk => ?_⟩
  · rw [Function.update_of_ne (ne_of_mem_of_not_mem hl hk).symm, h.entry k hk]
  · by_cases hkl : k = l
    · subst hkl; simpa using he
    · rw [Function.update_of_ne hkl]
      exact h.right k hk

end AgreeOff

end SoapStubs.FileTree
