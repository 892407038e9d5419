import SoapStubs.Proofs.RollBack

/-!
# Publishing is all or nothing

Publishing staged files either moves all of them or leaves every final place as it was, whatever
is refused on the way.  The argument for the second half is by induction on the staged files.  What
it carries is that the places written so far can be put back and that putting them back ends in the
tree from before the first of them, but for the staged files that were moved: a step adds one
place, and putting that place back leads to the tree before the step.

* `Ready` says when staged files can be published;
* `Step` is what publishing one of them does, and `Step.ready` says that the others stay ready;
* `publishFrom_error` and `publishFrom_ok` describe the tree after a failure and after a success;
* `publish_error_of_hindered` and `publish_ok_of_not_hindered` say when which of them comes about.
-/

namespace SoapStubs.Metadata

open FileTree

variable {chance : Chance} {F : Set Location} {t t' t₁ u : FileTree} {l m : Location} {final : Path}
  {backup : Option Path}

/-! ### Staged files -/

def temps (t : FileTree) (staged : List Staged) : Set Location :=
  {l | ∃ s ∈ staged, t.locate s.temp = .ok l}

/-- The staged files can be published: they are there, and their final places are in `F` and no two
of them are the same. -/
structure Ready (F : Set Location) (t : FileTree) (staged : List Staged) : Prop where
  /-- The staged files are there. -/
  temp : ∀ s ∈ staged, ∃ c, t.read s.temp = .ok c
  /-- Their final places can be reached. -/
  final : ∀ s ∈ staged, ∃ l ∈ F, t.locate s.final = .ok l
  /-- No two staged files are the same. -/
  temps : staged.Pairwise fun s s' => t.locate s.temp ≠ t.locate s'.temp
  /-- No two final places are the same. -/
  finals : staged.Pairwise fun s s' => t.locate s.final ≠ t.locate s'.final
  /-- No staged file stands at a final place. -/
  apart : ∀ s ∈ staged, ∀ l ∈ F, t.locate s.temp ≠ .ok l

namespace Ready

variable {s : Staged} {staged rest : List Staged}

theorem exists_temp (h : Ready F t staged) (hs : s ∈ staged) :
    ∃ l c, t.locate s.temp = .ok l ∧ t.lookup l = some (.file c) := by
  obtain ⟨c, hc⟩ := h.temp s hs
  obtain ⟨l, hl, he⟩ := read_eq_ok.1 hc
  exact ⟨l, c, hl, he⟩

theorem lookup_temps (h : Ready F t staged) (hl : l ∈ Metadata.temps t staged) :
    ∃ c, t.lookup l = some (.file c) := by
  obtain ⟨s, hs, hl⟩ := hl
  obtain ⟨l', c, hl', he⟩ := h.exists_temp hs
  rw [hl] at hl'
  cases hl'
  exact ⟨c, he⟩

theorem not_directory_of_mem_temps (h : Ready F t staged) (hl : l ∈ Metadata.temps t staged) :
    t.lookup l ≠ some .directory := by
  obtain ⟨c, hc⟩ := h.lookup_temps hl
  simp [hc]

theorem ne_none_of_mem_temps (h : Ready F t staged) (hl : l ∈ Metadata.temps t staged) :
    t.lookup l ≠ none := by
  obtain ⟨c, hc⟩ := h.lookup_temps hl
  simp [hc]

theorem final_mem (h : Ready F t staged) (hs : s ∈ staged) (hl : t.locate s.final = .ok l) :
    l ∈ F := by
  obtain ⟨l', hF, hl'⟩ := h.final s hs
  rw [hl] at hl'
  cases hl'
  exact hF

theorem final_not_mem_temps (h : Ready F t staged) (hs : s ∈ staged)
    (hl : t.locate s.final = .ok l) : l ∉ Metadata.temps t staged := by
  rintro ⟨s', hs', hl'⟩
  exact h.apart s' hs' l (h.final_mem hs hl) hl'

theorem final_not_mem_spare (h : Ready F t staged) (hs : s ∈ staged)
    (hl : t.locate s.final = .ok l) : l ∉ spare F t := fun hspare =>
  hspare.2 (h.final_mem hs hl)

end Ready

theorem temps_subset_cons (t : FileTree) (s : Staged) (rest : List Staged) :
    temps t rest ⊆ temps t (s :: rest) :=
  fun _ ⟨s', hs', hl⟩ => ⟨s', List.mem_cons_of_mem _ hs', hl⟩

theorem temps_eq_of_sameDirectories {staged : List Staged} (h : SameDirectories t t') :
    temps t' staged = temps t staged := by
  ext l
  exact ⟨fun ⟨s, hs, hl⟩ => ⟨s, hs, h.symm.locate hl⟩, fun ⟨s, hs, hl⟩ => ⟨s, hs, h.locate hl⟩⟩

/-! ### One step -/

/-- What publishing a file does: what stands at its place `l` is set aside, which leads to `t₁`, and
then it is moved there from `lt`, which leads to `t₂`. -/
structure Step (F : Set Location) (t : FileTree) (s : Staged) (backup : Option Path)
    (t₁ t₂ : FileTree) (l lt : Location) : Prop where
  /-- The place. -/
  final : t.locate s.final = .ok l
  /-- Where the file comes from. -/
  temp : t.locate s.temp = .ok lt
  /-- What stood at the place is set aside. -/
  aside : Aside F t l backup t₁
  move : ∃ c, t.lookup lt = some (.file c) ∧
    t₂.lookup = Function.update (Function.update t₁.lookup lt none) l (some (.file c))

variable {s : Staged} {rest : List Staged} {t₂ : FileTree} {lt : Location}

theorem Ready.lookup_aside (h : Ready F t (s :: rest)) (hl : t.locate s.final = .ok l)
    (ha : Aside F t l backup t₁) {x : Location} (hx : x ∈ Metadata.temps t (s :: rest)) :
    t₁.lookup x = t.lookup x := by
  obtain ⟨c, hc⟩ := h.lookup_temps hx
  refine (ha.agree.entry x ?_).symm
  rintro (rfl | ⟨hn, -⟩)
  · exact h.final_not_mem_temps List.mem_cons_self hl hx
  · rw [hc] at hn; cases hn

theorem Ready.step (h : Ready F t (s :: rest)) (fresh : chance.Fresh F) {i : Nat}
    (ha : setAside chance t i s.final = (t₁, .ok backup))
    (hm : moveAt chance t₁ (.move i) s.temp s.final = .ok t₂) :
    ∃ l lt, Step F t s backup t₁ t₂ l lt := by
  obtain ⟨l, -, hl⟩ := h.final s List.mem_cons_self
  obtain ⟨lt, c, hlt, hc⟩ := h.exists_temp List.mem_cons_self
  have haside := setAside_ok fresh hl ha
  have hs := haside.agree.sameDirectories
  have hltm : lt ∈ Metadata.temps t (s :: rest) := ⟨s, List.mem_cons_self, hlt⟩
  have hne : lt ≠ l := ne_of_mem_of_not_mem hltm (h.final_not_mem_temps List.mem_cons_self hl)
  have hc₁ : t₁.lookup lt = some (.file c) := (h.lookup_aside hl haside hltm).trans hc
  obtain ⟨t', hmove, hv⟩ := move_spec (hs.locate hlt) (hs.locate hl) hc₁
    (by simp [haside.lookup_eq_none]) hne
  rw [(moveAt_inv hm).2] at hmove
  obtain rfl := Except.ok.inj hmove
  exact ⟨l, lt, hl, hlt, haside, c, hc, hv⟩

namespace Step

variable (h : Step F t s backup t₁ t₂ l lt)

include h in
theorem mem_temps : lt ∈ Metadata.temps t (s :: rest) := ⟨s, List.mem_cons_self, h.temp⟩

variable (hr : Ready F t (s :: rest))

include h hr

theorem agree : AgreeOff (insert l {lt}) t₁.lookup t₂.lookup := by
  obtain ⟨c, hc, hv⟩ := h.move
  rw [hv]
  have hX : ∀ x ∈ (insert l {lt} : Set Location), t₁.lookup x ≠ some .directory := by
    rintro x (rfl | rfl)
    · simp [h.aside.lookup_eq_none]
    · simp [hr.lookup_aside h.final h.aside (h.mem_temps), hc]
  exact ((AgreeOff.refl hX).update_mem (by simp) (by simp)).update_mem (by simp) (by simp)

theorem sameDirectories : SameDirectories t t₂ := fun x =>
  (h.aside.agree.directory_iff x).trans ((h.agree hr).directory_iff x)

theorem ne : lt ≠ l :=
  ne_of_mem_of_not_mem (h.mem_temps) (hr.final_not_mem_temps List.mem_cons_self h.final)

/-- A step leaves alone what is neither its place nor its file nor a spare name. -/
theorem lookup_other {x : Location} (hl : x ≠ l) (hlt : x ≠ lt) (hx : x ∉ spare F t) :
    t₂.lookup x = t.lookup x := by
  rw [← (h.agree hr).entry x (by simp [hl, hlt]), ← h.aside.agree.entry x (by simp [hl, hx])]

theorem lookup_temp {s' : Staged} (hs : s' ∈ rest) {x : Location}
    (hx : t.locate s'.temp = .ok x) : t₂.lookup x = t.lookup x := by
  have hxt : x ∈ Metadata.temps t (s :: rest) := ⟨s', List.mem_cons_of_mem _ hs, hx⟩
  refine h.lookup_other hr ?_ ?_ ?_
  · exact ne_of_mem_of_not_mem hxt (hr.final_not_mem_temps List.mem_cons_self h.final)
  · rintro rfl
    exact (List.pairwise_cons.1 hr.temps).1 s' hs (h.temp.trans hx.symm)
  · rintro ⟨hn, -⟩
    obtain ⟨c, hc⟩ := hr.lookup_temps hxt
    rw [hc] at hn; cases hn

theorem lookup_final {s' : Staged} (hs : s' ∈ rest) {x : Location}
    (hx : t.locate s'.final = .ok x) : t₂.lookup x = t.lookup x := by
  have hs' : s' ∈ s :: rest := List.mem_cons_of_mem _ hs
  refine h.lookup_other hr ?_ ?_ (hr.final_not_mem_spare hs' hx)
  · rintro rfl
    exact (List.pairwise_cons.1 hr.finals).1 s' hs (h.final.trans hx.symm)
  · rintro rfl
    exact hr.final_not_mem_temps hs' hx (h.mem_temps)

/-- The other files are still ready after a step. -/
theorem ready : Ready F t₂ rest := by
  have hs := h.sameDirectories hr
  have hmem : ∀ {s'}, s' ∈ rest → s' ∈ s :: rest := List.mem_cons_of_mem _
  -- the paths lead where they led before, so nothing that is said of them changes
  have htemp : ∀ s' ∈ rest, t₂.locate s'.temp = t.locate s'.temp := by
    intro s' hs'
    obtain ⟨x, c, hx, -⟩ := hr.exists_temp (hmem hs')
    rw [hx, hs.locate hx]
  have hfinal : ∀ s' ∈ rest, t₂.locate s'.final = t.locate s'.final := by
    intro s' hs'
    obtain ⟨x, -, hx⟩ := hr.final s' (hmem hs')
    rw [hx, hs.locate hx]
  refine ⟨fun s' hs' => ?_, fun s' hs' => ?_, ?_, ?_, fun s' hs' => ?_⟩
  · obtain ⟨x, c, hx, hc⟩ := hr.exists_temp (hmem hs')
    exact ⟨c, read_eq_ok.2 ⟨_, hs.locate hx, (h.lookup_temp hr hs' hx).trans hc⟩⟩
  · rw [hfinal s' hs']
    exact hr.final s' (hmem hs')
  · refine (List.pairwise_cons.1 hr.temps).2.imp_of_mem fun ha hb hne => ?_
    rwa [htemp _ ha, htemp _ hb]
  · refine (List.pairwise_cons.1 hr.finals).2.imp_of_mem fun ha hb hne => ?_
    rwa [hfinal _ ha, hfinal _ hb]
  · rw [htemp s' hs']
    exact hr.apart s' (hmem hs')

end Step

/-! ### Failures -/

variable {staged : List Staged} {published published' : List Published} {i : Nat} {c : Cause}

theorem publishFrom_cons (chance : Chance) (t : FileTree) (published : List Published) (i : Nat)
    (s : Staged) (rest : List Staged) :
    publishFrom chance t published i (s :: rest) =
      match setAside chance t i s.final with
      | (t, .error c) => (rollBack t published, .error c)
      | (t, .ok backup) =>
        match moveAt chance t (.move i) s.temp s.final with
        | .error c => (rollBack t (⟨s.final, backup⟩ :: published), .error c)
        | .ok t => publishFrom chance t (⟨s.final, backup⟩ :: published) (i + 1) rest := by
  rfl

/-- What comes of the first file: what stands at its place cannot be set aside, the file cannot be
moved there, or it is published and the others follow. -/
theorem publishFrom_cons_cases (chance : Chance) (t : FileTree) (published : List Published)
    (i : Nat) (s : Staged) (rest : List Staged) :
    (∃ t₁ c, setAside chance t i s.final = (t₁, .error c) ∧
      publishFrom chance t published i (s :: rest) = (rollBack t₁ published, .error c)) ∨
    (∃ t₁ backup c, setAside chance t i s.final = (t₁, .ok backup) ∧
      moveAt chance t₁ (.move i) s.temp s.final = .error c ∧
      publishFrom chance t published i (s :: rest) =
        (rollBack t₁ (⟨s.final, backup⟩ :: published), .error c)) ∨
    ∃ t₁ backup t₂, setAside chance t i s.final = (t₁, .ok backup) ∧
      moveAt chance t₁ (.move i) s.temp s.final = .ok t₂ ∧
      publishFrom chance t published i (s :: rest) =
        publishFrom chance t₂ (⟨s.final, backup⟩ :: published) (i + 1) rest := by
  rcases ha : setAside chance t i s.final with ⟨t₁, c | backup⟩
  · exact .inl ⟨t₁, c, rfl, by simp only [publishFrom_cons, ha]⟩
  · cases hm : moveAt chance t₁ (.move i) s.temp s.final with
    | error c => exact .inr (.inl ⟨t₁, backup, c, rfl, hm, by simp only [publishFrom_cons, ha, hm]⟩)
    | ok t₂ => exact .inr (.inr ⟨t₁, backup, t₂, rfl, hm, by simp only [publishFrom_cons, ha, hm]⟩)

/-- Putting back the place of a step leads to the tree before it, but for the staged file. -/
theorem Step.putBack_agree (h : Step F t s backup t₁ t₂ l lt) (hr : Ready F t (s :: rest)) :
    AgreeOff (temps t (s :: rest)) t.lookup (putBack t₂ ⟨s.final, backup⟩).lookup := by
  have hlt : ∀ x ∈ ({lt} : Set Location), t.lookup x ≠ none := by
    rintro x rfl
    exact hr.ne_none_of_mem_temps h.mem_temps
  have hback := h.aside.putBack_agree h.final hlt (by simpa using (h.ne hr).symm) (h.agree hr)
  exact hback.mono (by simpa using h.mem_temps) fun x hx => hr.not_directory_of_mem_temps hx

/-- After a step its place can be put back, and then those from before. -/
theorem Step.undoable (h : Step F t s backup t₁ t₂ l lt) (hr : Ready F t (s :: rest))
    (hundo : Undoable (temps t (s :: rest)) t published) :
    Undoable (temps t rest) t₂ (⟨s.final, backup⟩ :: published) := by
  have hsub := temps_subset_cons t s rest
  have hlt : ∀ x ∈ ({lt} : Set Location), t.lookup x ≠ none := by
    rintro x rfl
    exact hr.ne_none_of_mem_temps h.mem_temps
  constructor
  · refine h.aside.restorable h.final hlt (h.agree hr) (fun x hx => ?_) fun hx => ?_
    · exact hr.ne_none_of_mem_temps (hsub hx)
    · exact hr.final_not_mem_temps List.mem_cons_self h.final (hsub hx)
  · exact (hundo.congr (h.putBack_agree hr)).anti hsub

/-- **A failure leaves what was there before.**  If a file cannot be published, the tree that is
left is the one that putting back the places written before would have led to, but for the staged
files. -/
theorem publishFrom_error (fresh : chance.Fresh F) : ∀ {i t published}, Ready F t staged →
    Undoable (temps t staged) t published →
    publishFrom chance t published i staged = (t', .error c) →
    AgreeOff (temps t staged) (rollBack t published).lookup t'.lookup := by
  induction staged with
  | nil => intro i t published _ _ h; cases h
  | cons s rest ih =>
    intro i t published hr hundo h
    have hX : ∀ x ∈ temps t (s :: rest), t.lookup x ≠ some .directory :=
      fun _ hx => hr.not_directory_of_mem_temps hx
    obtain ⟨l, -, hl⟩ := hr.final s List.mem_cons_self
    obtain ⟨t₁, _, ha, he⟩ | ⟨t₁, backup, _, ha, -, he⟩ | ⟨t₁, backup, t₂, ha, hm, he⟩ :=
      publishFrom_cons_cases chance t published i s rest
    · obtain ⟨rfl, -⟩ := Prod.mk.inj (he.symm.trans h)
      refine hundo.rollBack_agree ?_
      rw [setAside_error fresh.lawful ha]
      exact .refl hX
    · obtain ⟨rfl, -⟩ := Prod.mk.inj (he.symm.trans h)
      have haside := setAside_ok fresh hl ha
      have hrefl : AgreeOff (insert l ∅) t₁.lookup t₁.lookup :=
        .refl (by simp [haside.lookup_eq_none])
      exact hundo.rollBack_agree
        ((haside.putBack_agree hl (by simp) (by simp) hrefl).mono (by simp) hX)
    · -- a later file failed: what the step did can be undone, and was
      obtain ⟨l', lt, hst⟩ := hr.step fresh ha hm
      have htemps : temps t₂ rest = temps t rest :=
        temps_eq_of_sameDirectories (hst.sameDirectories hr)
      have hundo' := hst.undoable hr hundo
      rw [← htemps] at hundo'
      have hrest := ih (hst.ready hr) hundo' (he.symm.trans h)
      rw [htemps] at hrest
      have hroll := hundo.rollBack_agree (hst.putBack_agree hr)
      exact hroll.trans (hrest.mono (temps_subset_cons t s rest) fun x hx => hroll.right x hx)

/-! ### Successes -/

theorem discard_cons (t : FileTree) (p : Path) (ps : List Path) :
    discard t (p :: ps) = discard (attempt t (t.remove p)) ps := rfl

/-- The paths can be reached, and no directory is there. -/
def Removable (t : FileTree) (ps : List Path) : Prop :=
  ∀ p ∈ ps, ∃ m, t.locate p = .ok m ∧ t.lookup m ≠ some .directory

theorem Removable.congr {ps : List Path} (h : Removable t ps) (hs : SameDirectories t u) :
    Removable u ps := by
  intro p hp
  obtain ⟨m, hm, hd⟩ := h p hp
  exact ⟨m, hs.locate hm, fun e => hd ((hs m).2 e)⟩

/-- Removing files empties their places and no other. -/
theorem lookup_discard {ps : List Path} : ∀ {t : FileTree}, Removable t ps → ∀ x,
      ((∃ p ∈ ps, t.locate p = .ok x) → (discard t ps).lookup x = none) ∧
      ((∀ p ∈ ps, t.locate p ≠ .ok x) → (discard t ps).lookup x = t.lookup x) := by
  induction ps with
  | nil => intro t _ x; exact ⟨by simp, fun _ => rfl⟩
  | cons p ps ih =>
    intro t hps x
    obtain ⟨m, hm, hd⟩ := hps p List.mem_cons_self
    have hv := attempt_remove hm hd
    have hs : SameDirectories t (attempt t (t.remove p)) := .of_update hd (by simp) hv
    have hps' : Removable t ps := fun q hq => hps q (List.mem_cons_of_mem _ hq)
    obtain ⟨hin, hout⟩ := ih (hps'.congr hs) x
    rw [discard_cons]
    constructor
    · rintro ⟨q, hq, hx⟩
      by_cases hrest : ∃ r ∈ ps, (attempt t (t.remove p)).locate r = .ok x
      · exact hin hrest
      · rw [hout fun r hr hrx => hrest ⟨r, hr, hrx⟩, hv]
        rcases List.mem_cons.1 hq with rfl | hq
        · obtain rfl := Except.ok.inj (hm.symm.trans hx)
          simp
        · exact absurd ⟨q, hq, hs.locate hx⟩ hrest
    · intro hx
      rw [hout fun q hq e => hx q (List.mem_cons_of_mem _ hq) (hs.symm.locate e), hv]
      refine Function.update_of_ne ?_ _ _
      rintro rfl
      exact hx p List.mem_cons_self hm

theorem lookup_discard_cons {p : Path} {ps : List Path} (hp : t.locate p = .ok m)
    (hps : Removable t (p :: ps)) :
    (discard t (p :: ps)).lookup = Function.update (discard t ps).lookup m none := by
  have hps' : Removable t ps := fun q hq => hps q (List.mem_cons_of_mem p hq)
  funext x
  by_cases hx : x = m
  · subst hx
    rw [Function.update_self]
    exact (lookup_discard hps x).1 ⟨p, List.mem_cons_self, hp⟩
  · rw [Function.update_of_ne hx]
    by_cases hin : ∃ q ∈ ps, t.locate q = .ok x
    · obtain ⟨q, hq, hqx⟩ := hin
      rw [(lookup_discard hps' x).1 ⟨q, hq, hqx⟩]
      exact (lookup_discard hps x).1 ⟨q, List.mem_cons_of_mem _ hq, hqx⟩
    · have hout : ∀ q ∈ ps, t.locate q ≠ .ok x := fun q hq hqx => hin ⟨q, hq, hqx⟩
      rw [(lookup_discard hps' x).2 hout]
      refine (lookup_discard hps x).2 fun q hq => ?_
      rcases List.mem_cons.1 hq with rfl | hq
      · rw [hp]; simpa using Ne.symm hx
      · exact hout q hq

/-- All files are at their final places, and nothing else has changed. -/
structure Moved (t : FileTree) (staged : List Staged) (u : FileTree) : Prop where
  /-- The directories are those from before. -/
  directories : SameDirectories t u
  /-- The final places have what was staged for them. -/
  final : ∀ s ∈ staged, ∀ l lt, t.locate s.final = .ok l → t.locate s.temp = .ok lt →
    u.lookup l = t.lookup lt
  /-- The staged files are gone. -/
  temp : ∀ s ∈ staged, ∀ l, t.locate s.temp = .ok l → u.lookup l = none
  /-- Everything else is as it was. -/
  other : ∀ l, (∀ s ∈ staged, t.locate s.final ≠ .ok l ∧ t.locate s.temp ≠ .ok l) →
    u.lookup l = t.lookup l

/-- A step and then the others: if the spare names are free again, all files are moved. -/
theorem Step.moved (h : Step F t s backup t₁ t₂ l lt) (hr : Ready F t (s :: rest)) {w : FileTree}
    (hrest : Moved t₂ rest u) (hw : ∀ x, x ∉ spare F t → w.lookup x = u.lookup x)
    (hspare : ∀ x ∈ spare F t, w.lookup x = none) : Moved t (s :: rest) w := by
  have hs := h.sameDirectories hr
  -- off the spare names, and off what the other files change, `w` is the tree after the step
  have hoff : ∀ x, x ∉ spare F t →
      (∀ s' ∈ rest, t.locate s'.final ≠ .ok x ∧ t.locate s'.temp ≠ .ok x) →
      w.lookup x = t₂.lookup x := by
    intro x hx hxr
    rw [hw x hx]
    refine hrest.other x fun s' hs' => ⟨fun e => ?_, fun e => ?_⟩
    · exact (hxr s' hs').1 (hs.symm.locate e)
    · exact (hxr s' hs').2 (hs.symm.locate e)
  have hl : l ∉ spare F t := hr.final_not_mem_spare List.mem_cons_self h.final
  have hltt : t.lookup lt ≠ none := by
    obtain ⟨c, hc, -⟩ := h.move
    simp [hc]
  have hlt : lt ∉ spare F t := fun hx => hltt hx.1
  obtain ⟨c, hc, hv⟩ := h.move
  refine ⟨fun x => ?_, ?_, ?_, fun x hx => ?_⟩
  · by_cases hx : x ∈ spare F t
    · simp [hspare x hx, hx.1]
    · rw [hw x hx]
      exact (hs x).trans (hrest.directories x)
  · intro s' hs' x xt hx hxt
    rw [hw x (hr.final_not_mem_spare hs' hx)]
    rcases List.mem_cons.1 hs' with rfl | hs'
    · obtain rfl := Except.ok.inj (hx.symm.trans h.final)
      obtain rfl := Except.ok.inj (hxt.symm.trans h.temp)
      rw [← hw x hl, hoff x hl, hv, Function.update_self, hc]
      intro s'' hs''
      exact ⟨fun e => (List.pairwise_cons.1 hr.finals).1 s'' hs'' (hx.trans e.symm),
        hr.apart s'' (List.mem_cons_of_mem _ hs'') x (hr.final_mem List.mem_cons_self hx)⟩
    · rw [hrest.final s' hs' x xt (hs.locate hx) (hs.locate hxt), h.lookup_temp hr hs' hxt]
  · intro s' hs' x hx
    rcases List.mem_cons.1 hs' with rfl | hs'
    · obtain rfl := Except.ok.inj (hx.symm.trans h.temp)
      rw [hoff x hlt, hv, Function.update_of_ne (h.ne hr), Function.update_self]
      intro s'' hs''
      exact ⟨fun e => hr.final_not_mem_temps (List.mem_cons_of_mem _ hs'') e h.mem_temps,
        fun e => (List.pairwise_cons.1 hr.temps).1 s'' hs'' (hx.trans e.symm)⟩
    · by_cases hxs : x ∈ spare F t
      · exact hspare x hxs
      · rw [hw x hxs]
        exact hrest.temp s' hs' x (hs.locate hx)
  · have hxl : x ≠ l := by rintro rfl; exact (hx s List.mem_cons_self).1 h.final
    have hxt : x ≠ lt := by rintro rfl; exact (hx s List.mem_cons_self).2 h.temp
    by_cases hxs : x ∈ spare F t
    · rw [hspare x hxs, hxs.1]
    · rw [hoff x hxs fun s' hs' => hx s' (List.mem_cons_of_mem _ hs')]
      exact h.lookup_other hr hxl hxt hxs

/-- A spare name that is not the backup's is still free after a step. -/
theorem Step.lookup_spare (h : Step F t s backup t₁ t₂ l lt) (hr : Ready F t (s :: rest))
    {x : Location} (hx : x ∈ spare F t) (hb : ∀ b ∈ backup, t.locate b ≠ .ok x) :
    t₂.lookup x = none := by
  have hxl : x ≠ l := by
    rintro rfl; exact hr.final_not_mem_spare List.mem_cons_self h.final hx
  have hxt : x ≠ lt := by
    rintro rfl
    obtain ⟨c, hc, -⟩ := h.move
    rw [hx.1] at hc; cases hc
  rw [← (h.agree hr).entry x (by simp [hxl, hxt])]
  cases h.aside with
  | nothing _ => exact hx.1
  | @file b m c t₁ _ hbm _ _ hv =>
    have hxm : x ≠ m := by rintro rfl; exact hb b rfl hbm
    rw [hv, Function.update_of_ne hxm, Function.update_of_ne hxl, hx.1]

/-- Such a name is free after the others as well. -/
theorem Step.lookup_spare_of_moved (h : Step F t s backup t₁ t₂ l lt) (hr : Ready F t (s :: rest))
    (hrest : Moved t₂ rest u) {x : Location} (hx : x ∈ spare F t)
    (hb : ∀ b ∈ backup, t.locate b ≠ .ok x) : u.lookup x = none := by
  have hs := h.sameDirectories hr
  rw [hrest.other x, h.lookup_spare hr hx hb]
  intro s' hs'
  have hmem : s' ∈ s :: rest := List.mem_cons_of_mem _ hs'
  refine ⟨fun e => hr.final_not_mem_spare hmem (hs.symm.locate e) hx, fun e => ?_⟩
  exact hr.ne_none_of_mem_temps ⟨s', hmem, hs.symm.locate e⟩ hx.1

/-- A step and then the others, after their backups are gone: all files are moved once the backup
of the step is gone as well. -/
theorem Step.moved_discard (h : Step F t s backup t₁ t₂ l lt) (hr : Ready F t (s :: rest))
    {ps : List Path} (hs : SameDirectories t t') (hps : Removable t ps)
    (hrest : Moved t₂ rest (discard t' ps)) :
    Removable t (backup.toList ++ ps) ∧
      Moved t (s :: rest) (discard t' (backup.toList ++ ps)) := by
  have haside := h.aside
  cases backup with
  | none =>
    refine ⟨hps, h.moved hr hrest (fun _ _ => rfl) fun x hx => ?_⟩
    exact h.lookup_spare_of_moved hr hrest hx (by simp)
  | some b =>
    cases haside with
    | @file b m c t₁ _ hb hm hF _ =>
      have hall : Removable t (b :: ps) := by
        intro q hq
        rcases List.mem_cons.1 hq with rfl | hq
        · exact ⟨m, hb, by simp [hm]⟩
        · exact hps q hq
      have hv := lookup_discard_cons (hs.locate hb) (hall.congr hs)
      refine ⟨hall, h.moved (w := discard t' (b :: ps)) hr hrest (fun x hx => ?_) fun x hx => ?_⟩
      · have hxm : x ≠ m := by rintro rfl; exact hx ⟨hm, hF⟩
        rw [hv, Function.update_of_ne hxm]
      · rw [hv]
        by_cases hxm : x = m
        · subst hxm; simp
        · rw [Function.update_of_ne hxm]
          refine h.lookup_spare_of_moved hr hrest hx ?_
          rintro q ⟨⟩ e
          exact hxm (Except.ok.inj (e.symm.trans hb))

/-- **A success moves all files.**  After the backups are gone, every final place has what was
staged for it, and nothing else has changed. -/
theorem publishFrom_ok (fresh : chance.Fresh F) : ∀ {i t published}, Ready F t staged →
    publishFrom chance t published i staged = (t', .ok published') →
    ∃ new : List Published, published' = new.reverse ++ published ∧ SameDirectories t t' ∧
      Removable t (new.filterMap (·.backup)) ∧
      Moved t staged (discard t' (new.filterMap (·.backup))) := by
  induction staged with
  | nil =>
    intro i t published _ h
    cases h
    exact ⟨[], rfl, fun _ => Iff.rfl, nofun, fun _ => Iff.rfl, nofun, nofun, fun _ _ => rfl⟩
  | cons s rest ih =>
    intro i t published hr h
    obtain ⟨_, _, -, he⟩ | ⟨_, _, _, -, -, he⟩ | ⟨t₁, backup, t₂, ha, hm, he⟩ :=
      publishFrom_cons_cases chance t published i s rest
    · rw [he] at h
      cases h
    · rw [he] at h
      cases h
    · rw [he] at h
      obtain ⟨l, lt, hst⟩ := hr.step fresh ha hm
      have hs := hst.sameDirectories hr
      obtain ⟨new, rfl, hs', hnew, hmoved⟩ := ih (hst.ready hr) h
      have hst' : SameDirectories t t' := fun x => (hs x).trans (hs' x)
      obtain ⟨hall, hmoved'⟩ := hst.moved_discard hr hst' (hnew.congr hs.symm) hmoved
      have hbackups : (⟨s.final, backup⟩ :: new).filterMap (·.backup) =
          backup.toList ++ new.filterMap (·.backup) := by cases backup <;> rfl
      rw [← hbackups] at hall hmoved'
      exact ⟨⟨s.final, backup⟩ :: new, by simp, hst', hall, hmoved'⟩

/-! ### What makes publishing fail -/

/-- Something keeps the file with number `i` from being published: a directory at its place, or
a refusal at a point that it comes to. -/
def Hindered (chance : Chance) (t : FileTree) (i : Nat) (final : Path) : Prop :=
  t.isDirectory final = true ∨ chance.refuses (.move i) ≠ none ∨
    t.has final = true ∧
      (chance.refuses (.reserve i) ≠ none ∨ chance.refuses (.setAside i) ≠ none)

theorem refuses_of_setAside_ok (law : chance.Lawful)
    (h : setAside chance t i final = (t₁, .ok backup)) (hhas : t.has final = true) :
    chance.refuses (.reserve i) = none ∧ chance.refuses (.setAside i) = none := by
  obtain ⟨hn, -, -⟩ | ⟨-, made, b, hmade, hmoved, -⟩ := setAside_inv h
  · rw [hn] at hhas
    cases hhas
  · exact ⟨(makeBeside_inv law (by decide) hmade).1, (moveAt_inv hmoved).1⟩

theorem setAside_length (h : setAside chance t i final = (t₁, .ok backup)) :
    t₁.entries.length ≤ t.entries.length + 2 := by
  obtain ⟨-, rfl, -⟩ | ⟨-, made, b, hmade, hmoved, -⟩ := setAside_inv h
  · omega
  · have h₁ := makeBeside_length hmade
    have h₂ := move_length (moveAt_inv hmoved).2
    omega

/-- The names that are made up beside a path can be used, in all trees with the same directories
and at most `n` entries more. -/
def Usable (chance : Chance) (t : FileTree) (n : Nat) (final : Path) (ending : String) : Prop :=
  ∀ u, SameDirectories t u → u.entries.length ≤ t.entries.length + n →
    ∃ m, u.locate (chance.name u final ending) = .ok m

theorem Usable.locate {n : Nat} {ending : String} (h : Usable chance t n final ending) :
    ∃ m, t.locate (chance.name t final ending) = .ok m :=
  h t (fun _ => Iff.rfl) (Nat.le_add_right ..)

theorem Usable.mono {n k : Nat} {ending : String} (h : Usable chance t n final ending)
    (hs : SameDirectories t u) (hk : u.entries.length + k ≤ t.entries.length + n) :
    Usable chance u k final ending :=
  fun w hw hl => h w (fun x => (hs x).trans (hw x)) (by omega)

theorem setAside_succeeds (law : chance.Lawful) (hl : t.locate final = .ok l)
    (hd : t.lookup l ≠ some .directory)
    (hreserve : t.has final = true → chance.refuses (.reserve i) = none)
    (hset : t.has final = true → chance.refuses (.setAside i) = none)
    (hm : t.locate (chance.name t final ".bak") = .ok m) :
    ∃ t₁ backup, setAside chance t i final = (t₁, .ok backup) := by
  unfold setAside
  cases hhas : t.has final with
  | false => exact ⟨t, none, by simp⟩
  | true =>
    obtain ⟨made, hmade⟩ := makeBeside_ok law (by decide) (hreserve hhas) hm
    obtain ⟨-, -, m', hb, hm', hv⟩ := makeBeside_inv law (by decide) hmade
    have hs : SameDirectories t made := .of_update (by simp [hm']) (by simp) hv
    -- the name that is made up is free, and that of the file is not
    have hlm : l ≠ m' := by
      rintro rfl
      rw [has_of_locate hl, hm'] at hhas
      simp at hhas
    cases he : t.lookup l with
    | none => rw [has_of_locate hl, he] at hhas; simp at hhas
    | some e =>
      cases e with
      | directory => exact absurd he hd
      | file c =>
        have hel : made.lookup l = some (.file c) := by rw [hv, Function.update_of_ne hlm, he]
        obtain ⟨moved, hmove, -⟩ := move_spec (hs.locate hl) (hs.locate hb) hel
          (by simp [hv]) hlm
        exact ⟨moved, some (chance.name t final ".bak"), by simp [hmade, moveAt, hset hhas, hmove]⟩

theorem hindered_congr (hs : SameDirectories t u) (hl : t.locate final = .ok l)
    (he : u.lookup l = t.lookup l) : Hindered chance u i final ↔ Hindered chance t i final := by
  have hl' := hs.locate hl
  simp only [Hindered, has_of_locate hl, has_of_locate hl', isDirectory_iff_of_locate hl,
    isDirectory_iff_of_locate hl', he]

theorem Step.hindered_iff (h : Step F t s backup t₁ t₂ l lt) (hr : Ready F t (s :: rest))
    {s' : Staged} (hs' : s' ∈ rest) :
    Hindered chance t₂ i s'.final ↔ Hindered chance t i s'.final := by
  obtain ⟨x, -, hx⟩ := hr.final s' (List.mem_cons_of_mem _ hs')
  exact hindered_congr (h.sameDirectories hr) hx (h.lookup_final hr hs' hx)

/-- **What hinders one file makes publishing fail.** -/
theorem publishFrom_error_of_hindered (fresh : chance.Fresh F) : ∀ (published) {i t j},
    Ready F t staged → staged[j]? = some s → Hindered chance t (i + j) s.final →
    ∃ t' c, publishFrom chance t published i staged = (t', .error c) := by
  induction staged with
  | nil => intro published i t j _ hj; simp at hj
  | cons s₀ rest ih =>
    intro published i t j hr hj hh
    obtain ⟨_, _, -, he⟩ | ⟨_, _, _, -, -, he⟩ | ⟨t₁, backup, t₂, ha, hm, he⟩ :=
      publishFrom_cons_cases chance t published i s₀ rest
    · exact ⟨_, _, he⟩
    · exact ⟨_, _, he⟩
    · rw [he]
      obtain ⟨l, lt, hst⟩ := hr.step fresh ha hm
      cases j with
      | zero =>
        obtain rfl : s₀ = s := by simpa using hj
        exfalso
        rcases hh with hd | hmove | ⟨hhas, hrs⟩
        · exact hst.aside.not_directory ((isDirectory_iff_of_locate hst.final).1 hd)
        · exact hmove (moveAt_inv hm).1
        · obtain ⟨h₁, h₂⟩ := refuses_of_setAside_ok fresh.lawful ha hhas
          rcases hrs with h | h
          · exact h h₁
          · exact h h₂
      | succ j =>
        have hj' : rest[j]? = some s := by simpa using hj
        refine ih _ (hst.ready hr) hj' ?_
        rw [hst.hindered_iff hr (List.mem_of_getElem? hj')]
        rwa [show i + 1 + j = i + (j + 1) by omega]

/-- **Where nothing hinders a file, publishing succeeds**, if the names that are made up can be
used. -/
theorem publishFrom_ok_of_not_hindered (fresh : chance.Fresh F) : ∀ (published) {i t},
    Ready F t staged → (∀ j s, staged[j]? = some s → ¬ Hindered chance t (i + j) s.final) →
    (∀ s ∈ staged, Usable chance t (3 * staged.length) s.final ".bak") →
    ∃ t' published', publishFrom chance t published i staged = (t', .ok published') := by
  induction staged with
  | nil => intro published i t _ _ _; exact ⟨t, published, rfl⟩
  | cons s rest ih =>
    intro published i t hr hh hname
    have hs₀ := hh 0 s rfl
    simp only [Hindered, Nat.add_zero, not_or, not_and, not_not] at hs₀
    obtain ⟨hd, hmove, hrs⟩ := hs₀
    obtain ⟨l, -, hl⟩ := hr.final s List.mem_cons_self
    obtain ⟨m, hm⟩ := (hname s List.mem_cons_self).locate
    rw [isDirectory_iff_of_locate hl] at hd
    obtain ⟨t₁, backup, ha⟩ := setAside_succeeds fresh.lawful hl hd (fun h => (hrs h).1)
      (fun h => (hrs h).2) hm
    have haside := setAside_ok fresh hl ha
    obtain ⟨lt, c, hlt, hc⟩ := hr.exists_temp List.mem_cons_self
    have hltm : lt ∈ temps t (s :: rest) := ⟨s, List.mem_cons_self, hlt⟩
    have hs₁ := haside.agree.sameDirectories
    obtain ⟨t₂, hmv, -⟩ := move_spec (hs₁.locate hlt) (hs₁.locate hl)
      ((hr.lookup_aside hl haside hltm).trans hc) (by simp [haside.lookup_eq_none])
      (ne_of_mem_of_not_mem hltm (hr.final_not_mem_temps List.mem_cons_self hl))
    have hmv' : moveAt chance t₁ (.move i) s.temp s.final = .ok t₂ := by simp [moveAt, hmove, hmv]
    obtain ⟨l', lt', hst⟩ := hr.step fresh ha hmv'
    have hs := hst.sameDirectories hr
    obtain ⟨t', published', hp⟩ := ih (⟨s.final, backup⟩ :: published) (i := i + 1)
      (hst.ready hr)
      (fun j s' hj => by
        rw [hst.hindered_iff hr (List.mem_of_getElem? hj), show i + 1 + j = i + (j + 1) by omega]
        exact hh (j + 1) s' (by simpa using hj))
      (fun s' hs' => (hname s' (List.mem_cons_of_mem _ hs')).mono hs (by
        have h₁ := setAside_length ha
        have h₂ := move_length hmv
        rw [List.length_cons]
        omega))
    exact ⟨t', published', by simp only [publishFrom_cons, ha, hmv', hp]⟩

/-! ### The whole unit -/

/-- The staged files are gone, and everything else is as it was. -/
structure Undone (t : FileTree) (staged : List Staged) (u : FileTree) : Prop where
  /-- The staged files are gone. -/
  temp : ∀ l ∈ temps t staged, u.lookup l = none
  /-- Everything else is as it was. -/
  other : ∀ l, l ∉ temps t staged → u.lookup l = t.lookup l

theorem publish_moved (fresh : chance.Fresh F) (hr : Ready F t staged)
    (h : (publish chance t staged).2 = .ok ()) : Moved t staged (publish chance t staged).1 := by
  unfold publish at h ⊢
  split at h
  · cases h
  · rename_i t' published' hp
    obtain ⟨new, rfl, -, -, hmoved⟩ := publishFrom_ok fresh hr hp
    simpa using hmoved

/-- After a failure the staged files that are left can be removed, and then all is undone. -/
theorem publish_undone (fresh : chance.Fresh F) (hr : Ready F t staged)
    (h : (publish chance t staged).2 = .error c) :
    Undone t staged (discard (publish chance t staged).1 (staged.map (·.temp))) := by
  unfold publish at h ⊢
  split at h
  · rename_i t' c' hp
    have ha : AgreeOff (temps t staged) t.lookup t'.lookup :=
      publishFrom_error fresh hr (show Undoable (temps t staged) t [] from trivial) hp
    have hs := ha.sameDirectories
    have hps : Removable t' (staged.map (·.temp)) := by
      intro p hp
      obtain ⟨s, hs', rfl⟩ := List.mem_map.1 hp
      obtain ⟨m, c, hm, -⟩ := hr.exists_temp hs'
      exact ⟨m, hs.locate hm, ha.right m ⟨s, hs', hm⟩⟩
    refine ⟨fun l ⟨s, hs', hl⟩ => ?_, fun l hl => ?_⟩
    · exact (lookup_discard hps l).1 ⟨s.temp, List.mem_map_of_mem hs', hs.locate hl⟩
    · rw [(lookup_discard hps l).2, ha.entry l hl]
      intro p hp e
      obtain ⟨s, hs', rfl⟩ := List.mem_map.1 hp
      exact hl ⟨s, hs', hs.symm.locate e⟩
  · cases h

theorem publish_error_of_hindered (fresh : chance.Fresh F) (hr : Ready F t staged)
    (hi : staged[i]? = some s) (hh : Hindered chance t i s.final) :
    ∃ c, (publish chance t staged).2 = .error c := by
  obtain ⟨t', c, hp⟩ := publishFrom_error_of_hindered fresh [] (i := 0) hr hi
    (by simpa using hh)
  exact ⟨c, by simp [publish, hp]⟩

theorem publish_ok_of_not_hindered (fresh : chance.Fresh F) (hr : Ready F t staged)
    (hh : ∀ i s, staged[i]? = some s → ¬ Hindered chance t i s.final)
    (hname : ∀ s ∈ staged, Usable chance t (3 * staged.length) s.final ".bak") :
    (publish chance t staged).2 = .ok () := by
  obtain ⟨t', published', hp⟩ := publishFrom_ok_of_not_hindered fresh [] (i := 0) hr
    (by simpa using hh) hname
  simp [publish, hp]

end SoapStubs.Metadata
