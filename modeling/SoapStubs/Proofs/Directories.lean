import Mathlib.Data.List.Induction
import SoapStubs.Proofs.Stage

/-!
# Making directories

A directory is made together with those above it, so that who makes it first does not matter: the
next one finds the upper part of the way.

* `Grows` relates a tree to one with more directories, as making directories leads to
  (`makeDirectories_grows`);
* `makeDirectories_after`: a directory below another one is made in the same way whether the upper
  one was made before or not, up to which refusal is reported;
* `exists_makeDirectories`: below a directory, only files and long names keep others from being
  made;
* `IsTree` says that everything is in a directory, and `Resolves` that a path goes upwards from
  directories only; then a path does not come to lead to an old directory by making new ones
  (`IsTree.isDirectory`).
-/

namespace SoapStubs.FileTree

variable {t t' u n : FileTree} {p : Path} {root a : String} {k r names : List String}
  {l m : Location} {c : Cause} {problem : FileProblem}

/-! ### Trees with more directories -/

/-- The second tree has some more directories, and is the same otherwise. -/
def Grows (t t' : FileTree) : Prop :=
  ∀ l, t'.lookup l = t.lookup l ∨ t.lookup l = none ∧ t'.lookup l = some .directory

theorem Grows.refl (t : FileTree) : Grows t t := fun _ => .inl rfl

theorem Grows.trans (h : Grows t u) (h' : Grows u n) : Grows t n := by
  intro l
  rcases h' l with hl' | ⟨hnone, hdir⟩
  · rw [hl']
    exact h l
  · rcases h l with hl | ⟨-, hdir'⟩
    · exact .inr ⟨hl ▸ hnone, hdir⟩
    · rw [hnone] at hdir'
      cases hdir'

theorem Grows.keeps (h : Grows t t') : KeepsDirectories t t' := by
  intro l hl
  rcases h l with hl' | ⟨hnone, -⟩
  · rw [hl', hl]
  · rw [hnone] at hl
    cases hl

/-- A way in the larger tree is there in the smaller one, or something is missing on it. -/
theorem Grows.foldlM_step (h : Grows t n) : ∀ {l}, names.foldlM n.step l = .ok m →
    names.foldlM t.step l = .ok m ∨ names.foldlM t.step l = .error .missing := by
  induction names with
  | nil => exact fun hm => .inl hm
  | cons name names ih =>
    intro l hm
    rw [List.foldlM_cons] at hm ⊢
    obtain ⟨l', hs, hm⟩ := bind_eq_ok.1 hm
    obtain ⟨hdir, hname, hl'⟩ := step_eq_ok_iff.1 hs
    rcases h l with hl | ⟨hnone, -⟩
    · rw [step_eq_ok_iff.2 ⟨hl ▸ hdir, hname, hl'⟩]
      exact ih hm
    · have hmissing : t.step l name = .error .missing := by simp only [step, hnone]
      rw [hmissing]
      exact .inr rfl

/-! ### One directory -/

theorem KeepsDirectories.isDirectory (h : KeepsDirectories t t') (hd : t.isDirectory p = true) :
    t'.isDirectory p = true := by
  obtain ⟨l, hl, hdir⟩ := isDirectory_iff.1 hd
  exact isDirectory_iff.2 ⟨l, h.locate hl, h l hdir⟩

/-- Making a directory puts one where nothing is. -/
theorem makeDirectory_ok (h : t.makeDirectory p = .ok t') :
    ∃ l, t.locate p = .ok l ∧ t.lookup l = none ∧
      t'.lookup = Function.update t.lookup l (some .directory) := by
  obtain ⟨l, hl, hnone, rfl⟩ := makeDirectory_eq_ok.1 h
  exact ⟨l, hl, hnone, lookup_put (by simp [hnone]) _⟩

theorem makeDirectory_grows (h : t.makeDirectory p = .ok t') :
    Grows t t' ∧ t'.isDirectory p = true := by
  obtain ⟨l, hl, hnone, hlookup⟩ := makeDirectory_ok h
  have hgrows : Grows t t' := by
    intro x
    by_cases hx : x = l
    · rw [hx, hlookup, Function.update_self]
      exact .inr ⟨hnone, rfl⟩
    · rw [hlookup, Function.update_of_ne hx]
      exact .inl rfl
  refine ⟨hgrows, isDirectory_iff.2 ⟨l, hgrows.keeps.locate hl, ?_⟩⟩
  rw [hlookup, Function.update_self]

/-- A directory is made, or was there. -/
theorem ensureDirectory_ok (h : t.ensureDirectory p = .ok t') :
    t.makeDirectory p = .ok t' ∨ t' = t ∧ t.isDirectory p = true := by
  unfold ensureDirectory at h
  split at h
  · rename_i hmade
    cases h
    exact .inl hmade
  · split at h
    · rename_i hdir
      cases h
      exact .inr ⟨rfl, hdir⟩
    · cases h

theorem exists_locate_of_ensureDirectory (h : t.ensureDirectory p = .ok t') :
    ∃ l, t.locate p = .ok l := by
  rcases ensureDirectory_ok h with hmade | ⟨-, hdir⟩
  · obtain ⟨l, hl, -⟩ := makeDirectory_ok hmade
    exact ⟨l, hl⟩
  · obtain ⟨l, hl, -⟩ := isDirectory_iff.1 hdir
    exact ⟨l, hl⟩

theorem locate_of_pathProblem? (h : pathProblem? p = none) :
    t.locate p = p.parts.foldlM t.step (start p) := by
  rw [locate, h]
  rfl

theorem makeDirectory_of_locate (h : t.locate p = .error problem) :
    t.makeDirectory p = .error problem := by
  rw [makeDirectory, h]
  rfl

/-- A refusal is about the path. -/
theorem ensureDirectory_error (h : t.ensureDirectory p = .error c) :
    ∃ problem, t.makeDirectory p = .error problem ∧ c = problem.cause p.text := by
  unfold ensureDirectory at h
  split at h
  · cases h
  · rename_i problem hmade
    split at h
    · cases h
    · cases h
      exact ⟨problem, hmade, rfl⟩

/-! ### With those above -/

/-- If nothing is missing above, then only the last directory is made. -/
theorem makeDirectories_concat_of_ne (h : t.makeDirectory ⟨root, k ++ [a]⟩ ≠ .error .missing) :
    t.makeDirectories ⟨root, k ++ [a]⟩ = t.ensureDirectory ⟨root, k ++ [a]⟩ := by
  have hrev : (a :: k.reverse).reverse = k ++ [a] := by simp
  rw [makeDirectories, ensureDirectory]
  simp only [List.reverse_append, List.reverse_singleton, List.singleton_append, makeUpwards, hrev]
  split
  · rename_i hmade
    rw [hmade]
  · rename_i hmade
    exact absurd hmade h
  · rename_i problem _ hmade
    rw [hmade]

/-- If something is missing above, then that is made first. -/
theorem makeDirectories_concat_of_missing
    (h : t.makeDirectory ⟨root, k ++ [a]⟩ = .error .missing) :
    t.makeDirectories ⟨root, k ++ [a]⟩ =
      t.makeDirectories ⟨root, k⟩ >>= fun t => t.ensureDirectory ⟨root, k ++ [a]⟩ := by
  have hrev : (a :: k.reverse).reverse = k ++ [a] := by simp
  rw [makeDirectories]
  simp only [List.reverse_append, List.reverse_singleton, List.singleton_append, makeUpwards, hrev,
    h]
  rfl

theorem ensureDirectory_grows (h : t.ensureDirectory p = .ok t') : Grows t t' := by
  rcases ensureDirectory_ok h with h | ⟨rfl, -⟩
  · exact (makeDirectory_grows h).1
  · exact .refl _

/-- What holds of a directory that is made, and goes over from the directories above to the one
below them, holds of directories that are made. -/
theorem makeDirectories_induction {R : Path → FileTree → FileTree → Prop}
    (hmade : ∀ {p t t'}, ensureDirectory t p = .ok t' → R p t t')
    (hbelow : ∀ {root k a t u t'}, R ⟨root, k⟩ t u → R ⟨root, k ++ [a]⟩ u t' →
      R ⟨root, k ++ [a]⟩ t t') (h : t.makeDirectories p = .ok t') : R p t t' := by
  obtain ⟨root, parts⟩ := p
  induction parts using List.reverseRecOn generalizing t t' with
  | nil => exact hmade h
  | append_singleton k a ih =>
    by_cases hmissing : t.makeDirectory ⟨root, k ++ [a]⟩ = .error .missing
    · rw [makeDirectories_concat_of_missing hmissing] at h
      obtain ⟨u, hk, h⟩ := bind_eq_ok.1 h
      exact hbelow (ih hk) (hmade h)
    · rw [makeDirectories_concat_of_ne hmissing] at h
      exact hmade h

theorem makeDirectories_grows (h : t.makeDirectories p = .ok t') : Grows t t' :=
  makeDirectories_induction (R := fun _ => Grows) ensureDirectory_grows Grows.trans h

theorem isDirectory_ensureDirectory (h : t.ensureDirectory p = .ok t') :
    t'.isDirectory p = true := by
  rcases ensureDirectory_ok h with h | ⟨rfl, hdir⟩
  · exact (makeDirectory_grows h).2
  · exact hdir

/-- A directory that was made is there. -/
theorem isDirectory_makeDirectories (h : t.makeDirectories p = .ok t') :
    t'.isDirectory p = true :=
  makeDirectories_induction (R := fun p _ t' => t'.isDirectory p = true)
    isDirectory_ensureDirectory (fun _ hbelow => hbelow) h

/-! ### Ways -/

/-- Without steps upwards, a way leads where its names say. -/
theorem foldlM_step_eq (hup : ".." ∉ names) :
    ∀ {l}, names.foldlM t.step l = .ok m → m = l ++ names := by
  induction names with
  | nil =>
    intro l hm
    rw [List.append_nil]
    exact (Except.ok.inj hm).symm
  | cons name names ih =>
    intro l hm
    rw [List.foldlM_cons] at hm
    obtain ⟨l', hs, hm⟩ := bind_eq_ok.1 hm
    rw [List.mem_cons, not_or] at hup
    obtain ⟨-, -, hl'⟩ := step_eq_ok_iff.1 hs
    rw [if_neg (Ne.symm hup.1)] at hl'
    rw [ih hup.2 hm, hl', List.append_assoc]
    rfl

/-- The names on a way are not too long. -/
theorem size_le_of_foldlM_step : ∀ {l}, names.foldlM t.step l = .ok m →
    ∀ name ∈ names, name.utf8ByteSize ≤ longestName := by
  induction names with
  | nil => exact fun _ => nofun
  | cons name names ih =>
    intro l hm
    rw [List.foldlM_cons] at hm
    obtain ⟨l', hs, hm⟩ := bind_eq_ok.1 hm
    exact List.forall_mem_cons.2 ⟨(step_eq_ok_iff.1 hs).2.1, ih hm⟩

/-! ### Making a directory below one that was made -/

/-- The outcomes are the same, but for the refusal. -/
def SameButRefusal (x y : Except Cause FileTree) : Prop :=
  x = y ∨ ∃ c c', x = .error c ∧ y = .error c'

theorem SameButRefusal.trans {x y z : Except Cause FileTree} (h : SameButRefusal x y)
    (h' : SameButRefusal y z) : SameButRefusal x z := by
  rcases h with rfl | ⟨c, c', rfl, rfl⟩
  · exact h'
  · rcases h' with rfl | ⟨c₁, c₂, hc, rfl⟩
    · exact .inr ⟨c, c', rfl, rfl⟩
    · exact .inr ⟨c, c₂, rfl, rfl⟩

theorem SameButRefusal.symm {x y : Except Cause FileTree} (h : SameButRefusal x y) :
    SameButRefusal y x := by
  rcases h with rfl | ⟨c, c', hx, hy⟩
  · exact .inl rfl
  · exact .inr ⟨c', c, hy, hx⟩

theorem SameButRefusal.bind {x y : Except Cause FileTree} (h : SameButRefusal x y)
    (f : FileTree → Except Cause FileTree) : SameButRefusal (x >>= f) (y >>= f) := by
  rcases h with rfl | ⟨c, c', rfl, rfl⟩
  · exact .inl rfl
  · exact .inr ⟨c, c', rfl, rfl⟩

theorem pathProblem?_of_concat (h : pathProblem? ⟨root, k ++ [a]⟩ = none) :
    pathProblem? ⟨root, k⟩ = none := by
  rw [pathProblem?_eq_none_iff] at h ⊢
  obtain ⟨⟨hroot, hparts⟩, hsize⟩ := h
  refine ⟨⟨hroot, fun s hs => hparts s (List.mem_append_left _ hs)⟩, ?_⟩
  have hle := Path.size_text_concat root k a
  have hone : 1 ≤ longestPath := by decide
  omega

theorem isDirectory_of_concat (h : t.locate ⟨root, k ++ [a]⟩ = .ok l) :
    t.isDirectory ⟨root, k⟩ = true := by
  obtain ⟨hproblem, hway⟩ := locate_eq_ok_iff.1 h
  obtain ⟨d, hd, hstep⟩ := foldlM_step_concat.1 hway
  exact isDirectory_iff.2 ⟨d, locate_eq_ok_iff.2 ⟨pathProblem?_of_concat hproblem, hd⟩,
    (step_eq_ok_iff.1 hstep).1⟩

/-- A directory can be made after the one above it. -/
theorem makeDirectories_concat (t : FileTree) (root : String) (k : List String) (a : String) :
    SameButRefusal (t.makeDirectories ⟨root, k ++ [a]⟩)
      (t.makeDirectories ⟨root, k⟩ >>= fun t => t.ensureDirectory ⟨root, k ++ [a]⟩) := by
  by_cases hmissing : t.makeDirectory ⟨root, k ++ [a]⟩ = .error .missing
  · exact .inl (makeDirectories_concat_of_missing hmissing)
  rw [makeDirectories_concat_of_ne hmissing]
  by_cases hk : t.isDirectory ⟨root, k⟩ = true
  · rw [makeDirectories_of_isDirectory hk]
    exact .inl rfl
  have hway : ∀ l, t.locate ⟨root, k ++ [a]⟩ ≠ .ok l := fun l hl => hk (isDirectory_of_concat hl)
  have hleft : ∃ c, t.ensureDirectory ⟨root, k ++ [a]⟩ = .error c := by
    refine exists_eq_error fun u h => ?_
    obtain ⟨l, hl⟩ := exists_locate_of_ensureDirectory h
    exact hway l hl
  have hright : ∃ c, (t.makeDirectories ⟨root, k⟩ >>= fun t =>
      t.ensureDirectory ⟨root, k ++ [a]⟩) = .error c := by
    refine exists_eq_error fun n h => ?_
    obtain ⟨u, hu, h⟩ := bind_eq_ok.1 h
    obtain ⟨l, hl⟩ := exists_locate_of_ensureDirectory h
    obtain ⟨hproblem, hl⟩ := locate_eq_ok_iff.1 hl
    have hlocate : t.locate ⟨root, k ++ [a]⟩ = _ := locate_of_pathProblem? hproblem
    rcases (makeDirectories_grows hu).foldlM_step hl with hl | hl
    · exact hway l (hlocate.trans hl)
    · exact hmissing (makeDirectory_of_locate (hlocate.trans hl))
  obtain ⟨c, hc⟩ := hleft
  obtain ⟨c', hc'⟩ := hright
  exact .inr ⟨c, c', hc, hc'⟩

/-- **A directory below one that was made** is made as without that, but for the refusal. -/
theorem makeDirectories_after (h : t.makeDirectories ⟨root, k⟩ = .ok n) (r : List String) :
    SameButRefusal (t.makeDirectories ⟨root, k ++ r⟩) (n.makeDirectories ⟨root, k ++ r⟩) := by
  induction r using List.reverseRecOn with
  | nil =>
    rw [List.append_nil, h, makeDirectories_of_isDirectory (isDirectory_makeDirectories h)]
    exact .inl rfl
  | append_singleton r a ih =>
    rw [← List.append_assoc]
    exact (makeDirectories_concat t root (k ++ r) a).trans
      ((ih.bind _).trans (makeDirectories_concat n root (k ++ r) a).symm)

theorem pathProblem?_ne_missing : pathProblem? p ≠ some .missing := by
  unfold pathProblem?
  split
  · exact nofun
  · split <;> exact nofun

/-! ### Refusals -/

/-- Only a problem with a path keeps directories from being made. -/
theorem makeDirectories_error (h : t.makeDirectories p = .error c) :
    ∃ problem path, c = FileProblem.cause problem path := by
  obtain ⟨root, parts⟩ := p
  have hone : ∀ {t : FileTree} {p c}, t.ensureDirectory p = .error c →
      ∃ problem path, c = FileProblem.cause problem path := fun h => by
    obtain ⟨problem, -, rfl⟩ := ensureDirectory_error h
    exact ⟨problem, _, rfl⟩
  induction parts using List.reverseRecOn generalizing t c with
  | nil => exact hone h
  | append_singleton k a ih =>
    by_cases hmissing : t.makeDirectory ⟨root, k ++ [a]⟩ = .error .missing
    · rw [makeDirectories_concat_of_missing hmissing] at h
      rcases bind_eq_error.1 h with hk | ⟨u, -, h⟩
      · exact ih hk
      · exact hone h
    · rw [makeDirectories_concat_of_ne hmissing] at h
      exact hone h

/-- Only a problem with a path keeps a file from being written. -/
theorem write_error {content : Content} (h : t.write p content = .error c) :
    ∃ problem path, c = FileProblem.cause problem path := by
  rcases bind_eq_error.1 h with hblame | ⟨l, -, h⟩
  · cases hl : t.locate p with
    | ok l =>
      rw [hl] at hblame
      cases hblame
    | error problem =>
      rw [hl] at hblame
      exact ⟨problem, _, (Except.error.inj hblame).symm⟩
  · split at h <;> cases h
    exact ⟨.isDirectory, p.text, rfl⟩

/-- A name as long as another one, and without a null character, makes no new problem. -/
theorem pathProblem?_of_name {b : String} (h : pathProblem? ⟨root, k ++ a :: r⟩ = none)
    (hsize : b.utf8ByteSize = a.utf8ByteSize) (hb : '\x00' ∉ b.toList) :
    pathProblem? ⟨root, k ++ b :: r⟩ = none := by
  rw [pathProblem?_eq_none_iff] at h ⊢
  obtain ⟨⟨hroot, hparts⟩, hlong⟩ := h
  rw [Path.size_text_name root k r hsize]
  refine ⟨⟨hroot, fun name hname => ?_⟩, hlong⟩
  rcases List.mem_append.1 hname with hname | hname
  · exact hparts name (List.mem_append_left _ hname)
  · rcases List.mem_cons.1 hname with rfl | hname
    · exact hb
    · exact hparts name (List.mem_append_right _ (List.mem_cons_of_mem _ hname))

/-- Only a file keeps a directory from being made where the way leads to. -/
theorem exists_ensureDirectory (hl : t.locate p = .ok l)
    (hfile : ∀ content, t.lookup l ≠ some (.file content)) :
    ∃ t', t.ensureDirectory p = .ok t' := by
  unfold ensureDirectory
  cases he : t.lookup l with
  | none => simp [makeDirectory, hl, he]
  | some e =>
    cases e with
    | file content => exact absurd he (hfile content)
    | directory =>
      have hdir := (isDirectory_iff_of_locate hl).2 he
      simp [makeDirectory, hl, he, hdir]

/-- The next directory below one that is there. -/
theorem exists_ensureDirectory_concat (hl : t.locate ⟨root, k⟩ = .ok l)
    (hdir : t.lookup l = some .directory) (hproblem : pathProblem? ⟨root, k ++ [a]⟩ = none)
    (ha : a ≠ "..") (hsize : a.utf8ByteSize ≤ longestName)
    (hfile : ∀ content, t.lookup (l ++ [a]) ≠ some (.file content)) :
    ∃ t', t.ensureDirectory ⟨root, k ++ [a]⟩ = .ok t' ∧
      t'.locate ⟨root, k ++ [a]⟩ = .ok (l ++ [a]) ∧ t'.lookup (l ++ [a]) = some .directory := by
  have hstep : t.step l a = .ok (l ++ [a]) := step_eq_ok_iff.2 ⟨hdir, hsize, by rw [if_neg ha]⟩
  have hlocate : t.locate ⟨root, k ++ [a]⟩ = .ok (l ++ [a]) :=
    locate_eq_ok_iff.2 ⟨hproblem, foldlM_step_concat.2 ⟨l, (locate_eq_ok_iff.1 hl).2, hstep⟩⟩
  obtain ⟨t', ht'⟩ := exists_ensureDirectory hlocate hfile
  have hlocate' := (ensureDirectory_grows ht').keeps.locate hlocate
  have hdir' := (isDirectory_iff_of_locate hlocate').1 (isDirectory_ensureDirectory ht')
  exact ⟨t', ht', hlocate', hdir'⟩

/-- **Only files and long names keep directories from being made** below one that is there. -/
theorem exists_makeDirectories (hl : n.locate ⟨root, k⟩ = .ok l)
    (hdir : n.lookup l = some .directory) (hproblem : pathProblem? ⟨root, k ++ r⟩ = none)
    (hup : ".." ∉ r) (hsize : ∀ name ∈ r, name.utf8ByteSize ≤ longestName)
    (hfile : ∀ q content, q <+: r → n.lookup (l ++ q) ≠ some (.file content)) :
    ∃ t, n.makeDirectories ⟨root, k ++ r⟩ = .ok t ∧ t.locate ⟨root, k ++ r⟩ = .ok (l ++ r) ∧
      t.lookup (l ++ r) = some .directory := by
  induction r using List.reverseRecOn with
  | nil =>
    rw [List.append_nil, List.append_nil]
    exact ⟨n, makeDirectories_of_isDirectory (isDirectory_iff.2 ⟨l, hl, hdir⟩), hl, hdir⟩
  | append_singleton r a ih =>
    rw [← List.append_assoc] at hproblem ⊢
    rw [← List.append_assoc]
    simp only [List.mem_append, List.mem_singleton, not_or] at hup hsize
    obtain ⟨t, ht, hlt, hdirt⟩ := ih (pathProblem?_of_concat hproblem) hup.1
      (fun name hname => hsize name (.inl hname))
      (fun q content hq => hfile q content (hq.trans (List.prefix_append _ _)))
    have hfree : ∀ content, t.lookup (l ++ r ++ [a]) ≠ some (.file content) := by
      intro content hcontent
      rcases makeDirectories_grows ht (l ++ r ++ [a]) with hsame | ⟨-, hdirectory⟩
      · rw [hcontent, List.append_assoc] at hsame
        exact hfile _ content (List.prefix_refl _) hsame.symm
      · rw [hcontent] at hdirectory
        cases hdirectory
    obtain ⟨t', ht', hl', hdir'⟩ := exists_ensureDirectory_concat hlt hdirt hproblem
      (Ne.symm hup.2) (hsize a (.inr rfl)) hfree
    have hsame := makeDirectories_concat n root (k ++ r) a
    rw [ht] at hsame
    rcases hsame with heq | ⟨c, c', -, hc'⟩
    · exact ⟨t', heq.trans ht', hl', hdir'⟩
    · cases hc'.symm.trans ht'

/-! ### Trees -/

/-- What is there is in a directory that is there. -/
def IsTree (t : FileTree) : Prop :=
  ∀ l name, t.lookup (l ++ [name]) ≠ none → t.lookup l = some .directory

/-- Where the path goes upwards, it leaves a directory that is there. -/
def Resolves (t : FileTree) (p : Path) : Prop :=
  ∀ names, names ++ [".."] <+: p.parts → t.isDirectory ⟨p.root, names⟩ = true

theorem lookup_nil (t : FileTree) : t.lookup [] = some .directory := if_pos (.inl rfl)

namespace IsTree

theorem above (h : t.IsTree) (hne : r ≠ []) (hr : t.lookup (l ++ r) ≠ none) :
    t.lookup l = some .directory := by
  induction r using List.reverseRecOn with
  | nil => exact absurd rfl hne
  | append_singleton r a ih =>
    rw [← List.append_assoc] at hr
    have hdir := h _ _ hr
    cases r with
    | nil => rwa [List.append_nil] at hdir
    | cons name r => exact ih (List.cons_ne_nil _ _) (by rw [hdir]; exact nofun)

theorem dropLast (h : t.IsTree) (hl : t.lookup l = some .directory) :
    t.lookup l.dropLast = some .directory := by
  cases l using List.reverseRecOn with
  | nil => exact hl
  | append_singleton d name =>
    rw [List.dropLast_concat]
    exact h d name (by rw [hl]; exact nofun)

/-- What a path leads to is in a directory, if it is not one itself. -/
theorem of_locate (h : t.IsTree) (hl : t.locate p = .ok l) (hne : t.lookup l ≠ some .directory) :
    ∃ d name, l = d ++ [name] ∧ t.lookup d = some .directory := by
  obtain ⟨root, parts⟩ := p
  obtain ⟨-, hway⟩ := locate_eq_ok_iff.1 hl
  cases parts using List.reverseRecOn with
  | nil =>
    obtain rfl := Except.ok.inj hway
    rw [start] at hne ⊢
    split at hne
    · exact absurd t.lookup_nil hne
    · rename_i hroot
      exact ⟨[], root, if_neg hroot, t.lookup_nil⟩
  | append_singleton k a =>
    obtain ⟨d, -, hstep⟩ := foldlM_step_concat.1 hway
    obtain ⟨hd, -, rfl⟩ := step_eq_ok_iff.1 hstep
    by_cases ha : a = ".."
    · rw [if_pos ha] at hne
      exact absurd (h.dropLast hd) hne
    · exact ⟨d, a, if_neg ha, hd⟩

/-- Something may be put where there is no directory. -/
theorem put {e : Entry} (h : t.IsTree) (hl : t.locate p = .ok l)
    (hne : t.lookup l ≠ some .directory)
    (hlookup : t'.lookup = Function.update t.lookup l (some e)) : t'.IsTree := by
  intro m name hm
  rw [hlookup] at hm ⊢
  obtain ⟨d, a, rfl, hd⟩ := h.of_locate hl hne
  have hml : m ≠ d ++ [a] := by
    rintro rfl
    rw [Function.update_of_ne (by simp)] at hm
    exact hne (h _ _ hm)
  rw [Function.update_of_ne hml]
  by_cases hput : m ++ [name] = d ++ [a]
  · obtain ⟨rfl, -⟩ := List.append_inj' hput rfl
    exact hd
  · rw [Function.update_of_ne hput] at hm
    exact h m name hm

theorem ensureDirectory (h : t.IsTree) (hmade : t.ensureDirectory p = .ok t') : t'.IsTree := by
  rcases ensureDirectory_ok hmade with hmade | ⟨rfl, -⟩
  · obtain ⟨l, hl, hnone, hlookup⟩ := makeDirectory_ok hmade
    exact h.put hl (by rw [hnone]; exact nofun) hlookup
  · exact h

theorem makeDirectories (h : t.IsTree) (hmade : t.makeDirectories p = .ok t') : t'.IsTree :=
  makeDirectories_induction (R := fun _ t t' => t.IsTree → t'.IsTree)
    (fun hmade h => h.ensureDirectory hmade) (fun h h' => h' ∘ h) hmade h

theorem write {content : Content} (h : t.IsTree) (hwrite : t.write p content = .ok t') :
    t'.IsTree := by
  obtain ⟨l, hl, hne, hlookup⟩ := write_inv hwrite
  exact h.put hl hne hlookup

/-- A path that leads to a directory once more directories were made led there before, if the
directory is an old one. -/
theorem isDirectory (h : t.IsTree) (hgrows : Grows t n) (hp : t.Resolves p)
    (hl : n.locate p = .ok l) (hdir : t.lookup l = some .directory) : t.isDirectory p = true := by
  obtain ⟨hproblem, hway⟩ := locate_eq_ok_iff.1 hl
  refine isDirectory_iff.2 ⟨l, locate_eq_ok_iff.2 ⟨hproblem, ?_⟩, hdir⟩
  obtain ⟨root, parts⟩ := p
  clear hl hproblem
  induction parts using List.reverseRecOn generalizing l with
  | nil => exact hway
  | append_singleton k a ih =>
    obtain ⟨d, hd, hstep⟩ := foldlM_step_concat.1 hway
    obtain ⟨-, hsize, rfl⟩ := step_eq_ok_iff.1 hstep
    by_cases ha : a = ".."
    · -- the directory that the way leaves is there, so the way there is an old one
      obtain ⟨d', hd', hold⟩ := isDirectory_iff.1 (hp k (ha ▸ List.prefix_refl _))
      have hold' := (locate_eq_ok_iff.1 hd').2
      obtain rfl := Except.ok.inj (hd.symm.trans (hgrows.keeps.foldlM_step hold'))
      exact foldlM_step_concat.2 ⟨_, hold', step_eq_ok_iff.2 ⟨hold, hsize, rfl⟩⟩
    · rw [if_neg ha] at hdir
      have hold := h d a (by rw [hdir]; exact nofun)
      have hfront := ih hold
        (fun names hnames => hp names (hnames.trans (List.prefix_append _ _))) hd
      exact foldlM_step_concat.2 ⟨d, hfront, step_eq_ok_iff.2 ⟨hold, hsize, rfl⟩⟩

end IsTree

end SoapStubs.FileTree
