import SoapStubs.Proofs.Directories

/-!
# What happens below a directory

Making directories and writing files below a directory looks at nothing outside of it and changes
nothing outside of it.

* `SameSubtree` relates trees in which a path leads to the same directory, and which have the same
  below one of its names;
* `Alike` relates the outcomes of an operation on two such trees: the same refusal, or trees that
  are related again and have changed nowhere else;
* `makeDirectories_alike` and `write_alike`: the operations below the name are alike.
-/

namespace SoapStubs.FileTree

variable {t t' u u' : FileTree} {d m x : Location} {p base : Path} {l : Location} {v : String}
  {q : List String} {e : Entry}

/-! ### Trees that agree below a location -/

/-- The trees have the same at and below a location. -/
def AgreeBelow (d : Location) (t u : FileTree) : Prop := ∀ x, d <+: x → t.lookup x = u.lookup x

/-- The second tree has changed at and below a location only, and has kept its directories. -/
structure ChangesBelow (d : Location) (t t' : FileTree) : Prop where
  /-- Nothing else has changed. -/
  other : ∀ x, ¬d <+: x → t'.lookup x = t.lookup x
  /-- The directories are kept. -/
  keeps : KeepsDirectories t t'

theorem ChangesBelow.refl (d : Location) (t : FileTree) : ChangesBelow d t t :=
  ⟨fun _ _ => rfl, fun _ => id⟩

theorem ChangesBelow.trans {w : FileTree} (h : ChangesBelow d t u) (h' : ChangesBelow d u w) :
    ChangesBelow d t w :=
  ⟨fun x hx => (h'.other x hx).trans (h.other x hx), fun x hx => h'.keeps x (h.keeps x hx)⟩

theorem ChangesBelow.update (hm : d <+: m) (hne : t.lookup m ≠ some .directory)
    (h : t'.lookup = Function.update t.lookup m (some e)) : ChangesBelow d t t' := by
  constructor
  · intro x hx
    rw [h, Function.update_of_ne]
    rintro rfl
    exact hx hm
  · intro x hx
    have hxm : x ≠ m := by
      rintro rfl
      exact hne hx
    rw [h, Function.update_of_ne hxm, hx]

/-- Two outcomes of an operation: the same refusal, or trees that have changed below a location only
and agree there. -/
inductive Alike {ε : Type} (d : Location) (t u : FileTree) :
    Except ε FileTree → Except ε FileTree → Prop where
  /-- Both are refused in the same way. -/
  | refused (e : ε) : Alike d t u (.error e) (.error e)
  /-- Both are done. -/
  | done {t' u' : FileTree} (left : ChangesBelow d t t') (right : ChangesBelow d u u')
      (agree : AgreeBelow d t' u') : Alike d t u (.ok t') (.ok u')

namespace Alike

variable {ε : Type}

theorem update (h : AgreeBelow d t u) (hm : d <+: m) (hne : t.lookup m ≠ some .directory)
    (ht : t'.lookup = Function.update t.lookup m (some e))
    (hu : u'.lookup = Function.update u.lookup m (some e)) :
    Alike d t u (.ok t' : Except ε FileTree) (.ok u') := by
  refine .done (.update hm hne ht) (.update hm (h m hm ▸ hne) hu) fun x hx => ?_
  rw [ht, hu]
  by_cases hxm : x = m
  · rw [hxm, Function.update_self, Function.update_self]
  · rw [Function.update_of_ne hxm, Function.update_of_ne hxm, h x hx]

theorem bind {y z : Except ε FileTree} {f : FileTree → Except ε FileTree} (h : Alike d t u y z)
    (hf : ∀ t' u', ChangesBelow d t t' → ChangesBelow d u u' → AgreeBelow d t' u' →
      Alike d t' u' (f t') (f u')) : Alike d t u (y >>= f) (z >>= f) := by
  cases h with
  | refused e => exact .refused e
  | @done t' u' left right agree =>
    show Alike d t u (f t') (f u')
    generalize hy : f t' = y
    generalize hz : f u' = z
    have hboth := hf t' u' left right agree
    rw [hy, hz] at hboth
    cases hboth with
    | refused e => exact .refused e
    | done left' right' agree' => exact .done (left.trans left') (right.trans right') agree'

end Alike

/-! ### Trees with the same subtree -/

/-- The path leads to a directory at the location. -/
structure Leads (t : FileTree) (p : Path) (l : Location) : Prop where
  locate : t.locate p = .ok l
  directory : t.lookup l = some .directory

theorem Leads.keeps (h : Leads t p l) (hk : KeepsDirectories t t') : Leads t' p l :=
  ⟨hk.locate h.locate, hk l h.directory⟩

/-- In both trees the path leads to the same directory, and below a name in it they have the
same. -/
structure SameSubtree (base : Path) (l : Location) (v : String) (t u : FileTree) : Prop where
  /-- The path leads there in the first tree. -/
  left : Leads t base l
  /-- And in the second. -/
  right : Leads u base l
  /-- They have the same below the name. -/
  agree : AgreeBelow (l ++ [v]) t u

theorem SameSubtree.change (h : SameSubtree base l v t u) (ht : ChangesBelow d t t')
    (hu : ChangesBelow d u u') (hagree : AgreeBelow (l ++ [v]) t' u') :
    SameSubtree base l v t' u' :=
  ⟨h.left.keeps ht.keeps, h.right.keeps hu.keeps, hagree⟩

theorem foldlM_step_congr (h : AgreeBelow d t u) (hup : ".." ∉ q) :
    ∀ {x}, d <+: x → q.foldlM t.step x = q.foldlM u.step x := by
  induction q with
  | nil => exact fun _ => rfl
  | cons name q ih =>
    intro x hx
    rw [List.mem_cons, not_or] at hup
    have hstep : t.step x name = u.step x name := by simp only [step, h x hx]
    rw [List.foldlM_cons, List.foldlM_cons, hstep]
    cases hs : u.step x name with
    | error e => rfl
    | ok y =>
      obtain ⟨-, -, hy⟩ := step_eq_ok_iff.1 hs
      rw [if_neg (Ne.symm hup.1)] at hy
      exact ih hup.2 (hx.trans (hy ▸ List.prefix_append x [name]))

section

variable (hv : v ≠ "..") (hsize : v.utf8ByteSize ≤ longestName)

include hv hsize

theorem Leads.step (h : Leads t p l) : t.step l v = .ok (l ++ [v]) :=
  step_eq_ok_iff.2 ⟨h.directory, hsize, by rw [if_neg hv]⟩

/-- The path from the directory to a place below the name. -/
theorem Leads.foldlM_step (h : Leads t base l) (q : List String) :
    (base.parts ++ v :: q).foldlM t.step (start base) = q.foldlM t.step (l ++ [v]) := by
  rw [List.foldlM_append, (locate_eq_ok_iff.1 h.locate).2]
  show (v :: q).foldlM t.step l = _
  rw [List.foldlM_cons, h.step hv hsize]
  rfl

/-- Below the name, paths lead to the same places. -/
theorem SameSubtree.locate (h : SameSubtree base l v t u) (hup : ".." ∉ q) :
    t.locate ⟨base.root, base.parts ++ v :: q⟩ = u.locate ⟨base.root, base.parts ++ v :: q⟩ ∧
      ∀ m, t.locate ⟨base.root, base.parts ++ v :: q⟩ = .ok m → m = l ++ [v] ++ q := by
  cases hproblem : pathProblem? ⟨base.root, base.parts ++ v :: q⟩ with
  | some problem =>
    refine ⟨by rw [FileTree.locate, FileTree.locate, hproblem], fun m hm => ?_⟩
    rw [FileTree.locate, hproblem] at hm
    cases hm
  | none =>
    have ht : t.locate ⟨base.root, base.parts ++ v :: q⟩ = q.foldlM t.step (l ++ [v]) :=
      (locate_of_pathProblem? hproblem).trans (h.left.foldlM_step hv hsize q)
    have hu : u.locate ⟨base.root, base.parts ++ v :: q⟩ = q.foldlM u.step (l ++ [v]) :=
      (locate_of_pathProblem? hproblem).trans (h.right.foldlM_step hv hsize q)
    rw [ht, hu]
    exact ⟨foldlM_step_congr h.agree hup (List.prefix_refl _), fun m => foldlM_step_eq hup⟩

/-! ### Operations below the name -/

theorem isDirectory_congr (h : SameSubtree base l v t u) (hup : ".." ∉ q) :
    t.isDirectory ⟨base.root, base.parts ++ v :: q⟩ =
      u.isDirectory ⟨base.root, base.parts ++ v :: q⟩ := by
  obtain ⟨heq, hm⟩ := h.locate hv hsize hup
  rw [isDirectory, isDirectory, find?, find?, ← heq]
  cases hl : t.locate ⟨base.root, base.parts ++ v :: q⟩ with
  | error e => rfl
  | ok m =>
    obtain rfl := hm m hl
    dsimp only
    rw [h.agree _ (List.prefix_append _ _)]

theorem makeDirectory_alike (h : SameSubtree base l v t u) (hup : ".." ∉ q) :
    Alike (l ++ [v]) t u (t.makeDirectory ⟨base.root, base.parts ++ v :: q⟩)
      (u.makeDirectory ⟨base.root, base.parts ++ v :: q⟩) := by
  obtain ⟨heq, hm⟩ := h.locate hv hsize hup
  cases hl : t.locate ⟨base.root, base.parts ++ v :: q⟩ with
  | error e =>
    rw [makeDirectory_of_locate hl, makeDirectory_of_locate (heq.symm.trans hl)]
    exact .refused e
  | ok m =>
    obtain rfl := hm m hl
    have hprefix : l ++ [v] <+: l ++ [v] ++ q := List.prefix_append _ _
    -- both ways end below the name, where the trees agree
    have hsame := h.agree _ hprefix
    rw [makeDirectory, makeDirectory, hl, heq.symm.trans hl]
    cases he : t.lookup (l ++ [v] ++ q) with
    | some e =>
      simp only [ok_bind, he, ← hsame]
      exact .refused FileProblem.exists
    | none =>
      simp only [ok_bind, he, ← hsame]
      have hne : t.lookup (l ++ [v] ++ q) ≠ some .directory := by
        rw [he]
        exact Option.some_ne_none _ |>.symm
      exact .update h.agree hprefix hne (lookup_put hne _) (lookup_put (hsame ▸ hne) _)

theorem ensureDirectory_alike (h : SameSubtree base l v t u) (hup : ".." ∉ q) :
    Alike (l ++ [v]) t u (t.ensureDirectory ⟨base.root, base.parts ++ v :: q⟩)
      (u.ensureDirectory ⟨base.root, base.parts ++ v :: q⟩) := by
  have hmade := makeDirectory_alike hv hsize h hup
  rw [ensureDirectory, ensureDirectory, isDirectory_congr hv hsize h hup]
  generalize t.makeDirectory ⟨base.root, base.parts ++ v :: q⟩ = y at hmade ⊢
  generalize u.makeDirectory ⟨base.root, base.parts ++ v :: q⟩ = z at hmade ⊢
  cases hmade with
  | refused problem =>
    dsimp only
    split
    · exact .done (.refl _ t) (.refl _ u) h.agree
    · exact .refused _
  | done left right agree => exact .done left right agree

theorem Leads.makeDirectory_ne_missing (h : Leads t base l) :
    t.makeDirectory ⟨base.root, base.parts ++ [v]⟩ ≠ .error .missing := by
  cases hproblem : pathProblem? ⟨base.root, base.parts ++ [v]⟩ with
  | some problem =>
    have hlocate : t.locate ⟨base.root, base.parts ++ [v]⟩ = .error problem := by
      rw [FileTree.locate, hproblem]
    rw [makeDirectory_of_locate hlocate]
    intro hmissing
    cases hmissing
    exact pathProblem?_ne_missing hproblem
  | none =>
    have hlocate : t.locate ⟨base.root, base.parts ++ [v]⟩ = .ok (l ++ [v]) :=
      (locate_of_pathProblem? hproblem).trans (h.foldlM_step hv hsize [])
    rw [makeDirectory, hlocate]
    rw [ok_bind]
    split <;> simp

/-- **Making directories below the name** is alike in both trees. -/
theorem makeDirectories_alike (h : SameSubtree base l v t u) (hup : ".." ∉ q) :
    Alike (l ++ [v]) t u (t.makeDirectories ⟨base.root, base.parts ++ v :: q⟩)
      (u.makeDirectories ⟨base.root, base.parts ++ v :: q⟩) := by
  induction q using List.reverseRecOn with
  | nil =>
    rw [makeDirectories_concat_of_ne (h.left.makeDirectory_ne_missing hv hsize),
      makeDirectories_concat_of_ne (h.right.makeDirectory_ne_missing hv hsize)]
    exact ensureDirectory_alike hv hsize h hup
  | append_singleton q a ih =>
    have hupq : ".." ∉ q := fun hmem => hup (List.mem_append_left _ hmem)
    have hsplit : base.parts ++ v :: (q ++ [a]) = (base.parts ++ v :: q) ++ [a] := by simp
    have hensure : ∀ t u, SameSubtree base l v t u → Alike (l ++ [v]) t u
        (t.ensureDirectory ⟨base.root, base.parts ++ v :: q ++ [a]⟩)
        (u.ensureDirectory ⟨base.root, base.parts ++ v :: q ++ [a]⟩) := by
      intro t u h
      rw [← hsplit]
      exact ensureDirectory_alike hv hsize h hup
    have hmade := makeDirectory_alike hv hsize h hup
    rw [hsplit] at hmade ⊢
    by_cases hmissing : t.makeDirectory ⟨base.root, base.parts ++ v :: q ++ [a]⟩ = .error .missing
    · have hmissing' : u.makeDirectory ⟨base.root, base.parts ++ v :: q ++ [a]⟩ =
          .error .missing := by
        rw [hmissing] at hmade
        generalize u.makeDirectory ⟨base.root, base.parts ++ v :: q ++ [a]⟩ = z at hmade ⊢
        cases hmade
        rfl
      rw [makeDirectories_concat_of_missing hmissing, makeDirectories_concat_of_missing hmissing']
      exact (ih hupq).bind fun t' u' ht hu hagree => hensure t' u' (h.change ht hu hagree)
    · have hmissing' : u.makeDirectory ⟨base.root, base.parts ++ v :: q ++ [a]⟩ ≠
          .error .missing := by
        intro heq
        rw [heq] at hmade
        generalize t.makeDirectory ⟨base.root, base.parts ++ v :: q ++ [a]⟩ = y at hmade hmissing
        cases hmade
        exact hmissing rfl
      rw [makeDirectories_concat_of_ne hmissing, makeDirectories_concat_of_ne hmissing']
      exact hensure t u h

/-- **Writing a file below the name** is alike in both trees. -/
theorem write_alike (h : SameSubtree base l v t u) (hup : ".." ∉ q) (content : Content) :
    Alike (l ++ [v]) t u (t.write ⟨base.root, base.parts ++ v :: q⟩ content)
      (u.write ⟨base.root, base.parts ++ v :: q⟩ content) := by
  obtain ⟨heq, hm⟩ := h.locate hv hsize hup
  rw [write, write, ← heq]
  cases hl : t.locate ⟨base.root, base.parts ++ v :: q⟩ with
  | error problem => exact .refused _
  | ok m =>
    obtain rfl := hm m hl
    have hprefix : l ++ [v] <+: l ++ [v] ++ q := List.prefix_append _ _
    have hsame := h.agree _ hprefix
    simp only [blame, ok_bind, ← hsame]
    split
    · exact .refused _
    · rename_i hne
      exact .update h.agree hprefix hne (lookup_put hne _) (lookup_put (hsame ▸ hne) _)

end

end SoapStubs.FileTree
