import SoapStubs.Proofs.Containment

/-!
# Room for classes

Nothing but the length of its path keeps a class from being written below a directory where only
classes have been written before.

* `FileTree.Tidy` says that below a location directories have names without dots, and that every
  file has one with a dot.  So no class is in the way of the directory of another, and none has the
  name of a directory;
* `FileTree.exists_save` says that a class can be written there, and `FileTree.tidy_save` that this
  leaves everything tidy;
* `Site.Roomy` is this for the directory of a variant, which may have to be made.
-/

namespace SoapStubs

namespace FileTree

variable {t t' u n : FileTree} {base p : Path} {l d : Location} {v last : String}
  {front : List String} {content : Content}

/-! ### Paths that can be taken -/

/-- The path can be that of a file, whatever is there. -/
structure Fits (p : Path) : Prop where
  /-- It is not too long and has no null character. -/
  problem : pathProblem? p = none
  /-- No name is too long. -/
  names : ∀ name ∈ p.parts, name.utf8ByteSize ≤ longestName

theorem fits_of_locate (h : t.locate p = .ok l) : Fits p := by
  obtain ⟨hproblem, hway⟩ := locate_eq_ok_iff.1 h
  exact ⟨hproblem, size_le_of_foldlM_step hway⟩

theorem SameButRefusal.ok_iff {x y : Except Cause FileTree} (h : SameButRefusal x y) :
    x = .ok t ↔ y = .ok t := by
  rcases h with rfl | ⟨c, c', rfl, rfl⟩
  · rfl
  · exact iff_of_false nofun nofun

/-! ### Tidy directories -/

/-- Below the location, directories have names without dots, and files have names with one. -/
structure Tidy (d : Location) (t : FileTree) : Prop where
  /-- The names on the way to a directory. -/
  directories : ∀ q, t.lookup (d ++ q) = some .directory → ∀ name ∈ q, '.' ∉ name.toList
  /-- The names on the way to a file. -/
  files : ∀ q content, t.lookup (d ++ q) = some (.file content) → ∃ name ∈ q, '.' ∈ name.toList

theorem dots_not_mem (h : ∀ name ∈ front, '.' ∉ name.toList) : ".." ∉ front :=
  fun hmem => h ".." hmem (by decide)

section

variable (hbase : Leads t base l) (htidy : Tidy (l ++ [v]) t) (hv : '.' ∉ v.toList)
  (hfront : ∀ name ∈ front, '.' ∉ name.toList)

include hbase htidy hv hfront

theorem Tidy.makeDirectories
    (h : t.makeDirectories ⟨base.root, base.parts ++ v :: front⟩ = .ok t') :
    Tidy (l ++ [v]) t' := by
  have hup : ∀ q, q <+: v :: front → ".." ∉ q := fun q hq hmem =>
    dots_not_mem (List.forall_mem_cons.2 ⟨hv, hfront⟩) (hq.subset hmem)
  have hnew : ∀ q, l ++ [v] ++ q ∈ Path.way ⟨base.root, base.parts ++ v :: front⟩ →
      t.lookup (l ++ [v] ++ q) = none → q <+: front := by
    rintro q ⟨names, hnames, heq⟩ hnone
    have habove : ∀ names, names <+: base.parts →
        l ++ [v] ++ q ≠ Path.place ⟨base.root, names⟩ := by
      intro names hnames heq
      rw [heq, hbase.way ⟨names, hnames, rfl⟩] at hnone
      cases hnone
    rcases List.prefix_or_prefix_of_prefix hnames (List.prefix_append base.parts (v :: front)) with
      hle | ⟨q', rfl⟩
    · exact absurd heq (habove names hle)
    rw [List.prefix_append_right_inj] at hnames
    have hplace : Path.place ⟨base.root, base.parts ++ q'⟩ = l ++ q' := by
      rw [Path.place, List.foldl_append, Path.foldl_follow (hup q' hnames),
        ← place_of_locate hbase.locate]
      rfl
    rw [hplace, List.append_assoc] at heq
    obtain rfl : q' = v :: q := (List.append_cancel_left heq).symm
    exact (List.cons_prefix_cons.1 hnames).2
  constructor
  · intro q hq
    rcases makeDirectories_changes h (l ++ [v] ++ q) (Set.notMem_empty _) with
      hsame | ⟨hway, hnone, -⟩
    · exact htidy.directories q (hsame ▸ hq)
    · exact fun name hname => hfront name ((hnew q hway hnone).subset hname)
  · intro q content hq
    rcases makeDirectories_changes h (l ++ [v] ++ q) (Set.notMem_empty _) with
      hsame | ⟨-, -, hdir⟩
    · exact htidy.files q content (hsame ▸ hq)
    · rw [hdir] at hq
      cases hq

/-- **A class can be written**, if its path can be taken. -/
theorem exists_save (hlast : '.' ∈ last.toList) (hdown : last ≠ "..")
    (hfits : Fits ⟨base.root, base.parts ++ v :: (front ++ [last])⟩) (content : Content) :
    ∃ n u, t.makeDirectories ⟨base.root, base.parts ++ v :: front⟩ = .ok n ∧
      n.write ⟨base.root, base.parts ++ v :: (front ++ [last])⟩ content = .ok u := by
  have hparts : base.parts ++ v :: (front ++ [last]) = base.parts ++ v :: front ++ [last] := by simp
  rw [hparts] at hfits ⊢
  have hsize : ∀ name ∈ v :: front, name.utf8ByteSize ≤ longestName := fun name hname =>
    hfits.names name (List.mem_append_left _ (List.mem_append_right _ hname))
  have hup : ".." ∉ v :: front := dots_not_mem (List.forall_mem_cons.2 ⟨hv, hfront⟩)
  have hfree : ∀ q content, q <+: v :: front → t.lookup (l ++ q) ≠ some (.file content) := by
    intro q content hq hfile
    cases q with
    | nil =>
      rw [List.append_nil, hbase.directory] at hfile
      cases hfile
    | cons name q =>
      obtain ⟨rfl, hle⟩ := List.cons_prefix_cons.1 hq
      rw [List.append_cons] at hfile
      obtain ⟨part, hpart, hdot⟩ := htidy.files q content hfile
      exact hfront part (hle.subset hpart) hdot
  obtain ⟨n, hn, hl, hdir⟩ := exists_makeDirectories hbase.locate hbase.directory
    (pathProblem?_of_concat hfits.problem) hup hsize hfree
  have hlocate : n.locate ⟨base.root, base.parts ++ v :: front ++ [last]⟩ =
      .ok (l ++ v :: front ++ [last]) := by
    refine locate_eq_ok_iff.2 ⟨hfits.problem, foldlM_step_concat.2
      ⟨l ++ v :: front, (locate_eq_ok_iff.1 hl).2, ?_⟩⟩
    exact step_eq_ok_iff.2 ⟨hdir, hfits.names last (by simp), by rw [if_neg hdown]⟩
  have hplace : n.lookup (l ++ v :: front ++ [last]) ≠ some .directory := by
    intro hdirectory
    have htidy' := htidy.makeDirectories hbase hv hfront hn
    have hsplit : l ++ v :: front ++ [last] = l ++ [v] ++ (front ++ [last]) := by simp
    rw [hsplit] at hdirectory
    exact htidy'.directories _ hdirectory last (by simp) hlast
  obtain ⟨u, hu, -⟩ := write_spec hlocate hplace content
  exact ⟨n, u, hn, hu⟩

/-- **Writing a class leaves everything tidy.** -/
theorem tidy_save (hlast : '.' ∈ last.toList) (hdown : last ≠ "..")
    (hmake : t.makeDirectories ⟨base.root, base.parts ++ v :: front⟩ = .ok n)
    (hwrite : n.write ⟨base.root, base.parts ++ v :: (front ++ [last])⟩ content = .ok u) :
    Leads u base l ∧ Tidy (l ++ [v]) u := by
  obtain ⟨m, hm, hne, hlookup⟩ := write_inv hwrite
  have hbase' : Leads n base l := hbase.keeps (makeDirectories_grows hmake).keeps
  have htidy' := htidy.makeDirectories hbase hv hfront hmake
  have hup : ".." ∉ v :: (front ++ [last]) := by
    have hup := dots_not_mem (List.forall_mem_cons.2 ⟨hv, hfront⟩)
    rw [← List.cons_append, List.mem_append, List.mem_singleton, not_or]
    exact ⟨hup, hdown.symm⟩
  have hplace : m = l ++ [v] ++ (front ++ [last]) := by
    rw [← place_of_locate hm, Path.place, List.foldl_append, Path.foldl_follow hup,
      ← place_of_locate hbase.locate, List.append_assoc]
    rfl
  have hother : ∀ {x e}, u.lookup x = some e → x ≠ m → n.lookup x = some e := by
    intro x e hx hxm
    rwa [hlookup, Function.update_of_ne hxm] at hx
  refine ⟨hbase'.keeps fun x hx => ?_, fun q hq => ?_, fun q content hq => ?_⟩
  · have hxm : x ≠ m := by
      rintro rfl
      exact hne hx
    rwa [hlookup, Function.update_of_ne hxm]
  · refine htidy'.directories q (hother hq ?_)
    intro hqm
    rw [hlookup, hqm, Function.update_self] at hq
    cases hq
  · by_cases hqm : l ++ [v] ++ q = m
    · rw [hplace] at hqm
      rw [List.append_cancel_left hqm]
      exact ⟨last, by simp, hlast⟩
    · exact htidy'.files q content (hother hq hqm)

end

end FileTree

/-! ### The directory of a variant -/

namespace Site

open FileTree

variable {site : Site} {v : Variant} {s : Source} {t n u : FileTree} {p : Path} {content : Content}

/-- The directory of the sources can be made, and then that of the variant is tidy. -/
def Roomy (site : Site) (v : Variant) (t : FileTree) : Prop :=
  ∃ n, t.makeDirectories site.generateDir = .ok n ∧
    Tidy (site.generateDir.place ++ [v.name]) n

theorem parent_java (root name : String) (base front : List String) (last : String) :
    Path.parent ⟨root, base ++ name :: (front ++ [last])⟩ = ⟨root, base ++ name :: front⟩ := by
  rw [Path.parent, ← List.cons_append, ← List.append_assoc, List.dropLast_concat]

/-- The path of the class can be taken in a variant. -/
def Names (site : Site) (v : Variant) (identifier : String) : Prop :=
  ∀ s : Source, s.identifier = identifier → s.variant = some v →
    ∀ p, site.target s = .ok p → Fits p

/-- A path that can be taken in one variant can be taken in the other: their names have the same
length. -/
theorem Names.variant {identifier : String} (h : Name.IsInner identifier)
    (hv : site.Names v identifier) (w : Variant) : site.Names w identifier := by
  obtain ⟨front, last, -, htarget⟩ := target_of_isInner h
  rintro s rfl hw p hp
  cases (htarget site s rfl).symm.trans hp
  have hfits := hv { s with variant := some v } rfl rfl _ (htarget site _ rfl)
  rw [hw]
  have hsize : w.name.utf8ByteSize = v.name.utf8ByteSize := by cases v <;> cases w <;> rfl
  refine ⟨pathProblem?_of_name hfits.problem hsize (by cases w <;> decide), fun name hname => ?_⟩
  have hsmall : w.name.utf8ByteSize ≤ longestName := by cases w <;> decide
  have hrest := hfits.names name
  simp only [List.mem_append, List.mem_cons] at hname hrest
  rcases hname with hname | rfl | hname
  · exact hrest (.inl hname)
  · exact hsmall
  · exact hrest (.inr (.inr hname))

section

variable (h : site.Roomy v t) (hinner : Name.IsInner s.identifier) (hv : s.variant = some v)
  (hp : site.target s = .ok p)

include h hinner hv hp

/-- **There is room for a class** if its path can be taken. -/
theorem Roomy.exists_save (hfits : Fits p) (content : Content) :
    ∃ n u, t.makeDirectories p.parent = .ok n ∧ n.write p content = .ok u := by
  obtain ⟨front, last, hfront, htarget⟩ := target_of_isInner hinner
  cases (htarget site s rfl).symm.trans hp
  obtain ⟨base, hbase, htidy⟩ := h
  rw [hv] at hfits ⊢
  have hleads := leads_iff_isDirectory.2 (isDirectory_makeDirectories hbase)
  obtain ⟨n, u, hn, hu⟩ := FileTree.exists_save hleads htidy (Variant.dot_not_mem_tree (some v))
    hfront (by simp) (Metadata.append_ne_dots (by decide)) hfits content
  refine ⟨n, u, ?_, hu⟩
  rw [parent_java]
  exact (makeDirectories_after hbase _).ok_iff.2 hn

/-- **There is room afterwards**, and the path could be taken. -/
theorem Roomy.save (hmake : t.makeDirectories p.parent = .ok n)
    (hwrite : n.write p content = .ok u) : site.Roomy v u ∧ Fits p := by
  obtain ⟨front, last, hfront, htarget⟩ := target_of_isInner hinner
  cases (htarget site s rfl).symm.trans hp
  obtain ⟨base, hbase, htidy⟩ := h
  obtain ⟨l, hl, -⟩ := write_inv hwrite
  refine ⟨?_, fits_of_locate hl⟩
  rw [hv] at hmake hwrite
  have hleads := leads_iff_isDirectory.2 (isDirectory_makeDirectories hbase)
  rw [parent_java] at hmake
  obtain ⟨hleads', htidy'⟩ := FileTree.tidy_save hleads htidy (Variant.dot_not_mem_tree (some v))
    hfront (by simp) (Metadata.append_ne_dots (by decide))
    ((makeDirectories_after hbase _).ok_iff.1 hmake) hwrite
  exact ⟨u, makeDirectories_of_isDirectory (leads_iff_isDirectory.1 hleads'), htidy'⟩

end

end Site

end SoapStubs
