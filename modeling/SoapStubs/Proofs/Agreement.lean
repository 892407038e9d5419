import SoapStubs.Proofs.Course

/-!
# Runs that agree about a variant

Two runs of a generator whose compilers do the same for a variant are compared, as far as that
variant is concerned.

* `Generator.Packages.changes` and `Generator.PackagesEach.view` are what packaging does to a tree;
* `Generator.Agree` relates the trees of two runs that are the same as far as a variant is
  concerned.  They stay so while what belongs to others changes (`Generator.Agree.changes`) and
  while this variant is packaged (`Generator.Agree.packages`);
* `Generator.Compiles.agree`: compiling a variant by compilers that do the same for it
  (`Generator.SameCalls`) leads to such trees.

The trees of the two runs may have different directories where a path passes: if the directory
that everything is written to is given as `out/compile/legacy/../..`, then compiling the one variant
makes a directory of the other.  These are directories in both trees once the variant is compiled
(`Generator.Paved`), and the packaging of both runs begins by making them.
-/

namespace SoapStubs.Generator

open FileTree

variable {g : Generator} {v : Variant} {t t' u u' : FileTree} {l : Location} {p : Path}
  {roots : List Path} {a name ending : String}

/-! ### What packaging changes -/

theorem isRoot_of_mem_sourceDirs (h : p ∈ g.sourceDirs v) : ∃ name, g.IsRoot p "generate" name := by
  rcases List.mem_pair.1 h with rfl | rfl
  · exact isRoot_sourceDir none
  · exact isRoot_sourceDir (some v)

/-- The locations in which directories may be made. -/
def ways (g : Generator) : Set Location := g.settings.compileDir.way ∪ g.settings.buildDir.way

theorem mem_ways : l ∈ g.ways ↔ l ∈ g.settings.outputDir.way ∨
    l = g.settings.outputDir.place ++ ["compile"] ∨
    l = g.settings.outputDir.place ++ ["build"] := by
  rw [ways, Set.mem_union, Settings.compileDir, Settings.buildDir, isName_compile.mem_way_child,
    isName_build.mem_way_child]
  tauto

theorem mem_archives_of_ending (hending : ending ∈ [".jar", "-src.jar"]) :
    (g.archive v ending).place ∈ g.archives v := by
  rw [archives, binaries_libraryOf, sources_libraryOf]
  rcases List.mem_pair.1 hending with rfl | rfl
  · exact .inl rfl
  · exact .inr rfl

section

variable (hbase : '/' ∉ g.settings.archiveBase.toList)

include hbase

theorem archive_spec (hending : ending ∈ [".jar", "-src.jar"]) (ht : t.Distinct)
    (hroots : ∀ root ∈ roots, ∃ a name, g.IsRoot root a name)
    (h : Archive.write t (g.archive v ending) roots = .ok t') :
    ∃ t₁, t.makeDirectories g.settings.buildDir = .ok t₁ ∧ t'.Distinct ∧ SameDirectories t₁ t' ∧
      t'.lookup = Function.update t₁.lookup (g.archive v ending).place
        (some (.file (.archive (Archive.entries t₁ roots)))) ∧
      t'.read (g.archive v ending) = .ok (.archive (Archive.entries t₁ roots)) := by
  have happart : ∀ root ∈ roots,
      root.place ≠ [] ∧ ∀ x, ¬root.place <+: g.settings.buildDir.place ++ [x] := by
    intro root hroot
    obtain ⟨a, name, hr⟩ := hroots root hroot
    exact ⟨by simp [hr.place], hr.not_archive⟩
  rw [place_archive hbase hending]
  exact Archive.write_spec ht (isName_archive hbase v hending) happart h

theorem archive_changes (hending : ending ∈ [".jar", "-src.jar"]) (ht : t.Distinct)
    (hroots : ∀ root ∈ roots, ∃ a name, g.IsRoot root a name)
    (h : Archive.write t (g.archive v ending) roots = .ok t') :
    Changes g.ways (g.archives v) t t' ∧ t'.Distinct ∧ ∃ es,
      t'.fileAt = Function.update t.fileAt (g.archive v ending).place (some (.archive es)) := by
  obtain ⟨t₁, hmade, hdistinct, -, hlookup, -⟩ := archive_spec hbase hending ht hroots h
  have hmade' : Changes g.ways (g.archives v) t t₁ :=
    (makeDirectories_changes hmade).mono (fun l hl _ => .inr hl) (Set.empty_subset _)
  have hwritten : Changes g.ways (g.archives v) t₁ t' :=
    (Changes.of_update g.ways hlookup).mono (fun l hl _ => hl)
      (Set.singleton_subset_iff.2 (mem_archives_of_ending hending))
  refine ⟨hmade'.trans hwritten, hdistinct, Archive.entries t₁ roots, funext fun l => ?_⟩
  by_cases hl : l = (g.archive v ending).place
  · rw [hl, fileAt, hlookup, Function.update_self, Function.update_self]
  · rw [Function.update_of_ne hl, ← (makeDirectories_inv hmade).2]
    exact fileAt_congr (by rw [hlookup, Function.update_of_ne hl])

theorem Packages.changes (h : g.Packages v t t') (ht : t.Distinct) :
    Changes g.ways (g.archives v) t t' ∧ t'.Distinct ∧
      ∀ l ∈ g.archives v, ∃ es, t'.fileAt l = some (.archive es) := by
  obtain ⟨u, hbinaries, hsources⟩ := h
  rw [binaries_libraryOf] at hbinaries
  rw [sources_libraryOf] at hsources
  obtain ⟨hfirst, hdistinct, es, hes⟩ := archive_changes hbase (v := v) binaries_mem ht
    (by simpa using ⟨_, _, isRoot_classesDir v⟩) hbinaries
  obtain ⟨hsecond, hdistinct', es', hes'⟩ := archive_changes hbase (v := v) sources_mem hdistinct
    (fun root hroot => ⟨_, isRoot_of_mem_sourceDirs hroot⟩) hsources
  refine ⟨hfirst.trans hsecond, hdistinct', ?_⟩
  intro l hl
  rw [archives, binaries_libraryOf, sources_libraryOf] at hl
  rw [hes']
  by_cases hsource : l = (g.archive v "-src.jar").place
  · exact ⟨es', by rw [hsource, Function.update_self]⟩
  · refine ⟨es, ?_⟩
    rw [Function.update_of_ne hsource, hes, hl.resolve_right hsource]
    exact Function.update_self ..

theorem Packages.changes_others {w : Variant} (h : g.Packages w t t') (ht : t.Distinct)
    (hv : w ≠ v) : Changes g.ways (g.others v) t t' ∧ t'.Distinct := by
  obtain ⟨hchanges, hdistinct, -⟩ := h.changes hbase ht
  exact ⟨hchanges.mono (fun _ hl _ => hl) fun l hl => ⟨w, hv, .inr hl⟩, hdistinct⟩

theorem PackagesEach.changes {vs : List Variant} (h : g.PackagesEach t vs t') (ht : t.Distinct)
    (hv : v ∉ vs) : Changes g.ways (g.others v) t t' ∧ t'.Distinct := by
  induction h with
  | nil => exact ⟨.refl _ _ _, ht⟩
  | cons first _ ih =>
    rw [List.mem_cons, not_or] at hv
    obtain ⟨hfirst, hdistinct⟩ := first.changes_others hbase ht (Ne.symm hv.1)
    obtain ⟨hrest, hdistinct'⟩ := ih hdistinct hv.2
    exact ⟨hfirst.trans hrest, hdistinct'⟩

omit hbase in
/-- The variants before one, this one and those after it. -/
theorem PackagesEach.split {before after : List Variant}
    (h : g.PackagesEach t (before ++ v :: after) t') :
    ∃ t₁ t₂, g.PackagesEach t before t₁ ∧ g.Packages v t₁ t₂ ∧ g.PackagesEach t₂ after t' := by
  induction before generalizing t with
  | nil =>
    cases h with
    | cons first others => exact ⟨t, _, .nil, first, others⟩
  | cons w before ih =>
    cases h with
    | cons first others =>
      obtain ⟨t₁, t₂, hbefore, hpackages, hafter⟩ := ih others
      exact ⟨t₁, t₂, .cons first hbefore, hpackages, hafter⟩

/-- Before a variant is packaged, and then again after it, only what is others' changes. -/
theorem PackagesEach.view {vs : List Variant} (h : g.PackagesEach t vs t') (ht : t.Distinct)
    (hnodup : vs.Nodup) (hv : v ∈ vs) :
    ∃ t₁ t₂, (Changes g.ways (g.others v) t t₁ ∧ t₁.Distinct) ∧ g.Packages v t₁ t₂ ∧
      Changes g.ways (g.others v) t₂ t' ∧ t'.Distinct := by
  obtain ⟨before, after, rfl⟩ := List.append_of_mem hv
  have hnot := (List.nodup_cons.1 (List.nodup_middle.1 hnodup)).1
  rw [List.mem_append, not_or] at hnot
  obtain ⟨t₁, t₂, hbefore, hone, hafter⟩ := h.split
  obtain ⟨hfirst, hdistinct⟩ := hbefore.changes hbase ht hnot.1
  have hdistinct' := (hone.changes hbase hdistinct).2.1
  exact ⟨t₁, t₂, ⟨hfirst, hdistinct⟩, hone, hafter.changes hbase hdistinct' hnot.2⟩

end

/-! ### Two runs, as a variant sees them -/

/-- The way to the classes of a variant is there, but for what belongs to others. -/
def Paved (g : Generator) (v : Variant) (t : FileTree) : Prop :=
  ∀ l ∈ (g.classesDir v).way, l ∉ g.others v → t.lookup l = some .directory

/-- The trees are the same as far as a variant is concerned that was compiled in both. -/
structure Agree (g : Generator) (v : Variant) (t u : FileTree) : Prop where
  /-- They differ in what belongs to others, and in directories on the way. -/
  near : Near g.ways (g.others v) t u
  /-- The way to the classes is there. -/
  paved : g.Paved v t
  /-- In both. -/
  paved' : g.Paved v u
  /-- There is one entry for each location. -/
  distinct : t.Distinct
  /-- In both. -/
  distinct' : u.Distinct

theorem Paved.keeps (h : g.Paved v t) (hk : KeepsDirectories t t') : g.Paved v t' :=
  fun l hl hnot => hk l (h l hl hnot)

namespace Agree

/-- **What changes what belongs to others** does not concern the variant. -/
theorem changes (h : g.Agree v t u) (ht : Changes g.ways (g.others v) t t')
    (hu : Changes g.ways (g.others v) u u') (hd : t'.Distinct) (hd' : u'.Distinct) :
    g.Agree v t' u' :=
  ⟨h.near.changes ht hu, fun l hl hnot => ht.directory hnot (h.paved l hl hnot),
    fun l hl hnot => hu.directory hnot (h.paved' l hl hnot), hd, hd'⟩

variable (h : g.Agree v t u)

include h

section

variable (hbase : '/' ∉ g.settings.archiveBase.toList)
  (ho : t.isDirectory g.settings.outputDir = true)
  (ho' : u.isDirectory g.settings.outputDir = true)

include hbase ho ho'

/-- The sources of the variant are the same in both trees. -/
theorem entries_sources :
    Archive.entries t (g.sourceDirs v) = Archive.entries u (g.sourceDirs v) := by
  refine Archive.entries_congr h.distinct h.distinct' fun root hroot => ?_
  obtain ⟨name, hname⟩ := isRoot_of_mem_sourceDirs hroot
  have harea : ∀ {l}, l ∈ g.area "generate" → l ∉ g.others v :=
    fun hl => not_mem_others_of_area hbase hl (by decide) (by decide)
  refine ⟨by simp [hname.place], hname.isDirectory_congr ho ho' ?_,
    fun l hl => h.near.files l (harea (hname.mem_area hl))⟩
  intro l hl _
  by_cases hway : l ∈ g.ways
  · -- no directory is made among the sources, unless the way to everything leads through them
    rcases mem_ways.1 hway with hout | rfl | rfl
    · rw [(leads_iff_isDirectory.2 ho).way hout, (leads_iff_isDirectory.2 ho').way hout]
    · exact absurd (name_unique hl (List.prefix_refl _)) (by decide)
    · exact absurd (name_unique hl (List.prefix_refl _)) (by decide)
  · rw [h.near.entries l (harea hl) hway]

/-- The classes of the variant are the same in both trees. -/
theorem entries_classes :
    Archive.entries t [g.classesDir v] = Archive.entries u [g.classesDir v] := by
  refine Archive.entries_congr h.distinct h.distinct' fun root hroot => ?_
  obtain rfl := List.mem_singleton.1 hroot
  have hv := isRoot_classesDir (g := g) v
  refine ⟨by simp [hv.place], hv.isDirectory_congr ho ho' ?_,
    fun l hl => h.near.files l (not_mem_others hbase (.inl hl))⟩
  intro l hl hle
  obtain ⟨hway, hnot⟩ := mem_way_of_between hbase hl hle
  rw [h.paved l hway hnot, h.paved' l hway hnot]

end

section

variable (hbase : '/' ∉ g.settings.archiveBase.toList)

include hbase

/-- An archive is the same in both trees if what it is made of is. -/
theorem archive (hending : ending ∈ [".jar", "-src.jar"])
    (hroots : ∀ root ∈ roots, ∃ a name, g.IsRoot root a name)
    (hentries : ∀ {t u}, g.Agree v t u → t.isDirectory g.settings.outputDir = true →
      u.isDirectory g.settings.outputDir = true → Archive.entries t roots = Archive.entries u roots)
    (ht : Archive.write t (g.archive v ending) roots = .ok t')
    (hu : Archive.write u (g.archive v ending) roots = .ok u') : g.Agree v t' u' := by
  obtain ⟨t₁, hmade, hd, hsame, hlookup, -⟩ := archive_spec hbase hending h.distinct hroots ht
  obtain ⟨u₁, hmade', hd', hsame', hlookup', -⟩ := archive_spec hbase hending h.distinct' hroots hu
  have hchanges : ∀ {t t₁ : FileTree}, t.makeDirectories g.settings.buildDir = .ok t₁ →
      Changes g.ways (g.others v) t t₁ := fun hm =>
    (makeDirectories_changes hm).mono (fun l hl _ => .inr hl) (Set.empty_subset _)
  have hagree := h.changes (hchanges hmade) (hchanges hmade')
    (h.distinct.makeDirectories hmade) (h.distinct'.makeDirectories hmade')
  have hout : ∀ {t t₁ : FileTree}, t.makeDirectories g.settings.buildDir = .ok t₁ →
      t₁.isDirectory g.settings.outputDir = true := fun hm =>
    ((isDirectory_child isName_build).1 (isDirectory_makeDirectories hm)).1
  rw [hentries hagree (hout hmade) (hout hmade')] at hlookup
  have hupdate := (Changes.of_update g.ways hlookup).mono (fun _ hl _ => hl)
    (Set.subset_union_right (s := g.others v))
  have hupdate' := (Changes.of_update g.ways hlookup').mono (fun _ hl _ => hl)
    (Set.subset_union_right (s := g.others v))
  have hwritten : t'.lookup (g.archive v ending).place = u'.lookup (g.archive v ending).place := by
    rw [hlookup, hlookup', Function.update_self, Function.update_self]
  refine ⟨hagree.near.changes_same hupdate hupdate' ?_ ?_, hagree.paved.keeps hsame.keeps,
    hagree.paved'.keeps hsame'.keeps, hd, hd'⟩
  · intro l hl
    rw [Set.mem_singleton_iff.1 hl]
    exact fileAt_congr hwritten
  · intro l hl _
    rw [Set.mem_singleton_iff.1 hl]
    exact hwritten

/-- **Packaging the variant** makes the same archives in both trees. -/
theorem packages (ht : g.Packages v t t') (hu : g.Packages v u u') : g.Agree v t' u' := by
  obtain ⟨t₁, hbinaries, hsources⟩ := ht
  obtain ⟨u₁, hbinaries', hsources'⟩ := hu
  rw [binaries_libraryOf] at hbinaries hbinaries'
  rw [sources_libraryOf] at hsources hsources'
  have hfirst : g.Agree v t₁ u₁ := h.archive hbase binaries_mem
    (by simpa using ⟨_, _, isRoot_classesDir v⟩)
    (fun hagree => hagree.entries_classes hbase) hbinaries hbinaries'
  exact hfirst.archive hbase sources_mem
    (fun root hroot => ⟨_, isRoot_of_mem_sourceDirs hroot⟩)
    (fun hagree => hagree.entries_sources hbase) hsources hsources'

/-- Trees that agree have the same classes and archives of the variant. -/
theorem same : (∀ l ∈ g.classes v, t.lookup l = u.lookup l) ∧
    ∀ l ∈ g.archives v, t.fileAt l = u.fileAt l := by
  refine ⟨fun l hl => ?_, fun l hl => h.near.files l (not_mem_others hbase (.inr hl))⟩
  have hnot := not_mem_others hbase (.inl hl)
  by_cases hway : l ∈ g.ways
  · have hpaved : l ∈ (g.classesDir v).way := by
      refine (isName_variant v).mem_way_child.2 (.inl ?_)
      rcases mem_ways.1 hway with hout | rfl | rfl
      · exact isName_compile.mem_way_child.2 (.inl hout)
      · exact isName_compile.mem_way_child.2 (.inr rfl)
      · exact absurd (area_unique ((isRoot_classesDir v).mem_area hl) (List.prefix_refl _))
          (by decide)
    rw [h.paved l hpaved hnot, h.paved' l hpaved hnot]
  · exact h.near.entries l hnot hway

end

end Agree

/-! ### Compiling by compilers that do the same -/

section

variable {c : CommonResult} {r : VariantResult} {k : Compiler} {b b' : Bool}

/-- For a variant, a compiler does the same as that of the generator: with the same files, but for
what belongs to the other variants, both accept it or both reject it, and if they accept it they
leave the same in its directory. -/
def SameCalls (g : Generator) (k : Compiler) (c : CommonResult) (r : VariantResult) : Prop :=
  ∀ s s' report report' u u',
    Near g.settings.compileDir.way (g.otherClasses r.variant) s.files s'.files →
    (g.compiler.compile (g.request c r)).Returns s report u →
    (k.compile (g.request c r)).Returns s' report' u' →
    report.success = report'.success ∧
      (report.success = true → ∀ l ∈ g.classes r.variant, u.files.lookup l = u'.files.lookup l)

theorem lookup_of_read {x : Content} (h : t.read p = .ok x) :
    t.lookup p.place = some (.file x) := by
  obtain ⟨l, hl, hlookup⟩ := read_eq_ok.1 h
  rw [place_of_locate hl, hlookup]

variable (hrun : c.runId = g.settings.runId)

include hrun

/-- What is stored of a variant is the same in both trees. -/
theorem lookup_stored {f f' : Metadata.Files}
    (hsame : ∀ l ∈ g.classes r.variant, t.lookup l = u.lookup l)
    (ht : (Metadata.persist .none t (g.storing c r)).2.result = .ok f)
    (hu : (Metadata.persist .none u (g.storing c r)).2.result = .ok f')
    (hl : l ∈ g.classes r.variant) :
    (Metadata.persist .none t (g.storing c r)).1.lookup l =
      (Metadata.persist .none u (g.storing c r)).1.lookup l := by
  obtain ⟨hchanges, hdir⟩ := changes_stored hrun ht
  obtain ⟨hchanges', hdir'⟩ := changes_stored hrun hu
  have law : Metadata.Chance.none.Lawful := .of_beside rfl
  obtain ⟨-, hwritten⟩ := Metadata.persist_written rfl rfl law ht
  obtain ⟨-, hwritten'⟩ := Metadata.persist_written rfl rfl law hu
  by_cases hmetadata : l ∈ g.metadata r.variant
  · rw [← files_storing hrun] at hmetadata
    rcases hmetadata with rfl | rfl
    · rw [lookup_of_read hwritten.types, lookup_of_read hwritten'.types]
    · rw [lookup_of_read hwritten.bindings, lookup_of_read hwritten'.bindings]
  by_cases hway : l ∈ (g.classesDir r.variant).way
  · rw [(leads_iff_isDirectory.2 hdir).way hway, (leads_iff_isDirectory.2 hdir').way hway]
  · have hkept := (hchanges l hmetadata).resolve_right fun hmade => hway hmade.1
    have hkept' := (hchanges' l hmetadata).resolve_right fun hmade => hway hmade.1
    rw [hkept, hkept', hsame l hl]

variable (hslash : '/' ∉ g.settings.runId.toList)

include hslash

theorem agree_stored {f f' : Metadata.Files}
    (hnear : Near g.settings.compileDir.way (g.otherClasses r.variant) t u)
    (hsame : ∀ l ∈ g.classes r.variant, t.lookup l = u.lookup l)
    (hd : t.Distinct) (hd' : u.Distinct)
    (ht : (Metadata.persist .none t (g.storing c r)).2.result = .ok f)
    (hu : (Metadata.persist .none u (g.storing c r)).2.result = .ok f') :
    g.Agree r.variant (Metadata.persist .none t (g.storing c r)).1
      (Metadata.persist .none u (g.storing c r)).1 := by
  obtain ⟨hchanges, hdir⟩ := changes_stored hrun ht
  obtain ⟨hchanges', hdir'⟩ := changes_stored hrun hu
  have hways : ∀ l ∈ (g.classesDir r.variant).way,
      l ∉ g.otherClasses r.variant ∪ g.classes r.variant → l ∈ g.settings.compileDir.way :=
    fun l hl hnot => mem_way_classesDir hl fun hmem => hnot (.inr hmem)
  have hsubset : g.metadata r.variant ⊆ g.otherClasses r.variant ∪ g.classes r.variant :=
    fun l hl => .inr (metadata_subset hslash hl)
  have hstored : ∀ l ∈ g.classes r.variant,
      (Metadata.persist .none t (g.storing c r)).1.lookup l =
        (Metadata.persist .none u (g.storing c r)).1.lookup l :=
    fun l hl => lookup_stored hrun hsame ht hu hl
  have hnear' := hnear.changes_same (hchanges.mono hways hsubset) (hchanges'.mono hways hsubset)
    (fun l hl => fileAt_congr (hstored l hl)) (fun l hl _ => hstored l hl)
  exact ⟨hnear'.mono Set.subset_union_left (otherClasses_subset r.variant),
    fun l hl _ => (leads_iff_isDirectory.2 hdir).way hl,
    fun l hl _ => (leads_iff_isDirectory.2 hdir').way hl,
    Metadata.distinct_persist hd, Metadata.distinct_persist hd'⟩

/-- **Compilers that do the same for a variant** lead to trees that agree about it. -/
theorem Compiles.agree (hsame : g.SameCalls k c r)
    (hnear : Near g.settings.compileDir.way (g.otherClasses r.variant) t u)
    (hd : t.Distinct) (hd' : u.Distinct) (h : g.Compiles c r t b t')
    (h' : (g.withCompiler k).Compiles c r u b' u') :
    b = b' ∧ (b = true → g.Agree r.variant t' u') := by
  cases h with
  | @rejected s₁ s₂ report call hreport =>
    cases h' with
    | rejected call' hreport' => exact ⟨rfl, nofun⟩
    | stored call' hreport' _ =>
      have hsuccess := (hsame _ _ _ _ _ _ hnear call.returns call'.returns).1
      rw [hreport, hreport'] at hsuccess
      cases hsuccess
  | stored call hreport hstored =>
    cases h' with
    | rejected call' hreport' =>
      have hsuccess := (hsame _ _ _ _ _ _ hnear call.returns call'.returns).1
      rw [hreport, hreport'] at hsuccess
      cases hsuccess
    | stored call' hreport' hstored' =>
      -- the calls leave the same classes, and the same is then stored with them
      have hclasses := (hsame _ _ _ _ _ _ hnear call.returns call'.returns).2 hreport
      refine ⟨rfl, fun _ => ?_⟩
      have hcall := (changes_call call).mono (fun _ hl _ => hl)
        (Set.subset_union_right (s := g.otherClasses r.variant))
      have hcall' := (changes_call call').mono (fun _ hl _ => hl)
        (Set.subset_union_right (s := g.otherClasses r.variant))
      have hnear' := hnear.changes_same hcall hcall' (fun l hl => fileAt_congr (hclasses l hl))
        (fun l hl _ => hclasses l hl)
      exact agree_stored hrun hslash hnear' hclasses (call.distinct hd) (call'.distinct hd')
        hstored hstored'

end

end SoapStubs.Generator
