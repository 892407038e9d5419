import SoapStubs.Proofs.Compilation
import SoapStubs.Proofs.Containment
import SoapStubs.Proofs.Isolation

/-!
# Nothing is lost on the way to the archives

What the archives of a compiled variant list, in terms of what was generated and of what the
compiler left.

* `Generator.generate_written`: generation writes a file for each artifact, and no other file is
  new;
* `Generator.PackagesEach.read`: the archives of a variant, as they can be read when all variants
  have been packaged;
* `Generator.inventory_sources` and `Generator.inventory_classes`: the entries of these archives are
  the files below the directories of a variant, and these do not change any more;
* `Generator.Packed` says what the archives list, and `Generator.run_packs` that a run packs each
  variant that compiled like this: **nothing is lost between generation and packaging.**

All that is known of the compiler is that it keeps to its directory (`Compiler.Confined`).  It may
leave anything there, and it may leave different files in different runs, so what it left is taken
from the call that the run itself made (`Generator.Called`).
-/

namespace SoapStubs

open FileTree

/-! ### Directories of files -/

namespace FileTree

variable {t : FileTree} {root : String} {k rest : List String} {l : Location}

/-- A path that goes on behind another one passes a directory there. -/
theorem isDirectory_of_append (h : t.locate ⟨root, k ++ rest⟩ = .ok l) (hne : rest ≠ []) :
    t.isDirectory ⟨root, k⟩ = true := by
  induction rest using List.reverseRecOn generalizing l with
  | nil => exact absurd rfl hne
  | append_singleton front a ih =>
    rw [← List.append_assoc] at h
    have hdir := isDirectory_of_concat h
    by_cases hfront : front = []
    · rwa [hfront, List.append_nil] at hdir
    · obtain ⟨d, hd, -⟩ := isDirectory_iff.1 hdir
      exact ih hd hfront

theorem isDirectory_of_below {dir p : Path} (hbelow : dir.Below p) (h : t.locate p = .ok l) :
    t.isDirectory dir = true := by
  obtain ⟨rest, hne, -, rfl⟩ := hbelow.exists
  exact isDirectory_of_append h hne

/-- What is read at a path can still be read if the directories are still there and nothing has
changed at its location. -/
theorem Changes.read {ways X : Set Location} {t' : FileTree} {p : Path} {content : Content}
    (h : Changes ways X t t') (hk : KeepsDirectories t t') (hp : p.place ∉ X)
    (hread : t.read p = .ok content) : t'.read p = .ok content := by
  obtain ⟨l, hl, hfile⟩ := read_eq_ok.1 hread
  obtain rfl := place_of_locate hl
  refine read_eq_ok.2 ⟨_, hk.locate hl, ?_⟩
  rcases h _ hp with hsame | ⟨-, hnone, -⟩
  · rw [hsame, hfile]
  · rw [hfile] at hnone
    cases hnone

end FileTree

/-! ### What generation leaves -/

/-- Since the first tree, the sources have been written: there is a file for each, and no other file
is new. -/
structure Written (es : List Emission) (t t' : FileTree) : Prop where
  /-- There is a file for each source. -/
  kept : Kept es t'
  /-- No other file has changed. -/
  changes : Changes Set.univ { l | ∃ e ∈ es, e.target.place = l } t t'

theorem Written.refl (t : FileTree) : Written [] t t := ⟨.nil t, .refl _ _ t⟩

/-- A script writes its sources. -/
theorem Written.play {site : Site} {b b' : Bench} {s s' : Session} {α : Type} {script : Script α}
    {a : α} {es : List Emission} {t : FileTree} (h : Written es t s.files)
    (hplay : (site.play b script).Returns s (a, b') s') :
    Written (es ++ site.emissions script.steps) t s'.files ∧
      b'.artifacts = b.artifacts ++ (site.emissions script.steps).map Emission.artifact := by
  obtain ⟨-, hsteps⟩ := Site.play_returns.1 hplay
  obtain ⟨hkept, hartifacts⟩ := Site.performAll_kept h.kept hsteps
  refine ⟨⟨hkept, ?_⟩, hartifacts⟩
  refine (h.changes.mono (fun _ hl _ => hl) ?_).trans
    ((Site.performAll_targets hsteps).mono (fun _ hl _ => hl) ?_)
  · exact fun l ⟨e, he, hl⟩ => ⟨e, List.mem_append_left _ he, hl⟩
  · exact fun l ⟨e, he, hl⟩ => ⟨e, List.mem_append_right _ he, hl⟩

namespace Generator

variable {g : Generator} {s s' : Session} {c : CommonResult} {rs : List VariantResult}
  {parallel : Option Bool}

/-- **What generation leaves**: the sources of all artifacts are written. -/
theorem generate_written (h : (g.generate parallel).Returns s (c, rs) s') :
    ∃ es, Written es s.files s'.files ∧
      c.artifacts ++ rs.flatMap (·.artifacts) = es.map Emission.artifact := by
  obtain ⟨l, m, s₁, s₂, hcommon, hl, hm, rfl⟩ := generate_inv h
  obtain ⟨plan, b, u, u', hu, hplay, rfl, hu'⟩ := runCommon_play hcommon
  obtain ⟨upper, bl, ul, ul', -, hul, hplayl, rfl, hul', -⟩ := runVariantOn_play hl
  obtain ⟨upper', bm, um, um', -, hum, hplaym, rfl, hum', -⟩ := runVariantOn_play hm
  have hnone : Written [] s.files u.files := hu ▸ .refl s.files
  obtain ⟨hwritten, hartifacts⟩ := hnone.play hplay
  rw [← hu', ← hul] at hwritten
  obtain ⟨hwrittenl, hartifactsl⟩ := hwritten.play hplayl
  rw [← hul', ← hum] at hwrittenl
  obtain ⟨hwrittenm, hartifactsm⟩ := hwrittenl.play hplaym
  rw [← hum'] at hwrittenm
  refine ⟨_, hwrittenm, ?_⟩
  simp [commonResult, variantResult, hartifacts, hartifactsl, hartifactsm]

end Generator

/-- The generated sources of a variant, or those that both share. -/
def RunReport.artifacts (report : RunReport) : Option Variant → List Artifact
  | none => report.common.artifacts
  | some v => (report.variants.filter (·.variant == v)).flatMap (·.artifacts)

theorem RunReport.exists_mem_artifacts {report : RunReport} {a : Artifact} :
    (∃ w, a ∈ report.artifacts w) ↔
      a ∈ report.common.artifacts ++ report.variants.flatMap (·.artifacts) := by
  rw [List.mem_append, List.mem_flatMap]
  constructor
  · rintro ⟨_ | v, ha⟩
    · exact .inl ha
    · obtain ⟨r, hr, ha⟩ := List.mem_flatMap.1 ha
      exact .inr ⟨r, List.mem_of_mem_filter hr, ha⟩
  · rintro (ha | ⟨r, hr, ha⟩)
    · exact ⟨none, ha⟩
    · exact ⟨some r.variant, List.mem_flatMap.2 ⟨r, by simp [hr], ha⟩⟩

namespace Generator

variable {g : Generator} {s s' : Session} {report : RunReport} {parallel : Option Bool}
  {w : Option Variant} {x : Location} {v : Variant} {t t' u : FileTree} {l : Location}

theorem mem_area_of_sourceDir (w : Option Variant) (x : Location) :
    (g.site.sourceDir w).place ++ x ∈ g.area "generate" := by
  obtain ⟨name, hname⟩ := isRoot_sourceDir (g := g) w
  exact hname.mem_area (List.prefix_append _ x)

section

variable (h : (g.generate parallel).Returns s (report.common, report.variants) s')
  (hbelow : ∀ w, ∀ a ∈ report.artifacts w, (g.site.sourceDir w).Below a.path)

include h hbelow

/-- There is a file for each artifact. -/
theorem exists_file {a : Artifact} (ha : a ∈ report.artifacts w) : ∃ content,
    s'.files.fileAt ((g.site.sourceDir w).place ++ (g.site.sourceDir w).behind a.path) =
      some content := by
  obtain ⟨es, hwritten, hes⟩ := generate_written h
  obtain ⟨e, he, rfl⟩ : ∃ e ∈ es, e.artifact = a := by
    rw [← List.mem_map, ← hes]
    exact RunReport.exists_mem_artifacts.1 ⟨w, ha⟩
  obtain ⟨e', -, -, hread⟩ := hwritten.kept.read_eq he
  have hlookup : s'.files.lookup e.artifact.path.place = some (.file (.text e'.text)) :=
    lookup_of_read hread
  exact ⟨.text e'.text, by rw [← (hbelow w _ ha).place_eq, fileAt, hlookup]⟩

variable (hempty : ∀ l ∈ g.area "generate", s.files.fileAt l = none)

include hempty

/-- A file in a directory of sources is that of an artifact, and the directory is there. -/
theorem exists_artifact {content : Content}
    (hfile : s'.files.fileAt ((g.site.sourceDir w).place ++ x) = some content) :
    (∃ a ∈ report.artifacts w, (g.site.sourceDir w).behind a.path = x) ∧
      s'.files.isDirectory (g.site.sourceDir w) = true := by
  obtain ⟨es, hwritten, hes⟩ := generate_written h
  by_cases hnew : ∃ e ∈ es, e.target.place = (g.site.sourceDir w).place ++ x
  · obtain ⟨e, he, hplace⟩ := hnew
    obtain ⟨w', ha⟩ : ∃ w', e.artifact ∈ report.artifacts w' := by
      rw [RunReport.exists_mem_artifacts, hes]
      exact List.mem_map_of_mem he
    have hdir : (g.site.sourceDir w').Below e.target := hbelow w' _ ha
    obtain rfl : w' = w :=
      Site.sourceDir_unique hdir.place (hplace ▸ List.prefix_append _ x)
    obtain ⟨l, hl⟩ := hwritten.kept.located e he
    refine ⟨⟨_, ha, ?_⟩, isDirectory_of_below hdir hl⟩
    exact List.append_cancel_left (hdir.place_eq.symm.trans hplace)
  · rw [hwritten.changes.fileAt hnew, hempty _ (mem_area_of_sourceDir w x)] at hfile
    cases hfile

end

/-! ### What packaging leaves -/

/-- Everything that is made of the sources. -/
def results (g : Generator) : Set Location := g.area "compile" ∪ g.area "build"

/-- What may change once a variant is compiled, but for directories. -/
def apart (g : Generator) (v : Variant) : Set Location := g.others v ∪ g.archives v

theorem classes_subset_results (v : Variant) : g.classes v ⊆ g.results :=
  fun _ hl => .inl ((isRoot_classesDir v).mem_area hl)

theorem otherClasses_subset_results (v : Variant) : g.otherClasses v ⊆ g.results := by
  rintro l ⟨w, -, hl⟩
  exact classes_subset_results w hl

theorem not_mem_results (hl : l ∈ g.area "generate") : l ∉ g.results := by
  rintro (hl' | hl')
  · exact absurd (area_unique hl hl') (by decide)
  · exact absurd (area_unique hl hl') (by decide)

/-- A tree from which an archive of a variant is made: since the given one, nothing has changed that
the archive is made of. -/
structure AtPacking (g : Generator) (v : Variant) (t u : FileTree) : Prop where
  /-- Only what is apart has changed. -/
  changes : Changes g.ways (g.apart v) t u
  /-- There is one entry for each location. -/
  distinct : u.Distinct
  /-- The directory that everything is written to is there. -/
  isDirectory : u.isDirectory g.settings.outputDir = true

section

variable (hbase : '/' ∉ g.settings.archiveBase.toList)

include hbase

theorem apart_subset_results (v : Variant) : g.apart v ⊆ g.results := by
  rintro l (⟨w, -, hl | hl⟩ | hl)
  · exact classes_subset_results w hl
  · exact .inr (archives_subset_area hbase hl)
  · exact .inr (archives_subset_area hbase hl)

theorem not_mem_apart (hl : l ∈ g.classes v) : l ∉ g.apart v := by
  rintro (hl' | hl')
  · exact not_mem_others hbase (.inl hl) hl'
  · exact not_mem_archives hbase hl hl'

/-- An archive can be read when it has been written, and all directories are still there. -/
theorem archive_read {roots : List Path} {ending : String} (hending : ending ∈ [".jar", "-src.jar"])
    (ht : t.Distinct) (hroots : ∀ root ∈ roots, ∃ a name, g.IsRoot root a name)
    (h : Archive.write t (g.archive v ending) roots = .ok t') :
    (∃ u, g.AtPacking v t u ∧
      t'.read (g.archive v ending) = .ok (.archive (Archive.entries u roots))) ∧
    KeepsDirectories t t' := by
  obtain ⟨u, hmade, -, hsame, -, hread⟩ := archive_spec hbase hending ht hroots h
  have hchanges : Changes g.ways (g.apart v) t u :=
    (makeDirectories_changes hmade).mono (fun l hl _ => .inr hl) (Set.empty_subset _)
  have hdir := ((isDirectory_child isName_build).1 (isDirectory_makeDirectories hmade)).1
  refine ⟨⟨u, ⟨hchanges, ht.makeDirectories hmade, hdir⟩, hread⟩, fun l hl => ?_⟩
  exact hsame.keeps l ((makeDirectories_grows hmade).keeps l hl)

theorem archive_ne (v : Variant) : (g.archive v ".jar").place ≠ (g.archive v "-src.jar").place := by
  rw [place_archive hbase binaries_mem, place_archive hbase sources_mem]
  simp [String.append_right_inj]

/-- The two archives of a variant, as they can be read when it has been packaged. -/
theorem Packages.read (h : g.Packages v t t') (ht : t.Distinct) :
    (∃ u u', g.AtPacking v t u ∧ g.AtPacking v t u' ∧
      t'.read (g.archive v ".jar") = .ok (.archive (Archive.entries u [g.classesDir v])) ∧
      t'.read (g.archive v "-src.jar") = .ok (.archive (Archive.entries u' (g.sourceDirs v)))) ∧
    KeepsDirectories t t' := by
  obtain ⟨t₁, hbinaries, hsources⟩ := h
  rw [binaries_libraryOf] at hbinaries
  rw [sources_libraryOf] at hsources
  have hroots : ∀ root ∈ [g.classesDir v], ∃ a name, g.IsRoot root a name := by
    simpa using ⟨_, _, isRoot_classesDir v⟩
  have hroots' : ∀ root ∈ g.sourceDirs v, ∃ a name, g.IsRoot root a name := fun root hroot =>
    ⟨_, isRoot_of_mem_sourceDirs hroot⟩
  obtain ⟨hchanges, hd₁, -⟩ := archive_changes hbase binaries_mem ht hroots hbinaries
  obtain ⟨⟨u, hu, hread⟩, hkeeps⟩ := archive_read hbase binaries_mem ht hroots hbinaries
  obtain ⟨⟨u', hu', hread'⟩, hkeeps'⟩ := archive_read hbase sources_mem hd₁ hroots' hsources
  obtain ⟨t₂, hmade, -, -, hlookup, -⟩ := archive_spec hbase sources_mem hd₁ hroots' hsources
  have hbeside : Changes g.settings.buildDir.way {(g.archive v "-src.jar").place} t₁ t' :=
    ((makeDirectories_changes hmade).mono (fun l hl _ => hl) (Set.empty_subset _)).trans
      (.of_update _ hlookup)
  refine ⟨⟨u, u', hu, ⟨?_, hu'.distinct, hu'.isDirectory⟩, ?_, hread'⟩, ?_⟩
  · exact (hchanges.mono (fun _ hl _ => hl) Set.subset_union_right).trans hu'.changes
  · exact hbeside.read hkeeps' (archive_ne hbase v) hread
  · exact fun l hl => hkeeps' l (hkeeps l hl)

theorem PackagesEach.keeps {vs : List Variant} (h : g.PackagesEach t vs t') (ht : t.Distinct) :
    KeepsDirectories t t' := by
  induction h with
  | nil => exact fun _ hl => hl
  | cons first _ ih =>
    have hkeeps := ih (first.changes hbase ht).2.1
    exact fun l hl => hkeeps l ((first.read hbase ht).2 l hl)

/-- **What packaging leaves**: the archives of each variant, made of what is in its directories. -/
theorem PackagesEach.read {vs : List Variant} (h : g.PackagesEach t vs t') (ht : t.Distinct)
    (hnodup : vs.Nodup) (hv : v ∈ vs) :
    Changes g.ways (g.apart v) t t' ∧ ∃ u u', g.AtPacking v t u ∧ g.AtPacking v t u' ∧
      t'.read (g.archive v ".jar") = .ok (.archive (Archive.entries u [g.classesDir v])) ∧
      t'.read (g.archive v "-src.jar") = .ok (.archive (Archive.entries u' (g.sourceDirs v))) := by
  obtain ⟨before, after, rfl⟩ := List.append_of_mem hv
  have hnot := (List.nodup_cons.1 (List.nodup_middle.1 hnodup)).1
  rw [List.mem_append, not_or] at hnot
  obtain ⟨t₁, t₂, hbefore, hone, hafter⟩ := h.split
  obtain ⟨hfirst, hd₁⟩ := hbefore.changes hbase ht hnot.1
  obtain ⟨hchanges, hd₂, -⟩ := hone.changes hbase hd₁
  obtain ⟨⟨u, u', hu, hu', hbinaries, hsources⟩, -⟩ := hone.read hbase hd₁
  have hlast := (hafter.changes hbase hd₂ hnot.2).1
  have hkeeps := hafter.keeps hbase hd₂
  have hfirst' : Changes g.ways (g.apart v) t t₁ :=
    hfirst.mono (fun _ hl _ => hl) Set.subset_union_left
  have hat : ∀ {u}, g.AtPacking v t₁ u → g.AtPacking v t u := fun hu =>
    ⟨hfirst'.trans hu.changes, hu.distinct, hu.isDirectory⟩
  have hread : ∀ {ending content}, ending ∈ [".jar", "-src.jar"] →
      t₂.read (g.archive v ending) = .ok content → t'.read (g.archive v ending) = .ok content :=
    fun hending => hlast.read hkeeps (not_mem_others hbase (.inr (mem_archives_of_ending hending)))
  refine ⟨(hfirst'.trans (hchanges.mono (fun _ hl _ => hl) Set.subset_union_right)).trans
    (hlast.mono (fun _ hl _ => hl) Set.subset_union_left), u, u', hat hu, hat hu', ?_, ?_⟩
  · exact hread binaries_mem hbinaries
  · exact hread sources_mem hsources

end

/-! ### What the archives list -/

section

variable (h : (g.generate parallel).Returns s (report.common, report.variants) s')
  (hbelow : ∀ w, ∀ a ∈ report.artifacts w, (g.site.sourceDir w).Below a.path)
  (hempty : ∀ l ∈ g.area "generate", s.files.fileAt l = none)
  (ht : Changes g.ways g.results s'.files t)

include h hbelow hempty ht

/-- The entries for a directory of sources are all that is there, and still is there later. -/
theorem inventory_sources (hu : Changes g.ways g.results s'.files u) (hd : u.Distinct)
    (hdir : u.isDirectory g.settings.outputDir = true) (w : Option Variant) :
    ∃ files, Archive.Inventory t (g.site.sourceDir w) files ∧
      Archive.entriesBelow u (g.site.sourceDir w) = Archive.pack files := by
  obtain ⟨name, hname⟩ := isRoot_sourceDir (g := g) w
  have hsame : ∀ {t}, Changes g.ways g.results s'.files t →
      ∀ y, (g.site.sourceDir w).place <+: y → t.fileAt y = s'.files.fileAt y := fun hc y hy =>
    hc.fileAt (not_mem_results (hname.mem_area hy))
  have hthere : ∀ x content, u.fileAt ((g.site.sourceDir w).place ++ x) = some content → x ≠ [] →
      u.isDirectory (g.site.sourceDir w) = true := by
    intro x content hfile _
    rw [hsame hu _ (List.prefix_append _ x)] at hfile
    obtain ⟨-, hthen⟩ := exists_artifact h hbelow hempty hfile
    exact hname.isDirectory_mono hthen hdir fun l hl _ => hu.directory (not_mem_results hl)
  obtain ⟨files, hfiles, hentries⟩ :=
    Archive.exists_inventory hd (by simp [hname.place]) hthere
  exact ⟨files, hfiles.congr fun y hy => (hsame hu y hy).trans (hsame ht y hy).symm, hentries⟩

/-- The files in a directory of sources are those of the artifacts. -/
theorem names_sources {files : List (Location × Content)}
    (hfiles : Archive.Inventory t (g.site.sourceDir w) files) :
    x ∈ files.map Prod.fst ↔
      ∃ a ∈ report.artifacts w, (g.site.sourceDir w).behind a.path = x := by
  rw [hfiles.mem_names, ht.fileAt (not_mem_results (mem_area_of_sourceDir w x))]
  constructor
  · rintro ⟨-, content, hfile⟩
    exact (exists_artifact h hbelow hempty hfile).1
  · rintro ⟨a, ha, rfl⟩
    refine ⟨fun hnil => ?_, exists_file h hbelow ha⟩
    exact absurd (hbelow w a ha).deeper (Nat.not_lt.2 (List.drop_eq_nil_iff.1 hnil))

end

section

variable {c : CommonResult} {r : VariantResult} {f : Metadata.Files}
  (hrun : c.runId = g.settings.runId)

include hrun

/-- The metadata is in its files. -/
theorem exists_metadata (h : (Metadata.persist .none t (g.storing c r)).2.result = .ok f)
    (hl : l ∈ g.metadata r.variant) :
    ∃ content, (Metadata.persist .none t (g.storing c r)).1.fileAt l = some content := by
  obtain ⟨-, hwritten⟩ := Metadata.persist_written rfl rfl (Metadata.Chance.Lawful.of_beside rfl) h
  rw [← files_storing hrun] at hl
  rcases hl with rfl | rfl
  · exact ⟨_, by rw [fileAt, lookup_of_read hwritten.types]⟩
  · exact ⟨_, by rw [fileAt, lookup_of_read hwritten.bindings]⟩

variable (hslash : '/' ∉ g.settings.runId.toList) (hbase : '/' ∉ g.settings.archiveBase.toList)

include hslash hbase

/-- The entries for the classes of a variant are what the compiler left and the metadata. -/
theorem inventory_classes (h : (Metadata.persist .none t (g.storing c r)).2.result = .ok f)
    (hu : g.AtPacking r.variant (Metadata.persist .none t (g.storing c r)).1 u)
    (ht : Changes g.ways (g.apart r.variant) (Metadata.persist .none t (g.storing c r)).1 t') :
    ∃ files, Archive.Inventory t' (g.classesDir r.variant) files ∧
      Archive.entries u [g.classesDir r.variant] = Archive.pack files ∧
      ∀ x, x ∈ files.map Prod.fst ↔
        (x ≠ [] ∧ ∃ content, t.fileAt ((g.classesDir r.variant).place ++ x) = some content) ∨
          x = [g.settings.runId ++ Metadata.typesSuffix] ∨
          x = [g.settings.runId ++ Metadata.bindingsSuffix] := by
  obtain ⟨hchanges, hdir⟩ := changes_stored hrun h
  have hroot := isRoot_classesDir (g := g) r.variant
  -- what happened since then was done beside the directory
  have hthere : u.isDirectory (g.classesDir r.variant) = true := by
    refine hroot.isDirectory_mono hdir hu.isDirectory fun l hl hle => hu.changes.directory ?_
    rintro (hother | harchive)
    · exact (mem_way_of_between hbase hl hle).2 hother
    · exact absurd (area_unique hl (archives_subset_area hbase harchive)) (by decide)
  have hfiles := Archive.inventory_inOrder hu.distinct (by simp [hroot.place]) hthere
  refine ⟨_, hfiles.congr fun y hy => ?_, ?_, fun x => ?_⟩
  · rw [hu.changes.fileAt (not_mem_apart hbase hy), ht.fileAt (not_mem_apart hbase hy)]
  · simp [Archive.entries, Archive.entriesBelow_of_isDirectory hthere]
  · have hmem : (g.classesDir r.variant).place ++ x ∈ g.metadata r.variant ↔
        x = [g.settings.runId ++ Metadata.typesSuffix] ∨
          x = [g.settings.runId ++ Metadata.bindingsSuffix] := by
      rw [mem_metadata hslash]
      simp
    rw [hfiles.mem_names, hu.changes.fileAt (not_mem_apart hbase (List.prefix_append _ x))]
    by_cases hx : (g.classesDir r.variant).place ++ x ∈ g.metadata r.variant
    · have hne : x ≠ [] := by
        rintro rfl
        exact absurd (hmem.1 hx) (by simp)
      exact ⟨fun _ => .inr (hmem.1 hx), fun _ => ⟨hne, exists_metadata hrun h hx⟩⟩
    · rw [hchanges.fileAt hx, ← hmem, or_iff_left hx]

end

/-! ### Everything -/

/-- In a run, the compiler is called for a variant after those before it, and leaves a session. -/
inductive Called (g : Generator) (parallel : Option Bool) (s : Session) (c : CommonResult)
    (v : Variant) (left : Session) : Prop where
  /-- The sources are generated, and the variants before this one are compiled. -/
  | after {rs before later : List VariantResult} {r : VariantResult} {done : Compilation}
      {s₁ s₂ : Session} {answer : Report}
      (generated : (g.generate parallel).Returns s (c, rs) s₁)
      (variants : rs = before ++ r :: later) (variant : r.variant = v)
      (earlier : (g.compileEach c {} before).Returns s₁ done s₂)
      (call : (g.compiler.compile (g.request c r)).Returns (g.calling c r s₂) answer left) :
      Called g parallel s c v left

/-- What the archives of a variant list, in a tree after the run; the compiler left the first tree
when it was called for the variant. -/
structure Packed (g : Generator) (report : RunReport) (v : Variant) (left t : FileTree) :
    Prop where
  library : g.libraryOf v ∈ report.libraries
  /-- The archive of the sources lists the files that both variants share, and then those of the
  variant. -/
  sources : ∃ shared own, Archive.Inventory t (g.site.sourceDir none) shared ∧
    Archive.Inventory t (g.site.sourceDir (some v)) own ∧
    t.read (g.libraryOf v).sources = .ok (.archive (Archive.pack (shared ++ own)))
  artifacts : ∀ w files, Archive.Inventory t (g.site.sourceDir w) files →
    ∀ x, x ∈ files.map Prod.fst ↔
      ∃ a ∈ report.artifacts w, (g.site.sourceDir w).behind a.path = x
  /-- The archive of the classes lists what the compiler left and the metadata. -/
  binaries : ∃ files, Archive.Inventory t (g.classesDir v) files ∧
    t.read (g.libraryOf v).binaries = .ok (.archive (Archive.pack files)) ∧
    ∀ x, x ∈ files.map Prod.fst ↔
      (x ≠ [] ∧ ∃ content, left.fileAt ((g.classesDir v).place ++ x) = some content) ∨
        x = [g.settings.runId ++ Metadata.typesSuffix] ∨
        x = [g.settings.runId ++ Metadata.bindingsSuffix]

section

variable (hslash : '/' ∉ g.settings.runId.toList) (hk : g.compiler.Confined)
  (h : (g.run true parallel).Returns s report s')

include hslash hk h

/-- A run that returned has generated, compiled and packaged. -/
theorem run_inv : ∃ s₁ done s₂,
    (g.generate parallel).Returns s (report.common, report.variants) s₁ ∧
    (g.compileEach report.common {} report.variants).Returns s₁ done s₂ ∧
    report.compiled = done.compiled ∧
    report.libraries = done.compiled.map (fun k => g.libraryOf k.variant) ∧
    g.PackagesEach s₂.files (done.compiled.map (·.variant)) s'.files := by
  obtain ⟨⟨c, rs⟩, s₁, hgenerate, h⟩ := Run.returns_bind.1 h
  obtain ⟨done, s₂, hcompile, h⟩ := Run.returns_bind.1 h
  dsimp only at h
  by_cases hnone : done.compiled.isEmpty = true
  · rw [if_pos hnone] at h
    obtain ⟨libraries, s₃, hnil, h⟩ := Run.returns_bind.1 h
    obtain ⟨rfl, rfl⟩ := Run.returns_pure.1 hnil
    obtain ⟨rfl, rfl⟩ := Run.returns_pure.1 h
    refine ⟨s₁, done, s₂, hgenerate, hcompile, rfl, ?_⟩
    rw [List.isEmpty_iff.1 hnone]
    exact ⟨rfl, .nil⟩
  · rw [if_neg hnone] at h
    obtain ⟨libraries, s₃, hbuild, h⟩ := Run.returns_bind.1 h
    obtain ⟨rfl, rfl⟩ := Run.returns_pure.1 h
    refine ⟨s₁, done, s₂, hgenerate, hcompile, rfl, ?_⟩
    have hgenerated := generated_of_returns hgenerate
    obtain ⟨⟨ks, hks, -, hdirs⟩, hwithin⟩ := compileEach_inv hgenerated.run hslash hk hcompile
    have hroots : ∀ v, g.sourceRoots s₂.common rs v = g.sourceDirs v := by
      rw [hwithin.common, hgenerated.last]
      exact hgenerated.sourceRoots
    rw [List.nil_append] at hks
    rcases build_cases hroots (hks ▸ hdirs) with ⟨s₄, heach, hreturns⟩ | ⟨e, s₄, -, hfails⟩
    · obtain ⟨rfl, rfl⟩ := hbuild.unique hreturns
      exact ⟨rfl, heach⟩
    · exact absurd hfails hbuild.not_fails

end

/-- What became of the files for a variant that compiled: the first tree is that after generation,
the second one is as the compiler left it, and the last one is that after the run. -/
structure Traced (g : Generator) (c : CommonResult) (r : VariantResult) (t left t' : FileTree) :
    Prop where
  stored : ∃ f, (Metadata.persist .none left (g.storing c r)).2.result = .ok f
  /-- Until then, the sources have not changed. -/
  before : Changes g.ways g.results t (Metadata.persist .none left (g.storing c r)).1
  /-- Since then, nothing has changed that belongs to the variant, but for its archives. -/
  after : Changes g.ways (g.apart r.variant) (Metadata.persist .none left (g.storing c r)).1 t'
  /-- The archives were made in between. -/
  archives : ∃ u u', g.AtPacking r.variant (Metadata.persist .none left (g.storing c r)).1 u ∧
    g.AtPacking r.variant (Metadata.persist .none left (g.storing c r)).1 u' ∧
    t'.read (g.archive r.variant ".jar") =
      .ok (.archive (Archive.entries u [g.classesDir r.variant])) ∧
    t'.read (g.archive r.variant "-src.jar") =
      .ok (.archive (Archive.entries u' (g.sourceDirs r.variant)))

section

variable {c : CommonResult} {rs : List VariantResult} {s₁ s₂ : Session} {done : Compilation}
  (hslash : '/' ∉ g.settings.runId.toList) (hbase : '/' ∉ g.settings.archiveBase.toList)

include hslash hbase

/-- A variant that compiled can be traced from generation to the end of the run. -/
theorem exists_traced (hd : s.files.Distinct) (hk : g.compiler.Confined)
    (hgenerate : (g.generate parallel).Returns s (c, rs) s₁)
    (hcompile : (g.compileEach c {} rs).Returns s₁ done s₂)
    (heach : g.PackagesEach s₂.files (done.compiled.map (·.variant)) t')
    (hv : v ∈ done.compiled.map (·.variant)) :
    ∃ r left, r.variant = v ∧ g.Called parallel s c v left ∧
      g.Traced c r s₁.files left.files t' := by
  have hgenerated := generated_of_returns hgenerate
  have hnodup : (rs.map (·.variant)).Nodup := by
    rw [hgenerated.variants]
    decide
  have hnodup' : (done.compiled.map (·.variant)).Nodup := by
    obtain ⟨⟨ks, hks, hsublist, -⟩, -⟩ := compileEach_inv hgenerated.run hslash hk hcompile
    rw [hks]
    exact hnodup.sublist hsublist
  obtain ⟨before, r, later, done₁, s₃, left, s₄, hvariants, rfl, hearlier, haccepted, hbefore,
    hafter⟩ := compileEach_view hgenerated.run hslash hk hnodup hcompile hv
  obtain ⟨answer, hcall, -⟩ := haccepted.call
  have hwithin := haccepted.within hgenerated.run hslash hk
  have hd₂ : s₂.files.Distinct :=
    hafter.distinct (hwithin.distinct (hbefore.distinct (hgenerated.distinct hd)))
  obtain ⟨hchanges, u, u', hu, hu', hbinaries, hsources⟩ := heach.read hbase hd₂ hnodup' hv
  have hresults : Changes g.ways g.results s₁.files s₄.files :=
    (hbefore.changes.mono (fun _ hl _ => .inl hl) (otherClasses_subset_results _)).trans
      (hwithin.changes.mono (fun _ hl _ => .inl hl) (classes_subset_results _))
  have hstay : Changes g.ways (g.apart r.variant) s₄.files s₂.files :=
    hafter.changes.mono (fun _ hl _ => .inl hl) fun l hl => .inl (otherClasses_subset _ hl)
  rw [haccepted.files] at hresults hstay
  exact ⟨r, left, rfl, .after hgenerate hvariants rfl hearlier hcall, haccepted.stored, hresults,
    hstay.trans hchanges, u, u', ⟨hstay.trans hu.changes, hu.distinct, hu.isDirectory⟩,
    ⟨hstay.trans hu'.changes, hu'.distinct, hu'.isDirectory⟩, hbinaries, hsources⟩

/-- The archives of a variant that can be traced list all that they should. -/
theorem Traced.packed {r : VariantResult} {left : FileTree}
    (h : g.Traced report.common r s₁.files left t')
    (hempty : ∀ l ∈ g.area "generate", s.files.fileAt l = none)
    (hbelow : ∀ w, ∀ a ∈ report.artifacts w, (g.site.sourceDir w).Below a.path)
    (hgenerate : (g.generate parallel).Returns s (report.common, report.variants) s₁)
    (hlibrary : g.libraryOf r.variant ∈ report.libraries) : g.Packed report r.variant left t' := by
  obtain ⟨f, hstored⟩ := h.stored
  obtain ⟨u, u', hu, hu', hbinaries, hsources⟩ := h.archives
  -- until the archives are written, only what belongs to results changes
  have hsince : ∀ {u}, Changes g.ways (g.apart r.variant)
      (Metadata.persist .none left (g.storing report.common r)).1 u →
      Changes g.ways g.results s₁.files u := fun hu =>
    h.before.trans (hu.mono (fun _ hl _ => hl) (apart_subset_results hbase _))
  have hinventory := inventory_sources hgenerate hbelow hempty (hsince h.after)
    (hsince hu'.changes) hu'.distinct hu'.isDirectory
  refine ⟨hlibrary, ?_, ?_, ?_⟩
  · obtain ⟨shared, hshared, hentries⟩ := hinventory none
    obtain ⟨own, hown, hentries'⟩ := hinventory (some r.variant)
    refine ⟨shared, own, hshared, hown, ?_⟩
    rw [sources_libraryOf, hsources]
    simp [Archive.entries, sourceDirs, hentries, hentries', Archive.pack]
  · intro w files hfiles x
    exact names_sources hgenerate hbelow hempty (hsince h.after) hfiles
  · obtain ⟨files, hfiles, hentries, hnames⟩ := inventory_classes
      (generated_of_returns hgenerate).run hslash hbase hstored hu h.after
    refine ⟨files, hfiles, ?_, hnames⟩
    rw [binaries_libraryOf, hbinaries, hentries]

end

/-- **Nothing is lost between generation and packaging.**  If a run starts with no files where the
sources go, every artifact is below the directory of its phase and the compiler keeps to its
directory, then the archives of a variant that compiled list all files that were written below the
two directories of its sources, which are those of the artifacts, and all files that the compiler
left with the metadata, in order and each once.  A slash is refused in the name of a run, but not in
that of the archives. -/
theorem run_packs (hslash : '/' ∉ g.settings.runId.toList)
    (hbase : '/' ∉ g.settings.archiveBase.toList) (hd : s.files.Distinct)
    (hempty : ∀ l ∈ g.area "generate", s.files.fileAt l = none) (hk : g.compiler.Confined)
    (h : (g.run true parallel).Returns s report s')
    (hbelow : ∀ w, ∀ a ∈ report.artifacts w, (g.site.sourceDir w).Below a.path)
    (hv : v ∈ report.compiled.map (·.variant)) :
    ∃ left, g.Called parallel s report.common v left ∧ g.Packed report v left.files s'.files := by
  obtain ⟨s₁, done, s₂, hgenerate, hcompile, hcompiled, hlibraries, heach⟩ := run_inv hslash hk h
  rw [hcompiled] at hv
  have hlibrary : g.libraryOf v ∈ report.libraries := by
    obtain ⟨k, hmem, rfl⟩ := List.mem_map.1 hv
    rw [hlibraries]
    exact List.mem_map_of_mem (f := fun k => g.libraryOf k.variant) hmem
  obtain ⟨r, left, rfl, hcalled, htraced⟩ :=
    exists_traced hslash hbase hd hk hgenerate hcompile heach hv
  exact ⟨left, hcalled, htraced.packed hslash hbase hempty hbelow hgenerate hlibrary⟩

theorem confined_rejecting (vs : List Variant) : (Compiler.rejecting vs).Confined := by
  intro q s out s' h
  obtain ⟨answer, s'', hstays⟩ := Compiler.rejecting_stays vs q s
  cases h.symm.trans hstays.returns
  exact ⟨hstays.changes, hstays.distinct, hstays.common⟩

/-- A run with a source and a class. -/
theorem run_packs_sizes : ∃ report s' left, (sizeService.run true none).Returns {} report s' ∧
    report.common.artifacts.length = 1 ∧ sizeService.Called none {} report.common .legacy left ∧
    sizeService.Packed report .legacy left.files s'.files := by
  obtain ⟨report, s', hreturns, hcheck⟩ := @Run.returns_of_check _ (sizeService.run true none) {}
    (fun report => decide (report.common.artifacts.length = 1 ∧
      Variant.legacy ∈ report.compiled.map (·.variant) ∧
      ∀ w ∈ [none, some Variant.legacy, some Variant.modern], ∀ a ∈ report.artifacts w,
        (sizeService.site.sourceDir w).Below a.path)) (by decide +kernel)
  obtain ⟨hartifacts, hlegacy, hbelow⟩ := of_decide_eq_true hcheck
  have hempty : ∀ l ∈ sizeService.area "generate", ({} : Session).files.fileAt l = none := by
    intro l _
    by_cases hroot : l = [] ∨ l = ["/"] ∨ l = ["//"] <;> simp [fileAt, lookup, hroot]
  have hall : ∀ w : Option Variant, w ∈ [none, some Variant.legacy, some Variant.modern] := by
    rintro (_ | _ | _) <;> decide
  obtain ⟨left, hcalled, hpacked⟩ := run_packs (g := sizeService) (s := {}) (by decide) (by decide)
    List.nodup_nil hempty (confined_rejecting []) hreturns (fun w => hbelow w (hall w)) hlegacy
  exact ⟨report, s', left, hreturns, hartifacts, hcalled, hpacked⟩

end Generator

end SoapStubs
