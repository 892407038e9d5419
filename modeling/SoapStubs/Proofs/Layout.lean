import SoapStubs.Generation.Generator
import SoapStubs.Proofs.Places

/-!
# Where the results of a run are

The sources, the classes with their metadata, and the archives are in different directories, and
each variant has its own names there.

* `Generator.classes`, `Generator.metadata` and `Generator.archives` are the locations of what
  belongs to a variant, `Generator.otherClasses` and `Generator.others` of what belongs to the
  others;
* `Generator.not_mem_others`: what belongs to a variant does not belong to another one.

A slash in the name of the run or in the name of the archives would put files elsewhere.
-/

namespace SoapStubs.Generator

variable (g : Generator)

def classesDir (v : Variant) : Path := g.settings.compileDir.child v.name

/-- The locations at and below the directory of the classes of a variant. -/
def classes (v : Variant) : Set Location := { l | (g.classesDir v).place <+: l }

/-- The path of an archive of a variant: there is one of its classes and one of its sources. -/
def archive (v : Variant) (ending : String) : Path :=
  g.settings.buildDir.child (g.settings.archiveBase ++ "-" ++ v.name ++ ending)

def archives (v : Variant) : Set Location :=
  {(g.libraryOf v).binaries.place, (g.libraryOf v).sources.place}

def metadata (v : Variant) : Set Location :=
  {(Metadata.typesPath (g.classesDir v) g.settings.runId).place,
    (Metadata.bindingsPath (g.classesDir v) g.settings.runId).place}

def otherClasses (v : Variant) : Set Location := { l | ∃ w ≠ v, l ∈ g.classes w }

def others (v : Variant) : Set Location := { l | ∃ w ≠ v, l ∈ g.classes w ∪ g.archives w }

theorem isName_variant (v : Variant) : Path.IsName v.name := by
  cases v <;> exact ⟨by decide, by decide, by decide⟩

theorem isName_compile : Path.IsName "compile" := ⟨by decide, by decide, by decide⟩

theorem isName_build : Path.IsName "build" := ⟨by decide, by decide, by decide⟩

theorem isName_generate : Path.IsName "generate" := ⟨by decide, by decide, by decide⟩

/-- What is at and below a name in the directory that everything is written to. -/
def area (name : String) : Set Location := { l | g.settings.outputDir.place ++ [name] <+: l }

variable {g} {v w : Variant} {l : Location}

theorem name_unique {d : Location} {a b : String} (ha : d ++ [a] <+: l) (hb : d ++ [b] <+: l) :
    a = b := by
  have hlength : (d ++ [a]).length = (d ++ [b]).length := by simp
  have heq := (List.prefix_of_prefix_length_le ha hb (Nat.le_of_eq hlength)).eq_of_length hlength
  simpa using heq

/-- Areas of different names have nothing in common. -/
theorem area_unique {a b : String} (ha : l ∈ g.area a) (hb : l ∈ g.area b) : a = b :=
  name_unique ha hb

/-- A directory of classes or sources: it is not in the directory of the archives. -/
structure IsRoot (g : Generator) (p : Path) (area name : String) : Prop where
  /-- The directory it is in. -/
  isName : Path.IsName area
  /-- Its own name. -/
  isName' : Path.IsName name
  /-- It is not among the archives. -/
  apart : area ≠ "build"
  path : p = (g.settings.outputDir.child area).child name

namespace IsRoot

variable {p : Path} {a name : String} (h : g.IsRoot p a name)

include h

theorem place : p.place = g.settings.outputDir.place ++ [a] ++ [name] := by
  rw [h.path, h.isName'.place_child, h.isName.place_child]

theorem mem_area (hl : p.place <+: l) : l ∈ g.area a := by
  rw [h.place] at hl
  exact (List.prefix_append _ _).trans hl

theorem not_archive (x : String) : ¬p.place <+: g.settings.buildDir.place ++ [x] := by
  intro hl
  refine h.apart (area_unique (h.mem_area hl) ?_)
  rw [Settings.buildDir, isName_build.place_child]
  exact List.prefix_append _ _

/-- Such a directory is still there in a tree that has the last two steps to it. -/
theorem isDirectory_mono {t u : FileTree} (ht : t.isDirectory p = true)
    (hu : u.isDirectory g.settings.outputDir = true)
    (hsame : ∀ l ∈ g.area a, l <+: p.place → t.lookup l = some .directory →
      u.lookup l = some .directory) : u.isDirectory p = true := by
  have habove := hsame _ (List.prefix_refl _) (h.place ▸ List.prefix_append _ _)
  have hbelow := hsame _ (List.prefix_append _ [name]) (h.place ▸ List.prefix_refl _)
  rw [h.path] at ht ⊢
  simp only [FileTree.isDirectory_child h.isName', FileTree.isDirectory_child h.isName,
    h.isName.place_child] at ht ⊢
  obtain ⟨⟨-, hproblem, hsize, hdir⟩, hproblem', hsize', hdir'⟩ := ht
  exact ⟨⟨hu, hproblem, hsize, habove hdir⟩, hproblem', hsize', hbelow hdir'⟩

/-- Two trees both have such a directory, or neither has. -/
theorem isDirectory_congr {t u : FileTree} (ht : t.isDirectory g.settings.outputDir = true)
    (hu : u.isDirectory g.settings.outputDir = true)
    (hsame : ∀ l ∈ g.area a, l <+: p.place →
      (t.lookup l = some .directory ↔ u.lookup l = some .directory)) :
    t.isDirectory p = u.isDirectory p := by
  rw [Bool.eq_iff_iff]
  constructor
  · exact fun hdir => h.isDirectory_mono hdir hu fun l hl hle => (hsame l hl hle).1
  · exact fun hdir => h.isDirectory_mono hdir ht fun l hl hle => (hsame l hl hle).2

end IsRoot

theorem isRoot_classesDir (v : Variant) : g.IsRoot (g.classesDir v) "compile" v.name :=
  ⟨isName_compile, isName_variant v, by decide, rfl⟩

theorem isRoot_sourceDir (v : Option Variant) :
    ∃ name, g.IsRoot (g.site.sourceDir v) "generate" name := by
  cases v with
  | none => exact ⟨"common", isName_generate, ⟨by decide, by decide, by decide⟩, by decide, rfl⟩
  | some v => exact ⟨v.name, isName_generate, isName_variant v, by decide, rfl⟩

theorem classes_unique (hv : l ∈ g.classes v) (hw : l ∈ g.classes w) : v = w := by
  simp only [classes, (isRoot_classesDir _).place, Set.mem_ofPred_eq] at hv hw
  have hname := name_unique hv hw
  cases v <;> cases w <;> first | rfl | exact absurd hname (by decide)

/-- The way to classes is the way to the directory of all classes, and then the classes' own. -/
theorem mem_way_classesDir (h : l ∈ (g.classesDir v).way) (hl : l ∉ g.classes v) :
    l ∈ g.settings.compileDir.way := by
  rcases (isName_variant v).mem_way_child.1 h with hway | rfl
  · exact hway
  · refine absurd ?_ hl
    rw [← (isName_variant v).place_child]
    exact List.prefix_refl _

theorem binaries_libraryOf (v : Variant) : (g.libraryOf v).binaries = g.archive v ".jar" := by
  rw [libraryOf, archive]

theorem sources_libraryOf (v : Variant) : (g.libraryOf v).sources = g.archive v "-src.jar" := by
  rw [libraryOf, archive]

theorem binaries_mem : ".jar" ∈ [".jar", "-src.jar"] := List.mem_cons_self

theorem sources_mem : "-src.jar" ∈ [".jar", "-src.jar"] := List.mem_cons_of_mem _ List.mem_cons_self

section

variable (hbase : '/' ∉ g.settings.archiveBase.toList)

include hbase

theorem isName_archive (v : Variant) {ending : String} (h : ending ∈ [".jar", "-src.jar"]) :
    Path.IsName (g.settings.archiveBase ++ "-" ++ v.name ++ ending) := by
  have hslash : '/' ∉ (g.settings.archiveBase ++ "-" ++ v.name).toList := by
    have hv := (isName_variant v).slash
    simp [hbase, hv]
  rcases List.mem_pair.1 h with rfl | rfl <;>
    exact Path.isName_append hslash (by decide) (by decide)

theorem place_archive {ending : String} (h : ending ∈ [".jar", "-src.jar"]) :
    (g.archive v ending).place =
      g.settings.buildDir.place ++ [g.settings.archiveBase ++ "-" ++ v.name ++ ending] :=
  (isName_archive hbase v h).place_child g.settings.buildDir

theorem mem_archives : l ∈ g.archives v ↔ ∃ ending ∈ [".jar", "-src.jar"],
    l = g.settings.buildDir.place ++ [g.settings.archiveBase ++ "-" ++ v.name ++ ending] := by
  rw [archives, binaries_libraryOf, sources_libraryOf, place_archive hbase binaries_mem,
    place_archive hbase sources_mem]
  simp

theorem archives_subset_area (h : l ∈ g.archives v) : l ∈ g.area "build" := by
  obtain ⟨ending, -, rfl⟩ := (mem_archives hbase).1 h
  rw [Settings.buildDir, isName_build.place_child]
  exact List.prefix_append _ _

theorem archives_unique (hv : l ∈ g.archives v) (hw : l ∈ g.archives w) : v = w := by
  obtain ⟨ending, hending, rfl⟩ := (mem_archives hbase).1 hv
  obtain ⟨ending', hending', heq⟩ := (mem_archives hbase).1 hw
  have hname : v.name ++ ending = w.name ++ ending' := by
    simpa [String.append_assoc, String.append_right_inj] using heq
  rcases List.mem_pair.1 hending with rfl | rfl <;>
    rcases List.mem_pair.1 hending' with rfl | rfl <;> cases v <;> cases w <;>
    first | rfl | exact absurd hname (by decide)

theorem not_mem_archives (h : l ∈ g.classes v) : l ∉ g.archives w := by
  intro hl
  have harea := area_unique ((isRoot_classesDir v).mem_area h) (archives_subset_area hbase hl)
  exact absurd harea (by decide)

/-- What belongs to a variant does not belong to another one. -/
theorem not_mem_others (h : l ∈ g.classes v ∪ g.archives v) : l ∉ g.others v := by
  rintro ⟨w, hw, hl⟩
  rcases h with h | h <;> rcases hl with hl | hl
  · exact hw (classes_unique hl h)
  · exact not_mem_archives hbase h hl
  · exact not_mem_archives hbase hl h
  · exact hw (archives_unique hbase hl h)

theorem not_mem_others_of_area {a : String} (h : l ∈ g.area a) (hcompile : a ≠ "compile")
    (hbuild : a ≠ "build") : l ∉ g.others v := by
  rintro ⟨w, -, hl⟩
  rcases hl with hl | hl
  · exact hcompile (area_unique h ((isRoot_classesDir w).mem_area hl))
  · exact hbuild (area_unique h (archives_subset_area hbase hl))

/-- The last steps to the classes of a variant do not lead through another one's. -/
theorem mem_way_of_between (hl : l ∈ g.area "compile") (hle : l <+: (g.classesDir v).place) :
    l ∈ (g.classesDir v).way ∧ l ∉ g.others v := by
  constructor
  · rw [(isRoot_classesDir v).place] at hle
    rcases List.prefix_concat_iff.1 hle with rfl | hle
    · rw [← (isRoot_classesDir v).place]
      exact Path.place_mem_way _
    · have heq := hle.eq_of_length_le (List.IsPrefix.length_le hl)
      exact (isName_variant v).mem_way_child.2 (.inl (isName_compile.mem_way_child.2 (.inr heq)))
  · rintro ⟨w, hw, hmem | hmem⟩
    · exact hw (classes_unique (List.IsPrefix.trans hmem hle) (List.prefix_refl _))
    · exact absurd (area_unique hl (archives_subset_area hbase hmem)) (by decide)

end

theorem otherClasses_subset (v : Variant) : g.otherClasses v ⊆ g.others v := by
  rintro l ⟨w, hw, hl⟩
  exact ⟨w, hw, .inl hl⟩

theorem classes_subset_otherClasses (h : v ≠ w) : g.classes v ⊆ g.otherClasses w :=
  fun _ hl => ⟨v, h, hl⟩

section

variable (hrun : '/' ∉ g.settings.runId.toList)

include hrun

theorem mem_metadata : l ∈ g.metadata v ↔
    ∃ ending ∈ [Metadata.typesSuffix, Metadata.bindingsSuffix],
      l = (g.classesDir v).place ++ [g.settings.runId ++ ending] := by
  have htypes : Path.IsName (g.settings.runId ++ Metadata.typesSuffix) :=
    Path.isName_append hrun (by decide) (by decide)
  have hbindings : Path.IsName (g.settings.runId ++ Metadata.bindingsSuffix) :=
    Path.isName_append hrun (by decide) (by decide)
  rw [metadata, Metadata.typesPath, Metadata.bindingsPath, htypes.place_child,
    hbindings.place_child]
  simp

/-- The metadata is among the classes. -/
theorem metadata_subset : g.metadata v ⊆ g.classes v := by
  intro l hl
  obtain ⟨ending, -, rfl⟩ := (mem_metadata hrun).1 hl
  exact List.prefix_append _ _

end

end SoapStubs.Generator
