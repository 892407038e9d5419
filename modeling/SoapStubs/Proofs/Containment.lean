import SoapStubs.Proofs.Layout
import SoapStubs.Proofs.Parallel
import SoapStubs.Proofs.Settled

/-!
# Where sources are rendered to

The file of a class is found by putting the parts of its name behind the directory of its phase.
Names come from documents as they are, so a part may be empty, have slashes or begin with one.  What
counts is whether the parts lead on from the directory.

* `Path.LeadOn` says that they do: no part begins with a slash and not all parts are empty;
* `Site.placed` says where a class is rendered to: below the directory of its phase if its name
  leads on, beside it if the name is made of dots alone, and at an absolute path that does not
  depend on the directory if a part of the name begins with a slash;
* `Resolver.isInner_resolveName` says that conversion keeps names that lead on;
* `Generator.artifacts_placed` says this of everything that the phases render, and that the
  directories have no file in common.
-/

namespace SoapStubs

/-! ### Texts behind a directory -/

namespace Path

variable {s : String} {names names' : List String} {p : Path}

/-- The texts lead on from any directory that they are put behind. -/
@[mk_iff]
structure LeadOn (names : List String) : Prop where
  /-- None leads to the root. -/
  relative : ∀ s ∈ names, s.toList.head? ≠ some '/'
  /-- One leads somewhere. -/
  named : ∃ s ∈ names, s ≠ ""

instance (names : List String) : Decidable (LeadOn names) :=
  decidable_of_iff _ (leadOn_iff names).symm

theorem leadOn_append : LeadOn (names ++ names') ↔
    ((∀ s ∈ names, s.toList.head? ≠ some '/') ∧ ∀ s ∈ names', s.toList.head? ≠ some '/') ∧
      ((∃ s ∈ names, s ≠ "") ∨ ∃ s ∈ names', s ≠ "") := by
  rw [leadOn_iff, List.forall_mem_append]
  simp only [List.mem_append, or_and_right, exists_or]

/-- An empty text does not matter. -/
theorem leadOn_empty_cons : LeadOn ("" :: names) ↔ LeadOn names := by
  simp [leadOn_iff]

theorem root_ofText_eq_empty_iff : (ofText s).root = "" ↔ s.toList.head? ≠ some '/' := by
  show rootOf s = "" ↔ _
  rw [rootOf]
  cases s.toList with
  | nil => simp
  | cons c cs =>
    by_cases hc : c = '/'
    · simp only [hc, List.head?_cons, ne_eq, not_true_eq_false, iff_false]
      rw [List.takeWhile_cons_of_pos (by rfl), List.length_cons]
      split
      · rename_i h
        cases h
      · decide
      · decide
    · rw [List.takeWhile_cons_of_neg (by simpa using hc)]
      simp [hc]

theorem child_of_relative (h : s.toList.head? ≠ some '/') (p : Path) :
    p.child s = ⟨p.root, p.parts ++ (ofText s).parts⟩ := by
  rw [child, join, if_pos (root_ofText_eq_empty_iff.2 h)]

theorem child_of_rooted (h : s.toList.head? = some '/') (p : Path) : p.child s = ofText s := by
  rw [child, join, if_neg (fun hroot => root_ofText_eq_empty_iff.1 hroot h)]

/-- Texts that do not begin with a slash go on behind the directory. -/
theorem descend_of_relative (h : ∀ s ∈ names, s.toList.head? ≠ some '/') (p : Path) :
    p.descend names = ⟨p.root, p.parts ++ names.flatMap fun s => (ofText s).parts⟩ := by
  induction names generalizing p with
  | nil => rw [List.flatMap_nil, List.append_nil]; rfl
  | cons s names ih =>
    obtain ⟨hs, hnames⟩ := List.forall_mem_cons.1 h
    calc p.descend (s :: names) = (p.child s).descend names := rfl
      _ = _ := by
        rw [ih hnames, child_of_relative hs, List.flatMap_cons, List.append_assoc]

/-- A root is not left. -/
theorem root_descend_ne (h : p.root ≠ "") : (p.descend names).root ≠ "" := by
  induction names generalizing p with
  | nil => exact h
  | cons s names ih =>
    refine ih (p := p.child s) ?_
    by_cases hs : s.toList.head? = some '/'
    · rw [child_of_rooted hs]
      exact fun hroot => root_ofText_eq_empty_iff.1 hroot hs
    · rw [child_of_relative hs]
      exact h

/-- Where a text begins with a slash, the directory is left for the root. -/
theorem descend_of_rooted (h : ∃ s ∈ names, s.toList.head? = some '/') (p : Path) :
    (p.descend names).root ≠ "" ∧ ∀ q : Path, q.descend names = p.descend names := by
  induction names generalizing p with
  | nil => simp at h
  | cons s names ih =>
    by_cases hs : s.toList.head? = some '/'
    · have hchild : ∀ q : Path, q.descend (s :: names) = (ofText s).descend names := fun q => by
        rw [← child_of_rooted hs q]
        rfl
      rw [hchild]
      exact ⟨root_descend_ne fun hroot => root_ofText_eq_empty_iff.1 hroot hs, hchild⟩
    · obtain ⟨s', hmem, hs'⟩ := h
      have hrest : ∃ s ∈ names, s.toList.head? = some '/' := by
        rcases List.mem_cons.1 hmem with rfl | hmem
        · exact absurd hs' hs
        · exact ⟨s', hmem, hs'⟩
      obtain ⟨hroot, hsame⟩ := ih hrest (p.child s)
      exact ⟨hroot, fun q => hsame (q.child s)⟩

/-- What the parts of a text without dots are like. -/
theorem part_of_ofText (hdot : '.' ∉ s.toList) {part : String} (h : part ∈ (ofText s).parts) :
    part ≠ "" ∧ '.' ∉ part.toList := by
  obtain ⟨hmem, hpart⟩ := List.mem_filter.1 h
  obtain ⟨piece, hpiece, rfl⟩ := List.mem_map.1 hmem
  refine ⟨fun hempty => by simp [hempty, isPart] at hpart, fun hmem => ?_⟩
  rw [String.toList_ofList] at hmem
  exact hdot (Text.mem_of_mem_pieces hpiece hmem)

theorem parts_ofText_ne_nil (hne : s ≠ "") (hroot : s.toList.head? ≠ some '/')
    (hdot : '.' ∉ s.toList) : (ofText s).parts ≠ [] := by
  cases hs : s.toList with
  | nil => exact absurd (String.toList_eq_nil_iff.1 hs) hne
  | cons c cs =>
    rw [hs] at hroot hdot
    have hc : c ≠ '/' := by simpa using hroot
    cases hcs : Text.pieces '/' cs with
    | nil => exact absurd hcs (Text.pieces_ne_nil _ _)
    | cons piece pieces =>
      have hpieces := Text.pieces_cons_of_ne hc hcs
      have hfirst : String.ofList (c :: piece) ∈ Text.split '/' s := by
        rw [Text.split, hs, hpieces]
        exact List.mem_cons_self
      have hpart : isPart (String.ofList (c :: piece)) = true := by
        refine isPart_of_dotless (by simp) fun hmem => hdot ?_
        rw [String.toList_ofList] at hmem
        exact Text.mem_of_mem_pieces (hpieces ▸ List.mem_cons_self) hmem
      exact List.ne_nil_of_mem (List.mem_filter.2 ⟨hfirst, hpart⟩)

/-- The parts of a path behind a directory that it is below. -/
def behind (dir p : Path) : List String := p.parts.drop dir.parts.length

/-- The location of what is below a directory. -/
theorem Below.place_eq {dir : Path} (h : dir.Below p) : p.place = dir.place ++ dir.behind p := by
  obtain ⟨rest, -, hup, rfl⟩ := h.exists
  rw [Path.place, List.foldl_append, foldl_follow hup, behind, List.drop_left]
  rfl

/-- What is below a directory is there in every tree of files. -/
theorem Below.place {dir : Path} (h : dir.Below p) : dir.place <+: p.place := by
  rw [h.place_eq]
  exact List.prefix_append _ _

end Path

/-! ### Names that lead on -/

namespace Name

variable {name simple suffix : String}

/-- The parts of the name lead on from any directory. -/
def IsInner (name : String) : Prop := Path.LeadOn (Text.split '.' name)

/-- The name is made of dots alone. -/
def IsBlank (name : String) : Prop := ∀ part ∈ Text.split '.' name, part = ""

/-- A part of the name begins with a slash. -/
def IsRooted (name : String) : Prop := ∃ part ∈ Text.split '.' name, part.toList.head? = some '/'

instance : DecidablePred IsInner := fun _ => inferInstanceAs (Decidable (Path.LeadOn _))

theorem isInner_or (name : String) : IsInner name ∨ IsBlank name ∨ IsRooted name := by
  by_cases hrooted : IsRooted name
  · exact .inr (.inr hrooted)
  by_cases hblank : IsBlank name
  · exact .inr (.inl hblank)
  · refine .inl ⟨fun part hpart hslash => hrooted ⟨part, hpart, hslash⟩, ?_⟩
    simpa [IsBlank] using hblank

/-- A name leads on if and only if its package and its simple name do. -/
theorem isInner_iff :
    IsInner name ↔ Path.LeadOn (segments (Name.package name) ++ [Name.simple name]) := by
  have hsimple : Text.split '.' (Name.simple name) = [Name.simple name] :=
    Text.split_of_not_mem (dot_not_mem_simple name)
  rcases eq_simple_or name with ⟨hpackage, hname⟩ | hname
  · have hsplit : Text.split '.' name = [Name.simple name] := by
      conv_lhs => rw [hname]
      exact hsimple
    rw [IsInner, hsplit, hpackage]
    rfl
  · have hsplit : Text.split '.' name =
        Text.split '.' (Name.package name) ++ [Name.simple name] := by
      conv_lhs => rw [hname]
      rw [← hsimple]
      exact Text.split_append_sep '.' _ _
    rw [IsInner, hsplit]
    by_cases hpackage : Name.package name = ""
    · rw [hpackage]
      exact Path.leadOn_empty_cons
    · rw [segments, if_neg hpackage]

/-- Names lead on with something put behind them. -/
theorem IsInner.append (h : IsInner name) (hdot : '.' ∉ suffix.toList)
    (hslash : suffix.toList.head? ≠ some '/') : IsInner (name ++ suffix) := by
  obtain ⟨front, last, hpieces⟩ := Text.pieces_append '.' name.toList
  have hname : Text.split '.' name = front.map String.ofList ++ [String.ofList last] := by
    have := hpieces [] (by simp)
    simp only [List.append_nil] at this
    simp [Text.split, this]
  have hboth : Text.split '.' (name ++ suffix) =
      front.map String.ofList ++ [String.ofList last ++ suffix] := by
    simp [Text.split, hpieces _ hdot, String.ofList_append]
  rw [IsInner, hname, Path.leadOn_append] at h
  rw [IsInner, hboth, Path.leadOn_append]
  obtain ⟨⟨hfront, hlast⟩, hnamed⟩ := h
  refine ⟨⟨hfront, ?_⟩, hnamed.imp_right ?_⟩
  · rw [List.forall_mem_singleton] at hlast ⊢
    rw [String.toList_append, List.head?_append]
    cases hhead : (String.ofList last).toList.head? with
    | none => exact hslash
    | some c => rwa [hhead] at hlast
  · simp only [List.mem_singleton, exists_eq_left]
    intro hne hempty
    exact hne (String.append_eq_empty_iff.1 hempty).1

end Name

/-! ### Files of classes -/

namespace Variant

/-- The name of the directory of a variant's sources, or of those that both share. -/
def tree : Option Variant → String
  | none => "common"
  | some v => v.name

theorem isName_tree (x : Option Variant) : Path.IsName (tree x) := by
  rcases x with _ | _ | _ <;> exact ⟨by decide, by decide, by decide⟩

theorem isName_java (x : Option Variant) : Path.IsName (tree x ++ ".java") :=
  Path.isName_append (isName_tree x).slash (by decide) (by decide)

theorem dot_not_mem_tree (x : Option Variant) : '.' ∉ (tree x).toList := by
  rcases x with _ | _ | _ <;> decide

theorem tree_injective : Function.Injective tree := by
  rintro (_ | _ | _) (_ | _ | _) h <;> first | rfl | exact absurd h (by decide)

end Variant

namespace Site

open Variant (tree)

variable {site : Site} {s : Source} {p q : Path} {x y : Option Variant}

theorem sourceDir_eq_child (site : Site) (x : Option Variant) :
    site.sourceDir x = site.generateDir.child (tree x) := by
  cases x <;> rfl

theorem sourceDir_eq (site : Site) (x : Option Variant) :
    site.sourceDir x = ⟨site.generateDir.root, site.generateDir.parts ++ [tree x]⟩ := by
  rw [sourceDir_eq_child, (Variant.isName_tree x).child_eq]

theorem withSuffix?_of_target (h : site.target s = .ok p) :
    ((site.sourceDir s.variant).descend (Text.split '.' s.identifier)).withSuffix? ".java" =
      some p := by
  unfold target at h
  dsimp only at h
  split at h
  · rename_i hp
    cases h
    exact hp
  · cases h

/-- The file of a class whose name leads on: the same names behind the directory, whichever it
is. -/
theorem target_of_isInner {identifier : String} (h : Name.IsInner identifier) :
    ∃ front last, (∀ part ∈ front, '.' ∉ part.toList) ∧
      ∀ (site : Site) (s : Source), s.identifier = identifier →
        site.target s = .ok ⟨site.generateDir.root,
          site.generateDir.parts ++ tree s.variant :: (front ++ [last ++ ".java"])⟩ := by
  set rel := (Text.split '.' identifier).flatMap fun part => (Path.ofText part).parts with hrel
  have hparts : ∀ part ∈ rel, part ≠ "" ∧ '.' ∉ part.toList := by
    intro part hpart
    obtain ⟨name, hname, hpart⟩ := List.mem_flatMap.1 hpart
    exact Path.part_of_ofText (Text.not_mem_of_mem_split hname) hpart
  have hne : rel ≠ [] := by
    obtain ⟨name, hname, hnamed⟩ := h.named
    obtain ⟨part, hpart⟩ := List.exists_mem_of_ne_nil _
      (Path.parts_ofText_ne_nil hnamed (h.relative name hname) (Text.not_mem_of_mem_split hname))
    exact List.ne_nil_of_mem (List.mem_flatMap.2 ⟨name, hname, hpart⟩)
  -- no part has a dot, so the ending is added to the last one
  obtain ⟨front, last, hconcat⟩ := List.eq_nil_or_concat' rel |>.resolve_left hne
  rw [hconcat] at hparts
  obtain ⟨hlast, hdot⟩ := hparts last (by simp)
  refine ⟨front, last, fun part hpart => (hparts part (List.mem_append_left _ hpart)).2, ?_⟩
  rintro site s rfl
  unfold target
  dsimp only
  rw [Path.descend_of_relative h.relative, ← hrel, hconcat, sourceDir_eq, ← List.append_assoc,
    Path.withSuffix?_of_dotless _ _ _ hlast hdot]
  simp

/-- A class whose name leads on has its file below the directory. -/
theorem below_of_isInner (h : Name.IsInner s.identifier) (hp : site.target s = .ok p) :
    (site.sourceDir s.variant).Below p := by
  obtain ⟨front, last, hfront, htarget⟩ := target_of_isInner h
  cases (htarget site s rfl).symm.trans hp
  rw [List.append_cons, sourceDir_eq]
  refine ⟨rfl, List.prefix_append _ _, by simp, ?_⟩
  rw [List.drop_left, List.mem_append, List.mem_singleton, not_or]
  refine ⟨fun hmem => ?_, Ne.symm (Metadata.append_ne_dots (by decide))⟩
  exact hfront ".." hmem (by decide)

/-- A class whose name is made of dots has its file beside the directory. -/
theorem beside_of_isBlank (h : Name.IsBlank s.identifier) (hp : site.target s = .ok p) :
    p = site.generateDir.child (tree s.variant ++ ".java") := by
  have hp := withSuffix?_of_target hp
  have hrelative : ∀ part ∈ Text.split '.' s.identifier, part.toList.head? ≠ some '/' := by
    intro part hpart
    rw [h part hpart]
    decide
  have hnone :
      ((Text.split '.' s.identifier).flatMap fun part => (Path.ofText part).parts) = [] := by
    rw [List.flatMap_eq_nil_iff]
    intro part hpart
    rw [h part hpart]
    decide
  have htree : tree s.variant ≠ "" := by
    rcases s.variant with _ | _ | _ <;> decide
  rw [Path.descend_of_relative hrelative, hnone, List.append_nil, sourceDir_eq,
    Path.withSuffix?_of_dotless _ _ _ htree (Variant.dot_not_mem_tree _)] at hp
  rw [(Variant.isName_java _).child_eq]
  exact (Option.some.inj hp).symm

/-- A class with a part that begins with a slash has an absolute path, whatever the directory. -/
theorem away_of_isRooted (h : Name.IsRooted s.identifier) (hp : site.target s = .ok p) :
    p.root ≠ "" ∧ ∀ dir : Path,
      (dir.descend (Text.split '.' s.identifier)).withSuffix? ".java" = some p := by
  obtain ⟨name, htarget⟩ := target_eq hp
  obtain ⟨hroot, hsame⟩ := Path.descend_of_rooted h (site.sourceDir s.variant)
  refine ⟨?_, fun dir => ?_⟩
  · rw [htarget]
    exact hroot
  · rw [hsame dir]
    exact withSuffix?_of_target hp

/-- Where an artifact is. -/
structure Placed (site : Site) (a : Artifact) : Prop where
  /-- Below the directory, if the name of the class leads on. -/
  below : Name.IsInner a.identifier → (site.sourceDir a.variant).Below a.path
  /-- Beside the directory, if the name is made of dots alone. -/
  beside : Name.IsBlank a.identifier →
    a.path = site.generateDir.child (tree a.variant ++ ".java")
  /-- Under the root, if a part of the name begins with a slash, and the same for all
  directories. -/
  away : Name.IsRooted a.identifier → a.path.root ≠ "" ∧ ∀ dir : Path,
    (dir.descend (Text.split '.' a.identifier)).withSuffix? ".java" = some a.path
  /-- Nothing else is below a directory that is not under the root. -/
  below_iff : site.generateDir.root = "" →
    ((site.sourceDir a.variant).Below a.path ↔ Name.IsInner a.identifier)

/-- **Where classes are rendered to.** -/
theorem placed (hp : site.target s = .ok p) : site.Placed (s.artifact p) := by
  have hbeside : Name.IsBlank s.identifier → ¬(site.sourceDir s.variant).Below p := by
    intro hblank hbelow
    have hdeeper := hbelow.deeper
    rw [beside_of_isBlank hblank hp, (Variant.isName_java _).child_eq, sourceDir_eq] at hdeeper
    simp at hdeeper
  refine ⟨fun h => below_of_isInner h hp, fun h => beside_of_isBlank h hp,
    fun h => away_of_isRooted h hp, fun hroot => ⟨fun hbelow => ?_, fun h => below_of_isInner h hp⟩⟩
  rcases Name.isInner_or s.identifier with hinner | hblank | hrooted
  · exact hinner
  · exact absurd hbelow (hbeside hblank)
  · refine absurd ?_ (away_of_isRooted hrooted hp).1
    rw [← hroot]
    exact hbelow.root.trans (by rw [sourceDir_eq])

/-- A location is in the directory of one phase only. -/
theorem sourceDir_unique {l : Location} (hx : (site.sourceDir x).place <+: l)
    (hy : (site.sourceDir y).place <+: l) : x = y := by
  have hplace : ∀ z, (site.sourceDir z).place = site.generateDir.place ++ [tree z] := fun z => by
    rw [sourceDir_eq_child, (Variant.isName_tree z).place_child]
  rw [hplace] at hx hy
  exact Variant.tree_injective (Generator.name_unique hx hy)

/-- The directories of the phases have no file in common. -/
theorem not_sameFile (hxy : x ≠ y) (hp : (site.sourceDir x).Below p)
    (hq : (site.sourceDir y).Below q) (t : FileTree) : ¬t.SameFile p q := by
  rintro ⟨l, hl, hl'⟩
  have hsame : p.place = q.place :=
    (FileTree.place_of_locate hl).trans (FileTree.place_of_locate hl').symm
  exact hxy (sourceDir_unique (hsame ▸ hp.place) hq.place)

end Site

/-! ### Conversion -/

namespace Rule

theorem isSegment_of_isDotted {package part : String} (h : isDotted package = true)
    (hpart : part ∈ Name.segments package) : isSegment part = true := by
  rw [isDotted, Bool.and_eq_true, bne_iff_ne, List.all_eq_true] at h
  rw [Name.segments, if_neg h.1] at hpart
  exact h.2 part hpart

theorem head_ne_slash_of_isSegment {s : String} (h : isSegment s = true) :
    s.toList.head? ≠ some '/' := by
  intro hslash
  obtain ⟨cs, hcs⟩ := List.head?_eq_some_iff.1 hslash
  rw [isSegment, hcs] at h
  have hhead : isHead '/' = true := (Bool.and_eq_true_iff.1 h).1
  exact absurd hhead (by decide)

end Rule

namespace Resolver

variable {r : Resolver} {name : String}

/-- **Conversion keeps names that lead on**: the targets of accepted rules are names without
slashes. -/
theorem isInner_resolveName {rules : List Rule} (hr : ofRules rules = .ok r)
    (h : Name.IsInner name) : Name.IsInner (r.resolveName name) := by
  have hlawful := lawful_of_ofRules hr
  rw [Name.isInner_iff] at h
  rw [Name.IsInner, r.resolveName_eq, Name.split_qualify_eq _ (Name.dot_not_mem_simple name)]
  have hconverts := r.resolvePackage_converts hlawful (Name.package name)
  generalize Name.segments (Name.package name) = a at h hconverts
  generalize Name.segments (r.resolvePackage (Name.package name)) = b at hconverts ⊢
  cases hconverts with
  | resolved | untouched => exact h
  | @moved c rest _ hc =>
    rw [List.append_assoc, Path.leadOn_append] at h ⊢
    obtain ⟨rule, -, hcheck, heq⟩ := (exists_rule_of_ofRules hr).2 c hc.mem
    obtain ⟨part, parts, htarget, hpart⟩ := hlawful.target c hc.mem
    refine ⟨⟨fun part hpart => ?_, h.1.2⟩, .inl ⟨part, by simp [htarget], hpart⟩⟩
    rw [heq] at hpart
    exact Rule.head_ne_slash_of_isSegment
      (Rule.isSegment_of_isDotted (Rule.isDotted_of_check hcheck).2 hpart)

end Resolver

/-! ### The sources of the phases -/

/-- The names in a model that classes are rendered for. -/
def ServiceModel.classNames (m : ServiceModel) : List String :=
  m.endpoints.map (·.qualifiedName.nameText) ++ m.beanMessages.map (·.beanName.nameText) ++
    m.faults.map Fault.name ++
    (m.faults.filter (·.isImplicit)).map (·.implicitBeanName.nameText) ++
    m.types.map (·.qualifiedName.nameText)

theorem ServiceModel.mem_classNames {m : ServiceModel} {name : String} : name ∈ m.classNames ↔
    (∃ e ∈ m.endpoints, e.qualifiedName.nameText = name) ∨
    (∃ b ∈ m.beanMessages, b.beanName.nameText = name) ∨ (∃ f ∈ m.faults, f.name = name) ∨
    (∃ f ∈ m.faults, f.isImplicit = true ∧ f.implicitBeanName.nameText = name) ∨
    ∃ t ∈ m.types, t.qualifiedName.nameText = name := by
  simp only [classNames, List.mem_append, List.mem_map, List.mem_filter, or_assoc, and_assoc]

/-- The classes that a variant phase renders, in the order of their sources. -/
def CommonPlan.classes (plan : CommonPlan) : List String :=
  plan.endpoints.flatMap (fun e => [e.identifier, e.implIdentifier]) ++
    (plan.faults.map (·.identifier) ++ plan.types.map (·.identifier))

theorem CommonPlan.mem_classes {plan : CommonPlan} {id : String} : id ∈ plan.classes ↔
    (∃ e ∈ plan.endpoints, id = e.identifier ∨ id = e.implIdentifier) ∨
    (∃ f ∈ plan.faults, f.identifier = id) ∨ ∃ t ∈ plan.types, t.identifier = id := by
  simp only [classes, List.mem_append, List.mem_flatMap, List.mem_map, List.mem_cons,
    List.not_mem_nil, or_false]

namespace Generator

variable {g : Generator} {s s₁ s₂ s₃ : Session} {c : CommonResult} {v : Variant} {id : String}

/-- The identifier is that of a name in the model, or of a class that goes with it. -/
def IsClass (g : Generator) (id : String) : Prop :=
  ∃ name ∈ g.model.classNames, ∃ suffix ∈ ["", "Impl", "TypeBinding"],
    id = g.resolver.resolveName name ++ suffix

theorem isClass_resolveName {name : String} (h : name ∈ g.model.classNames) :
    g.IsClass (g.resolver.resolveName name) :=
  ⟨name, h, "", by simp, String.append_empty.symm⟩

theorem IsClass.isInner {rules : List Rule} (hr : Resolver.ofRules rules = .ok g.resolver)
    (hnames : ∀ name ∈ g.model.classNames, Name.IsInner name) (h : g.IsClass id) :
    Name.IsInner id := by
  obtain ⟨name, hname, suffix, hsuffix, rfl⟩ := h
  have hinner := Resolver.isInner_resolveName hr (hnames name hname)
  have hplain : ∀ suffix ∈ ["", "Impl", "TypeBinding"],
      '.' ∉ suffix.toList ∧ suffix.toList.head? ≠ some '/' := by decide
  exact hinner.append (hplain suffix hsuffix).1 (hplain suffix hsuffix).2

/-- What the common phase renders are classes of the model. -/
theorem isClass_origin (hm : g.model.Typed) {o : Origin} (ho : o.Belongs g.resolver g.model) :
    g.IsClass (o.identifier g.resolver) := by
  cases o with
  | message key b =>
    obtain ⟨e, he, operation, hoperation, hb, -⟩ := ho
    have hmem : b ∈ g.model.beanMessages :=
      List.mem_flatMap.2 ⟨e, he, List.mem_flatMap.2 ⟨operation, hoperation, hb⟩⟩
    exact isClass_resolveName (ServiceModel.mem_classNames.2 (.inr (.inl ⟨b, hmem, rfl⟩)))
  | carrier f =>
    obtain ⟨himplicit, faults, hfaults, hf⟩ := ho
    obtain ⟨d, hmem, rfl⟩ := exists_entry_of_resolved hm.faults hfaults f hf
    have hbean := Fault.bean_of_implicit (hm.faults d hmem) (Option.isNone_iff_eq_none.1 himplicit)
    exact isClass_resolveName (ServiceModel.mem_classNames.2
      (.inr (.inr (.inr (.inl ⟨d, hmem, himplicit, hbean.symm⟩)))))
  | type t =>
    exact ⟨t.qualifiedName.nameText,
      ServiceModel.mem_classNames.2 (.inr (.inr (.inr (.inr ⟨t, ho, rfl⟩)))), "TypeBinding",
      by simp, bindingIdentifier_resolveName _ _⟩

/-- The step renders nothing but classes of the model, for a variant. -/
def Renders (g : Generator) (v : Variant) : Step → Prop
  | .emit source => source.variant = some v ∧ g.IsClass source.identifier
  | _ => True

section

open Script

theorem endpointSources_renders {d : Deployment} {common : Registry} {plan : EndpointPlan}
    (h : g.IsClass plan.identifier) (himpl : g.IsClass plan.implIdentifier) :
    (endpointSources g.resolver v d common plan).Every (g.Renders v) := by
  refine every_bind (every_lift _) fun bindings _ => ?_
  refine every_bind (every_take ⟨rfl, h⟩) fun _ _ => ?_
  refine every_bind (every_take ⟨rfl, himpl⟩) fun _ _ => ?_
  split
  · exact every_lift _
  · exact every_take trivial

theorem typeSource_renders {plan : TypePlan} (h : g.IsClass plan.identifier) :
    (typeSource g.resolver v plan).Every (g.Renders v) :=
  every_bind (every_lift _) fun _ _ => every_take ⟨rfl, h⟩

/-- The classes of a plan are classes of the model. -/
theorem isClass_of_mem_classes (hm : g.model.Typed) (h : g.runCommon.Returns s c s₁)
    (hid : id ∈ c.plan.classes) : g.IsClass id := by
  obtain ⟨-, -, -, hresult⟩ := runCommon_inv h
  rcases CommonPlan.mem_classes.1 hid with ⟨e, he, hclass⟩ | ⟨f, hf, rfl⟩ | ⟨t, ht, rfl⟩
  · obtain ⟨endpoint, hmem, hidentifier, himpl⟩ := exists_endpoint_of_plan hm hresult e he
    have hname : endpoint.qualifiedName.nameText ∈ g.model.classNames :=
      ServiceModel.mem_classNames.2 (.inl ⟨endpoint, hmem, rfl⟩)
    rw [hidentifier, himpl] at hclass
    rcases hclass with rfl | rfl
    · exact isClass_resolveName hname
    · exact ⟨_, hname, "Impl", by simp, rfl⟩
  · have hresolved := (delivered_of_returns hm h).resolved
    obtain ⟨d, hmem, rfl⟩ := exists_entry_of_resolved hm.faults hresolved f hf
    exact isClass_resolveName (ServiceModel.mem_classNames.2 (.inr (.inr (.inl ⟨d, hmem, rfl⟩))))
  · obtain ⟨hmem, hidentifier⟩ := commonScript_types hm hresult t ht
    rw [hidentifier]
    exact isClass_resolveName
      (ServiceModel.mem_classNames.2 (.inr (.inr (.inr (.inr ⟨_, hmem, rfl⟩)))))

/-- What a variant phase renders are classes of the model. -/
theorem variantScript_renders (hm : g.model.Typed) (h : g.runCommon.Returns s c s₁) (v : Variant) :
    (variantScript g.resolver v g.settings.deployment c.registry c.plan).Every (g.Renders v) := by
  have hclass : ∀ {id}, id ∈ c.plan.classes → g.IsClass id := isClass_of_mem_classes hm h
  refine every_bind (every_each fun e he => ?_) fun _ _ => ?_
  · exact endpointSources_renders (hclass (CommonPlan.mem_classes.2 (.inl ⟨e, he, .inl rfl⟩)))
      (hclass (CommonPlan.mem_classes.2 (.inl ⟨e, he, .inr rfl⟩)))
  refine every_bind (every_each fun f hf => every_take ⟨rfl, ?_⟩) fun _ _ => ?_
  · exact hclass (CommonPlan.mem_classes.2 (.inr (.inl ⟨f, hf, rfl⟩)))
  refine every_bind (every_each fun t ht => typeSource_renders ?_) fun _ _ => every_pure _
  exact hclass (CommonPlan.mem_classes.2 (.inr (.inr ⟨t, ht, rfl⟩)))

end

/-- Where the artifacts of the common phase are. -/
theorem placed_of_common (hm : g.model.Typed) (h : g.runCommon.Returns s c s₁) {a : Artifact}
    (ha : a ∈ c.artifacts) : a.variant = none ∧ g.IsClass a.identifier ∧ g.site.Placed a := by
  obtain ⟨o, source, ho, hsource, htarget, heq⟩ := exists_origin_of_artifact hm h ha
  obtain ⟨hidentifier, hvariant⟩ := Origin.source_inv hsource
  have hclass := isClass_origin hm ho
  rw [← hidentifier] at hclass
  rw [heq]
  exact ⟨hvariant, hclass, Site.placed htarget⟩

/-- Where the artifacts of a variant phase are. -/
theorem placed_of_variant (hm : g.model.Typed) (h : g.runCommon.Returns s c s₁)
    {result : VariantResult} (hv : (g.runVariant v (some c)).Returns s₂ result s₃) {a : Artifact}
    (ha : a ∈ result.artifacts) :
    a.variant = some v ∧ g.IsClass a.identifier ∧ g.site.Placed a := by
  obtain ⟨upper, b, u, u', -, hplay, rfl, -⟩ := runVariant_inv hv
  obtain ⟨source, hmem, htarget, heq⟩ := Site.exists_source_of_artifact rfl hplay ha
  obtain ⟨hvariant, hclass⟩ := variantScript_renders hm h v _ hmem
  rw [heq]
  exact ⟨hvariant, hclass, Site.placed htarget⟩

theorem contained_of_isInner {rules : List Rule} (hr : Resolver.ofRules rules = .ok g.resolver)
    (hm : g.model.Typed) (h : g.runCommon.Returns s c s₁)
    (hnames : ∀ name ∈ g.model.classNames, Name.IsInner name) : g.Contained c := by
  intro v source hmem target htarget
  obtain ⟨hvariant, hclass⟩ := variantScript_renders hm h v _ hmem
  rw [← hvariant]
  exact Site.below_of_isInner (hclass.isInner hr hnames) htarget

/-- **Where sources are rendered to.**  If the common phase of a typed model returns under rules
that were accepted, and so does the phase of a variant, then every artifact is where the name of its
class leads to.  If all names in the model lead on, then everything is below the directory of its
phase, and the variant phases write nowhere else.  What is below the directories of different phases
is never one file. -/
theorem artifacts_placed {rules : List Rule} (hr : Resolver.ofRules rules = .ok g.resolver)
    (hm : g.model.Typed) (h : g.runCommon.Returns s c s₁) {result : VariantResult}
    (hv : (g.runVariant v (some c)).Returns s₂ result s₃) :
    (∀ a ∈ c.artifacts, a.variant = none ∧ g.site.Placed a) ∧
    (∀ a ∈ result.artifacts, a.variant = some v ∧ g.site.Placed a) ∧
    ((∀ name ∈ g.model.classNames, Name.IsInner name) → g.Contained c ∧
      (∀ a ∈ c.artifacts, (g.site.sourceDir none).Below a.path) ∧
      ∀ a ∈ result.artifacts, (g.site.sourceDir (some v)).Below a.path) ∧
    ∀ x y p q, x ≠ y → (g.site.sourceDir x).Below p → (g.site.sourceDir y).Below q →
      ∀ t : FileTree, ¬t.SameFile p q := by
  refine ⟨fun a ha => ?_, fun a ha => ?_, fun hnames => ?_, fun x y p q hxy hp hq t =>
    Site.not_sameFile hxy hp hq t⟩
  · obtain ⟨hvariant, -, hplaced⟩ := placed_of_common hm h ha
    exact ⟨hvariant, hplaced⟩
  · obtain ⟨hvariant, -, hplaced⟩ := placed_of_variant hm h hv ha
    exact ⟨hvariant, hplaced⟩
  · refine ⟨contained_of_isInner hr hm h hnames, fun a ha => ?_, fun a ha => ?_⟩
    · obtain ⟨hvariant, hclass, hplaced⟩ := placed_of_common hm h ha
      rw [← hvariant]
      exact hplaced.below (hclass.isInner hr hnames)
    · obtain ⟨hvariant, hclass, hplaced⟩ := placed_of_variant hm h hv ha
      rw [← hvariant]
      exact hplaced.below (hclass.isInner hr hnames)

/-- Mail of types with given names. -/
def mailService (types : List String) : Generator where
  model := {
    endpointGroups := []
    schemaGroups := [(.text "urn:mail", {
      types := types.map fun name =>
        { qualifiedName := .text name, space := .text "urn:mail" } })] }
  settings := { runId := "7", outputDir := ⟨"", ["out"]⟩ }
  resolver := ⟨[(["mail"], ["post", "office"])]⟩
  renderer := .shipped
  compiler := ⟨fun _ => pure { success := true }⟩

/-- The common phase and both variant phases. -/
def runAll (g : Generator) : Run (CommonResult × VariantResult × VariantResult) := do
  let c ← g.runCommon
  let l ← g.runVariant .legacy (some c)
  return (c, l, ← g.runVariant .modern (some c))

theorem runAll_returns {l m : VariantResult} (h : g.runAll.Returns s (c, l, m) s₃) :
    ∃ s₁ s₂, g.runCommon.Returns s c s₁ ∧ (g.runVariant .legacy (some c)).Returns s₁ l s₂ ∧
      (g.runVariant .modern (some c)).Returns s₂ m s₃ := by
  obtain ⟨c', s₁, hc, h⟩ := Run.returns_bind.1 h
  obtain ⟨l', s₂, hl, h⟩ := Run.returns_bind.1 h
  obtain ⟨m', s₃', hm, h⟩ := Run.returns_bind.1 h
  obtain ⟨heq, rfl⟩ := Run.returns_pure.1 h
  cases heq
  exact ⟨s₁, s₂, hc, hl, hm⟩

/-- Slashes and an empty part in a name. -/
def slashedMail : Generator := mailService ["mail.north//..Letter/"]

theorem artifacts_placed_mail :
    Resolver.ofRules [⟨"mail", "post.office"⟩] = .ok slashedMail.resolver ∧
      slashedMail.model.Typed ∧ (∀ name ∈ slashedMail.model.classNames, Name.IsInner name) ∧
      ∃ c l s₁ s₂, slashedMail.runCommon.Returns {} c s₁ ∧
        (slashedMail.runVariant .legacy (some c)).Returns s₁ l s₂ ∧
        l.artifacts.map (·.path) =
          [⟨"", ["out", "generate", "legacy", "post", "office", "north", "Letter.java"]⟩] ∧
        (∀ a ∈ c.artifacts, (slashedMail.site.sourceDir none).Below a.path) ∧
        ∀ a ∈ l.artifacts, (slashedMail.site.sourceDir (some .legacy)).Below a.path := by
  have hr : Resolver.ofRules [⟨"mail", "post.office"⟩] = .ok slashedMail.resolver := rfl
  have hm : slashedMail.model.Typed := by decide
  have hnames : ∀ name ∈ slashedMail.model.classNames, Name.IsInner name := by decide +kernel
  obtain ⟨⟨c, l, m⟩, s₃, h, hpaths⟩ := @Run.returns_of_check _ slashedMail.runAll {}
    (fun r => r.2.1.artifacts.map (·.path) ==
      [⟨"", ["out", "generate", "legacy", "post", "office", "north", "Letter.java"]⟩])
    (by decide +kernel)
  obtain ⟨s₁, s₂, hc, hl, -⟩ := runAll_returns h
  obtain ⟨-, -, hinner, -⟩ := artifacts_placed hr hm hc hl
  obtain ⟨-, hcommon, hvariant⟩ := hinner hnames
  exact ⟨hr, hm, hnames, c, l, s₁, s₂, hc, hl, eq_of_beq hpaths, hcommon, hvariant⟩

/-- A name of dots alone, and one with a slash in front. -/
def strayMail : Generator := mailService [".", "/mail.Letter"]

/-- The dot leads beside the directory of the variant, and with the slash, the binding of the type
is not below the directory of the common phase and both variants are rendered to one file. -/
theorem artifacts_stray : ∃ c l m s₁ s₂ s₃, strayMail.runCommon.Returns {} c s₁ ∧
    (strayMail.runVariant .legacy (some c)).Returns s₁ l s₂ ∧
    (strayMail.runVariant .modern (some c)).Returns s₂ m s₃ ∧
    (∃ a ∈ c.artifacts, ¬(strayMail.site.sourceDir none).Below a.path) ∧
    (∃ a ∈ l.artifacts, a.path = ⟨"", ["out", "generate", "legacy.java"]⟩ ∧
      ¬(strayMail.site.sourceDir (some .legacy)).Below a.path) ∧
    ∃ a ∈ l.artifacts, ∃ a' ∈ m.artifacts, a.path = a'.path := by
  obtain ⟨⟨c, l, m⟩, s₃, h, hcheck⟩ := @Run.returns_of_check _ strayMail.runAll {}
    (fun r => decide
      ((∃ a ∈ r.1.artifacts, ¬(strayMail.site.sourceDir none).Below a.path) ∧
      (∃ a ∈ r.2.1.artifacts, a.path = ⟨"", ["out", "generate", "legacy.java"]⟩ ∧
        ¬(strayMail.site.sourceDir (some .legacy)).Below a.path) ∧
      ∃ a ∈ r.2.1.artifacts, ∃ a' ∈ r.2.2.artifacts, a.path = a'.path))
    (by decide +kernel)
  obtain ⟨s₁, s₂, hc, hl, hm⟩ := runAll_returns h
  exact ⟨c, l, m, s₁, s₂, s₃, hc, hl, hm, of_decide_eq_true hcheck⟩

end Generator

end SoapStubs
