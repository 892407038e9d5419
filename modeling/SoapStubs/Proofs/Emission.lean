import SoapStubs.Proofs.Name
import SoapStubs.Proofs.Parallel

/-!
# Sources and their files

What a phase leaves in the files of the sources it renders: each file holds the text that was
rendered to it last.  So a file holds another text than that of its source exactly if another source
was rendered to it later, with another text.

* `Emission` is a source together with its file and its text, neither of which depends on the file
  system;
* `Site.perform_files` says what a step does to the files, and `Site.performAll_kept` what many do:
  the last emission to a file counts (`Kept`);
* `Kept.faithful_iff`: every file holds the text of its source if and only if no two sources were
  rendered to one file with different texts;
* `Site.identifier_eq_of_sameFile`: classes whose names have no slashes and no empty parts have
  files of their own.
-/

namespace SoapStubs

open FileTree

/-! ### Emissions -/

/-- A source with the file it is rendered to and its text. -/
structure Emission where
  source : Source
  /-- The file. -/
  target : Path
  text : String

/-- The artifact that is left of an emission. -/
def Emission.artifact (e : Emission) : Artifact := e.source.artifact e.target

/-- The source a step renders. -/
def Step.source? : Step → Option Source
  | .emit source => some source
  | _ => none

namespace Site

/-- The emission of a source that can be rendered. -/
def emission? (site : Site) (source : Source) : Option Emission :=
  (site.render source).toOption.map fun p => ⟨source, p.1, p.2⟩

/-- The emissions of steps, in order. -/
def emissions (site : Site) (steps : List Step) : List Emission :=
  (steps.filterMap Step.source?).filterMap site.emission?

variable {site : Site} {source : Source} {e : Emission} {steps : List Step}

theorem emission?_eq_some_iff : site.emission? source = some e ↔
    e.source = source ∧ site.render source = .ok (e.target, e.text) := by
  unfold emission?
  cases h : site.render source with
  | error f => simp [Except.toOption]
  | ok p =>
    obtain ⟨source', target, text⟩ := e
    simp [Except.toOption, Prod.ext_iff, eq_comm]

theorem mem_emissions : e ∈ site.emissions steps ↔
    .emit e.source ∈ steps ∧ site.render e.source = .ok (e.target, e.text) := by
  simp only [emissions, List.mem_filterMap, emission?_eq_some_iff]
  constructor
  · rintro ⟨source, ⟨step, hstep, hsource⟩, rfl, hrender⟩
    cases step with
    | emit source' =>
      cases hsource
      exact ⟨hstep, hrender⟩
    | declare | record | note => cases hsource
  · rintro ⟨hstep, hrender⟩
    exact ⟨e.source, ⟨_, hstep, rfl⟩, rfl, hrender⟩

theorem emissions_cons (step : Step) (steps : List Step) :
    site.emissions (step :: steps) = site.emissions [step] ++ site.emissions steps := by
  simp only [emissions, ← List.filterMap_append, List.singleton_append]

end Site

/-! ### What steps do to the files -/

namespace Site

variable {site : Site} {b b' : Bench} {s s' : Session} {step : Step} {steps : List Step}

/-- **What a step does to the files**: a source gets its directories and is written; other steps
leave the files as they are. -/
theorem perform_files (h : (site.perform b step).Returns s b' s') :
    (∃ e t, site.emissions [step] = [e] ∧ b'.artifacts = b.artifacts ++ [e.artifact] ∧
      s.files.makeDirectories e.target.parent = .ok t ∧
      t.write e.target (.text e.text) = .ok s'.files) ∨
    (site.emissions [step] = [] ∧ b'.artifacts = b.artifacts ∧ s'.files = s.files) := by
  cases takes_of_perform h with
  | @emit source target _ _ htarget hemit =>
    obtain ⟨text, t, hrender, hroom, hwrite⟩ := render_returns htarget hemit
    have hemission : site.emission? source = some ⟨source, target, text⟩ :=
      emission?_eq_some_iff.2 ⟨rfl, hrender⟩
    exact .inl ⟨⟨source, target, text⟩, t, by simp [emissions, Step.source?, hemission], rfl, hroom,
      hwrite⟩
  | declare | record | note => exact .inr ⟨rfl, rfl, rfl⟩

/-- What holds between the files before and after each source is written holds between the files
before and after all steps. -/
theorem performAll_files {R : FileTree → FileTree → Prop} (hrefl : ∀ t, R t t)
    (htrans : ∀ {t u v}, R t u → R u v → R t v)
    (hemit : ∀ e ∈ site.emissions steps, ∀ {t u v}, t.makeDirectories e.target.parent = .ok u →
      u.write e.target (.text e.text) = .ok v → R t v)
    (h : (site.performAll b steps).Returns s b' s') : R s.files s'.files := by
  induction steps generalizing b s with
  | nil =>
    obtain ⟨-, rfl⟩ := Run.returns_pure.1 h
    exact hrefl _
  | cons step steps ih =>
    obtain ⟨b₁, s₁, hstep, h⟩ := Run.returns_bind.1 h
    rw [emissions_cons] at hemit
    have hrest : R s₁.files s'.files :=
      ih (fun e he => hemit e (List.mem_append_right _ he)) h
    rcases perform_files hstep with ⟨e, t, he, -, hroom, hwrite⟩ | ⟨-, -, hfiles⟩
    · refine htrans (hemit e ?_ hroom hwrite) hrest
      rw [he]
      exact List.mem_append_left _ List.mem_cons_self
    · rwa [← hfiles]

end Site

/-! ### The last emission to a file -/

/-- The paths lead to one location. -/
def FileTree.SameFile (t : FileTree) (p q : Path) : Prop :=
  ∃ l, t.locate p = .ok l ∧ t.locate q = .ok l

/-- The file of each source is there, and the last source that was rendered to it is what it
holds. -/
structure Kept (es : List Emission) (t : FileTree) : Prop where
  /-- Every file is there. -/
  located : ∀ e ∈ es, ∃ l, t.locate e.target = .ok l
  /-- A source is in its file if no later one was rendered to that file. -/
  last : ∀ front e back, es = front ++ e :: back →
    (∀ e' ∈ back, ¬t.SameFile e'.target e.target) → t.read e.target = .ok (.text e.text)

namespace Kept

variable {es : List Emission} {e : Emission} {t u v : FileTree}

theorem nil (t : FileTree) : Kept [] t := ⟨nofun, fun front e back h => by simp at h⟩

theorem concat_cases {α : Type} {l front back : List α} {a b : α}
    (h : l ++ [a] = front ++ b :: back) :
    (b = a ∧ back = []) ∨ ∃ back', back = back' ++ [a] ∧ l = front ++ b :: back' := by
  rcases List.eq_nil_or_concat back with rfl | ⟨back', c, rfl⟩
  · obtain ⟨-, hab⟩ := List.append_inj' h rfl
    exact .inl ⟨(List.singleton_inj.1 hab).symm, rfl⟩
  · have h' : l ++ [a] = (front ++ b :: back') ++ [c] := by simpa using h
    obtain ⟨hl, hac⟩ := List.append_inj' h' rfl
    exact .inr ⟨back', by rw [List.concat_eq_append, List.singleton_inj.1 hac], hl⟩

/-- One more emission. -/
theorem concat (h : Kept es t) (hroom : t.makeDirectories e.target.parent = .ok u)
    (hwrite : u.write e.target (.text e.text) = .ok v) : Kept (es ++ [e]) v := by
  obtain ⟨l, hl, hnot, hlookup⟩ := write_inv hwrite
  have hsame : SameDirectories u v := .of_update hnot (by simp) hlookup
  have hkeeps : KeepsDirectories t v := fun x hx =>
    hsame.keeps x ((makeDirectories_grows hroom).keeps x hx)
  have hfiles : u.fileAt = t.fileAt := (makeDirectories_inv hroom).2
  constructor
  case located =>
    intro e' he'
    rcases List.mem_append.1 he' with he' | he'
    · obtain ⟨l', hl'⟩ := h.located e' he'
      exact ⟨l', hkeeps.locate hl'⟩
    · rw [List.mem_singleton.1 he']
      exact ⟨l, hsame.locate hl⟩
  case last =>
    intro front e' back hes hlater
    rcases concat_cases hes with ⟨rfl, -⟩ | ⟨back, rfl, hes'⟩
    · refine read_eq_ok.2 ⟨_, hsame.locate hl, ?_⟩
      rw [hlookup, Function.update_self]
    · have hmem : e' ∈ es := by simp [hes']
      obtain ⟨l', hl'⟩ := h.located e' hmem
      have hne : l' ≠ l := by
        rintro rfl
        exact hlater e (by simp) ⟨l', hsame.locate hl, hkeeps.locate hl'⟩
      have hread : t.read e'.target = .ok (.text e'.text) := by
        refine h.last front e' back hes' fun k hk => ?_
        rintro ⟨m, hm, hm'⟩
        exact hlater k (by simp [hk]) ⟨m, hkeeps.locate hm, hkeeps.locate hm'⟩
      obtain ⟨m, hm, hfile⟩ := read_eq_ok.1 hread
      obtain rfl := Except.ok.inj (hl'.symm.trans hm)
      have hat : u.lookup l' = some (.file (.text e'.text)) := by
        rw [← fileAt_eq_some_iff, hfiles, fileAt_eq_some_iff, hfile]
      refine read_eq_ok.2 ⟨_, hkeeps.locate hl', ?_⟩
      rw [hlookup, Function.update_of_ne hne, hat]

/-- A list with such an element has a last one. -/
theorem exists_last {α : Type} (P : α → Prop) {l : List α} {a : α} (ha : a ∈ l) (hP : P a) :
    ∃ front b back, l = front ++ b :: back ∧ P b ∧ ∀ c ∈ back, ¬P c := by
  induction l using List.reverseRecOn with
  | nil => cases ha
  | append_singleton l d ih =>
    by_cases hd : P d
    · exact ⟨l, d, [], rfl, hd, nofun⟩
    · rcases List.mem_append.1 ha with ha | ha
      · obtain ⟨front, b, back, rfl, hb, hback⟩ := ih ha
        refine ⟨front, b, back ++ [d], by simp, hb, ?_⟩
        simpa [or_imp, forall_and, hd] using hback
      · rw [List.mem_singleton.1 ha] at hP
        exact absurd hP hd

/-- What the file of a source holds: the text of a source that was rendered to the same file. -/
theorem read_eq (h : Kept es t) (he : e ∈ es) : ∃ e' ∈ es, t.SameFile e.target e'.target ∧
    t.read e.target = .ok (.text e'.text) := by
  obtain ⟨l, hl⟩ := h.located e he
  have hself : t.SameFile e.target e.target := ⟨l, hl, hl⟩
  obtain ⟨front, e', back, hes, hsame, hlater⟩ :=
    exists_last (fun e' : Emission => t.SameFile e'.target e.target) he hself
  obtain ⟨l', hl', hl''⟩ := hsame
  have hll : l' = l := Except.ok.inj (hl''.symm.trans hl)
  rw [hll] at hl'
  have hread : t.read e'.target = .ok (.text e'.text) := by
    refine h.last front e' back hes fun k hk => ?_
    rintro ⟨m, hm, hm'⟩
    rw [Except.ok.inj (hm'.symm.trans hl')] at hm
    exact hlater k hk ⟨l, hm, hl⟩
  obtain ⟨m, hm, hfile⟩ := read_eq_ok.1 hread
  rw [Except.ok.inj (hm.symm.trans hl')] at hfile
  have hmem : e' ∈ es := by simp [hes]
  exact ⟨e', hmem, ⟨l, hl, hl'⟩, read_eq_ok.2 ⟨_, hl, hfile⟩⟩

/-- **Every file holds the text of its source** if and only if no two sources were rendered to one
file with different texts. -/
theorem faithful_iff (h : Kept es t) : (∀ e ∈ es, t.read e.target = .ok (.text e.text)) ↔
    ∀ e ∈ es, ∀ e' ∈ es, t.SameFile e.target e'.target → e.text = e'.text := by
  constructor
  · rintro hall e he e' he' ⟨l, hl, hl'⟩
    obtain ⟨m, hm, hfile⟩ := read_eq_ok.1 (hall e he)
    obtain ⟨m', hm', hfile'⟩ := read_eq_ok.1 (hall e' he')
    obtain rfl := Except.ok.inj (hm.symm.trans hl)
    obtain rfl := Except.ok.inj (hm'.symm.trans hl')
    simpa using hfile.symm.trans hfile'
  · intro hsame e he
    obtain ⟨e', he', hfile, hread⟩ := h.read_eq he
    rw [hread, hsame e he e' he' hfile]

end Kept

/-- **The last emission to a file counts.** -/
theorem Site.performAll_kept {site : Site} {b b' : Bench} {s s' : Session} {steps : List Step}
    {es : List Emission} (hkept : Kept es s.files) (h : (site.performAll b steps).Returns s b' s') :
    Kept (es ++ site.emissions steps) s'.files ∧
      b'.artifacts = b.artifacts ++ (site.emissions steps).map Emission.artifact := by
  induction steps generalizing b s es with
  | nil =>
    obtain ⟨rfl, rfl⟩ := Run.returns_pure.1 h
    simpa [emissions] using hkept
  | cons step steps ih =>
    obtain ⟨b₁, s₁, hstep, h⟩ := Run.returns_bind.1 h
    rw [emissions_cons, ← List.append_assoc, List.map_append, ← List.append_assoc]
    rcases perform_files hstep with ⟨e, t, he, hartifacts, hroom, hwrite⟩ |
      ⟨hnone, hartifacts, hfiles⟩
    · rw [he, List.map_singleton, ← hartifacts]
      exact ih (hkept.concat hroom hwrite) h
    · rw [hnone, List.map_nil, List.append_nil, List.append_nil, ← hartifacts]
      exact ih (hfiles ▸ hkept) h

/-! ### Classes with files of their own -/

/-- No part of the name is empty or has a slash. -/
def Name.IsPlain (identifier : String) : Prop :=
  ∀ part ∈ Text.split '.' identifier, part ≠ "" ∧ '/' ∉ part.toList

namespace Path

variable {s last : String} {names : List String}

theorem isPart_of_dotless (hne : s ≠ "") (hdot : '.' ∉ s.toList) : isPart s = true := by
  have hne' : s ≠ "." := by
    rintro rfl
    exact hdot (by decide)
  simp [isPart, hne, hne']

theorem descend_of_plain
    (h : ∀ s ∈ names, s ≠ "" ∧ '/' ∉ s.toList ∧ '.' ∉ s.toList) (p : Path) :
    p.descend names = ⟨p.root, p.parts ++ names⟩ := by
  induction names generalizing p with
  | nil => rw [List.append_nil]; rfl
  | cons s names ih =>
    obtain ⟨⟨hne, hslash, hdot⟩, hrest⟩ := List.forall_mem_cons.1 h
    have hchild : p.child s = ⟨p.root, p.parts ++ [s]⟩ := by
      rw [child, ofText_of_isPart (isPart_of_dotless hne hdot) hslash, join, if_pos rfl]
    calc p.descend (s :: names) = (p.child s).descend names := rfl
      _ = ⟨p.root, p.parts ++ [s] ++ names⟩ := by rw [hchild, ih hrest]
      _ = ⟨p.root, p.parts ++ s :: names⟩ := by rw [List.append_assoc]; rfl

theorem withSuffix?_of_dotless (root : String) (front : List String) (ending : String)
    (hne : last ≠ "") (hdot : '.' ∉ last.toList) :
    (Path.mk root (front ++ [last])).withSuffix? ending =
      some ⟨root, front ++ [last ++ ending]⟩ := by
  have hcut : cutName last = (last, "") := by
    rw [cutName, Text.cutLast?_eq_none_iff.2 hdot]
  simp [withSuffix?, name, stem, withName, hcut, hne]

end Path

namespace Site

variable {site : Site} {source source' : Source} {p p' : Path} {t : FileTree}

/-- The file of a class with a plain name. -/
theorem target_of_plain (h : Name.IsPlain source.identifier) (hp : site.target source = .ok p) :
    ∃ front last, Text.split '.' source.identifier = front ++ [last] ∧
      p = ⟨(site.sourceDir source.variant).root,
        (site.sourceDir source.variant).parts ++ (front ++ [last ++ ".java"])⟩ := by
  have hnames : ∀ s ∈ Text.split '.' source.identifier,
      s ≠ "" ∧ '/' ∉ s.toList ∧ '.' ∉ s.toList := fun s hs =>
    ⟨(h s hs).1, (h s hs).2, Text.not_mem_of_mem_split hs⟩
  rcases List.eq_nil_or_concat (Text.split '.' source.identifier) with hnil | ⟨front, last, hlast⟩
  · exact absurd hnil (Text.split_ne_nil _ _)
  rw [List.concat_eq_append] at hlast
  refine ⟨front, last, hlast, ?_⟩
  obtain ⟨hne, -, hdot⟩ := hnames last (by simp [hlast])
  unfold target at hp
  dsimp only at hp
  rw [Path.descend_of_plain hnames, hlast, ← List.append_assoc,
    Path.withSuffix?_of_dotless _ _ _ hne hdot] at hp
  rw [← List.append_assoc]
  exact (Except.ok.inj hp).symm

end Site

/-- Names behind a directory lead where they say, if none leads upwards. -/
theorem FileTree.append_of_locate {t : FileTree} {p : Path} {base names : List String}
    {l : Location} (hparts : p.parts = base ++ names) (hup : ".." ∉ names)
    (h : t.locate p = .ok l) : ∃ d, base.foldlM t.step (start p) = .ok d ∧ l = d ++ names := by
  have hway := (locate_eq_ok_iff.1 h).2
  rw [hparts, List.foldlM_append] at hway
  obtain ⟨d, hbase, hway⟩ := bind_eq_ok.1 hway
  exact ⟨d, hbase, foldlM_step_eq hup hway⟩

namespace Site

variable {site : Site} {source source' : Source} {p p' : Path} {t : FileTree}

/-- **Classes with plain names have files of their own.** -/
theorem identifier_eq_of_sameFile (hvariant : source.variant = source'.variant)
    (h : Name.IsPlain source.identifier) (h' : Name.IsPlain source'.identifier)
    (hp : site.target source = .ok p) (hp' : site.target source' = .ok p')
    (hsame : t.SameFile p p') : source.identifier = source'.identifier := by
  -- a part has no dots, so neither has it two, and the ending has other characters
  have hup : ∀ {id : String} {front : List String} {last : String},
      Text.split '.' id = front ++ [last] → ".." ∉ front ++ [last ++ ".java"] := by
    intro id front last hsplit hmem
    rcases List.mem_append.1 hmem with hmem | hmem
    · have hpart : ".." ∈ Text.split '.' id := by simp [hsplit, hmem]
      exact Text.not_mem_of_mem_split hpart (by decide)
    · have hlength := congrArg String.length (List.mem_singleton.1 hmem)
      rw [String.length_append] at hlength
      have : "..".length = 2 := by decide
      have : ".java".length = 5 := by decide
      omega
  obtain ⟨front, last, hsplit, rfl⟩ := target_of_plain h hp
  obtain ⟨front', last', hsplit', rfl⟩ := target_of_plain h' hp'
  obtain ⟨l, hl, hl'⟩ := hsame
  rw [← hvariant] at hl'
  obtain ⟨d, hd, rfl⟩ := append_of_locate rfl (hup hsplit) hl
  obtain ⟨d', hd', heq⟩ := append_of_locate rfl (hup hsplit') hl'
  obtain rfl := Except.ok.inj (hd.symm.trans hd')
  obtain ⟨rfl, hlast⟩ := List.append_inj' (List.append_cancel_left heq) rfl
  have hlast : last = last' := by
    have := congrArg String.toList (List.singleton_inj.1 hlast)
    rw [String.toList_append, String.toList_append] at this
    exact String.toList_inj.1 (List.append_cancel_right this)
  rw [← Text.join_split '.' source.identifier, ← Text.join_split '.' source'.identifier, hsplit,
    hsplit', hlast]

end Site

end SoapStubs
