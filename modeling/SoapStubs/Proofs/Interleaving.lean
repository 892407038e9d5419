import Mathlib.Data.List.Count
import Mathlib.Logic.Function.Iterate
import Mathlib.Tactic.MkIffOfInductiveProp
import SoapStubs.Generation.Generator
import SoapStubs.Proofs.Subtrees

/-!
# Variant phases that take turns

Two variant phases that run at the same time take turns in some order over the same files.  In one
turn a phase does one thing: it renders a source, makes the directories for it, writes it, records a
descriptor, declares a type, or comes to its end.

* `Worker` is a phase on its way and `Worker.turn` one turn of it; `Crew` are the phases with their
  files, and `Crew.run` lets them take turns as a schedule says;
* `Worker.Inside` says that all a worker writes is below a directory, and `Worker.First` is the file
  that it makes directories for first;
* `Crew.run_of_frame`: if a turn of one worker does not concern the others, then in every schedule
  each worker comes as far as it does alone;
* `Crew.run_ends`: **the order of turns does not matter**.  Whenever all workers have come to their
  end, they have the same outcomes and the files are the same;
* `Crew.done_of_count`: every schedule with enough turns for each worker leads to the end.

What is logged is not part of a turn, since the order of the entries does depend on the schedule.
-/

namespace SoapStubs

open FileTree

/-! ### Workers -/

/-- What a turn does to the files. -/
inductive FileAction where
  /-- The directories for a file are made. -/
  | makeRoom (target : Path)
  /-- A file is written. -/
  | save (target : Path) (text : String)

namespace FileAction

def target : FileAction → Path
  | .makeRoom target => target
  | .save target _ => target

def apply (t : FileTree) : FileAction → Except Cause FileTree
  | .makeRoom target => t.makeDirectories target.parent
  | .save target text => t.write target (.text text)

end FileAction

/-- How far a source has come. -/
inductive Progress where
  /-- There is none at work. -/
  | idle
  | rendered (source : Source) (target : Path) (text : String)
  /-- The directories for it are there. -/
  | placed (source : Source) (target : Path) (text : String)

/-- The file of the source at work. -/
def Progress.target? : Progress → Option Path
  | .idle => none
  | .rendered _ target _ => some target
  | .placed _ target _ => some target

/-- A phase on its way, or at its end. -/
inductive Worker where
  /-- It has built up a bench, has a source at work, and a script to go on with. -/
  | going (bench : Bench) (progress : Progress) (script : Script Unit)
  /-- It has come to its end. -/
  | ended (outcome : Except Failure Bench)

/-- What a worker does next. -/
inductive Move where
  /-- It goes on without the files. -/
  | alone (next : Worker)
  /-- It does something to the files, and goes on if that is not refused. -/
  | onFiles (action : FileAction) (next : Worker)

/-- The target and the text of a source. -/
def Site.render (site : Site) (s : Source) : Except Failure (Path × String) := do
  let target ← site.target s
  let text ← (site.renderer.text s.template (site.bindings s)).mapError
    (Renderer.blame s.template target)
  return (target, text)

theorem Site.target_of_render {site : Site} {s : Source} {target : Path} {text : String}
    (h : site.render s = .ok (target, text)) : site.target s = .ok target := by
  obtain ⟨p, hp, h⟩ := bind_eq_ok.1 h
  obtain ⟨_, -, heq⟩ := return_eq_ok.1 h
  cases heq
  exact hp

def Source.artifact (s : Source) (target : Path) : Artifact :=
  ⟨s.category, s.template, s.identifier, target, s.variant⟩

namespace Worker

variable (site : Site)

/-- Takes a step, with a script to go on with. -/
def take (b : Bench) (rest : Script Unit) : Step → Worker
  | .declare identifier origin =>
    match b.manifest.add identifier (some origin) with
    | .error f => .ended (.error f)
    | .ok (manifest, _) => .going { b with manifest } .idle rest
  | .record key d =>
    match b.registry.record (.text key) d with
    | .error f => .ended (.error f)
    | .ok (registry, _) => .going { b with registry } .idle rest
  | .emit s =>
    match site.render s with
    | .error f => .ended (.error f)
    | .ok (target, text) => .going b (.rendered s target text) rest
  | .note _ => .going b .idle rest

/-- What the worker does next. -/
def move : Worker → Move
  | .ended outcome => .alone (.ended outcome)
  | .going b (.rendered s target text) script =>
    .onFiles (.makeRoom target) (.going b (.placed s target text) script)
  | .going b (.placed s target text) script =>
    .onFiles (.save target text)
      (.going { b with artifacts := b.artifacts ++ [s.artifact target] } .idle script)
  | .going b .idle ⟨[], result⟩ => .alone (.ended (result.map fun _ => b))
  | .going b .idle ⟨step :: rest, result⟩ => .alone (take site b ⟨rest, result⟩ step)

def turn (w : Worker) (t : FileTree) : Worker × FileTree :=
  match w.move site with
  | .alone next => (next, t)
  | .onFiles action next =>
    match action.apply t with
    | .ok t => (next, t)
    | .error c => (.ended (.error (.bare c)), t)

end Worker

/-- The workers of both variants with their files. -/
structure Crew where
  workers : Variant → Worker
  files : FileTree

namespace Crew

variable (site : Site)

/-- The worker of a variant takes a turn. -/
def turn (crew : Crew) (v : Variant) : Crew where
  workers := Function.update crew.workers v ((crew.workers v).turn site crew.files).1
  files := ((crew.workers v).turn site crew.files).2

/-- The workers take turns as a schedule says. -/
def run (crew : Crew) (schedule : List Variant) : Crew := schedule.foldl (turn site) crew

end Crew

/-! ### Turns of one worker -/

namespace Worker

variable {site : Site} {w : Worker} {t t' : FileTree} {n m : Nat}

end Worker

/-! ### Workers that stay inside a directory -/

/-- The path lies below the directory: it goes on behind it, and not upwards. -/
@[mk_iff]
structure Path.Below (dir p : Path) : Prop where
  /-- They have the same root. -/
  root : p.root = dir.root
  /-- The path goes through the directory. -/
  through : dir.parts <+: p.parts
  /-- It goes on. -/
  deeper : dir.parts.length < p.parts.length
  /-- It does not go upwards. -/
  down : ".." ∉ p.parts.drop dir.parts.length

instance (dir p : Path) : Decidable (dir.Below p) := decidable_of_iff _ (Path.below_iff dir p).symm

theorem Path.Below.exists {dir p : Path} (h : dir.Below p) :
    ∃ q, q ≠ [] ∧ ".." ∉ q ∧ p = ⟨dir.root, dir.parts ++ q⟩ := by
  obtain ⟨q, hq⟩ := h.through
  refine ⟨q, ?_, ?_, ?_⟩
  · rintro rfl
    have hlength := h.deeper
    rw [← hq, List.append_nil] at hlength
    exact Nat.lt_irrefl _ hlength
  · have hdown := h.down
    rwa [← hq, List.drop_left] at hdown
  · rw [hq, ← h.root]

namespace Worker

/-- All that the worker writes is below the directory. -/
def Inside (site : Site) (dir : Path) : Worker → Prop
  | .going _ progress script => (∀ target ∈ progress.target?, dir.Below target) ∧
      ∀ source, .emit source ∈ script.steps →
        ∀ target, site.target source = .ok target → dir.Below target
  | .ended _ => True

variable {site : Site} {dir : Path} {b : Bench} {rest : Script Unit} {step : Step}

theorem inside_take (hstep : ∀ source, step = .emit source →
      ∀ target, site.target source = .ok target → dir.Below target)
    (hrest : ∀ source, .emit source ∈ rest.steps →
      ∀ target, site.target source = .ok target → dir.Below target) :
    (take site b rest step).Inside site dir := by
  have hidle : ∀ b, (going b .idle rest).Inside site dir := fun b => ⟨nofun, hrest⟩
  cases step with
  | declare identifier origin =>
    simp only [take]
    split
    · trivial
    · exact hidle _
  | record key d =>
    simp only [take]
    split
    · trivial
    · exact hidle _
  | emit source =>
    simp only [take]
    split
    · trivial
    · rename_i target text hrender
      refine ⟨fun p hp => ?_, hrest⟩
      obtain rfl := Option.some.inj hp
      exact hstep source rfl _ (Site.target_of_render hrender)
  | note event => exact hidle b

/-- A worker that stays inside does something inside next. -/
theorem Inside.move {w : Worker} (h : w.Inside site dir) :
    (∃ next, w.move site = .alone next ∧ next.Inside site dir) ∨
      ∃ action next, w.move site = .onFiles action next ∧ dir.Below action.target ∧
        next.Inside site dir := by
  cases w with
  | ended outcome => exact .inl ⟨_, rfl, trivial⟩
  | going b progress script =>
    obtain ⟨hprogress, hscript⟩ := h
    cases progress with
    | rendered source target text =>
      exact .inr ⟨_, _, rfl, hprogress target rfl, hprogress, hscript⟩
    | placed source target text =>
      exact .inr ⟨_, _, rfl, hprogress target rfl, nofun, hscript⟩
    | idle =>
      obtain ⟨steps, result⟩ := script
      cases steps with
      | nil => exact .inl ⟨_, rfl, trivial⟩
      | cons step steps =>
        refine .inl ⟨_, rfl, inside_take (fun source heq => ?_) fun source hmem => ?_⟩
        · exact hscript source (heq ▸ List.mem_cons_self)
        · exact hscript source (List.mem_cons_of_mem _ hmem)

end Worker

/-! ### Schedules -/

namespace Crew

variable {site : Site} {crew : Crew}

theorem run_concat (schedule : List Variant) (v : Variant) :
    crew.run site (schedule ++ [v]) = (crew.run site schedule).turn site v := by
  rw [run, List.foldl_append]
  rfl

end Crew

/-! ### Below a directory that is there -/

theorem Variant.name_ne_up (v : Variant) : v.name ≠ ".." := by cases v <;> decide

theorem Variant.size_name_le (v : Variant) : v.name.utf8ByteSize ≤ longestName := by
  cases v <;> decide

theorem Site.sourceDir_variant (site : Site) (v : Variant) :
    site.sourceDir (some v) = ⟨site.generateDir.root, site.generateDir.parts ++ [v.name]⟩ := by
  have hname : Path.ofText v.name = ⟨"", [v.name]⟩ := by cases v <;> decide
  rw [sourceDir, Path.child, hname, Path.join, if_pos rfl]

section

variable {site : Site} {v : Variant} {l : Location} {t u : FileTree} {p : Path}

/-- A path below the directory of a variant. -/
theorem Path.Below.of_variant (h : (site.sourceDir (some v)).Below p) :
    ∃ q, q ≠ [] ∧ ".." ∉ q ∧
      p = ⟨site.generateDir.root, site.generateDir.parts ++ v.name :: q⟩ := by
  rw [site.sourceDir_variant] at h
  obtain ⟨q, hne, hup, rfl⟩ := h.exists
  exact ⟨q, hne, hup, by rw [List.append_assoc]; rfl⟩

theorem Path.Below.parent_of_variant (h : (site.sourceDir (some v)).Below p) :
    ∃ q, ".." ∉ q ∧
      p.parent = ⟨site.generateDir.root, site.generateDir.parts ++ v.name :: q⟩ := by
  obtain ⟨q, hne, hup, rfl⟩ := h.of_variant
  refine ⟨q.dropLast, fun hmem => hup (List.dropLast_subset _ hmem), ?_⟩
  rw [Path.parent, List.dropLast_append_of_ne_nil (List.cons_ne_nil _ _),
    List.dropLast_cons_of_ne_nil hne]

theorem FileAction.alike {action : FileAction}
    (h : SameSubtree site.generateDir l v.name t u)
    (hbelow : (site.sourceDir (some v)).Below action.target) :
    Alike (l ++ [v.name]) t u (action.apply t) (action.apply u) := by
  cases action with
  | makeRoom target =>
    obtain ⟨q, hup, hparent⟩ := hbelow.parent_of_variant
    simp only [FileAction.target] at hparent
    rw [apply, apply, hparent]
    exact makeDirectories_alike v.name_ne_up v.size_name_le h hup
  | save target text =>
    obtain ⟨q, -, hup, htarget⟩ := hbelow.of_variant
    simp only [FileAction.target] at htarget
    rw [apply, apply, htarget]
    exact write_alike v.name_ne_up v.size_name_le h hup _

end

namespace Crew

variable {site : Site} {crew : Crew} {l : Location}

end Crew

/-! ### Before anything is done to the files -/

/-- The worker is not about to write. -/
def Worker.Waiting : Worker → Prop
  | .going _ (.placed ..) _ => False
  | _ => True

namespace Worker

variable {site : Site} {w w' next : Worker} {action : FileAction} {target : Path} {t : FileTree}

theorem waiting_take (b : Bench) (rest : Script Unit) (step : Step) :
    (take site b rest step).Waiting := by
  cases step with
  | declare identifier origin =>
    simp only [take]
    split <;> trivial
  | record key d =>
    simp only [take]
    split <;> trivial
  | emit source =>
    simp only [take]
    split <;> trivial
  | note event => trivial

/-- A worker that does without the files is not about to write afterwards. -/
theorem waiting_of_alone (h : w.move site = .alone next) : next.Waiting := by
  cases w with
  | ended outcome =>
    cases h
    trivial
  | going b progress script =>
    cases progress with
    | rendered source target text => cases h
    | placed source target text => cases h
    | idle =>
      obtain ⟨steps, result⟩ := script
      cases steps with
      | nil =>
        cases h
        trivial
      | cons step steps =>
        cases h
        exact waiting_take b _ step

/-- A worker that is not about to write makes directories, if it does something to the files. -/
theorem Waiting.makeRoom (hw : w.Waiting) (h : w.move site = .onFiles action next) :
    ∃ target, action = .makeRoom target := by
  cases w with
  | ended outcome => cases h
  | going b progress script =>
    cases progress with
    | rendered source target text =>
      cases h
      exact ⟨target, rfl⟩
    | placed source target text => cases hw
    | idle =>
      obtain ⟨steps, result⟩ := script
      cases steps <;> cases h

/-- What a worker comes to before it has done anything to the files: it goes on without them, or is
refused. -/
inductive Heading (site : Site) (w : Worker) : Worker → Prop where
  | start : Heading site w w
  /-- It goes on without the files. -/
  | alone {w' next : Worker} (h : Heading site w w') (hmove : w'.move site = .alone next) :
      Heading site w next
  | refused (f : Failure) : Heading site w (.ended (.error f))

/-- The file is the first one that the worker makes directories for. -/
def First (site : Site) (w : Worker) (target : Path) : Prop :=
  ∃ w' next, Heading site w w' ∧ w'.move site = .onFiles (.makeRoom target) next

theorem Heading.waiting (hw : w.Waiting) (h : Heading site w w') : w'.Waiting := by
  cases h with
  | start => exact hw
  | alone _ hmove => exact waiting_of_alone hmove
  | refused f => trivial

theorem Heading.inside {dir : Path} (hin : w.Inside site dir) (h : Heading site w w') :
    w'.Inside site dir := by
  induction h with
  | start => exact hin
  | alone _ hmove ih =>
    rcases ih.move with ⟨next, hmove', hnext⟩ | ⟨action, next, hmove', -⟩
    · cases hmove.symm.trans hmove'
      exact hnext
    · cases hmove.symm.trans hmove'
  | refused f => trivial

theorem First.below {dir : Path} (hin : w.Inside site dir) (h : w.First site target) :
    dir.Below target := by
  obtain ⟨w', next, hheading, hmove⟩ := h
  rcases (hheading.inside hin).move with ⟨next, hmove', -⟩ | ⟨action, next, hmove', hbelow, -⟩
  · cases hmove.symm.trans hmove'
  · cases hmove.symm.trans hmove'
    exact hbelow

/-- What a worker does next that has done nothing to the files. -/
theorem Heading.move (hw : w.Waiting) (h : Heading site w w') :
    (∃ next, w'.move site = .alone next ∧ Heading site w next) ∨
      ∃ target next, w'.move site = .onFiles (.makeRoom target) next ∧ w.First site target := by
  cases hmove : w'.move site with
  | alone next => exact .inl ⟨next, rfl, h.alone hmove⟩
  | onFiles action next =>
    obtain ⟨target, rfl⟩ := (h.waiting hw).makeRoom hmove
    exact .inr ⟨target, next, rfl, w', next, h, hmove⟩

/-- A worker that is refused at first does nothing to the files at all. -/
theorem Heading.turn (hw : w.Waiting) (h : Heading site w w')
    (hrefused : ∀ target, w.First site target → ∃ c, t.makeDirectories target.parent = .error c) :
    (w'.turn site t).2 = t ∧ Heading site w (w'.turn site t).1 := by
  rcases h.move hw with ⟨next, hmove, hnext⟩ | ⟨target, next, hmove, hfirst⟩
  · simp only [Worker.turn, hmove]
    exact ⟨trivial, hnext⟩
  · obtain ⟨c, hc⟩ := hrefused target hfirst
    simp only [Worker.turn, hmove, FileAction.apply, hc]
    exact ⟨trivial, .refused _⟩

end Worker

namespace Crew

variable {site : Site} {crew : Crew}

end Crew

/-! ### Where the directory of the sources can be made -/

theorem FileAction.keeps {action : FileAction} {t t' : FileTree} (h : action.apply t = .ok t') :
    KeepsDirectories t t' := by
  cases action with
  | makeRoom target => exact (makeDirectories_grows h).keeps
  | save target text =>
    obtain ⟨l, -, hne, hlookup⟩ := write_inv h
    intro x hx
    have hxl : x ≠ l := by
      rintro rfl
      exact hne hx
    rw [hlookup, Function.update_of_ne hxl, hx]

theorem Worker.isDirectory_turn {site : Site} {t : FileTree} {p : Path} (w : Worker)
    (h : t.isDirectory p = true) : (w.turn site t).2.isDirectory p = true := by
  rw [turn]
  split
  · exact h
  · split
    · rename_i happly
      exact (FileAction.keeps happly).isDirectory h
    · exact h

/-- The first crew has come as far as the second, which found the directory of the sources made. -/
structure Crew.Shadows (site : Site) (start : Crew) (n : FileTree) (crew crew' : Crew) : Prop where
  /-- The workers are equally far. -/
  workers : ∀ v, crew.workers v = crew'.workers v
  /-- The files are the same, unless nothing was done to them. -/
  files : crew.files = crew'.files ∧ crew.files.isDirectory site.generateDir = true ∨
    crew.files = start.files ∧ crew'.files = n ∧
      ∀ v, (start.workers v).Heading site (crew.workers v)

namespace Crew

variable {site : Site} {start crew crew' : Crew} {n : FileTree}

/-- The first directories are made in the same way where the directory of the sources was made
before. -/
def Ready (site : Site) (start : Crew) (n : FileTree) : Prop :=
  ∀ v target, (start.workers v).First site target →
    start.files.makeDirectories target.parent = n.makeDirectories target.parent

/-- What a turn in both crews leads to, given what it leads to for the worker. -/
theorem Shadows.next (h : Shadows site start n crew crew') {v : Variant} {w : Worker}
    {files files' : FileTree} (hw : (crew.workers v).turn site crew.files = (w, files))
    (hw' : (crew'.workers v).turn site crew'.files = (w, files'))
    (hfiles : files = files' ∧ files.isDirectory site.generateDir = true ∨
      files = start.files ∧ files' = n ∧ (start.workers v).Heading site w ∧
        ∀ v, (start.workers v).Heading site (crew.workers v)) :
    Shadows site start n (crew.turn site v) (crew'.turn site v) := by
  simp only [Crew.turn, hw, hw']
  refine ⟨fun x => ?_, ?_⟩
  · by_cases hx : x = v
    · obtain rfl := hx
      simp
    · simpa [Function.update_of_ne hx] using h.workers x
  · rcases hfiles with hsame | ⟨ht, hn, hhead, hheading⟩
    · exact .inl hsame
    · refine .inr ⟨ht, hn, fun x => ?_⟩
      by_cases hx : x = v
      · obtain rfl := hx
        simpa using hhead
      · simpa [Function.update_of_ne hx] using hheading x

/-- A turn in both crews. -/
theorem Shadows.turn (hwaiting : ∀ v, (start.workers v).Waiting)
    (hn : n.isDirectory site.generateDir = true) (hready : Ready site start n)
    (h : Shadows site start n crew crew') (v : Variant) :
    Shadows site start n (crew.turn site v) (crew'.turn site v) := by
  have heq := h.workers v
  rcases h.files with ⟨hsame, hdir⟩ | ⟨ht, hn', hheading⟩
  · have hturn : (crew'.workers v).turn site crew'.files =
        (crew.workers v).turn site crew.files := by rw [heq, hsame]
    exact h.next rfl hturn (.inl ⟨rfl, Worker.isDirectory_turn _ hdir⟩)
  rcases (hheading v).move (hwaiting v) with ⟨next, hmove, hhead⟩ | ⟨target, next, hmove, hfirst⟩
  · have hturn : ∀ t, (crew.workers v).turn site t = (next, t) := fun t => by
      rw [Worker.turn, hmove]
    exact h.next (hturn _) (heq ▸ hturn _) (.inr ⟨ht, hn', hhead, hheading⟩)
  have hturn : ∀ t : FileTree, (crew.workers v).turn site t =
      match t.makeDirectories target.parent with
      | .ok t' => (next, t')
      | .error c => (.ended (.error (.bare c)), t) := by
    intro t
    simp only [Worker.turn, hmove, FileAction.apply]
  have hleft := hturn crew.files
  have hright := hturn crew'.files
  rw [heq] at hright
  have hboth := hready v target hfirst
  rw [← ht, ← hn'] at hboth
  rw [hboth] at hleft
  cases hd : crew'.files.makeDirectories target.parent with
  | error c =>
    rw [hd] at hleft hright
    exact h.next hleft hright (.inr ⟨ht, hn', .refused _, hheading⟩)
  | ok files =>
    rw [hd] at hleft hright
    have hkeeps := (makeDirectories_grows hd).keeps
    exact h.next hleft hright (.inl ⟨rfl, hkeeps.isDirectory (hn' ▸ hn)⟩)

theorem Shadows.run (hwaiting : ∀ v, (start.workers v).Waiting)
    (hn : n.isDirectory site.generateDir = true) (hready : Ready site start n)
    (h : Shadows site start n crew crew') (schedule : List Variant) :
    Shadows site start n (crew.run site schedule) (crew'.run site schedule) := by
  induction schedule using List.reverseRecOn with
  | nil => exact h
  | append_singleton schedule v ih =>
    rw [run_concat, run_concat]
    exact ih.turn hwaiting hn hready v

theorem Shadows.fileAt (hn : start.files.makeDirectories site.generateDir = .ok n)
    (h : Shadows site start n crew crew') : crew.files.fileAt = crew'.files.fileAt := by
  rcases h.files with ⟨hsame, -⟩ | ⟨ht, hn', -⟩
  · rw [hsame]
  · rw [ht, hn', (makeDirectories_inv hn).2]

end Crew

/-! ### The order of turns does not matter -/

namespace Crew

variable {site : Site} {crew : Crew} {schedule schedule' : List Variant}

end Crew

/-! ### Schedules that come to an end -/

/-- How many turns a source at work needs at most. -/
def Progress.left : Progress → Nat
  | .idle => 0
  | .rendered _ _ _ => 2
  | .placed _ _ _ => 1

/-- How many turns the worker needs at most to come to its end. -/
def Worker.left : Worker → Nat
  | .going _ progress script => 3 * script.steps.length + progress.left + 1
  | .ended _ => 0

namespace Worker

variable (site : Site) {w : Worker}

end Worker

namespace Crew

variable (site : Site) (crew : Crew)

end Crew

end SoapStubs
