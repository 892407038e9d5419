import Mathlib.Data.List.Forall2
import SoapStubs.Generation.Generator
import SoapStubs.Proofs.RegistryWrites

/-!
# Runs and scripts

What it means that a computation over a session returns, and what taking the steps of a script does
to the binding metadata: the descriptors of its recording steps are written one after another.

* `Run.Returns` says that a computation returns; `Run.returns_bind` takes it apart;
* `Script.Yields` says what the steps of a script amount to under a view of single steps, and
  `Script.Ends` says so of the descriptors that it records;
* `Site.Takes` says what a single step does, and `Site.takes_of_perform` that it does nothing else;
* `Site.play_inv`: playing a script writes its descriptors into the registry;
* `Generator.runCommon_inv`: what is known if the common phase returns.
-/

namespace SoapStubs

/-! ### Computations that return -/

namespace Run

variable {α β : Type} {x : Run α} {f : α → Run β} {s s' : Session} {a : α} {b : β}

/-- The computation returns a result and leaves a session. -/
def Returns (x : Run α) (s : Session) (a : α) (s' : Session) : Prop :=
  x.run.run s = (.ok a, s')

theorem returns_pure {c : α} : (pure a : Run α).Returns s c s' ↔ a = c ∧ s = s' := by
  show (Except.ok a, s) = (Except.ok c, s') ↔ _
  simp

/-- A computation that passes a check returns. -/
theorem returns_of_check {check : α → Bool} (h : (x.run.run s).1.toOption.any check = true) :
    ∃ a s', x.Returns s a s' ∧ check a = true := by
  simp only [Returns]
  generalize x.run.run s = outcome at h ⊢
  obtain ⟨r, s'⟩ := outcome
  cases r with
  | ok a => exact ⟨a, s', rfl, h⟩
  | error e => cases h

/-- A computation that returns after another has taken both parts. -/
theorem returns_bind :
    (x >>= f).Returns s b s' ↔ ∃ a s₁, x.Returns s a s₁ ∧ (f a).Returns s₁ b s' := by
  simp only [Returns, ExceptT.run_bind, StateT.run_bind]
  obtain ⟨r, s₁⟩ : Except Failure α × Session := x.run.run s
  cases r with
  | error e =>
    refine iff_of_false nofun ?_
    rintro ⟨a, s₂, h, -⟩
    cases h
  | ok a =>
    constructor
    · exact fun h => ⟨a, s₁, rfl, h⟩
    · rintro ⟨a, s₂, h, hf⟩
      cases h
      exact hf

theorem returns_lift {r : Except Failure α} : (lift r).Returns s a s' ↔ r = .ok a ∧ s = s' := by
  show (r, s) = (Except.ok a, s') ↔ _
  simp

theorem returns_logged {l : Logged α} (h : (logged l).Returns s a s') : l.result = .ok a := by
  obtain ⟨-, s₁, -, h⟩ := returns_bind.1 h
  exact (returns_lift.1 h).1

theorem returns_tagging {facts : List (String × Value)} :
    (tagging facts x).Returns s a s' ↔ x.Returns s a s' := by
  show (x.run.run s >>= fun p => (p.1.mapError (Failure.tag facts), p.2) :
    Id (Except Failure α × Session)) = (.ok a, s') ↔ x.run.run s = (.ok a, s')
  obtain ⟨r, s₁⟩ : Except Failure α × Session := x.run.run s
  cases r with
  | error e => exact iff_of_false nofun nofun
  | ok b => rfl

theorem returns_outcome {r : Except Failure α} :
    (outcome x).Returns s r s' ↔ x.run.run s = (r, s') := by
  show (x.run.run s >>= fun p => (.ok p.1, p.2) :
    Id (Except Failure (Except Failure α) × Session)) = (.ok r, s') ↔ _
  obtain ⟨r₁, s₁⟩ : Except Failure α × Session := x.run.run s
  show (Except.ok r₁, s₁) = (Except.ok r, s') ↔ (r₁, s₁) = (r, s')
  simp

theorem returns_onFiles {f : FileTree → Except Failure FileTree} :
    (onFiles f).Returns s () s' ↔ ∃ t, f s.files = .ok t ∧ s' = { s with files := t } := by
  constructor
  · intro h
    obtain ⟨s₁, s₂, hget, h₁⟩ := returns_bind.1 h
    cases hget
    obtain ⟨t, s₃, hlift, hset⟩ := returns_bind.1 h₁
    obtain ⟨hf, rfl⟩ := returns_lift.1 hlift
    cases hset
    exact ⟨t, hf, rfl⟩
  · rintro ⟨t, hf, rfl⟩
    exact returns_bind.2 ⟨s, s, rfl, returns_bind.2 ⟨t, s, returns_lift.2 ⟨hf, rfl⟩, rfl⟩⟩

/-- Inside a phase that returns, the computation returns. -/
theorem returns_inPhase {phase : String} {facts : List (String × Value)}
    (h : (inPhase phase facts x).Returns s a s') : ∃ s₁ s₂, x.Returns s₁ a s₂ := by
  obtain ⟨outside, s₁, -, h⟩ := returns_bind.1 h
  obtain ⟨inside, s₂, -, h⟩ := returns_bind.1 h
  obtain ⟨-, s₃, -, h⟩ := returns_bind.1 h
  obtain ⟨-, s₄, -, h⟩ := returns_bind.1 h
  obtain ⟨r, s₅, hx, h⟩ := returns_bind.1 h
  refine ⟨s₄, s₅, ?_⟩
  rw [returns_outcome] at hx
  rw [Returns, hx]
  cases r with
  | ok b =>
    obtain ⟨-, s₆, -, h⟩ := returns_bind.1 h
    obtain ⟨-, s₇, -, h⟩ := returns_bind.1 h
    rw [(returns_pure.1 h).1]
  | error e =>
    obtain ⟨-, s₆, -, h⟩ := returns_bind.1 h
    obtain ⟨-, s₇, -, h⟩ := returns_bind.1 h
    cases (returns_lift.1 h).1

end Run

/-- Entries are logged one after another, in one context. -/
theorem Session.foldl_log (s : Session) (events : List Event) : events.foldl Session.log s =
    { s with events := s.events ++ events.map s.context.tag } := by
  induction events generalizing s with
  | nil => simp
  | cons e events ih => simp [ih, Session.log]

/-! ### Scripts -/

/-- The descriptor a step records. -/
def Step.write? : Step → Option Registry.Write
  | .record key d => some (key, d)
  | _ => none

namespace Script

variable {α β γ : Type} {p : Step → Option γ} {x : Script α} {f : α → Script β} {a : α} {b : β}
  {out : List γ}

/-- The descriptors a script records. -/
def writes (x : Script α) : List Registry.Write := x.steps.filterMap Step.write?

theorem bind_of_error {e : Failure} (h : x.result = .error e) :
    (x >>= f) = ⟨x.steps, .error e⟩ := by
  simp only [bind, h]

theorem bind_of_ok (h : x.result = .ok a) :
    (x >>= f) = ⟨x.steps ++ (f a).steps, (f a).result⟩ := by
  simp only [bind, h]

/-- The script ends with a result, and its steps amount to a list under a view of single steps. -/
structure Yields (p : Step → Option γ) (x : Script α) (out : List γ) (a : α) : Prop where
  result : x.result = .ok a
  /-- Its steps amount to the list. -/
  steps : x.steps.filterMap p = out

theorem yields_steps (p : Step → Option γ) (h : x.result = .ok a) :
    x.Yields p (x.steps.filterMap p) a := ⟨h, rfl⟩

theorem yields_pure {c : α} : (pure a : Script α).Yields p out c ↔ out = [] ∧ a = c := by
  constructor
  · rintro ⟨h, rfl⟩
    exact ⟨rfl, Except.ok.inj h⟩
  · rintro ⟨rfl, rfl⟩
    exact ⟨rfl, rfl⟩

theorem filterMap_take (p : Step → Option γ) (step : Step) :
    (take step).steps.filterMap p = (p step).toList := by
  cases hp : p step <;> simp [take, hp]

theorem yields_take {step : Step} {u : Unit} :
    (take step).Yields p out u ↔ out = (p step).toList := by
  constructor
  · rintro ⟨-, rfl⟩
    exact filterMap_take p step
  · rintro rfl
    exact ⟨rfl, filterMap_take p step⟩

/-- Entries of the log amount to nothing, if the view does not see them. -/
theorem yields_logged {l : Logged α} (hp : ∀ event, p (.note event) = none) :
    (logged l).Yields p out a ↔ out = [] ∧ l.result = .ok a := by
  have hsteps : (logged l).steps.filterMap p = [] := by
    simp [logged, List.filterMap_map, hp]
  constructor
  · rintro ⟨h, rfl⟩
    exact ⟨hsteps, h⟩
  · rintro ⟨rfl, h⟩
    exact ⟨h, hsteps⟩

/-- A script after another amounts to what both amount to. -/
theorem yields_bind : (x >>= f).Yields p out b ↔
    ∃ a front back, x.Yields p front a ∧ (f a).Yields p back b ∧ out = front ++ back := by
  constructor
  · rintro ⟨h, rfl⟩
    cases hx : x.result with
    | error e =>
      rw [bind_of_error hx] at h
      cases h
    | ok a =>
      rw [bind_of_ok hx] at h ⊢
      exact ⟨a, _, _, yields_steps p hx, yields_steps p h, List.filterMap_append⟩
  · rintro ⟨a, front, back, ⟨hx, rfl⟩, ⟨hf, rfl⟩, rfl⟩
    rw [bind_of_ok hx]
    exact ⟨hf, List.filterMap_append⟩

theorem yields_lift_bind {r : Except Failure α} :
    (lift r >>= f).Yields p out b ↔ ∃ a, r = .ok a ∧ (f a).Yields p out b := by
  rw [yields_bind]
  constructor
  · rintro ⟨a, front, back, ⟨hr, rfl⟩, hf, rfl⟩
    exact ⟨a, hr, hf⟩
  · rintro ⟨a, hr, hf⟩
    exact ⟨a, [], out, ⟨hr, rfl⟩, hf, rfl⟩

theorem yields_take_bind {step : Step} {g : Unit → Script β} :
    (take step >>= g).Yields p out b ↔
      ∃ back, (g ()).Yields p back b ∧ out = (p step).toList ++ back := by
  simp only [yields_bind, yields_take]
  constructor
  · rintro ⟨⟨⟩, front, back, rfl, hg, rfl⟩
    exact ⟨back, hg, rfl⟩
  · rintro ⟨back, hg, rfl⟩
    exact ⟨(), _, back, rfl, hg, rfl⟩

/-- If the script of each item amounts to what a rule says, then so do all, one after another. -/
theorem yields_each {g : α → Script β} {l : List α} {bs : List β} (rule : α → List γ)
    (P : α → β → Prop) (h : (each g l).Yields p out bs)
    (hg : ∀ a ∈ l, ∀ out b, (g a).Yields p out b → out = rule a ∧ P a b) :
    out = l.flatMap rule ∧ List.Forall₂ P l bs := by
  induction l generalizing out bs with
  | nil =>
    obtain ⟨rfl, rfl⟩ := yields_pure.1 h
    exact ⟨rfl, .nil⟩
  | cons a l ih =>
    obtain ⟨b, front, back, ha, hrest, rfl⟩ := yields_bind.1 h
    obtain ⟨bs', front', back', hl, hpure, rfl⟩ := yields_bind.1 hrest
    obtain ⟨rfl, rfl⟩ := yields_pure.1 hpure
    obtain ⟨rfl, hb⟩ := hg a List.mem_cons_self _ _ ha
    obtain ⟨rfl, hbs⟩ := ih hl fun a ha => hg a (List.mem_cons_of_mem _ ha)
    exact ⟨by simp, .cons hb hbs⟩

/-- What holds of all that the scripts of the items amount to holds of all that they amount to one
after another. -/
theorem yields_each_forall {g : α → Script β} {l : List α} {bs : List β} {rule : α → List γ}
    {P : γ → Prop} (h : (each g l).Yields p out bs)
    (hg : ∀ a ∈ l, ∀ out b, (g a).Yields p out b → out = rule a ∧ ∀ c ∈ out, P c) :
    out = l.flatMap rule ∧ ∀ c ∈ out, P c := by
  obtain ⟨rfl, hall⟩ := yields_each rule (fun a _ => (∀ c ∈ rule a, P c) ∧ True) h
    fun a ha out b h => by
      obtain ⟨rfl, hP⟩ := hg a ha out b h
      exact ⟨rfl, hP, trivial⟩
  refine ⟨rfl, fun c hc => ?_⟩
  obtain ⟨a, ha, hc⟩ := List.mem_flatMap.1 hc
  exact ((List.forall₂_and_left _ _).1 hall).1 a ha c hc

/-! ### The descriptors of a script -/

/-- The script ends with a result after it recorded some descriptors. -/
structure Ends (x : Script α) (ws : List Registry.Write) (a : α) : Prop where
  result : x.result = .ok a
  /-- It recorded the descriptors. -/
  writes : x.writes = ws

theorem ends_writes (h : x.result = .ok a) : x.Ends x.writes a := ⟨h, rfl⟩

variable {ws : List Registry.Write}

theorem ends_iff_yields : x.Ends ws a ↔ x.Yields Step.write? ws a :=
  ⟨fun h => ⟨h.result, h.writes⟩, fun h => ⟨h.result, h.steps⟩⟩

theorem ends_pure {c : α} : (pure a : Script α).Ends ws c ↔ ws = [] ∧ a = c :=
  ends_iff_yields.trans yields_pure

theorem ends_take {step : Step} {u : Unit} :
    (take step).Ends ws u ↔ ws = step.write?.toList := ends_iff_yields.trans yields_take

theorem ends_logged {l : Logged α} : (logged l).Ends ws a ↔ ws = [] ∧ l.result = .ok a :=
  ends_iff_yields.trans (yields_logged fun _ => rfl)

/-- A script that ends after another has recorded what both record. -/
theorem ends_bind : (x >>= f).Ends ws b ↔
    ∃ a front back, x.Ends front a ∧ (f a).Ends back b ∧ ws = front ++ back := by
  simp only [ends_iff_yields]
  exact yields_bind

theorem ends_lift_bind {r : Except Failure α} :
    (lift r >>= f).Ends ws b ↔ ∃ a, r = .ok a ∧ (f a).Ends ws b := by
  simp only [ends_iff_yields]
  exact yields_lift_bind

theorem ends_take_bind {step : Step} {g : Unit → Script β} :
    (take step >>= g).Ends ws b ↔ ∃ back, (g ()).Ends back b ∧ ws = step.write?.toList ++ back := by
  simp only [ends_iff_yields]
  exact yields_take_bind

theorem ends_record_bind {key : String} {d : Descriptor} {g : Unit → Script β} :
    (record key d >>= g).Ends ws b ↔ ∃ back, (g ()).Ends back b ∧ ws = (key, d) :: back :=
  ends_take_bind

theorem ends_declare_bind {identifier origin : String} {g : Unit → Script β} :
    (declare identifier origin >>= g).Ends ws b ↔ (g ()).Ends ws b := by
  rw [declare, ends_take_bind]
  exact exists_eq_right'

theorem ends_emit_bind {source : Source} {g : Unit → Script β} :
    (emit source >>= g).Ends ws b ↔ (g ()).Ends ws b := by
  rw [emit, ends_take_bind]
  exact exists_eq_right'

/-- If the script of each item records what a rule says, then so do all, one after another. -/
theorem ends_each {g : α → Script β} {l : List α} {bs : List β}
    (rule : α → List Registry.Write) (P : α → β → Prop) (h : (each g l).Ends ws bs)
    (hg : ∀ a ∈ l, ∀ ws b, (g a).Ends ws b → ws = rule a ∧ P a b) :
    ws = l.flatMap rule ∧ List.Forall₂ P l bs :=
  yields_each rule P (ends_iff_yields.1 h) fun a ha ws b hyields =>
    hg a ha ws b (ends_iff_yields.2 hyields)

end Script

/-! ### Taking steps -/

namespace Site

variable {site : Site} {b b' : Bench} {s s' : Session} {steps : List Step}

/-- What a step that is taken does to the bench and to the session. -/
inductive Takes (site : Site) (b : Bench) (s : Session) : Step → Bench → Session → Prop where
  /-- A declaration goes to the manifest. -/
  | declare {identifier origin : String} {manifest : Manifest} {fresh : Bool}
      (h : b.manifest.add identifier (some origin) = .ok (manifest, fresh)) :
      Takes site b s (.declare identifier origin) { b with manifest } s
  /-- A descriptor goes to the registry, and a conflict to the log. -/
  | record {key : String} {d : Descriptor} {registry : Registry} {conflict : Option Conflict}
      (events : List Event) (h : b.registry.record (.text key) d = .ok (registry, conflict)) :
      Takes site b s (.record key d) { b with registry } { s with events }
  /-- A source is rendered to its target. -/
  | emit {source : Source} {target : Path} {files : FileTree} (events : List Event)
      (htarget : site.target source = .ok target)
      (h : site.renderer.render s.files source.template (site.bindings source) target = .ok files) :
      Takes site b s (.emit source)
        { b with artifacts := b.artifacts ++
            [⟨source.category, source.template, source.identifier, target, source.variant⟩] }
        { s with files, events, renderings := s.renderings ++
            [⟨source.template, target, site.bindings source⟩] }
  /-- An entry goes to the log. -/
  | note (e : Event) : Takes site b s (.note e) b (s.log e)

theorem takes_of_perform {step : Step} (h : (site.perform b step).Returns s b' s') :
    site.Takes b s step b' s' := by
  cases step with
  | declare identifier origin =>
    obtain ⟨⟨manifest, fresh⟩, s₁, hlift, h⟩ := Run.returns_bind.1 h
    obtain ⟨hadd, rfl⟩ := Run.returns_lift.1 hlift
    obtain ⟨rfl, rfl⟩ := Run.returns_pure.1 h
    exact .declare hadd
  | record key d =>
    obtain ⟨registry, s₁, hlogged, h⟩ := Run.returns_bind.1 h
    obtain ⟨rfl, rfl⟩ := Run.returns_pure.1 h
    obtain ⟨conflict, hrecord⟩ := Registry.recordLogged_inv (Run.returns_logged hlogged)
    obtain ⟨⟨⟩, s₂, hmodify, hlift⟩ := Run.returns_bind.1 hlogged
    obtain ⟨-, rfl⟩ := Run.returns_lift.1 hlift
    cases hmodify
    dsimp only
    rw [Session.foldl_log]
    exact .record _ hrecord
  | emit source =>
    obtain ⟨a, s₁, hemit, h⟩ := Run.returns_bind.1 h
    obtain ⟨rfl, rfl⟩ := Run.returns_pure.1 h
    obtain ⟨target, s₂, hlift, h⟩ := Run.returns_bind.1 hemit
    obtain ⟨htarget, rfl⟩ := Run.returns_lift.1 hlift
    obtain ⟨⟨⟩, s₃, hmodify, h⟩ := Run.returns_bind.1 h
    cases hmodify
    obtain ⟨⟨⟩, s₄, hfiles, h⟩ := Run.returns_bind.1 h
    obtain ⟨files, hrender, rfl⟩ := Run.returns_onFiles.1 hfiles
    obtain ⟨⟨⟩, s₅, hnote, h⟩ := Run.returns_bind.1 h
    cases hnote
    obtain ⟨rfl, rfl⟩ := Run.returns_pure.1 h
    exact .emit _ htarget hrender
  | note e =>
    obtain ⟨⟨⟩, s₁, hnote, h⟩ := Run.returns_bind.1 h
    obtain ⟨rfl, rfl⟩ := Run.returns_pure.1 h
    cases hnote
    exact .note e

/-- A step writes its descriptor, if it has one, and leaves the registry alone otherwise. -/
theorem perform_registry {step : Step} (h : (site.perform b step).Returns s b' s') :
    b.registry.writeAll step.write?.toList = .ok b'.registry := by
  cases takes_of_perform h with
  | record _ hrecord =>
    simp [Registry.writeAll, Step.write?, hrecord, Except.map]
  | declare | emit | note => rfl

/-- Steps write their descriptors one after another. -/
theorem performAll_registry (h : (site.performAll b steps).Returns s b' s') :
    b.registry.writeAll (steps.filterMap Step.write?) = .ok b'.registry := by
  induction steps generalizing b s with
  | nil =>
    rw [(Run.returns_pure.1 h).1]
    rfl
  | cons step steps ih =>
    obtain ⟨b₁, s₁, hstep, h⟩ := Run.returns_bind.1 h
    have hsplit : (step :: steps).filterMap Step.write? =
        step.write?.toList ++ steps.filterMap Step.write? := by
      cases hw : step.write? <;> simp [hw]
    rw [hsplit, Registry.writeAll_append, perform_registry hstep]
    exact ih h

/-- **Playing a script.**  If a script can be played, it has its result, and its descriptors were
written into the registry. -/
theorem play_inv {α : Type} {script : Script α} {a : α}
    (h : (site.play b script).Returns s (a, b') s') :
    script.result = .ok a ∧ b.registry.writeAll script.writes = .ok b'.registry := by
  obtain ⟨b₁, s₁, hsteps, h⟩ := Run.returns_bind.1 h
  obtain ⟨a₁, s₂, hresult, h⟩ := Run.returns_bind.1 h
  obtain ⟨hp, -⟩ := Run.returns_pure.1 h
  obtain ⟨rfl, rfl⟩ := Prod.mk.inj hp
  exact ⟨(Run.returns_lift.1 hresult).1, performAll_registry hsteps⟩

end Site

/-- If the common phase returns, then its script has its result, and the registry is closed after
the descriptors of the script were written. -/
theorem Generator.runCommon_inv {g : Generator} {s s' : Session} {c : CommonResult}
    (h : g.runCommon.Returns s c s') :
    ∃ r, Registry.empty.writeAll (commonScript g.resolver g.model).writes = .ok r ∧
      c.registry = r.freeze ∧ (commonScript g.resolver g.model).result = .ok c.plan := by
  obtain ⟨c₁, s₁, hphase, h⟩ := Run.returns_bind.1 h
  obtain ⟨-, s₂, -, h⟩ := Run.returns_bind.1 h
  obtain ⟨-, s₃, -, h⟩ := Run.returns_bind.1 h
  obtain rfl := (Run.returns_pure.1 h).1
  obtain ⟨s₄, s₅, hbody⟩ := Run.returns_inPhase hphase
  obtain ⟨⟨plan, bench⟩, s₆, hplay, h⟩ := Run.returns_bind.1 (Run.returns_tagging.1 hbody)
  obtain rfl := (Run.returns_pure.1 h).1
  obtain ⟨hresult, hwrites⟩ := Site.play_inv hplay
  exact ⟨bench.registry, hwrites, rfl, hresult⟩

end SoapStubs
