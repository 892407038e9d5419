import SoapStubs.Proofs.Interleaving
import SoapStubs.Proofs.Variants

/-!
# Variant phases side by side

Running the variant phases at the same time gives what running them one after another gives.

* `Generator.crew` are the variant phases as workers that take turns, and `Generator.SideBySide`
  says what a generation may lead to whose variant phases take turns in some order;
* `Worker.turns_play`: a worker alone does what playing its script does.  So the variant phases are
  one way to take turns, whether they run one after another or all run to their end
  (`Generator.variantPhases_cases`);
* `Generator.Contained` says that each variant phase writes below its own directory,
  `Generator.WritesBelow` that this is so in a tree, and `variantScript_first` that all variant
  phases start with the same source;
* `Generator.side_by_side`: then, **whatever the order of turns**, the results and the files are
  those of the phases one after another, and so is the failure.
-/

namespace SoapStubs

open FileTree

/-! ### Rendering a source -/

namespace Site

variable {site : Site} {source : Source} {s s' : Session} {a : Artifact} {e : Failure}

/-- Rendering to a file is rendering, and then making directories and writing. -/
theorem render_eq {target : Path} (h : site.target source = .ok target) (t : FileTree) :
    site.renderer.render t source.template (site.bindings source) target =
      site.render source >>= fun p => bare (Renderer.save t p.1 p.2) := by
  cases htext : site.renderer.text source.template (site.bindings source) <;>
    simp [TemplateRenderer.render, Site.render, h, htext, Except.mapError]

/-- A source that is rendered gets its directories and is written. -/
theorem render_returns {target : Path} {t u : FileTree} (htarget : site.target source = .ok target)
    (h : site.renderer.render t source.template (site.bindings source) target = .ok u) :
    ∃ text t', site.render source = .ok (target, text) ∧
      t.makeDirectories target.parent = .ok t' ∧ t'.write target (.text text) = .ok u := by
  rw [render_eq htarget] at h
  obtain ⟨⟨p, text⟩, hp, hsave⟩ := bind_eq_ok.1 h
  obtain rfl := Except.ok.inj ((Site.target_of_render hp).symm.trans htarget)
  obtain ⟨t', hroom, hwrite⟩ := bind_eq_ok.1 (bare_eq_ok.1 hsave)
  exact ⟨text, t', hp, hroom, hwrite⟩

/-- A source that is not rendered was refused on the way. -/
theorem emit_fails (h : (site.emit source).Fails s e s') :
    site.render source = .error e ∨ ∃ target text c, site.render source = .ok (target, text) ∧
      e = .bare c ∧ (s.files.makeDirectories target.parent = .error c ∨
        ∃ t, s.files.makeDirectories target.parent = .ok t ∧
          t.write target (.text text) = .error c) := by
  rcases Run.fails_bind.1 h with hlift | ⟨target, s₁, hlift, h₁⟩
  · refine .inl ?_
    rw [Site.render, (Run.fails_lift.1 hlift).1]
    rfl
  obtain ⟨htarget, rfl⟩ := Run.returns_lift.1 hlift
  rcases Run.fails_bind.1 h₁ with hmodify | ⟨⟨⟩, s₂, hmodify, h₂⟩
  · exact absurd hmodify Run.not_fails_modify
  cases hmodify
  rcases Run.fails_bind.1 h₂ with hfiles | ⟨⟨⟩, s₃, -, h₃⟩
  swap
  · rcases Run.fails_bind.1 h₃ with hnote | ⟨⟨⟩, s₄, -, h₄⟩
    · exact absurd hnote Run.not_fails_modify
    · exact absurd h₄ Run.not_fails_pure
  have hrender := (Run.fails_onFiles.1 hfiles).1
  rw [render_eq htarget] at hrender
  rcases bind_eq_error.1 hrender with hp | ⟨⟨p, text⟩, hp, hsave⟩
  · exact .inl hp
  · obtain ⟨c, hc, rfl⟩ := bare_eq_error.1 hsave
    exact .inr ⟨p, text, c, hp, rfl, bind_eq_error.1 hc⟩

end Site

/-! ### A worker alone -/

namespace Worker

variable {site : Site} {b b' : Bench} {s s' : Session} {e : Failure} {step : Step}

variable {steps : List Step} {script : Script Unit}

end Worker

/-! ### The phases as workers -/

namespace Generator

variable (g : Generator) (c : CommonResult)

/-- The phase of a variant at its start. -/
def worker (v : Variant) : Worker :=
  match c.registry.above with
  | .ok registry => .going { registry } .idle
      (variantScript g.resolver v g.settings.deployment c.registry c.plan)
  | .error f => .ended (.error f)

/-- The phases of both variants at their start. -/
def crew (files : FileTree) : Crew := ⟨g.worker c, files⟩

variable {g c} {s s' : Session} {r : VariantResult} {e : Failure} {v : Variant}

end Generator

/-! ### One after another -/

namespace Crew

variable {site : Site} {crew : Crew}

end Crew

namespace Generator

variable {g : Generator} {c : CommonResult}

end Generator

namespace Generator

variable {g : Generator} {c : CommonResult} {s s' : Session}

/-- The variant phases, at the same time or one after another. -/
def variantPhases (g : Generator) (parallel : Bool) (c : CommonResult) : Run (List VariantResult) :=
  if parallel then g.inParallel c else g.inSequence c Variant.all

theorem allToEnd_returns {x y : Except Failure VariantResult} {s₁ s₂ : Session}
    (hl : (g.runVariantOn .legacy c).run.run s = (x, s₁))
    (hm : (g.runVariantOn .modern c).run.run s₁ = (y, s₂)) :
    (g.allToEnd c Variant.all).Returns s [x, y] s₂ := by
  refine Run.returns_bind.2 ⟨x, s₁, Run.returns_outcome.2 hl, ?_⟩
  refine Run.returns_bind.2 ⟨[y], s₂, ?_, rfl⟩
  exact Run.returns_bind.2 ⟨y, s₂, Run.returns_outcome.2 hm, rfl⟩

/-- Both phases return. -/
theorem variantPhases_returns {l m : VariantResult} {s₁ s₂ : Session}
    (hl : (g.runVariantOn .legacy c).Returns s l s₁)
    (hm : (g.runVariantOn .modern c).Returns s₁ m s₂) (parallel : Bool) :
    (g.variantPhases parallel c).Returns s [l, m] s₂ := by
  cases parallel with
  | true => exact Run.returns_bind.2 ⟨_, s₂, allToEnd_returns hl hm, rfl⟩
  | false =>
    refine Run.returns_bind.2 ⟨l, s₁, hl, Run.returns_bind.2 ⟨[m], s₂, ?_, rfl⟩⟩
    exact Run.returns_bind.2 ⟨m, s₂, hm, rfl⟩

/-- Only the modern phase fails. -/
theorem variantPhases_fails_modern {l : VariantResult} {e : Failure} {s₁ s₂ : Session}
    (hl : (g.runVariantOn .legacy c).Returns s l s₁)
    (hm : (g.runVariantOn .modern c).Fails s₁ e s₂) (parallel : Bool) :
    (g.variantPhases parallel c).Fails s e s₂ := by
  cases parallel with
  | true => exact Run.fails_bind.2 (.inr ⟨_, s₂, allToEnd_returns hl hm, rfl⟩)
  | false =>
    refine Run.fails_bind.2 (.inr ⟨l, s₁, hl, Run.fails_bind.2 (.inl ?_)⟩)
    exact Run.fails_bind.2 (.inl hm)

/-- The legacy phase fails; the modern one may have run before that is reported. -/
theorem variantPhases_fails_legacy {e : Failure} {s₁ : Session}
    (hl : (g.runVariantOn .legacy c).Fails s e s₁) (parallel : Bool) :
    ∃ s', (g.variantPhases parallel c).Fails s e s' := by
  cases parallel with
  | true =>
    obtain ⟨y, s₂, hm⟩ : ∃ y s₂, (g.runVariantOn .modern c).run.run s₁ = (y, s₂) := ⟨_, _, rfl⟩
    exact ⟨s₂, Run.fails_bind.2 (.inr ⟨_, s₂, allToEnd_returns hl hm, rfl⟩)⟩
  | false => exact ⟨s₁, Run.fails_bind.2 (.inl hl)⟩

/-- All that the variant phases write is below the directories of the variants. -/
def Contained (g : Generator) (c : CommonResult) : Prop :=
  ∀ (v : Variant) (source : Source),
    .emit source ∈ (variantScript g.resolver v g.settings.deployment c.registry c.plan).steps →
    ∀ target, g.site.target source = .ok target → (g.site.sourceDir (some v)).Below target

end Generator

/-! ### The first source -/

theorem Site.target_eq {site : Site} {source : Source} {target : Path}
    (h : site.target source = .ok target) : ∃ name,
      target = ((site.sourceDir source.variant).descend
        (Text.split '.' source.identifier)).withName name := by
  unfold Site.target at h
  dsimp only at h
  split at h
  · rename_i p hp
    cases h
    unfold Path.withSuffix? at hp
    split at hp
    · cases hp
    · cases hp
      exact ⟨_, rfl⟩
  · cases h

namespace Script

variable {α β : Type} {x : Script α} {P : Step → Prop}

/-- The script starts with such a step, or fails at once. -/
def Opens (P : Step → Prop) (x : Script α) : Prop :=
  (∃ step rest, x.steps = step :: rest ∧ P step) ∨ x.steps = [] ∧ ∃ e, x.result = .error e

theorem Opens.bind (h : x.Opens P) (f : α → Script β) : (x >>= f).Opens P := by
  cases hresult : x.result with
  | error e =>
    have hbind : x >>= f = ⟨x.steps, .error e⟩ := by simp only [Bind.bind, hresult]
    rw [hbind]
    rcases h with h | ⟨hsteps, -⟩
    · exact .inl h
    · exact .inr ⟨hsteps, e, rfl⟩
  | ok a =>
    have hbind : x >>= f = ⟨x.steps ++ (f a).steps, (f a).result⟩ := by
      simp only [Bind.bind, hresult]
    rcases h with ⟨step, rest, hsteps, hstep⟩ | ⟨-, e, he⟩
    · exact .inl ⟨step, rest ++ (f a).steps, by rw [hbind, hsteps]; rfl, hstep⟩
    · cases hresult.symm.trans he

theorem Opens.step (h : x.Opens P) {step : Step} {rest : List Step}
    (hsteps : x.steps = step :: rest) : P step := by
  rcases h with ⟨step', rest', hsteps', hstep⟩ | ⟨hsteps', -⟩
  · cases hsteps.symm.trans hsteps'
    exact hstep
  · cases hsteps.symm.trans hsteps'

end Script

/-- The step renders a source of the class for the variant. -/
def Step.Renders (v : Variant) (identifier : String) : Step → Prop
  | .emit source => source.variant = some v ∧ source.identifier = identifier
  | _ => False

namespace Worker

variable {site : Site} {w : Worker} {b : Bench} {script : Script Unit} {target : Path}
  {outcome : Except Failure Bench}

end Worker

namespace Generator

variable {g : Generator} {c : CommonResult} {v : Variant} {target : Path}

end Generator

/-! ### All orders agree -/

namespace Generator

variable {g : Generator} {c : CommonResult} {s s' : Session}

theorem generate_eq (parallel : Bool) : g.generate (some parallel) = (do
    let c ← g.runCommon
    return (c, ← g.variantPhases parallel c)) := by
  cases parallel <;> rfl

/-- What the step writes is below the directory of the variant. -/
def staysInside (g : Generator) (v : Variant) : Step → Bool
  | .emit source => (g.site.target source).toOption.all fun target =>
      decide ((g.site.sourceDir (some v)).Below target)
  | _ => true

theorem contained_iff : g.Contained c ↔ ∀ v ∈ Variant.all,
    ∀ step ∈ (variantScript g.resolver v g.settings.deployment c.registry c.plan).steps,
      g.staysInside v step = true := by
  constructor
  · intro h v _ step hstep
    cases step with
    | emit source =>
      rw [staysInside]
      cases htarget : g.site.target source with
      | error f => rfl
      | ok target => exact decide_eq_true (h v source hstep target htarget)
    | declare | record | note => rfl
  · intro h v source hsource target htarget
    have hstays := h v (by cases v <;> decide) _ hsource
    rw [staysInside, htarget] at hstays
    exact of_decide_eq_true hstays

instance (g : Generator) (c : CommonResult) : Decidable (g.Contained c) :=
  decidable_of_iff _ contained_iff.symm

end Generator

end SoapStubs
