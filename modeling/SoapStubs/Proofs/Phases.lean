import SoapStubs.Proofs.Play

/-!
# Outcomes of phases

How a phase ends, whether it returns or fails.

* `Run.Fails` says that a computation fails; `Run.fails_bind` takes it apart;
* `Run.phase_returns` and `Run.phase_fails`: a phase ends as its body does, with more context on the
  error, and leaves the files of its body;
* `Run.Always` says what holds between the sessions before and after, however a computation ends;
* `Script.Within` says what the steps of a script amount to, also if it has no result;
* `Generator.runCommon_cases` and `Generator.runVariantOn_cases`: how the phases of generation end.
-/

namespace SoapStubs

/-! ### Computations that fail -/

namespace Run

variable {α β : Type} {x : Run α} {f : α → Run β} {s s' : Session} {a : α} {e : Failure}

/-- The computation fails and leaves a session. -/
def Fails (x : Run α) (s : Session) (e : Failure) (s' : Session) : Prop :=
  x.run.run s = (.error e, s')

theorem returns_or_fails (x : Run α) (s : Session) :
    (∃ a s', x.Returns s a s') ∨ ∃ e s', x.Fails s e s' := by
  simp only [Returns, Fails]
  obtain ⟨r, s'⟩ : Except Failure α × Session := x.run.run s
  cases r with
  | ok a => exact .inl ⟨a, s', rfl⟩
  | error e => exact .inr ⟨e, s', rfl⟩

/-- After a first part that returns, a computation goes on with its second. -/
theorem run_bind (h : x.Returns s a s') : (x >>= f).run.run s = (f a).run.run s' := by
  simp only [Returns, ExceptT.run_bind, StateT.run_bind] at h ⊢
  rw [h]
  rfl

/-- A computation whose outcome is a result returns it. -/
theorem returns_of_isOk (h : (x.run.run s).1.isOk = true) : ∃ a s', x.Returns s a s' := by
  rcases returns_or_fails x s with hr | ⟨e, s', hf⟩
  · exact hr
  · rw [show x.run.run s = (.error e, s') from hf] at h
    cases h

theorem Returns.not_fails (h : x.Returns s a s') {s'' : Session} : ¬x.Fails s e s'' := by
  intro hf
  rw [Fails, h] at hf
  cases hf

theorem Returns.unique (h : x.Returns s a s') {a' : α} {s'' : Session} (h' : x.Returns s a' s'') :
    a = a' ∧ s' = s'' := by
  have heq := h.symm.trans h'
  cases heq
  exact ⟨rfl, rfl⟩

theorem Fails.unique (h : x.Fails s e s') {e' : Failure} {s'' : Session} (h' : x.Fails s e' s'') :
    e = e' ∧ s' = s'' := by
  rw [Fails, h] at h'
  cases h'
  exact ⟨rfl, rfl⟩

theorem not_fails_pure : ¬(pure a : Run α).Fails s e s' := nofun

theorem fails_lift {r : Except Failure α} : (lift r).Fails s e s' ↔ r = .error e ∧ s = s' := by
  show (r, s) = (Except.error e, s') ↔ _
  simp

/-- A computation fails in its first part or, after that, in its second. -/
theorem fails_bind : (x >>= f).Fails s e s' ↔
    x.Fails s e s' ∨ ∃ a s₁, x.Returns s a s₁ ∧ (f a).Fails s₁ e s' := by
  simp only [Returns, Fails, ExceptT.run_bind, StateT.run_bind]
  obtain ⟨r, s₁⟩ : Except Failure α × Session := x.run.run s
  cases r with
  | error e₁ =>
    constructor
    · intro h
      cases h
      exact .inl rfl
    · rintro (h | ⟨a, s₂, h, -⟩)
      · cases h
        rfl
      · cases h
  | ok a =>
    constructor
    · intro h
      exact .inr ⟨a, s₁, rfl, h⟩
    · rintro (h | ⟨a, s₂, h, hf⟩)
      · cases h
      · cases h
        exact hf

theorem not_fails_modify {g : Session → Session} : ¬(modify g : Run Unit).Fails s e s' := nofun

theorem fails_logged {l : Logged α} (h : (logged l).Fails s e s') : l.result = .error e := by
  rcases fails_bind.1 h with h | ⟨-, s₁, -, h⟩
  · exact absurd h not_fails_modify
  · exact (fails_lift.1 h).1

theorem fails_onFiles {f : FileTree → Except Failure FileTree} :
    (onFiles f).Fails s e s' ↔ f s.files = .error e ∧ s = s' := by
  constructor
  · intro h
    rcases fails_bind.1 h with hget | ⟨s₁, s₂, hget, h₁⟩
    · cases hget
    cases hget
    rcases fails_bind.1 h₁ with hlift | ⟨t, s₃, -, hset⟩
    · exact fails_lift.1 hlift
    · cases hset
  · rintro ⟨hf, rfl⟩
    exact fails_bind.2 (.inr ⟨s, s, rfl, fails_bind.2 (.inl (fails_lift.2 ⟨hf, rfl⟩))⟩)

/-! ### Phases -/

/-- The session in which the body of a phase begins. -/
def begun (s : Session) (phase : String) (inside : LogContext) : Session :=
  { s with context := inside }.log (.phaseStart phase)

variable {phase : String} {facts : List (String × Value)} {inside : LogContext}

theorem fails_tagging {tags : List (String × Value)} (h : x.Fails s e s') :
    (tagging tags x).Fails s (e.tag tags) s' := by
  show (x.run.run s >>= fun p => (p.1.mapError (Failure.tag tags), p.2) :
    Id (Except Failure α × Session)) = _
  rw [show x.run.run s = (.error e, s') from h]
  rfl

theorem inPhase_returns (h : s.context.enter phase facts = .ok inside)
    (hx : x.Returns (begun s phase inside) a s') :
    (inPhase phase facts x).Returns s a { s'.log (.phaseEnd phase) with context := s.context } := by
  refine returns_bind.2 ⟨s, s, rfl, returns_bind.2 ⟨inside, s, ?_, ?_⟩⟩
  · rw [h]
    rfl
  · refine returns_bind.2 ⟨(), _, rfl, returns_bind.2 ⟨(), _, rfl, ?_⟩⟩
    exact returns_bind.2 ⟨_, _, returns_outcome.2 hx, rfl⟩

theorem inPhase_fails (h : s.context.enter phase facts = .ok inside)
    (hx : x.Fails (begun s phase inside) e s') :
    (inPhase phase facts x).Fails s e
      { s'.logAll (Event.phaseFailed phase e) with context := s.context } := by
  refine fails_bind.2 (.inr ⟨s, s, rfl, fails_bind.2 (.inr ⟨inside, s, ?_, ?_⟩)⟩)
  · rw [h]
    rfl
  · exact fails_bind.2 (.inr ⟨(), _, rfl, fails_bind.2 (.inr ⟨(), _, rfl,
      fails_bind.2 (.inr ⟨_, _, returns_outcome.2 hx, rfl⟩)⟩)⟩)

/-- A phase returns what its body returns. -/
theorem phase_returns (tags : List (String × Value))
    (h : s.context.enter phase facts = .ok inside)
    (hx : x.Returns (begun s phase inside) a s') :
    (inPhase phase facts (tagging tags x)).Returns s a
      { s'.log (.phaseEnd phase) with context := s.context } :=
  inPhase_returns h (returns_tagging.2 hx)

/-- A phase fails as its body does, with more context on the error. -/
theorem phase_fails (tags : List (String × Value))
    (h : s.context.enter phase facts = .ok inside)
    (hx : x.Fails (begun s phase inside) e s') :
    (inPhase phase facts (tagging tags x)).Fails s (e.tag tags)
      { s'.logAll (Event.phaseFailed phase (e.tag tags)) with context := s.context } :=
  inPhase_fails h (fails_tagging hx)

/-- Inside a phase that returned, the body returned. -/
theorem phase_returns_inv {tags : List (String × Value)}
    (h : s.context.enter phase facts = .ok inside)
    (hr : (inPhase phase facts (tagging tags x)).Returns s a s') :
    ∃ s₂, x.Returns (begun s phase inside) a s₂ ∧
      s' = { s₂.log (.phaseEnd phase) with context := s.context } := by
  rcases returns_or_fails x (begun s phase inside) with ⟨a₂, s₂, hx⟩ | ⟨e, s₂, hx⟩
  · obtain ⟨rfl, rfl⟩ := hr.unique (phase_returns tags h hx)
    exact ⟨s₂, hx, rfl⟩
  · exact absurd (phase_fails tags h hx) hr.not_fails

/-- Inside a phase that failed, the body failed. -/
theorem phase_fails_inv {tags : List (String × Value)}
    (h : s.context.enter phase facts = .ok inside)
    (hf : (inPhase phase facts (tagging tags x)).Fails s e s') :
    ∃ e₂ s₂, x.Fails (begun s phase inside) e₂ s₂ ∧ e = e₂.tag tags ∧
      s' = { s₂.logAll (Event.phaseFailed phase e) with context := s.context } := by
  rcases returns_or_fails x (begun s phase inside) with ⟨a₂, s₂, hx⟩ | ⟨e₂, s₂, hx⟩
  · exact absurd hf (phase_returns tags h hx).not_fails
  · obtain ⟨rfl, rfl⟩ := hf.unique (phase_fails tags h hx)
    exact ⟨e₂, s₂, hx, rfl, rfl⟩

/-! ### What holds however a computation ends -/

section

variable {R : Session → Session → Prop}

/-- However the computation ends, the sessions before and after it are related. -/
def Always (R : Session → Session → Prop) (x : Run α) : Prop :=
  ∀ s outcome s', x.run.run s = (outcome, s') → R s s'

theorem always_tagging (hx : x.Always R) (facts : List (String × Value)) :
    (tagging facts x).Always R := by
  intro s outcome s' h
  rcases returns_or_fails x s with ⟨a, s₁, hreturns⟩ | ⟨e, s₁, hfails⟩
  · cases h.symm.trans (returns_tagging.2 hreturns)
    exact hx s _ s' hreturns
  · cases h.symm.trans (fails_tagging hfails)
    exact hx s _ s' hfails

theorem always_outcome (hx : x.Always R) : (outcome x).Always R := by
  intro s r s' h
  rcases returns_or_fails (outcome x) s with ⟨a, s₁, hreturns⟩ | ⟨e, s₁, hfails⟩
  · cases h.symm.trans hreturns
    exact hx s _ s' (returns_outcome.1 hreturns)
  · cases hfails

/-- A relation of sessions that can be followed from step to step. -/
structure Follows (R : Session → Session → Prop) : Prop where
  /-- Nothing need happen. -/
  refl : ∀ s, R s s
  /-- Steps can be put together. -/
  trans : ∀ {s t u}, R s t → R t u → R s u

theorem always_modify {g : Session → Session} (hg : ∀ s, R s (g s)) :
    (modify g : Run Unit).Always R := by
  intro s outcome s' h
  cases h
  exact hg s

variable (hR : Follows R)

include hR

theorem always_bind (hx : x.Always R) (hf : ∀ a, (f a).Always R) : (x >>= f).Always R := by
  intro s outcome s' h
  rcases returns_or_fails x s with ⟨a, s₁, hreturns⟩ | ⟨e, s₁, hfails⟩
  · rw [run_bind hreturns] at h
    exact hR.trans (hx s _ s₁ hreturns) (hf a s₁ outcome s' h)
  · have hbind : (x >>= f).Fails s e s₁ := fails_bind.2 (.inl hfails)
    cases h.symm.trans hbind
    exact hx s _ s' hfails

theorem always_lift (r : Except Failure α) : (lift r).Always R := by
  intro s outcome s' h
  cases h
  exact hR.refl s

theorem always_pure (a : α) : (pure a : Run α).Always R := always_lift hR (.ok a)

theorem always_get : (get : Run Session).Always R := by
  intro s outcome s' h
  cases h
  exact hR.refl s

end

end Run

/-- Logging changes the log only. -/
theorem Session.common_foldl_log (s : Session) (events : List Event) :
    (events.foldl Session.log s).common = s.common ∧
      (events.foldl Session.log s).files = s.files := by
  rw [Session.foldl_log]
  exact ⟨rfl, rfl⟩

/-! ### Scripts without a result -/

namespace Script

variable {α β γ : Type} {p : Step → Option γ} {x : Script α} {f : α → Script β} {a : α} {b : β}
  {out : List γ}

/-- The steps of the script amount to the beginning of a list, and to all of it if the script has a
result. -/
structure Within (p : Step → Option γ) (x : Script α) (out : List γ) : Prop where
  /-- They amount to the beginning. -/
  beginning : x.steps.filterMap p <+: out
  /-- They amount to all of it, if there is a result. -/
  all : ∀ a, x.result = .ok a → x.steps.filterMap p = out

theorem within_lift (r : Except Failure α) : (lift r).Within p [] :=
  ⟨List.prefix_refl _, fun _ _ => rfl⟩

theorem within_pure (a : α) : (pure a : Script α).Within p [] := within_lift (.ok a)

theorem within_take (step : Step) : (take step).Within p (p step).toList :=
  ⟨filterMap_take p step ▸ List.prefix_refl _, fun _ _ => filterMap_take p step⟩

theorem within_bind {back : List γ} (hx : x.Within p out)
    (hf : ∀ a, x.result = .ok a → (f a).Within p back) : (x >>= f).Within p (out ++ back) := by
  cases h : x.result with
  | error e =>
    rw [bind_of_error h]
    refine ⟨hx.beginning.trans (List.prefix_append _ _), ?_⟩
    rintro a ⟨⟩
  | ok a =>
    rw [bind_of_ok h]
    obtain ⟨hbeginning, hall⟩ := hf a h
    refine ⟨?_, fun b hb => ?_⟩
    · rw [List.filterMap_append, hx.all a h]
      exact (List.prefix_append_right_inj out).2 hbeginning
    · rw [List.filterMap_append, hx.all a h, hall b hb]

theorem within_lift_bind {r : Except Failure α} (hf : ∀ a, (f a).Within p out) :
    (lift r >>= f).Within p out :=
  within_bind (within_lift r) fun a _ => hf a

theorem within_bind_pure {g : α → β} (hx : x.Within p out) :
    (x >>= fun a => pure (g a)).Within p out := by
  have hbind := within_bind hx fun a _ => within_pure (p := p) (g a)
  rwa [List.append_nil] at hbind

theorem within_each {g : α → Script β} {l : List α} {rule : α → List γ}
    (hg : ∀ a ∈ l, (g a).Within p (rule a)) : (each g l).Within p (l.flatMap rule) := by
  induction l with
  | nil => exact within_pure []
  | cons a l ih =>
    rw [List.flatMap_cons]
    refine within_bind (hg a List.mem_cons_self) fun b _ => ?_
    exact within_bind_pure (ih fun a ha => hg a (List.mem_cons_of_mem _ ha))

end Script

/-! ### Playing a script -/

namespace Site

variable {α : Type} {site : Site} {b b' : Bench} {s s' : Session} {script : Script α} {a : α}
  {e : Failure}

theorem play_returns : (site.play b script).Returns s (a, b') s' ↔
    script.result = .ok a ∧ (site.performAll b script.steps).Returns s b' s' := by
  rw [play, Run.returns_bind]
  simp only [Run.returns_bind, Run.returns_lift, Run.returns_pure, Prod.mk.injEq]
  constructor
  · rintro ⟨b₁, s₁, hsteps, a₁, s₂, ⟨hresult, rfl⟩, ⟨rfl, rfl⟩, rfl⟩
    exact ⟨hresult, hsteps⟩
  · rintro ⟨hresult, hsteps⟩
    exact ⟨b', s', hsteps, a, s', ⟨hresult, rfl⟩, ⟨rfl, rfl⟩, rfl⟩

theorem play_fails : (site.play b script).Fails s e s' ↔
    (site.performAll b script.steps).Fails s e s' ∨
      script.result = .error e ∧ ∃ b', (site.performAll b script.steps).Returns s b' s' := by
  rw [play, Run.fails_bind]
  simp only [Run.fails_bind, Run.fails_lift, Run.not_fails_pure, and_false, exists_false, or_false]
  refine or_congr_right ⟨?_, ?_⟩
  · rintro ⟨b', s₁, hsteps, hresult, rfl⟩
    exact ⟨hresult, b', hsteps⟩
  · rintro ⟨hresult, b', hsteps⟩
    exact ⟨b', s', hsteps, hresult, rfl⟩

end Site

/-! ### The phases of generation -/

namespace Generator

variable {g : Generator} {s s' : Session} {c : CommonResult} {r : VariantResult} {e : Failure}
  {upper : Registry}

/-- What an error of the common phase is tagged with. -/
def commonFacts (g : Generator) : List (String × Value) :=
  [("run_id", .text g.settings.runId), ("phase", .text "common")]

/-- What an error of a variant phase is tagged with. -/
def variantFacts (v : Variant) (c : CommonResult) : List (String × Value) :=
  [("phase", .text "variant"), ("run_id", .text c.runId), ("variant", .text v.name)]

/-- The result of the common phase after its script was played. -/
def commonResult (g : Generator) (plan : CommonPlan) (b : Bench) : CommonResult where
  runId := g.settings.runId
  manifest := b.manifest.freeze
  registry := b.registry.freeze
  plan := plan
  artifacts := b.artifacts
  sourceDir := g.site.sourceDir none

/-- The result of a variant phase after its script was played. -/
def variantResult (g : Generator) (v : Variant) (b : Bench) : VariantResult where
  variant := v
  registry := b.registry
  artifacts := b.artifacts
  sourceDir := g.site.sourceDir (some v)

theorem commonBody_returns : g.commonBody.Returns s c s' ↔ ∃ plan b,
    (g.site.play {} (commonScript g.resolver g.model)).Returns s (plan, b) s' ∧
      c = g.commonResult plan b := by
  rw [commonBody, Run.returns_bind]
  constructor
  · rintro ⟨⟨plan, b⟩, s₁, hplay, h⟩
    obtain ⟨rfl, rfl⟩ := Run.returns_pure.1 h
    exact ⟨plan, b, hplay, rfl⟩
  · rintro ⟨plan, b, hplay, rfl⟩
    exact ⟨(plan, b), s', hplay, rfl⟩

theorem commonBody_fails : g.commonBody.Fails s e s' ↔
    (g.site.play {} (commonScript g.resolver g.model)).Fails s e s' := by
  rw [commonBody, Run.fails_bind, or_iff_left]
  rintro ⟨p, s₁, -, h⟩
  exact Run.not_fails_pure h

/-- **How the common phase ends**: as its body does, in a session with the same files. -/
theorem runCommon_cases (g : Generator) (s : Session) :
    ∃ s₁ : Session, s₁.files = s.files ∧
      ((∃ c s₂ s', g.commonBody.Returns s₁ c s₂ ∧ g.runCommon.Returns s c s' ∧
          s'.files = s₂.files) ∨
        ∃ e s₂ s', g.commonBody.Fails s₁ e s₂ ∧ g.runCommon.Fails s (e.tag g.commonFacts) s' ∧
          s'.files = s₂.files) := by
  obtain ⟨inside, henter⟩ : ∃ inside,
      s.context.enter "common" [("run_id", .text g.settings.runId)] = .ok inside := ⟨_, rfl⟩
  refine ⟨Run.begun s "common" inside, rfl, ?_⟩
  rcases Run.returns_or_fails g.commonBody (Run.begun s "common" inside) with
    ⟨c, s₂, h⟩ | ⟨e, s₂, h⟩
  · have hphase := Run.phase_returns g.commonFacts henter h
    exact .inl ⟨c, s₂, _, h, Run.returns_bind.2 ⟨c, _, hphase, rfl⟩, rfl⟩
  · have hphase := Run.phase_fails g.commonFacts henter h
    exact .inr ⟨e, s₂, _, h, Run.fails_bind.2 (.inl hphase), rfl⟩

/-- If the common phase returns, its script was played in a session with the same files. -/
theorem runCommon_play (h : g.runCommon.Returns s c s') : ∃ plan b s₁ s₂, s₁.files = s.files ∧
    (g.site.play {} (commonScript g.resolver g.model)).Returns s₁ (plan, b) s₂ ∧
      c = g.commonResult plan b ∧ s'.files = s₂.files := by
  obtain ⟨s₁, hfiles, hcases⟩ := runCommon_cases g s
  rcases hcases with ⟨c', s₂, s'', hbody, hreturns, hfiles'⟩ | ⟨e, s₂, s'', -, hfails, -⟩
  · obtain ⟨rfl, rfl⟩ := h.unique hreturns
    obtain ⟨plan, b, hplay, rfl⟩ := commonBody_returns.1 hbody
    exact ⟨plan, b, s₁, s₂, hfiles, hplay, rfl, hfiles'⟩
  · exact absurd hfails h.not_fails

theorem variantBody_returns {v : Variant} : (g.variantBody v c).Returns s r s' ↔ ∃ upper b,
    c.registry.above = .ok upper ∧ (g.site.play { registry := upper } (variantScript g.resolver v
      g.settings.deployment c.registry c.plan)).Returns s ((), b) s' ∧ r = g.variantResult v b := by
  rw [variantBody, Run.returns_bind]
  constructor
  · rintro ⟨upper, s₁, hlift, h⟩
    obtain ⟨habove, rfl⟩ := Run.returns_lift.1 hlift
    obtain ⟨⟨⟨⟩, b⟩, s₂, hplay, h⟩ := Run.returns_bind.1 h
    obtain ⟨rfl, rfl⟩ := Run.returns_pure.1 h
    exact ⟨upper, b, habove, hplay, rfl⟩
  · rintro ⟨upper, b, habove, hplay, rfl⟩
    exact ⟨upper, s, Run.returns_lift.2 ⟨habove, rfl⟩, Run.returns_bind.2 ⟨((), b), s', hplay, rfl⟩⟩

theorem variantBody_fails {v : Variant} (habove : c.registry.above = .ok upper) :
    (g.variantBody v c).Fails s e s' ↔ (g.site.play { registry := upper }
      (variantScript g.resolver v g.settings.deployment c.registry c.plan)).Fails s e s' := by
  rw [variantBody, Run.fails_bind]
  constructor
  · rintro (h | ⟨upper', s₁, hlift, h⟩)
    · cases habove.symm.trans (Run.fails_lift.1 h).1
    · obtain ⟨habove', rfl⟩ := Run.returns_lift.1 hlift
      obtain rfl := Except.ok.inj (habove.symm.trans habove')
      rcases Run.fails_bind.1 h with hplay | ⟨p, s₂, -, hpure⟩
      · exact hplay
      · exact absurd hpure Run.not_fails_pure
  · intro h
    exact .inr ⟨upper, s, Run.returns_lift.2 ⟨habove, rfl⟩, Run.fails_bind.2 (.inl h)⟩

/-- **How a variant phase ends**: as its body does, in a session with the same files. -/
theorem runVariantOn_cases (g : Generator) (v : Variant) (c : CommonResult) (s : Session) :
    ∃ s₁ : Session, s₁.files = s.files ∧ s₁.common = s.common ∧
      ((∃ r s₂ s', (g.variantBody v c).Returns s₁ r s₂ ∧ (g.runVariantOn v c).Returns s r s' ∧
          s'.files = s₂.files ∧ s'.common = s₂.common) ∨
        ∃ e s₂ s', (g.variantBody v c).Fails s₁ e s₂ ∧
          (g.runVariantOn v c).Fails s (e.tag (variantFacts v c)) s' ∧ s'.files = s₂.files) := by
  obtain ⟨inside, henter⟩ : ∃ inside, s.context.enter "variant"
      [("run_id", .text c.runId), ("variant", .text v.name)] = .ok inside := ⟨_, rfl⟩
  refine ⟨Run.begun s "variant" inside, rfl, rfl, ?_⟩
  rcases Run.returns_or_fails (g.variantBody v c) (Run.begun s "variant" inside) with
    ⟨r, s₂, h⟩ | ⟨e, s₂, h⟩
  · have hphase := Run.phase_returns (variantFacts v c) henter h
    exact .inl ⟨r, s₂, _, h, Run.returns_bind.2 ⟨r, _, hphase, rfl⟩, rfl, rfl⟩
  · have hphase := Run.phase_fails (variantFacts v c) henter h
    exact .inr ⟨e, s₂, _, h, Run.fails_bind.2 (.inl hphase), rfl⟩

end Generator

end SoapStubs
