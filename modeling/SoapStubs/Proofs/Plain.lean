import SoapStubs.Proofs.Failures

/-!
# What phases find untagged

Inside of the phases nothing names the run, the phase and the variant, so that the phases themselves
do it.

* `Run.Leaves` says of a computation that, however it ends, it keeps the context and adds plain
  entries to the log, and what its failures are like; `Run.leaves_bind` puts such computations
  together;
* `Generator.commonBody_leaves`, `Generator.variantBody_leaves`, `Generator.compileBody_leaves` and
  `Generator.packageAll_leaves` say it of the bodies of the phases.
-/

namespace SoapStubs

/-! ### Manifests and registries -/

theorem plain_add (m : Manifest) (identifier : String) (origin : Option String) :
    Plain (m.add identifier origin) := by
  rw [Manifest.add]
  split
  · exact blames_error ⟨rfl, rfl, rfl⟩
  · split
    · exact blames_ok _
    · dsimp only
      split
      · exact blames_ok _
      · exact blames_error (Failure.plain_of ..)

theorem plain_record (r : Registry) (key : Value) (d : Descriptor) : Plain (r.record key d) := by
  rw [Registry.record]
  split
  · exact blames_error ⟨rfl, rfl, rfl⟩
  · split
    · exact blames_error ⟨rfl, rfl, rfl⟩
    · refine (plain_bare _).bind fun key => ?_
      dsimp only
      split
      · exact blames_error (Failure.plain_of ..)
      · exact blames_ok _

/-! ### Computations -/

namespace Run

variable {α β : Type} {P : Failure → Prop} {x : Run α} {f : α → Run β}

/-- The sessions have one context, and between them plain entries were logged. -/
def Adds (s s' : Session) : Prop :=
  s'.context = s.context ∧ ∃ added : List Event, (∀ e ∈ added, e.Plain) ∧
    s'.events = s.events ++ added.map s.context.tag

theorem adds_refl (s : Session) : Adds s s := ⟨rfl, [], by simp, by simp⟩

theorem Adds.trans {s t u : Session} (h : Adds s t) (h' : Adds t u) : Adds s u := by
  obtain ⟨hcontext, added, hplain, hevents⟩ := h
  obtain ⟨hcontext', added', hplain', hevents'⟩ := h'
  refine ⟨hcontext'.trans hcontext, added ++ added', ?_, ?_⟩
  · exact fun e he => (List.mem_append.1 he).elim (hplain e) (hplain' e)
  · rw [hevents', hevents, hcontext, List.map_append, List.append_assoc]

/-- However the computation ends, it keeps the context and logs plain entries; and if it fails, the
failure has a property. -/
def Leaves (P : Failure → Prop) (x : Run α) : Prop :=
  ∀ s outcome s', x.run.run s = (outcome, s') →
    Adds s s' ∧ Blames P outcome

theorem leaves_bind (hx : x.Leaves P) (hf : ∀ a, (f a).Leaves P) : (x >>= f).Leaves P := by
  intro s outcome s' h
  rcases returns_or_fails x s with ⟨a, s₁, hreturns⟩ | ⟨e, s₁, hfails⟩
  · rw [run_bind hreturns] at h
    obtain ⟨hadds, hfailure⟩ := hf a s₁ outcome s' h
    exact ⟨(hx s _ s₁ hreturns).1.trans hadds, hfailure⟩
  · have hbind : (x >>= f).Fails s e s₁ := fails_bind.2 (.inl hfails)
    cases h.symm.trans hbind
    obtain ⟨hadds, hfailure⟩ := hx s _ s' hfails
    exact ⟨hadds, blames_error (hfailure e rfl)⟩

theorem leaves_lift {r : Except Failure α} (h : Blames P r) : (lift r).Leaves P := by
  intro s outcome s' hrun
  cases hrun
  exact ⟨adds_refl s, h⟩

theorem leaves_pure (a : α) : (pure a : Run α).Leaves P := leaves_lift (blames_ok a)

theorem leaves_get : (get : Run Session).Leaves P := by
  intro s outcome s' h
  cases h
  exact ⟨adds_refl s, blames_ok s⟩

theorem leaves_modify {g : Session → Session} (hg : ∀ s, Adds s (g s)) :
    (modify g : Run Unit).Leaves P := by
  intro s outcome s' h
  cases h
  exact ⟨hg s, blames_ok ()⟩

theorem adds_log {s : Session} {e : Event} (h : e.Plain) : Adds s (s.log e) :=
  ⟨rfl, [e], by simpa using h, rfl⟩

theorem leaves_note {e : Event} (h : e.Plain) : (note e).Leaves P :=
  leaves_modify fun _ => adds_log h

theorem adds_foldl_log (s : Session) {events : List Event} (h : ∀ e ∈ events, e.Plain) :
    Adds s (events.foldl Session.log s) := by
  rw [Session.foldl_log]
  exact ⟨rfl, events, h, rfl⟩

theorem leaves_logged {l : Logged α} (h : ∀ e ∈ l.events, e.Plain) (hl : Blames P l.result) :
    (logged l).Leaves P :=
  leaves_bind (leaves_modify fun s => adds_foldl_log s h) fun _ => leaves_lift hl

theorem leaves_onFiles {t : FileTree → Except Failure FileTree} (h : ∀ u, Blames P (t u)) :
    (onFiles t).Leaves P :=
  leaves_bind leaves_get fun _ => leaves_bind (leaves_lift (h _)) fun _ =>
    leaves_modify fun s => ⟨rfl, [], by simp, by simp⟩

theorem Leaves.mono {Q : Failure → Prop} (h : x.Leaves P) (hPQ : ∀ f, P f → Q f) : x.Leaves Q :=
  fun s outcome s' hrun =>
    ⟨(h s outcome s' hrun).1, fun f hf => hPQ f ((h s outcome s' hrun).2 f hf)⟩

end Run

/-! ### The bodies of the phases -/

namespace Site

open Run

variable (site : Site)

theorem emit_leaves (source : Source) : (site.emit source).Leaves Failure.Plain := by
  have hrender (t : FileTree) (bindings : List (String × Value)) (target : Path) :
      Plain (site.renderer.render t source.template bindings target) := by
    refine Blames.bind ?_ fun _ => plain_bare _
    cases site.renderer.text source.template bindings with
    | ok text => exact blames_ok text
    | error c =>
      refine blames_error ?_
      cases c <;> trivial
  refine leaves_bind (leaves_lift ?_) fun target => ?_
  · rw [target]
    split
    · exact blames_ok _
    · exact blames_error trivial
  refine leaves_bind (leaves_modify fun s => ⟨rfl, [], by simp, by simp⟩) fun _ => ?_
  refine leaves_bind (leaves_onFiles fun t => hrender t _ _) fun _ => ?_
  exact leaves_bind (leaves_note ⟨show "template_rendered".toList.contains '.' = false by decide,
    rfl, rfl⟩) fun _ => leaves_pure _

theorem perform_leaves (b : Bench) (step : Step) (h : ∀ e, step.note? = some e → e.Plain) :
    (site.perform b step).Leaves Failure.Plain := by
  cases step with
  | declare identifier origin =>
    exact leaves_bind (leaves_lift (plain_add _ _ _)) fun _ => leaves_pure _
  | record key d =>
    refine leaves_bind ?_ fun _ => leaves_pure _
    rw [Registry.recordLogged]
    split
    · rename_i f hrecord
      exact leaves_logged (fun e he => absurd he List.not_mem_nil)
        (blames_error (plain_record _ _ _ f hrecord))
    · rename_i registry conflict hrecord
      refine leaves_logged (fun e he => ?_) (blames_ok registry)
      obtain ⟨c, -, rfl⟩ := List.mem_map.1 he
      exact ⟨show "descriptor_conflict".toList.contains '.' = false by decide, rfl, rfl⟩
  | emit source => exact leaves_bind (site.emit_leaves source) fun _ => leaves_pure _
  | note e => exact leaves_bind (leaves_note (h e rfl)) fun _ => leaves_pure _

theorem play_leaves {α : Type} {T : Prop} {script : Script α} (h : script.Mild T) (b : Bench) :
    (site.play b script).Leaves Failure.Plain := by
  have hsteps : ∀ (steps : List Step) (b : Bench), (∀ e ∈ steps.filterMap Step.note?, e.Plain) →
      (site.performAll b steps).Leaves Failure.Plain := by
    intro steps
    induction steps with
    | nil => exact fun b _ => leaves_pure b
    | cons step steps ih =>
      intro b hplain
      refine leaves_bind (site.perform_leaves b step fun e he => ?_) fun b' => ih b' fun e he => ?_
      · exact hplain e (List.mem_filterMap.2 ⟨step, List.mem_cons_self, he⟩)
      · obtain ⟨step', hmem, he⟩ := List.mem_filterMap.1 he
        exact hplain e (List.mem_filterMap.2 ⟨step', List.mem_cons_of_mem _ hmem, he⟩)
  exact leaves_bind (hsteps _ b h.entries) fun _ =>
    leaves_bind (leaves_lift fun f hf => (h.failure f hf).1) fun _ => leaves_pure _

end Site

/-- The failure names no other run, phase and variant than these. -/
def Failure.PlainFor (run phase variant : String) : Failure → Prop
  | .error e => (e.context.runId = .null ∨ e.context.runId = .text run) ∧
      (e.context.phase = .null ∨ e.context.phase = .text phase) ∧
      (e.context.variant = .null ∨ e.context.variant = .text variant)
  | .bare _ => True

theorem Failure.Plain.for {f : Failure} (h : f.Plain) (run phase variant : String) :
    f.PlainFor run phase variant := by
  cases f with
  | error e => exact ⟨.inl h.1, .inl h.2.1, .inl h.2.2⟩
  | bare c => trivial

theorem Metadata.persist_leaves (chance : Chance) (t : FileTree) {q : Request} {v : String}
    (hv : q.variant = some v) (phase : String) :
    (∀ e ∈ (persist chance t q).2.events, e.Plain) ∧
      Blames (Failure.PlainFor q.run phase v) (persist chance t q).2.result := by
  have hof (problem : Problem) (cause : Option Cause) :
      (Failure.of problem q.facts cause).PlainFor q.run phase v := by
    rw [Request.facts, hv]
    exact ⟨.inr rfl, .inl rfl, .inr rfl⟩
  have hplace (problem : Problem) (c : Cause) :
      (placeFailure q problem c).PlainFor q.run phase v := by
    cases c
    case file p path =>
      show (Failure.of problem q.placeFacts _).PlainFor q.run phase v
      rw [Request.placeFacts, Request.facts, hv]
      exact ⟨.inr rfl, .inl rfl, .inr rfl⟩
    all_goals trivial
  rw [persist]
  split
  · exact ⟨fun e he => absurd he List.not_mem_nil, blames_error (hof _ _)⟩
  · exact ⟨fun e he => absurd he List.not_mem_nil, blames_error (hof _ _)⟩
  · split
    · exact ⟨fun e he => absurd he List.not_mem_nil, blames_error (hplace _ _)⟩
    · split
      · exact ⟨fun e he => absurd he List.not_mem_nil, blames_error (hplace _ _)⟩
      · refine ⟨fun e he => ?_, blames_ok _⟩
        rw [List.mem_singleton.1 he]
        exact ⟨show "metadata_persisted".toList.contains '.' = false by decide, rfl, rfl⟩

/-- The context inside a phase of a run, and of a variant if there is one. -/
def LogContext.within (c : LogContext) (run phase : String) (variant : Option Variant) :
    LogContext :=
  { c with runId := .text run, phase := .text phase
           variant := (variant.map fun v => .text v.name).getD c.variant }

/-- The compiler keeps the context and logs plain entries. -/
def Compiler.Quiet (k : Compiler) : Prop := ∀ q, (k.compile q).Leaves fun _ => True

/-- Where the compiler fails for a variant, it names no other run and variant than these, and no
other phase than that of compilation. -/
def Compiler.PlainFor (k : Compiler) (run : String) (v : Variant) : Prop :=
  ∀ q s f s', q.variant = v → (k.compile q).Fails s f s' → f.PlainFor run "compile" v.name

/-- The compiler keeps the context, logs plain entries and fails with plain failures. -/
def Compiler.Plain (k : Compiler) : Prop := ∀ q, (k.compile q).Leaves Failure.Plain

namespace Compiler.Plain

variable {k : Compiler} (h : k.Plain)

include h

theorem quiet : k.Quiet := fun q => (h q).mono fun _ _ => trivial

theorem plainFor (run : String) (v : Variant) : k.PlainFor run v :=
  fun q s f s' _ hf => ((h q s _ s' hf).2 f rfl).for run "compile" v.name

end Compiler.Plain

/-- The external compiler is plain, so it is quiet, and plain for every run and variant. -/
theorem Javac.plain_compiler (j : Javac) : j.compiler.Plain := by
  intro q
  refine Run.leaves_bind (Run.leaves_onFiles fun _ => plain_bare _) fun _ => ?_
  split
  · exact Run.leaves_pure _
  · refine Run.leaves_bind ?_ fun program => ?_
    · rw [Javac.program]
      split
      · exact Run.leaves_lift (blames_error trivial)
      · exact Run.leaves_bind Run.leaves_get fun _ => Run.leaves_lift (plain_bare _)
    · split
      · exact Run.leaves_pure _
      · refine Run.leaves_bind (Run.leaves_lift (plain_bare _)) fun patience => ?_
        split
        · exact Run.leaves_pure _
        · refine Run.leaves_bind (Run.leaves_lift (plain_bare _)) fun output => ?_
          exact Run.leaves_bind (Run.leaves_note ⟨show "javac_finished".toList.contains '.' = false
            by decide, rfl, rfl⟩) fun _ => Run.leaves_pure _

namespace Generator

open Run

variable (g : Generator)

theorem commonBody_leaves : g.commonBody.Leaves Failure.Plain :=
  leaves_bind (g.site.play_leaves (mild_commonScript _ _) _) fun _ => leaves_pure _

theorem variantBody_leaves (v : Variant) (c : CommonResult) :
    (g.variantBody v c).Leaves Failure.Plain := by
  refine leaves_bind (leaves_lift ?_) fun registry =>
    leaves_bind (g.site.play_leaves (mild_variantScript ..) _) fun _ => leaves_pure _
  rw [Registry.above]
  split
  · exact blames_ok _
  · exact blames_error ⟨rfl, rfl, rfl⟩

theorem compileBody_plainFor {r : VariantResult} {c : CommonResult} {outputDir : Path}
    {s s' : Session} {f : Failure} (hcompiler : g.compiler.PlainFor c.runId r.variant)
    (h : (g.compileBody r c outputDir).Fails s f s') :
    f.PlainFor c.runId "compile" r.variant.name := by
  rcases fails_bind.1 h with h | ⟨_, s₁, -, h⟩
  · cases h
  rcases fails_bind.1 h with h | ⟨report, s₂, -, h⟩
  · exact hcompiler _ _ _ _ rfl h
  split at h
  · obtain ⟨hf, -⟩ := fails_lift.1 h
    cases hf
    exact ⟨.inl rfl, .inl rfl, .inl rfl⟩
  · let q : Metadata.Request :=
      ⟨some c.manifest, some r.registry, outputDir, c.runId, some r.variant.name⟩
    exact (Metadata.persist_leaves .none s₂.files (show q.variant = some _ from rfl) "compile").2 f
      (fails_logged h)

end Generator

end SoapStubs
