import SoapStubs.Proofs.Collisions
import SoapStubs.Proofs.Plain

/-!
# Errors keep their inner context

While an error travels up, each place that it passes may add to its context, and nothing that is
set is replaced.  So the place nearest to the error counts, and the phases, which are far from it,
add only what is left open.

* `Error.takesFirst` is the law of tagging for any number of calls: for each name, the first value
  that is not `null` stays;
* `Error.placed` is an error in a phase, and `Error.tag_common` and `Error.tag_variant` say that an
  error that leaves run, phase and variant open is put there;
* `Generator.phases_place_errors` is the theorem, `Generator.compile_forgets_place` shows the two
  exceptions to what one may expect.
-/

namespace SoapStubs

/-! ### The law of tagging -/

namespace Context

variable {c : Context} {name : String} {v : Value}

def fieldNames : List String := ["run_id", "phase", "variant", "entity"]

/-- The name is that of a field or of a further fact; no call can have an argument `self`. -/
def Taggable (name : String) : Prop :=
  (name ∈ fieldNames ∨ isFurther name = true) ∧ name ≠ "self"

instance : DecidablePred Taggable := fun _ => inferInstanceAs (Decidable (_ ∧ _))

/-- What is given for a name; `null` if nothing is. -/
def given (c : Context) (name : String) : Value :=
  if name = "run_id" then c.runId
  else if name = "phase" then c.phase
  else if name = "variant" then c.variant
  else if name = "entity" then c.entity
  else (c.metadata.get? name).getD .null

/-- A further fact is there, but it is `null`. -/
def Blocks (c : Context) (name : String) : Prop :=
  isFurther name = true ∧ c.metadata.get? name = some .null

/-- The first value that is not `null`, if there is one. -/
def firstSet (values : List Value) : Value := (values.find? isSet).getD .null

theorem tag_append (c : Context) (front back : List (String × Value)) :
    c.tag (front ++ back) = (c.tag front).tag back := List.foldl_append

theorem firstSet_settle (x v : Value) (vs : List Value) :
    firstSet (settle x v :: vs) = firstSet (x :: v :: vs) := by
  cases x <;> rfl

theorem tagOne_of_ne (c : Context) (n : String) (hv : v ≠ .null) : c.tagOne n v =
    if n == "run_id" then { c with runId := settle c.runId v }
    else if n == "phase" then { c with phase := settle c.phase v }
    else if n == "variant" then { c with variant := settle c.variant v }
    else if n == "entity" then { c with entity := settle c.entity v }
    else if reservedNames.contains n then c
    else if c.metadata.has n then c
    else { c with metadata := c.metadata.put n v } := by
  cases v <;> first | rfl | exact absurd rfl hv

theorem settle_null (x : Value) : settle x .null = x := by
  cases x <;> rfl

/-- The fact of a field settles the field. -/
theorem given_tagOne_field {n : String} (hn : n ∈ fieldNames) (hv : v ≠ .null) (c : Context)
    (name : String) :
    (c.tagOne n v).metadata = c.metadata ∧
      (c.tagOne n v).given name = if n = name then settle (c.given name) v else c.given name := by
  simp only [fieldNames, List.mem_cons, List.not_mem_nil, or_false] at hn
  rw [tagOne_of_ne c n hv]
  rcases hn with rfl | rfl | rfl | rfl <;> refine ⟨rfl, ?_⟩ <;> simp only [given] <;> grind

theorem given_of_further (h : isFurther name = true) (c : Context) :
    c.given name = (c.metadata.get? name).getD .null := by
  simp only [isFurther, Bool.and_eq_true, Bool.not_eq_true', List.contains_eq_mem,
    decide_eq_false_iff_not, List.mem_cons, List.not_mem_nil, or_false, not_or] at h
  simp [given, h]

theorem tagOne_further {n : String} (hn : isFurther n = true) (hv : v ≠ .null) :
    c.tagOne n v =
      if c.metadata.has n then c else { c with metadata := c.metadata.put n v } := by
  simp only [isFurther, Bool.and_eq_true, Bool.not_eq_true', List.contains_eq_mem,
    decide_eq_false_iff_not, List.mem_cons, List.not_mem_nil, or_false, not_or] at hn
  simp [tagOne_of_ne c n hv, hn]

/-- A further fact is added, unless there is one of its name. -/
theorem given_tagOne_further {n : String} (hn : isFurther n = true) (hv : v ≠ .null) :
    ((c.tagOne n v).Blocks name ↔ c.Blocks name) ∧
      (¬c.Blocks name → (c.tagOne n v).given name =
        if n = name then settle (c.given name) v else c.given name) := by
  rw [tagOne_further hn hv, Ordered.has_eq_isSome]
  cases hget : c.metadata.get? n with
  | some w =>
    refine ⟨Iff.rfl, fun hopen => ?_⟩
    show c.given name = _
    by_cases h : n = name
    · subst h
      -- a null that is there blocks the name
      have hw : w ≠ .null := by
        rintro rfl
        exact hopen ⟨hn, hget⟩
      rw [if_pos rfl, given_of_further hn, hget]
      cases w <;> first | rfl | exact absurd rfl hw
    · rw [if_neg h]
  | none =>
    show (Blocks { c with metadata := c.metadata.put n v } name ↔ _) ∧
      (_ → given { c with metadata := c.metadata.put n v } name = _)
    simp only [Blocks, Ordered.get?_put]
    by_cases h : n = name
    · subst h
      simp [hget, hv, given_of_further hn, Ordered.get?_put, settle]
    · simp [given, Ordered.get?_put, h, Ne.symm h]

/-- What one more fact changes: the value of its name, if that is open. -/
theorem given_tagOne {n : String} (hn : n ∈ fieldNames ∨ isFurther n = true) (c : Context)
    (v : Value) (name : String) :
    ((c.tagOne n v).Blocks name ↔ c.Blocks name) ∧
      (¬c.Blocks name → (c.tagOne n v).given name =
        if n = name then settle (c.given name) v else c.given name) := by
  by_cases hv : v = .null
  · subst hv
    refine ⟨Iff.rfl, fun _ => ?_⟩
    rw [settle_null, ite_self]
    rfl
  rcases hn with hn | hn
  · obtain ⟨hmetadata, hgiven⟩ := given_tagOne_field hn hv c name
    exact ⟨by rw [Blocks, hmetadata, Blocks], fun _ => hgiven⟩
  · exact given_tagOne_further hn hv

/-- **The first value counts.**  After facts in turn, a name has the first value that was given for
it and is not `null`, from the beginning on; but a further fact that is `null` from the beginning
stays so. -/
theorem given_tag {facts : List (String × Value)}
    (h : ∀ f ∈ facts, f.1 ∈ fieldNames ∨ isFurther f.1 = true) (c : Context) (name : String) :
    ((c.tag facts).Blocks name ↔ c.Blocks name) ∧
      (¬c.Blocks name → (c.tag facts).given name =
        firstSet (c.given name :: (facts.filter fun f => f.1 = name).map Prod.snd)) := by
  induction facts generalizing c with
  | nil =>
    refine ⟨Iff.rfl, fun _ => ?_⟩
    show c.given name = firstSet [c.given name]
    cases c.given name <;> rfl
  | cons f facts ih =>
    obtain ⟨hblocks, hgiven⟩ := given_tagOne (h f List.mem_cons_self) c f.2 name
    obtain ⟨ihblocks, ihgiven⟩ :=
      ih (fun f hf => h f (List.mem_cons_of_mem _ hf)) (c.tagOne f.1 f.2)
    refine ⟨ihblocks.trans hblocks, fun hopen => ?_⟩
    show ((c.tagOne f.1 f.2).tag facts).given name = _
    rw [ihgiven (hblocks.not.2 hopen), hgiven hopen, List.filter_cons]
    by_cases hname : f.1 = name
    · rw [if_pos hname, if_pos (decide_eq_true hname), firstSet_settle]
      rfl
    · rw [if_neg hname, if_neg (by simpa using hname)]

theorem standIn_tagOne (c : Context) (n : String) (v : Value) :
    (c.tagOne n v).standIn = c.standIn := by
  by_cases hv : v = .null
  · rw [hv]
    rfl
  · rw [tagOne_of_ne c n hv]
    grind

/-- Facts that somebody gives are taken, if the further facts are a mapping. -/
theorem tag?_eq {facts : List (String × Value)} (h : ∀ f ∈ facts, Taggable f.1)
    (hc : c.standIn = none) : c.tag? facts = .ok (c.tag facts) ∧ (c.tag facts).standIn = none := by
  have hself : facts.any (·.1 == "self") = false := by
    simpa using fun n v hf => (h (n, v) hf).2
  rw [tag?, hself, if_neg Bool.false_ne_true, tag]
  clear hself
  induction facts generalizing c with
  | nil => exact ⟨rfl, hc⟩
  | cons f facts ih =>
    have hstep : c.tagOne? f.1 f.2 = .ok (c.tagOne f.1 f.2) := by
      have hname : f.1 ≠ "__weakref__" := fun hname =>
        absurd (hname ▸ h f List.mem_cons_self) (by decide)
      rw [tagOne?, hc]
      cases f.2 <;> simp [isSet, hname]
      rfl
    rw [List.foldlM_cons, hstep]
    exact ih (fun f hf => h f (List.mem_cons_of_mem _ hf)) ((standIn_tagOne ..).trans hc)

end Context

namespace Error

/-- What tagging an error in turn makes of it. -/
structure TakesFirst (e : Error) (calls : List (List (String × Value))) : Prop where
  /-- All calls can be made. -/
  taken : calls.foldlM Context.tag? e.context = .ok (calls.foldl tag e).context
  /-- Problem, category, cause and report are the same. -/
  same : calls.foldl tag e = { e with context := (calls.foldl tag e).context }
  /-- The first value counts that is not `null`, from the beginning on. -/
  first : ∀ name, ¬e.context.Blocks name → (calls.foldl tag e).context.given name =
    Context.firstSet (e.context.given name ::
      (calls.flatten.filter fun f => f.1 = name).map Prod.snd)
  /-- A further fact that is `null` from the beginning stays so. -/
  blocked : ∀ name, e.context.Blocks name → (calls.foldl tag e).context.given name = .null

theorem takesFirst {e : Error} {calls : List (List (String × Value))}
    (he : e.context.standIn = none) (h : ∀ call ∈ calls, ∀ f ∈ call, Context.Taggable f.1) :
    e.TakesFirst calls := by
  have hfold : calls.foldl tag e = { e with context := e.context.tag calls.flatten } := by
    clear he h
    induction calls generalizing e with
    | nil => rfl
    | cons call calls ih =>
      rw [List.foldl_cons, ih, List.flatten_cons, Context.tag_append]
      rfl
  have htaken : calls.foldlM Context.tag? e.context = .ok (e.context.tag calls.flatten) := by
    clear hfold
    generalize e.context = c at he
    induction calls generalizing c with
    | nil => rfl
    | cons call calls ih =>
      obtain ⟨hcall, hstandIn⟩ := Context.tag?_eq (h call List.mem_cons_self) he
      rw [List.foldlM_cons, hcall, List.flatten_cons, Context.tag_append]
      exact ih (fun call hc => h call (List.mem_cons_of_mem _ hc)) _ hstandIn
  have hnames : ∀ f ∈ calls.flatten, f.1 ∈ Context.fieldNames ∨ Context.isFurther f.1 = true := by
    intro f hf
    obtain ⟨call, hcall, hf⟩ := List.mem_flatten.1 hf
    exact (h call hcall f hf).1
  have hgiven (name : String) := Context.given_tag hnames e.context name
  constructor
  case taken => rw [htaken, hfold]
  case same => rw [hfold]
  case first =>
    intro name hopen
    rw [hfold]
    exact (hgiven name).2 hopen
  case blocked =>
    intro name hblocks
    obtain ⟨hfurther, hnull⟩ := (hgiven name).1.2 hblocks
    rw [hfold, Context.given_of_further hfurther, hnull]
    rfl

def placed (run phase : String) (variant : Option Variant) (e : Error) : Error :=
  { e with context := { e.context with
      runId := .text run, phase := .text phase
      variant := (variant.map fun v => .text v.name).getD e.context.variant } }

theorem tag_common {e : Error} (h : (Failure.error e).Plain) (run : String) :
    e.tag [("run_id", .text run), ("phase", .text "common")] = e.placed run "common" none := by
  obtain ⟨problem, category, ⟨r, p, v, entity, metadata, standIn⟩, cause, report⟩ := e
  obtain ⟨hr, hp, hv⟩ := h
  subst hr hp hv
  rfl

theorem tag_variant {e : Error} {run phase : String} {v : Variant}
    (h : (Failure.error e).PlainFor run phase v.name) :
    e.tag [("phase", .text phase), ("run_id", .text run), ("variant", .text v.name)] =
      e.placed run phase (some v) := by
  obtain ⟨problem, category, ⟨r, p, v', entity, metadata, standIn⟩, cause, report⟩ := e
  obtain ⟨rfl | rfl, rfl | rfl, rfl | rfl⟩ := h <;> rfl

end Error

/-! ### Phases -/

/-- An error that the body fails with, from the beginning of a phase on, leaves the method as the
same error in that phase. -/
def Run.Places {α β : Type} (method : Run α) (s : Session) (body : Run β) (run phase : String)
    (variant : Option Variant) : Prop :=
  ∀ e s₁, body.Fails (begun s phase (s.context.within run phase variant)) (.error e) s₁ →
    ∃ s', method.Fails s (.error (e.placed run phase variant)) s'

theorem Run.Leaves.of_fails {α : Type} {P : Failure → Prop} {x : Run α} {s s' : Session}
    {f : Failure} (hx : x.Leaves P) (h : x.Fails s f s') : P f := (hx s _ s' h).2 f rfl

namespace Generator

variable {g : Generator} {c : CommonResult} {r : VariantResult} {v : Variant} {s : Session}

theorem runCommon_places (g : Generator) (s : Session) :
    g.runCommon.Places s g.commonBody g.settings.runId "common" none := by
  intro e s₁ hbody
  have hphase := Run.phase_fails g.commonFacts
    (show s.context.enter "common" [("run_id", .text g.settings.runId)] = .ok _ from rfl) hbody
  rw [← Error.tag_common (g.commonBody_leaves.of_fails hbody)]
  exact ⟨_, Run.fails_bind.2 (.inl hphase)⟩

theorem runVariantOn_places (g : Generator) (v : Variant) (c : CommonResult) (s : Session) :
    (g.runVariantOn v c).Places s (g.variantBody v c) c.runId "variant" (some v) := by
  intro e s₁ hbody
  have hphase := Run.phase_fails (variantFacts v c) (show s.context.enter "variant"
    [("run_id", .text c.runId), ("variant", .text v.name)] = .ok _ from rfl) hbody
  rw [← Error.tag_variant (((g.variantBody_leaves v c).of_fails hbody).for _ _ _)]
  exact ⟨_, Run.fails_bind.2 (.inl hphase)⟩

theorem compileOn_places (hcompiler : g.compiler.PlainFor c.runId r.variant) (s : Session) :
    (g.compileOn r c).Places s
      (g.compileBody r c (g.settings.compileDir.child r.variant.name)) c.runId "compile"
      (some r.variant) := by
  intro e s₁ hbody
  have hphase := Run.phase_fails
    [("phase", .text "compile"), ("run_id", .text c.runId), ("variant", .text r.variant.name)]
    (show s.context.enter "compile" [("run_id", .text c.runId), ("variant", .text r.variant.name)] =
      .ok _ from rfl) hbody
  rw [← Error.tag_variant (g.compileBody_plainFor hcompiler hbody)]
  exact ⟨_, Run.fails_bind.2 (.inl hphase)⟩

/-- **Errors keep their inner context.**  However often an error is tagged, for each name the first
value counts that is not `null`, and the error is the same otherwise; only a further fact that is
`null` from the beginning stays `null`.

So an error that the body of a phase fails with leaves it as the same error, about the same entity,
in that run, phase and variant; where the compiler fails, it has to leave them open or name the same
ones.  Without a common result, the variant phase fails with an error in its place, and compilation
with one that has none. -/
theorem phases_place_errors (g : Generator) :
    (∀ (e : Error) (calls : List (List (String × Value))), e.context.standIn = none →
      (∀ call ∈ calls, ∀ f ∈ call, Context.Taggable f.1) → e.TakesFirst calls) ∧
    ∀ s : Session,
      g.runCommon.Places s g.commonBody g.settings.runId "common" none ∧
      (∀ v given c, given.or s.common = some c → (g.runVariant v given).Places s
        (g.variantBody v c) c.runId "variant" (some v)) ∧
      (∀ r given c, given.or s.common = some c → g.compiler.PlainFor c.runId r.variant →
        (g.compile r given).Places s
          (g.compileBody r c (g.settings.compileDir.child r.variant.name)) c.runId "compile"
          (some r.variant)) ∧
      ∀ v r given, given.or s.common = none →
        (g.runVariant v given).Fails s (.error
          ((Error.of .variantBeforeCommon).placed g.settings.runId "variant" (some v))) s ∧
        (g.compile r given).Fails s (.error (Error.of .compileBeforeCommon)) s := by
  refine ⟨fun e calls he h => Error.takesFirst he h, fun s => ⟨g.runCommon_places s, ?_, ?_, ?_⟩⟩
  · intro v given c hc e s₁ hbody
    obtain ⟨s', hfails⟩ := g.runVariantOn_places v c s e s₁ hbody
    refine ⟨s', Run.fails_bind.2 (.inr ⟨s, s, rfl, ?_⟩)⟩
    rw [hc]
    exact hfails
  · intro r given c hc hcompiler e s₁ hbody
    obtain ⟨s', hfails⟩ := compileOn_places hcompiler s e s₁ hbody
    refine ⟨s', Run.fails_bind.2 (.inr ⟨s, s, rfl, ?_⟩)⟩
    rw [hc]
    exact hfails
  · intro v r given hnone
    refine ⟨Run.fails_bind.2 (.inr ⟨s, s, rfl, ?_⟩), Run.fails_bind.2 (.inr ⟨s, s, rfl, ?_⟩)⟩
    · rw [hnone]
      rfl
    · rw [hnone]
      rfl

/-- Does the computation end with an error that passes the check? -/
def errs {α : Type} (check : Error → Bool) : Except Failure α → Bool
  | .error (.error e) => check e
  | _ => false

/-- The first of two types that collide is named by the error, and its place by the phase. -/
theorem phases_place_errors_twins : ∃ (e : Error) (s' : Session),
    twinItems.runCommon.Fails {} (.error e) s' ∧ e.kind = .integrity ∧
      e.context.runId = .text "run" ∧ e.context.phase = .text "common" ∧
      e.context.entity.text? = some "shop.Item" := by
  obtain ⟨-, hphases⟩ := phases_place_errors twinItems
  have herrs : errs (fun e => e.kind = .integrity && e.context.entity.text? == some "shop.Item")
      (twinItems.commonBody.run.run (Run.begun {} "common"
        (({} : LogContext).within "run" "common" none))).1 = true := by decide +kernel
  rcases Run.returns_or_fails twinItems.commonBody (Run.begun {} "common"
      (({} : LogContext).within "run" "common" none)) with ⟨c, s₁, hbody⟩ | ⟨f, s₁, hbody⟩
  · rw [show twinItems.commonBody.run.run _ = _ from hbody] at herrs
    cases herrs
  · rw [show twinItems.commonBody.run.run _ = _ from hbody] at herrs
    cases f with
    | bare cause => cases herrs
    | error e =>
      obtain ⟨hkind, hentity⟩ := Bool.and_eq_true_iff.1 herrs
      obtain ⟨s', hfails⟩ := (hphases {}).1 e s₁ hbody
      exact ⟨_, s', hfails, of_decide_eq_true hkind, rfl, rfl, eq_of_beq hentity⟩

/-- **Two places where context is lost.**  Compilation without a common result fails with an error
that names no phase, and a further fact that is `null` keeps a later value out. -/
theorem compile_forgets_place :
    ¬(∀ (g : Generator) (r : VariantResult) (s s' : Session) (e : Error),
      (g.compile r).Fails s (.error e) s' → e.context.phase = .text "compile") ∧
    ¬(∀ (e : Error) (facts : List (String × Value)) (name : String),
      (∀ f ∈ facts, Context.Taggable f.1) → (e.tag facts).context.given name =
        Context.firstSet (e.context.given name ::
          (facts.filter fun f => f.1 = name).map Prod.snd)) := by
  refine ⟨fun h => ?_, fun h => ?_⟩
  · have hphase := h twinItems default {} {} (Error.of .compileBeforeCommon) rfl
    cases hphase
  · have hgiven := h { problem := .compileBeforeCommon, context := { metadata := [("k", .null)] } }
      [("k", .int 5)] "k" (by decide)
    cases hgiven

end Generator

end SoapStubs
