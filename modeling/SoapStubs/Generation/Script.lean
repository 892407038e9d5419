import SoapStubs.Generation.Plan

/-!
# Scripts

A phase of generation as the list of the steps it takes, followed by its result.  What a phase does
depends on the model and the rules only, so its steps can be written down before any of them is
taken; a phase that cannot go on ends in a failure after the steps before it.

* `Step` is a step: an identifier is declared, a descriptor recorded, a source rendered, an entry
  logged;
* `Script` is a list of steps with a result, and `Script.each` puts the scripts of items one after
  another.
-/

namespace SoapStubs

/-- A step of a phase. -/
inductive Step where
  /-- A generated type is declared. -/
  | declare (identifier origin : String)
  | record (key : String) (descriptor : Descriptor)
  | emit (source : Source)
  | note (event : Event)
  deriving Inhabited

/-- Steps with a result. -/
structure Script (α : Type) where
  steps : List Step
  /-- The result after all steps. -/
  result : Except Failure α

namespace Script

variable {α β : Type}

instance : Monad Script where
  pure a := ⟨[], .ok a⟩
  bind x f :=
    match x.result with
    | .error e => ⟨x.steps, .error e⟩
    | .ok a => ⟨x.steps ++ (f a).steps, (f a).result⟩

/-- A result without steps. -/
def lift (r : Except Failure α) : Script α := ⟨[], r⟩

def take (s : Step) : Script Unit := ⟨[s], .ok ()⟩

/-- Declares a generated type. -/
def declare (identifier origin : String) : Script Unit := take (.declare identifier origin)

def record (key : String) (d : Descriptor) : Script Unit := take (.record key d)

/-- Renders a source. -/
def emit (s : Source) : Script Unit := take (.emit s)

/-- The scripts of items one after another. -/
def each (f : α → Script β) : List α → Script (List β)
  | [] => pure []
  | a :: rest => do
    let b ← f a
    let bs ← each f rest
    return b :: bs

/-- The entries of a logged result as steps. -/
def logged (x : Logged α) : Script α := ⟨x.events.map .note, x.result⟩

end Script

end SoapStubs
