import SoapStubs.Descriptor
import SoapStubs.Log

/-!
# The binding registry

Descriptors by key and kind.  A registry may lie over another one that is closed: it reads
through to the one below and may not redefine what is there.

Writing a slot again with another descriptor means that the model is inconsistent.  The registry
keeps such a conflict, and the last write wins at the place of the first.

* `Registry` is a layer, or a layer over a registry;
* `Registry.record` writes a slot and tells about a conflict;
* `Registry.get?`, `Registry.records`, `Registry.keys` and `Registry.contains` read it.
-/

namespace SoapStubs

/-- A key together with a kind. -/
abbrev Slot := Value × DescriptorKind

/-- A slot with its descriptor. -/
structure Record where
  key : Value
  descriptor : Descriptor
  deriving Inhabited

namespace Record

def kind (r : Record) : DescriptorKind := r.descriptor.kind

/-- Have the records equal keys and the same descriptor? -/
def same (r s : Record) : Bool := r.key == s.key && r.descriptor == s.descriptor

instance : BEq Record := ⟨same⟩

end Record

/-- A slot that was written with different descriptors. -/
structure Conflict where
  key : Value
  previous : Descriptor
  current : Descriptor
  deriving Inhabited

namespace Conflict

/-- The kind of the slot. -/
def kind (c : Conflict) : DescriptorKind := c.current.kind

/-- The log entry of a conflict. -/
def event (c : Conflict) : Event :=
  ⟨.warning, "clientgen.registry", "descriptor_conflict",
    [("key", c.key), ("kind", .text c.kind.name), ("previous", .record c.previous.fields),
      ("current", .record c.current.fields)]⟩

end Conflict

/-- The slots that one registry writes itself. -/
structure Layer where
  /-- The descriptors by slot, in the order of the first writes. -/
  slots : Ordered Slot Descriptor := []
  /-- The conflicts, in the order of the writes. -/
  conflicts : List Conflict := []
  frozen : Bool := false
  deriving Inhabited

/-- Descriptors by key and kind. -/
inductive Registry where
  | base (own : Layer)
  | overlay (parent : Registry) (own : Layer)
  deriving Inhabited

namespace Registry

def empty : Registry := .base {}

/-- What the registry writes itself. -/
def own : Registry → Layer
  | .base own => own
  | .overlay _ own => own

/-- The registry below. -/
def parent? : Registry → Option Registry
  | .base _ => none
  | .overlay parent _ => some parent

/-- The registry with another layer of its own. -/
def withOwn : Registry → Layer → Registry
  | .base _, own => .base own
  | .overlay parent _, own => .overlay parent own

/-- Is the registry closed? -/
def frozen (r : Registry) : Bool := r.own.frozen

/-- The conflicts of the registry itself. -/
def conflicts (r : Registry) : List Conflict := r.own.conflicts

/-- The closed registry. -/
def freeze (r : Registry) : Registry := r.withOwn { r.own with frozen := true }

/-- The descriptor in a slot, of the registry itself or of one below. -/
def lookup : Registry → Slot → Option Descriptor
  | .base own, slot => own.slots.get? slot
  | .overlay parent own, slot => (own.slots.get? slot).or (parent.lookup slot)

def Layer.records (l : Layer) : List Record := l.slots.map fun (slot, d) => ⟨slot.1, d⟩

/-- The records that the registry writes itself. -/
def ownRecords (r : Registry) : List Record := Layer.records r.own

/-- All records: those below first, each layer in the order of the first writes. -/
def records : Registry → List Record
  | .base own => Layer.records own
  | .overlay parent own => parent.records ++ Layer.records own

/-- The number of records. -/
def size : Registry → Nat
  | .base own => own.slots.length
  | .overlay parent own => own.slots.length + parent.size

/-- The keys, each at its first record. -/
def keys (r : Registry) : List Value :=
  (Ordered.ofList (r.records.map fun record => (record.key, ()))).keys

def contains (r : Registry) (key : Value) : Bool := r.records.any (·.key == key)

/-- Have the registries the same records in the same order? -/
def same (r s : Registry) : Bool := r.records == s.records

/-- The registry as the call that makes it. -/
def shown (r : Registry) : String :=
  "BindingMetadataRegistry(records=" ++ toString r.size ++ ", frozen=" ++
    (Value.bool r.frozen).quoted ++ ")"

def get? (r : Registry) (key : Value) (kind : DescriptorKind) : Except Cause (Option Descriptor) :=
  do return r.lookup (← key.asKey, kind)

/-- The registry above a closed one. -/
def above (r : Registry) : Except Failure Registry :=
  if r.frozen then .ok (.overlay r {}) else .error (.of .overlayOfOpen)

/-- Does a registry below have the slot? -/
def inherits (r : Registry) (slot : Slot) : Bool :=
  match r.parent? with
  | none => false
  | some parent => (parent.lookup slot).isSome

/-- Writes a descriptor into the slot of its kind, and tells about a conflict. -/
def record (r : Registry) (key : Value) (d : Descriptor) :
    Except Failure (Registry × Option Conflict) :=
  if r.frozen then .error (.of (.registryClosed d.kind.name key.plain))
  else if !key.truthy then .error (.of (.noKey d.kind.name))
  else do
    -- an empty list cannot be hashed, but was refused above already, for being empty
    let key ← bare key.asKey
    let slot := (key, d.kind)
    if r.inherits slot then .error (.of (.redefined d.kind.name) [("entity", key)])
    else
      let conflict : Option Conflict :=
        match r.own.slots.get? slot with
        | none => none
        | some previous => if previous == d then none else some ⟨key, previous, d⟩
      return (r.withOwn
        { r.own with
          slots := r.own.slots.put slot d
          conflicts := r.own.conflicts ++ conflict.toList }, conflict)

/-- Writes a descriptor and logs a conflict. -/
def recordLogged (r : Registry) (key : Value) (d : Descriptor) : Logged Registry :=
  match r.record key d with
  | .error f => ⟨[], .error f⟩
  | .ok (r, conflict) => ⟨conflict.toList.map Conflict.event, .ok r⟩

end Registry

end SoapStubs
