import SoapStubs.Log
import SoapStubs.Model.Shown
import SoapStubs.Value.Access
import SoapStubs.Value.Order

/-!
# Resolution of faults

One entry for each fault that operations throw, with its identifier and the identifier of the
bean that carries it.  A fault may be declared many times.  The declarations have to agree on the
carrier, and the least of them is taken, so that the result does not depend on the order in which
operations are visited.

* `Fault.carrier` is the carrier of a declaration, `Fault.sortKey` what declarations are compared
  by;
* `ResolvedFault` is an entry of the result;
* `resolveFaults` resolves declarations; the result ascends by identifier.
-/

namespace SoapStubs

/-- What carries a fault. -/
structure Carrier where
  implicit : Bool
  bean : Value

namespace Carrier

/-- The word for how the carrier comes about. -/
def manner (c : Carrier) : String := if c.implicit then "implicit" else "explicit"

def pair (c : Carrier) : Value := .tuple [.text c.manner, c.bean]

def words (c : Carrier) : String :=
  c.manner ++ " " ++ (c.bean.orElse (.text "<unnamed>")).plain

end Carrier

namespace Fault

def carrier (f : Fault) : Carrier :=
  match f.explicitBean with
  | none => ⟨true, f.implicitBeanName.orElse (.text "")⟩
  | some bean => ⟨false, bean.qualifiedName.orElse (.text "")⟩

/-- What an element of a fault is compared by. -/
def childKey (c : ChildElement) : Value :=
  match c.type with
  | none => .tuple [c.elementName, .text "", .bool false]
  | some t => .tuple [c.elementName, t.qualifiedName.orElse (.text ""), t.collection]

/-- What declarations of a fault are compared by. -/
def sortKey (f : Fault) : Value :=
  .tuple [f.space, f.elementName, .text f.carrier.manner, f.carrier.bean,
    .tuple (f.children.map childKey)]

/-- Does the first declaration come before the second? -/
def before (f g : Fault) : Except Cause Bool := f.sortKey.less g.sortKey

end Fault

/-- A fault with its identifiers. -/
structure ResolvedFault where
  identifier : String
  carrier : String
  isImplicit : Bool
  /-- The name of the carrier's element. -/
  elementName : Value
  /-- The namespace of the carrier's element. -/
  elementNamespace : Value
  fault : Fault
  deriving Inhabited

/-- The declarations of each fault, faults in the order of their first declaration. -/
def declarations (faults : List Fault) : Except Failure (Ordered Value (List Fault)) :=
  faults.foldlM (fun groups f =>
    match f.qualifiedName with
    | .null => .error (.of (.unnamed "Fault") [("entity", f.elementName)])
    | name => do
      let key ← bare name.asKey
      return groups.alter key fun found => found.getD [] ++ [f]) []

/-- The different carriers of declarations, in the order of their pairs' quoted text. -/
def carriers (declared : List Fault) : List Carrier :=
  let distinct := Ordered.ofList (declared.map fun f => (f.carrier.pair, f.carrier))
  distinct.values.mergeSort fun c d => c.pair.quoted ≤ d.pair.quoted

/-- The declaration that stands for a fault: the least, if all have the same carrier. -/
def representative (name : Value) (declared : List Fault) : Except Failure Fault := do
  -- carriers are compared as keys, so one that cannot be a key is refused first
  declared.forM fun f => bare (f.carrier.bean.asKey.map fun _ => ())
  match carriers declared with
  | c :: d :: rest =>
    .error (.of (.carrierConflict name.plain (Text.join ", " ((c :: d :: rest).map Carrier.words)))
      [("entity", name)])
  | _ =>
    match declared with
    | [] => .error (.of (.unnamed "Fault"))
    | f :: fs => bare (leastM Fault.before f fs)

/-- The entry of a declaration. -/
def resolveFault (r : Resolver) (identifier : String) (f : Fault) :
    Except Failure ResolvedFault :=
  match f.explicitBean with
  | none =>
    if !f.implicitBeanName.truthy then .error (.of .noCarrier [("entity", f.qualifiedName)])
    else do
      return { identifier, carrier := ← r.resolve f.implicitBeanName, isImplicit := true
               elementName := f.elementName, elementNamespace := f.space, fault := f }
  | some bean => do
    return { identifier, carrier := ← r.resolve bean, isImplicit := false
             elementName := bean.name, elementNamespace := bean.space, fault := f }

/-- The names of two faults in order. -/
def inOrder (a b : String) : String × String := if b < a then (b, a) else (a, b)

/-- Adds the entry of a fault to those found so far, which are kept with the faults' names. -/
def addFault (r : Resolver) (found : Ordered String (Value × ResolvedFault))
    (group : Value × List Fault) : Except Failure (Ordered String (Value × ResolvedFault)) := do
  let (name, declared) := group
  let fault ← representative name declared
  let identifier ← r.resolve fault
  match found.get? identifier with
  | some (other, _) =>
    let (first, second) := inOrder other.plain name.plain
    .error (.of (.sameFault first second identifier) [("entity", .text identifier)])
  | none => return found.put identifier (name, ← resolveFault r identifier fault)

/-- One entry for each fault, in the order of their identifiers. -/
def resolveFaults (r : Resolver) (faults : List Fault) : Except Failure (List ResolvedFault) := do
  let groups ← declarations faults
  let found ← groups.foldlM (addFault r) []
  return (found.values.map Prod.snd).mergeSort fun a b => a.identifier ≤ b.identifier

/-- The log entry about resolved faults. -/
def faultsResolved (faults : List ResolvedFault) : Event :=
  ⟨.debug, "clientgen.faults", "faults_resolved",
    [("declared", .int faults.length), ("implicit", .int (faults.filter (·.isImplicit)).length)]⟩

/-- One entry for each fault, and the log entry about them. -/
def resolveFaultsLogged (r : Resolver) (faults : List Fault) : Logged (List ResolvedFault) := do
  let resolved ← Logged.lift (resolveFaults r faults)
  Logged.note (faultsResolved resolved)
  return resolved

end SoapStubs
