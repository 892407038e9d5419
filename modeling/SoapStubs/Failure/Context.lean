import SoapStubs.Ordered
import SoapStubs.Value.Access

/-!
# Error contexts

Where an error arose: the run, the phase, the variant, the entity, and further facts by name.

* `Context` is the type; a field is unset while it is `null`;
* `Context.tag` adds facts and never replaces one that is set, so that the place nearest to the
  error wins while the error travels up;
* `Context.ofFacts`, `Context.tag?` and `Context.entries?` are the ways from and to facts that
  somebody else gives: names may be taken, and something may stand where facts should be;
* `Context.entries` lists what is set, `Context.suffix` writes it behind a message.
-/

namespace SoapStubs

/-- Where an error arose. -/
structure Context where
  runId : Value := .null
  phase : Value := .null
  variant : Value := .null
  entity : Value := .null
  /-- Further facts by name. -/
  metadata : Ordered String Value := []
  /-- What stands in the place of the further facts, where that is no mapping. -/
  standIn : Option Value := none
  deriving Inhabited

namespace Context

/-- The names of other members of a context: no fact has one of them. -/
def reservedNames : List String :=
  ["to_dict", "__annotations__", "__class__", "__dataclass_fields__", "__dataclass_params__",
    "__delattr__", "__dict__", "__dir__", "__doc__", "__eq__", "__format__", "__ge__",
    "__getattribute__", "__getstate__", "__gt__", "__hash__", "__init__", "__init_subclass__",
    "__le__", "__lt__", "__match_args__", "__module__", "__ne__", "__new__", "__reduce__",
    "__reduce_ex__", "__repr__", "__setattr__", "__sizeof__", "__str__", "__subclasshook__",
    "__weakref__"]

/-- A field that is unset takes the value. -/
def settle (field value : Value) : Value :=
  match field with
  | .null => value
  | set => set

/-- The context with one more fact; what is set already stays, and `null` is no fact. -/
def tagOne (c : Context) (name : String) (value : Value) : Context :=
  match value with
  | .null => c
  | _ =>
    if name == "run_id" then { c with runId := settle c.runId value }
    else if name == "phase" then { c with phase := settle c.phase value }
    else if name == "variant" then { c with variant := settle c.variant value }
    else if name == "entity" then { c with entity := settle c.entity value }
    else if reservedNames.contains name then c
    else if c.metadata.has name then c
    else { c with metadata := c.metadata.put name value }

/-- The context with more facts, in turn. -/
def tag (c : Context) (facts : List (String × Value)) : Context :=
  facts.foldl (fun c f => c.tagOne f.1 f.2) c

/-- The four fields by name, set or not. -/
def fields (c : Context) : List (String × Value) :=
  [("run_id", c.runId), ("phase", c.phase), ("variant", c.variant), ("entity", c.entity)]

/-- Is the value something other than `null`? -/
def isSet : Value → Bool
  | .null => false
  | _ => true

/-- The entry that an item of a list stands for: a name and a value. -/
def entryOf (place : Nat) (item : Value) : Except Cause (String × Value) :=
  match item.elements with
  | .ok [key, value] => return ((← key.asKey).plain, value)
  | .ok parts => .error (.invalid ("dictionary update sequence element #" ++ toString place ++
      " has length " ++ toString parts.length ++ "; 2 is required"))
  | .error _ => .error (.wrongType ("item " ++ toString place ++ " is no list"))

/-- The facts in a value that stands in their place: none if it counts as false. -/
def factsOf (v : Value) : Except Cause (Ordered String Value) := do
  if v.truthy then
    let items ← v.elements
    return Ordered.putAll [] (← items.zipIdx.mapM fun (item, place) => entryOf place item)
  else return []

/-- What is set, by name, if all of it can be read; a further fact of a field's name stands in the
field's place. -/
def entries? (c : Context) : Except Cause (Ordered String Value) := do
  let further ← (c.standIn.map factsOf).getD (.ok c.metadata)
  return Ordered.putAll (c.fields.filter fun f => isSet f.2) further

/-- What is set, by name; what cannot be read is left out. -/
def entries (c : Context) : Ordered String Value :=
  (c.entries?.toOption).getD (c.fields.filter fun f => isSet f.2)

/-- What is set, as it is written behind a message. -/
def suffix (c : Context) : String :=
  match c.entries with
  | [] => ""
  | es => " (" ++ Text.join ", " (es.map fun (name, v) => name ++ "=" ++ v.plain) ++ ")"

/-! ### Facts that somebody else gives -/

/-- Does the name belong to none of the fields and members? -/
def isFurther (name : String) : Bool :=
  !(["run_id", "phase", "variant", "entity"].contains name) && !(reservedNames.contains name)

/-- The context of facts by the names of its fields. -/
def ofFacts (facts : List (String × Value)) : Except Cause Context :=
  facts.foldlM (fun (c : Context) (name, value) =>
    if name == "run_id" then .ok { c with runId := value }
    else if name == "phase" then .ok { c with phase := value }
    else if name == "variant" then .ok { c with variant := value }
    else if name == "entity" then .ok { c with entity := value }
    else if name == "metadata" then
      match value with
      | .map es => .ok { c with metadata := es.map fun (k, v) => (k.plain, v) }
      | _ => .ok { c with standIn := some value }
    else .error (.wrongType ("no context has a field " ++ Text.quote name))) {}

/-- The context with one more fact, if it can take it: nothing can be added to what stands in the
place of the further facts, and one of the members cannot be set. -/
def tagOne? (c : Context) (name : String) (value : Value) : Except Cause Context :=
  if !isSet value then .ok c
  else if name == "__weakref__" then
    .error (.noMember ("attribute " ++ Text.quote name ++ " is not writable"))
  else
    match c.standIn with
    | some v => if isFurther name then .error (v.lacks "setdefault") else .ok (c.tagOne name value)
    | none => .ok (c.tagOne name value)

/-- The context with more facts, in turn, if it can take them; the name `self` is taken. -/
def tag? (c : Context) (facts : List (String × Value)) : Except Cause Context :=
  if facts.any (·.1 == "self") then
    .error (.wrongType "no fact can have the name 'self'")
  else facts.foldlM (fun c f => c.tagOne? f.1 f.2) c

end Context

end SoapStubs
