import SoapStubs.Failure
import SoapStubs.Label
import SoapStubs.Name
import SoapStubs.Value.Access

/-!
# Package conversion

Rules that move packages.  A rule `org.shop → com.client` turns `org.shop.api.Cart` into
`com.client.api.Cart`: only the matched segments at the front of the package change, the longest
source wins, and matching is on whole segments.

Conversion is idempotent: a package under the target of a rule counts as converted.  A rule set
in which a source lies under a target is therefore refused.

* `Rule` and `Resolver.ofRules` make a resolver from rules;
* `Resolver.resolvePackage` converts a package, `Resolver.resolveName` a qualified name;
* `Named` is the class of entities with a qualified name, and `Resolver.resolve` resolves one.
-/

namespace SoapStubs

/-- Packages under `source` move under `target`. -/
structure Rule where
  source : String
  target : String
  deriving DecidableEq, Repr, Inhabited

namespace Rule

/-- May a segment begin with the character? -/
def isHead (c : Char) : Bool := c.isAlpha || c == '_' || c == '$'

/-- May a segment go on with the character? -/
def isTail (c : Char) : Bool := c.isAlphanum || c == '_' || c == '$'

/-- Is the text a segment?  One line feed at its end is overlooked. -/
def isSegment (s : String) : Bool :=
  match s.toList with
  | [] => false
  | c :: cs =>
    isHead c && (if cs.getLast? == some '\n' then cs.dropLast else cs).all isTail

/-- Is the text a dotted identifier? -/
def isDotted (package : String) : Bool :=
  package != "" && (Text.split '.' package).all isSegment

/-- The rule on one line. -/
def arrow (r : Rule) : String := r.source ++ "->" ++ r.target

/-- The rule, if both sides are dotted identifiers. -/
def check (r : Rule) : Except Failure Unit :=
  if !isDotted r.source then
    .error (.of (.malformedRule "from" r.source) [("entity", .text r.arrow)])
  else if !isDotted r.target then
    .error (.of (.malformedRule "to" r.target) [("entity", .text r.arrow)])
  else .ok ()

end Rule

/-- Conversions of packages, from the segments of a source to those of a target. -/
structure Resolver where
  /-- The targets by source, in the order of the rules. -/
  conversions : Ordered (List String) (List String) := []
  deriving Repr, Inhabited

namespace Resolver

/-- The conversions of the rules: the last rule of a source wins. -/
def conversionsOf (rules : List Rule) : Ordered (List String) (List String) :=
  Ordered.ofList (rules.map fun r => (Name.segments r.source, Name.segments r.target))

/-- Conversions that change something. -/
def changes (r : Resolver) : Ordered (List String) (List String) :=
  r.conversions.filter fun c => c.1 != c.2

/-- The first source that lies under a target, with that target. -/
def chain? (r : Resolver) : Option (List String × List String) :=
  r.conversions.keys.findSome? fun source =>
    (r.changes.find? fun c => c.2.isPrefixOf source).map fun c => (source, c.2)

/-- The resolver of the rules, if they are well formed and none feeds another. -/
def ofRules (rules : List Rule) : Except Failure Resolver := do
  rules.forM Rule.check
  let r : Resolver := ⟨conversionsOf rules⟩
  match r.chain? with
  | some (source, target) =>
    .error (.of (.chainedRules (Name.dotted source) (Name.dotted target))
      [("entity", .text (Name.dotted source))])
  | none => .ok r

/-- The rules in force. -/
def rules (r : Resolver) : List Rule :=
  r.conversions.map fun c => ⟨Name.dotted c.1, Name.dotted c.2⟩

/-- Does the package lie under a target? -/
def isResolved (r : Resolver) (segments : List String) : Bool :=
  r.changes.any fun c => c.2.isPrefixOf segments

/-- The longer of two conversions by their source; the first of two that are equally long. -/
def longer (best : Option (List String × List String)) (c : List String × List String) :
    Option (List String × List String) :=
  match best with
  | none => some c
  | some b => if b.1.length < c.1.length then some c else some b

/-- The conversion with the longest source that the package lies under. -/
def best? (r : Resolver) (segments : List String) : Option (List String × List String) :=
  (r.conversions.filter fun c => c.1.isPrefixOf segments).foldl longer none

/-- The package after conversion. -/
def resolvePackage (r : Resolver) (package : String) : String :=
  let segments := Name.segments package
  -- what lies under a target was converted before, and is left alone
  if segments.isEmpty || r.isResolved segments then package
  else
    match r.best? segments with
    | none => package
    | some (source, target) => Name.dotted (target ++ segments.drop source.length)

/-- The qualified name with its package converted. -/
def resolveName (r : Resolver) (name : String) : String :=
  let (package, simple) := Name.split name
  Name.qualify (r.resolvePackage package) simple

end Resolver

/-- An entity that may have a qualified name. -/
class Named (α : Type) where
  typeName : α → String
  /-- The entity written out. -/
  shown : α → String
  qualifiedName : α → Value

/-- A text names itself; no other value has a name. -/
instance : Named Value where
  typeName := Value.typeName
  shown := Value.quoted
  qualifiedName
    | .text s => .text s
    | _ => .null

instance : Named String where
  typeName _ := "str"
  shown := Text.quote
  qualifiedName := .text

namespace Resolver

def qualifiedName {α : Type} [Named α] (entity : α) : Except Failure String :=
  match Named.qualifiedName entity with
  | .text "" => unnamed
  | .text s => .ok s
  | v =>
    if v.truthy then .error (.bare v.uncut) else unnamed
where
  /-- The objection to an entity without a name. -/
  unnamed : Except Failure String :=
    .error (.of (.unnamed (Named.typeName entity))
      [("entity", .text (Text.takeStart 120 (Named.shown entity)))])

/-- The identifier of an entity. -/
def resolve {α : Type} [Named α] (r : Resolver) (entity : α) : Except Failure String :=
  (qualifiedName entity).map r.resolveName

end Resolver

end SoapStubs
