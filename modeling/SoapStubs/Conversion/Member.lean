import SoapStubs.Model.Shown
import SoapStubs.Value.Access

/-!
# Types of members

The identifier that stands for the type of a member in generated sources.  A repeated member is a
list: a plain one in the legacy variant, a list of its element type in the modern one, where
primitive element types give way to their boxes.

* `Resolver.resolveType` is the type of a member, `Resolver.resolveElement` the type of the
  elements of a repeated one;
* `Resolver.resolveTypeIn` and `Resolver.resolveElementIn` take the variant as a value that has
  yet to be read.
-/

namespace SoapStubs.Resolver

def listType : String := "java.util.List"

/-- The primitive types and the classes that box them. -/
def boxes : List (String × String) :=
  [("boolean", "java.lang.Boolean"), ("byte", "java.lang.Byte"), ("char", "java.lang.Character"),
    ("short", "java.lang.Short"), ("int", "java.lang.Integer"), ("long", "java.lang.Long"),
    ("float", "java.lang.Float"), ("double", "java.lang.Double")]

/-- The type in a form that can be a parameter of another. -/
def box (type : String) : String := (boxes.lookup type).getD type

/-- The element type of lists in a variant. -/
def elementIn (variant : Variant) (type : String) : String :=
  match variant with
  | .legacy => type
  | .modern => box type

/-- The type of the elements of a repeated member. -/
def resolveElement (r : Resolver) (ref : TypeRef) (variant : Variant) : Except Failure String :=
  (r.resolve ref).map (elementIn variant)

/-- The type of a member; a member without a type is void. -/
def resolveType (r : Resolver) (ref : Option TypeRef) (variant : Variant) :
    Except Failure String :=
  match ref with
  | none => .ok "void"
  | some ref =>
    if !ref.isCollection then r.resolve ref
    else
      match variant with
      | .legacy => .ok listType
      | .modern => (r.resolveElement ref .modern).map fun e => listType ++ "<" ++ e ++ ">"

/-- The type of a member in the variant that the value names; it is read for repeated members
only. -/
def resolveTypeIn (r : Resolver) (ref : Option TypeRef) (variant : Value) :
    Except Failure String :=
  if (ref.map (·.isCollection)).getD false then do
    r.resolveType ref (← bare (Labelled.read variant))
  else r.resolveType ref .legacy

/-- The type of the elements of a repeated member in the variant that the value names, which is
read last. -/
def resolveElementIn (r : Resolver) (ref : Option TypeRef) (variant : Value) :
    Except Failure String := do
  let element ←
    match ref with
    | none => r.resolve Value.null
    | some ref => r.resolve ref
  return elementIn (← bare (Labelled.read variant)) element

end SoapStubs.Resolver
