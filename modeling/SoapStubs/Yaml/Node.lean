import SoapStubs.Ordered
import SoapStubs.Yaml.Tag
import SoapStubs.Yaml.Token

/-!
# Nodes of YAML

A document as a tree of scalars, sequences and mappings.

* `Node` is a node with its type;
* `Parse` is reading from a list of tokens, with the named nodes so far;
* `node` reads a node; `blockItems`, `blockEntries`, `flowItems` and `flowEntries` read what is
  inside a collection;
* `Node.ofTokens` reads the tokens of a text with at most one document.

A collection may contain itself, by its name.  Such a node stands for an endless one;
`Node.unrolled` writes it out as far as any reader of documents looks, and then tells that it goes
on like that.
-/

namespace SoapStubs.Yaml

/-- A node of a document. -/
inductive Node where
  | scalar (tag : Tag) (text : String)
  | sequence (tag : Tag) (items : List Node)
  /-- A mapping; keys may be repeated. -/
  | mapping (tag : Tag) (entries : List (Node × Node))
  /-- The collection with the name, inside itself. -/
  | again (name : String)
  /-- A mapping or a sequence inside itself, where it is not written out any more. -/
  | loop (isMapping : Bool)
  /-- A mapping that cannot be merged. -/
  | broken (cause : Cause)
  deriving Inhabited

/-- What is left to read, and what names stand for. -/
structure Reading where
  tokens : List Token
  /-- The objection to what follows them. -/
  objection : Option Cause := none
  anchors : Ordered String Node := []
  /-- The names that were given, also to nodes that have not ended. -/
  given : List String := []
  /-- What tag handles stand for. -/
  handles : Ordered String String := []
  deriving Inhabited

/-- Reading from a list of tokens. -/
abbrev Parse := StateT Reading (Except Cause)

namespace Parse

/-- A text that is not well formed. -/
def fail {α : Type} (reason : String) : Parse α := StateT.lift (malformed reason)

/-- The next token; none at the end. -/
def peek : Parse (Option Token) := do
  let r ← get
  match r.tokens, r.objection with
  | [], some e => StateT.lift (.error e)
  | tokens, _ => return tokens.head?

/-- Passes over the next token. -/
def drop : Parse Unit := modify fun r => { r with tokens := r.tokens.tail }

/-- Passes over the next token if it is the given one, and says whether it was. -/
def take (t : Token) : Parse Bool := do
  if (← peek) == some t then
    drop
    return true
  else return false

/-- Is the next token one of these? -/
def sees (ts : List Token) : Parse Bool := do
  match ← peek with
  | none => return false
  | some t => return ts.contains t

end Parse

def Node.nothing : Node := .scalar .null ""

/-- The node that a name stands for. -/
def named (name : String) : Parse Node := do
  let r ← get
  match r.anchors.get? name with
  | some n => return n
  | none =>
    if r.given.contains name then return .again name else Parse.fail "found undefined alias"

/-- Reads a node and gives it a name that is not taken. -/
def name (anchor : Option String) (read : Parse Node) : Parse Node := do
  match anchor with
  | none => read
  | some a =>
    if (← get).given.contains a then Parse.fail "found duplicate anchor"
    else
      modify fun r => { r with given := a :: r.given }
      let n ← read
      modify fun r => { r with anchors := r.anchors.put a n }
      return n

/-- A node as a text, if it is an equals sign of its own type. -/
def Node.signAsText : Node → Node
  | .scalar .value text => .scalar .str text
  | n => n

/-- Reads a key.  An equals sign that is a key is a text, also where its name stands. -/
def asKey (read : Parse Node) : Parse Node := do
  let k ← read
  if let .scalar .value _ := k then
    modify fun r => { r with anchors := r.anchors.map fun (a, n) => (a, n.signAsText) }
  return k

/-- The name before a node, if there is one. -/
def anchor? : Parse (Option String) := do
  match ← Parse.peek with
  | some (.anchor a) =>
    Parse.drop
    return some a
  | _ => return none

/-- The full tag before a node, if there is one. -/
def tag? : Parse (Option String) := do
  match ← Parse.peek with
  | some (.tag handle suffix) =>
    Parse.drop
    match handle with
    | none => return some suffix
    | some h =>
      match (← get).handles.get? h with
      | some start => return some (start ++ suffix)
      | none => Parse.fail "found undefined tag handle"
  | _ => return none

/-- The name and the tag before a node, in either order. -/
def properties : Parse (Option String × Option String) := do
  match ← anchor? with
  | some a => return (some a, ← tag?)
  | none =>
    let tag ← tag?
    if tag.isSome then return (← anchor?, tag) else return (none, none)

/-- The type that a tag names, or else the one that the node has by itself. -/
def tagOr (tag : Option String) (otherwise : Tag) : Tag :=
  match tag with
  | none | some "!" => otherwise
  | some name => .ofName name

/-- The type of a scalar.  The text decides if it is plain, and if the tag says so. -/
def scalarTag (tag : Option String) (text : String) (isPlain : Bool) : Tag :=
  match tag with
  | none => if isPlain then .ofPlain text else .str
  | some "!" => .ofPlain text
  | some name => .ofName name

/-- Passes over the comma before a part of a flow collection, unless it is the first, and says
whether the part may follow. -/
def separated (first : Bool) : Parse Bool :=
  if first then return true else Parse.take .flowEntry

mutual

/-- A node; indented collections and items without an indentation of their own are read where they
may stand. -/
def node : (fuel : Nat) → (inBlock loose : Bool) → Parse Node
  | 0, _, _ => Parse.fail "expected the node content"
  | fuel + 1, inBlock, loose => do
    match ← Parse.peek with
    | some (.alias a) =>
      Parse.drop
      named a
    | _ =>
      let (anchor, tag) ← properties
      name anchor (content fuel inBlock loose tag (anchor.isSome || tag.isSome))

/-- What follows the name and the tag of a node; nothing if one of them was there. -/
def content : (fuel : Nat) → (inBlock loose : Bool) → (tag : Option String) → (marked : Bool) →
    Parse Node
  | 0, _, _, _, _ => Parse.fail "expected the node content"
  | fuel + 1, inBlock, loose, tag, marked => do
    let token ← Parse.peek
    -- the items of a list may stand at the indentation of the key it belongs to
    if loose && token == some .blockEntry then
      return .sequence (tagOr tag .seq) (← looseItems fuel)
    else
      match token, inBlock with
      | some (.scalar text isPlain), _ =>
        Parse.drop
        return .scalar (scalarTag tag text isPlain) text
      | some .flowSequenceStart, _ =>
        Parse.drop
        return .sequence (tagOr tag .seq) (← flowItems fuel true)
      | some .flowMappingStart, _ =>
        Parse.drop
        return .mapping (tagOr tag .map) (← flowEntries fuel true)
      | some .blockSequenceStart, true =>
        Parse.drop
        return .sequence (tagOr tag .seq) (← blockItems fuel)
      | some .blockMappingStart, true =>
        Parse.drop
        return .mapping (tagOr tag .map) (← blockEntries fuel)
      | _, _ =>
        -- a name or a tag alone is one of an empty scalar
        if marked then return .scalar (scalarTag tag "" true) ""
        else Parse.fail "expected the node content"

/-- The items of an indented sequence. -/
def blockItems : (fuel : Nat) → Parse (List Node)
  | 0 => Parse.fail "expected <block end>"
  | fuel + 1 => do
    if ← Parse.take .blockEntry then
      let n ← if ← Parse.sees [.blockEntry, .blockEnd] then pure .nothing else node fuel true false
      return n :: (← blockItems fuel)
    else if ← Parse.take .blockEnd then return []
    else Parse.fail "expected <block end>"

/-- The items of a sequence without an indentation of its own. -/
def looseItems : (fuel : Nat) → Parse (List Node)
  | 0 => Parse.fail "expected <block end>"
  | fuel + 1 => do
    if ← Parse.take .blockEntry then
      let n ← if ← Parse.sees [.blockEntry, .key, .value, .blockEnd] then pure .nothing
        else node fuel true false
      return n :: (← looseItems fuel)
    else return []

/-- The entries of an indented mapping. -/
def blockEntries : (fuel : Nat) → Parse (List (Node × Node))
  | 0 => Parse.fail "expected <block end>"
  | fuel + 1 => do
    let stops : List Token := [.key, .value, .blockEnd]
    if ← Parse.take .key then
      let k ← if ← Parse.sees stops then pure .nothing else asKey (node fuel true true)
      let v ← if ← Parse.take .value then
          (if ← Parse.sees stops then pure .nothing else node fuel true true)
        else pure .nothing
      return (k, v) :: (← blockEntries fuel)
    else if ← Parse.take .blockEnd then return []
    else Parse.fail "expected <block end>"

/-- The items of a sequence in brackets.  A key makes a mapping with one entry. -/
def flowItems : (fuel : Nat) → (first : Bool) → Parse (List Node)
  | 0, _ => Parse.fail "expected ',' or ']'"
  | fuel + 1, first => do
    if ← Parse.take .flowSequenceEnd then return []
    else if !(← separated first) then Parse.fail "expected ',' or ']'"
    else if ← Parse.take .flowSequenceEnd then return []
    else if ← Parse.take .key then
      let k ← if ← Parse.sees [.value, .flowEntry, .flowSequenceEnd] then pure .nothing
        else asKey (node fuel false false)
      let v ← if ← Parse.take .value then
          (if ← Parse.sees [.flowEntry, .flowSequenceEnd] then pure .nothing
          else node fuel false false)
        else pure .nothing
      return .mapping .map [(k, v)] :: (← flowItems fuel false)
    else
      let n ← node fuel false false
      return n :: (← flowItems fuel false)

/-- The entries of a mapping in braces. -/
def flowEntries : (fuel : Nat) → (first : Bool) → Parse (List (Node × Node))
  | 0, _ => Parse.fail "expected ',' or a closing brace"
  | fuel + 1, first => do
    if ← Parse.take .flowMappingEnd then return []
    else if !(← separated first) then Parse.fail "expected ',' or a closing brace"
    else if ← Parse.take .flowMappingEnd then return []
    else if ← Parse.take .key then
      let k ← if ← Parse.sees [.value, .flowEntry, .flowMappingEnd] then pure .nothing
        else asKey (node fuel false false)
      let v ← if ← Parse.take .value then
          (if ← Parse.sees [.flowEntry, .flowMappingEnd] then pure .nothing
          else node fuel false false)
        else pure .nothing
      return (k, v) :: (← flowEntries fuel false)
    else
      let k ← asKey (node fuel false false)
      return (k, .nothing) :: (← flowEntries fuel false)

end

/-! ### Documents -/

/-- What tag handles stand for without directives. -/
def standardHandles : Ordered String String := [("!", "!"), ("!!", Tag.standard)]

/-- Reads directives: at most one version, which is 1, and handles that differ. -/
def directives : (fuel : Nat) → (versioned : Bool) → (found : Ordered String String) →
    Parse (Ordered String String)
  | 0, _, found => return found
  | fuel + 1, versioned, found => do
    match ← Parse.peek with
    | some (.version major) =>
      Parse.drop
      if versioned then Parse.fail "found duplicate YAML directive"
      else if major != 1 then Parse.fail "found incompatible YAML document"
      else directives fuel true found
    | some (.handle h start) =>
      Parse.drop
      if found.has h then Parse.fail "duplicate tag handle"
      else directives fuel versioned (found.put h start)
    | some .directive =>
      Parse.drop
      directives fuel versioned found
    | _ => return found

/-- Passes over the ends of documents. -/
def skipEnds : (fuel : Nat) → Parse Unit
  | 0 => return ()
  | fuel + 1 => do if ← Parse.take .documentEnd then skipEnds fuel

def firstDocument (fuel : Nat) : Parse (Option Node) := do
  match ← Parse.peek with
  | none => return none
  | some (.version _) | some (.handle ..) | some .directive | some .documentStart =>
    let found ← directives fuel false []
    modify fun r => { r with handles := Ordered.putAll standardHandles found }
    if ← Parse.take .documentStart then
      match ← Parse.peek with
      | none | some (.version _) | some (.handle ..) | some .directive | some .documentStart
      | some .documentEnd => return some .nothing
      | _ => return some (← node fuel true false)
    else Parse.fail "expected '<document start>'"
  | _ =>
    modify fun r => { r with handles := standardHandles }
    return some (← node fuel true false)

/-! ### Collections inside themselves -/

/-- A collection that is not written out. -/
def Node.cut : Node → Node
  | .sequence .. => .loop false
  | .mapping .. => .loop true
  | n => n

mutual

/-- The node with other nodes in place of the collections inside themselves. -/
def Node.fill (f : String → Node) : Node → Node
  | .scalar tag text => .scalar tag text
  | .sequence tag items => .sequence tag (fillItems f items)
  | .mapping tag entries => .mapping tag (fillEntries f entries)
  | .again name => f name
  | .loop isMapping => .loop isMapping
  | .broken cause => .broken cause

/-- The nodes with other nodes in place of the collections inside themselves. -/
def fillItems (f : String → Node) : List Node → List Node
  | [] => []
  | n :: rest => n.fill f :: fillItems f rest

/-- The entries with other nodes in place of the collections inside themselves. -/
def fillEntries (f : String → Node) : List (Node × Node) → List (Node × Node)
  | [] => []
  | (k, v) :: rest => (k.fill f, v.fill f) :: fillEntries f rest

end

/-- How often a collection is written out inside itself. -/
def unrollings : Nat := 6

/-- The node with collections inside themselves written out `n` times. -/
def Node.unrolled (anchors : Ordered String Node) : (n : Nat) → Node → Node
  | 0, node => node.fill fun a => ((anchors.get? a).getD .nothing).cut
  | n + 1, node => node.fill fun a => Node.unrolled anchors n ((anchors.get? a).getD .nothing)

/-- The node of a text with at most one document. -/
def Node.ofTokens (s : Scanned) : Except Cause (Option Node) := do
  let fuel := 4 * s.tokens.length + 8
  let read : Parse (Option Node) := do
    let found ← firstDocument fuel
    skipEnds fuel
    if (← Parse.peek).isSome then Parse.fail "expected a single document"
    else return found
  let (found, r) ← read.run { tokens := s.tokens, objection := s.objection }
  return found.map (Node.unrolled r.anchors unrollings)

end SoapStubs.Yaml
