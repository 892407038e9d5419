import SoapStubs.Registry

/-!
# Metadata documents

A registry as a document that says what it is, and back.

* `Metadata.document` writes a registry with the run and the variant it belongs to;
* `Metadata.ofDocument` reads one; the registry is closed.
-/

namespace SoapStubs.Metadata

def formatName : String := "clientgen-binding-metadata"

/-- The version of the format. -/
def version : Int := 1

/-- A record of a document. -/
def recordValue (r : Record) : Value :=
  .record [("key", r.key), ("kind", .text r.kind.name), ("fields", .record r.descriptor.fields)]

def document (r : Registry) (run : Value) (variant : Value) : Value :=
  .record [("format", .text formatName), ("version", .int version), ("run_id", run),
    ("variant", variant), ("records", .list (r.records.map recordValue))]

/-- A bare cause about a record is an error about the document, unless it is about a member that
a value lacks. -/
def malformed : Failure → Failure
  | .bare (.noMember m) => .bare (.noMember m)
  | .bare c => .of .malformedRecord [] (some c)
  | f => f

/-- The registry with one more record of a document. -/
def addRecord (r : Registry) (v : Value) : Logged Registry := do
  let key ← Logged.lift (bare (v.need "key"))
  let kind ← Logged.lift (bare (v.need "kind" >>= Labelled.read))
  let d ← Logged.lift (bare (v.need "fields" >>= Descriptor.ofFields kind))
  r.recordLogged key d

/-- The registry with more records of a document, in turn. -/
def addRecords (r : Registry) : List Value → Logged Registry
  | [] => pure r
  | v :: rest => do
    let r ← addRecord r v
    addRecords r rest

/-- The closed registry of a document. -/
def ofDocument (v : Value) : Logged Registry := do
  let format ← Logged.lift (bare (v.get "format"))
  if !(format == .text formatName) then Logged.lift (.error (.of (.otherFormat format)))
  else
    let found ← Logged.lift (bare (v.get "version"))
    if !(found == .int version) then Logged.lift (.error (.of (.otherVersion found)))
    else
      let read : Logged Registry := do
        let records ← Logged.lift (bare (v.need "records" >>= Value.elements))
        addRecords .empty records
      let r ← (⟨read.events, read.result.mapError malformed⟩ : Logged Registry)
      return r.freeze

end SoapStubs.Metadata
