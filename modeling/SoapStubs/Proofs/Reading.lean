import SoapStubs.Metadata.Store
import SoapStubs.Proofs.JsonReader
import SoapStubs.Proofs.RoundTrip

/-!
# How the reading of binding metadata ends

Binding metadata is read from a file or from a document.  Reading settles if it ends with a closed
registry or with an error about the metadata; anything else escapes.

* `Metadata.addRecord_outcome` says what becomes of one record and `Metadata.addRecords_outcome`
  what becomes of all: the first record that is not sound decides;
* `Metadata.DocumentResult` and `Metadata.FileResult` say how documents and files end, and their
  `settles_iff` which of them settle;
* `Metadata.reading_settles` is the theorem.
-/

namespace SoapStubs

theorem Logged.result_bind {α β : Type} (x : Logged α) (f : α → Logged β) :
    (x >>= f).result = x.result >>= fun a => (f a).result := by
  obtain ⟨events, result⟩ := x
  cases result <;> rfl

theorem bare_bind {α β : Type} (x : Except Cause α) (f : α → Except Cause β) :
    bare (x >>= f) = bare x >>= fun a => bare (f a) := by
  cases x <;> rfl

/-- The cause is about a value that is not what a record has in its place. -/
inductive Misfit : Cause → Prop where
  | missingKey (key : Value) : Misfit (.missingKey key)
  /-- A value has the wrong type. -/
  | wrongType (m : String) : Misfit (.wrongType m)
  /-- A word is none of those that are known. -/
  | invalid (m : String) : Misfit (.invalid m)

/-- The computation fails only over a misfit. -/
def Fitting {α : Type} (x : Except Cause α) : Prop := ∀ c, x = .error c → Misfit c

namespace Fitting

variable {α β : Type} {x : Except Cause α} {f : α → Except Cause β}

theorem ok (a : α) : Fitting (.ok a) := nofun

theorem error {c : Cause} (h : Misfit c) : Fitting (.error c : Except Cause α) := by
  rintro _ ⟨⟩
  exact h

theorem bind (hx : Fitting x) (hf : ∀ a, Fitting (f a)) : Fitting (x >>= f) := by
  cases x with
  | error c => exact error (hx c rfl)
  | ok a => exact hf a

theorem need (v : Value) (key : String) : Fitting (v.need key) := by
  cases v with
  | map es =>
    unfold Value.need
    dsimp only
    split
    · exact ok _
    · exact error (.missingKey _)
  | null | bool | int | float | text | date | moment | bytes | list | tuple | set | loop =>
    exact error (.wrongType _)

theorem elements (v : Value) : Fitting v.elements := by
  cases v with
  | null | bool | int | float | date | moment | loop => exact error (.wrongType _)
  | list | tuple | set | bytes | text | map => exact ok _

theorem read [Labelled α] (v : Value) : Fitting (Labelled.read v : Except Cause α) := by
  unfold Labelled.read
  split
  · exact ok _
  · exact error (.invalid _)

theorem lookIn (v : Value) (name : String) : Fitting (Descriptor.lookIn v name) := by
  cases v with
  | map es =>
    unfold Descriptor.lookIn
    dsimp only
    split
    · exact ok _
    · split
      · exact ok _
      · exact error (.missingKey _)
  | text s => exact need (.text s) name
  | list items => exact need (.list items) name
  | tuple items => exact need (.tuple items) name
  | null | bool | int | float | date | moment | bytes | set | loop => exact error (.wrongType _)

theorem build {look : String → Except Cause Value} (h : ∀ name, Fitting (look name))
    (kind : DescriptorKind) : Fitting (Descriptor.build look kind) := by
  cases kind with
  | oneWay => exact ok _
  | rootElement => exact (h _).bind fun _ => (h _).bind fun _ => ok _
  | soapBinding => exact (h _).bind fun _ => (h _).bind fun _ => (h _).bind fun _ => ok _
  | service | operation | result | parameter | faultMapping =>
    exact (h _).bind fun _ => (h _).bind fun _ => (h _).bind fun _ => (h _).bind fun _ => ok _
  | wrapper =>
    exact (h _).bind fun _ => (h _).bind fun _ => (h _).bind fun _ => (h _).bind fun _ =>
      (h _).bind fun _ => ok _

end Fitting

namespace Registry

/-- The registry is open and lies over no other. -/
structure OpenAlone (r : Registry) : Prop where
  opened : r.frozen = false
  /-- It lies over no other. -/
  alone : r.parent? = none

/-- Only the key decides over a write into a registry of its own. -/
theorem OpenAlone.recordLogged_cases {r : Registry} (hr : r.OpenAlone) (key : Value)
    (d : Descriptor) :
    key.truthy = false ∧ (r.recordLogged key d).result = .error (.of (.noKey d.kind.name)) ∨
    key.truthy = true ∧ key.hashable = false ∧
      (∃ m, (r.recordLogged key d).result = .error (.bare (.wrongType m))) ∨
    key.truthy = true ∧ key.hashable = true ∧
      ∃ r', (r.recordLogged key d).result = .ok r' ∧ r'.OpenAlone := by
  have hinherits : ∀ slot, r.inherits slot = false := fun slot => by rw [inherits, hr.alone]
  unfold recordLogged record
  rw [hr.opened]
  cases htruthy : key.truthy with
  | false => exact .inl ⟨rfl, rfl⟩
  | true =>
    cases hhash : key.hashable with
    | false =>
      rw [Value.asKey, hhash]
      exact .inr (.inl ⟨rfl, rfl, _, rfl⟩)
    | true =>
      have hkey : key.asKey = .ok key := by rw [Value.asKey, hhash]; rfl
      simp only [hkey, bare, ok_bind, hinherits]
      refine .inr (.inr ⟨trivial, trivial, _, rfl, ?_, ?_⟩)
      · simpa [frozen] using hr.opened
      · simpa using hr.alone

end Registry

namespace Metadata

variable {r : Registry} {v : Value} {vs : List Value} {c : Cause} {x : Except Failure Registry}
  {t : FileTree} {p : Path} {s : String} {content : Content} {room : Nat}

/-! ### Records -/

/-- The key and the descriptor that a record of a document gives. -/
def recordOf (v : Value) : Except Cause (Value × Descriptor) := do
  let key ← v.need "key"
  let kind ← v.need "kind" >>= Labelled.read
  let d ← v.need "fields" >>= Descriptor.ofFields kind
  return (key, d)

/-- The record has a descriptor, and a key that it can be found by. -/
def SoundRecord (v : Value) : Prop :=
  ∃ key d, recordOf v = .ok (key, d) ∧ key.truthy = true ∧ key.hashable = true

/-- The record has a descriptor, but its key is empty. -/
def KeylessRecord (v : Value) : Prop := ∃ key d, recordOf v = .ok (key, d) ∧ key.truthy = false

theorem fitting_recordOf (v : Value) : Fitting (recordOf v) :=
  (Fitting.need v "key").bind fun _ =>
    ((Fitting.need v "kind").bind Fitting.read).bind fun kind =>
      ((Fitting.need v "fields").bind fun fields => .build (.lookIn fields) kind).bind fun _ =>
        .ok _

theorem addRecord_result (r : Registry) (v : Value) : (addRecord r v).result =
    bare (recordOf v) >>= fun found => (r.recordLogged found.1 found.2).result := by
  simp only [addRecord, recordOf, Logged.result_bind, Logged.lift, bare_bind, bind_assoc]
  rfl

/-- What a registry of its own makes of a record. -/
inductive RecordOutcome (v : Value) : Except Failure Registry → Prop where
  | added {r : Registry} (h : SoundRecord v) (hr : r.OpenAlone) : RecordOutcome v (.ok r)
  /-- A record without a key is an error about the model. -/
  | keyless (h : KeylessRecord v) (kind : String) : RecordOutcome v (.error (.of (.noKey kind)))
  /-- Any other record is a misfit. -/
  | misfit {c : Cause} (h : ¬SoundRecord v) (h' : ¬KeylessRecord v) (hc : Misfit c) :
    RecordOutcome v (.error (.bare c))

theorem soundRecord_iff {key : Value} {d : Descriptor} (h : recordOf v = .ok (key, d)) :
    SoundRecord v ↔ key.truthy = true ∧ key.hashable = true := by
  simp [SoundRecord, h]

theorem keylessRecord_iff {key : Value} {d : Descriptor} (h : recordOf v = .ok (key, d)) :
    KeylessRecord v ↔ key.truthy = false := by
  simp [KeylessRecord, h]

theorem KeylessRecord.not_sound (h : KeylessRecord v) : ¬SoundRecord v := by
  obtain ⟨key, d, hfound, htruthy⟩ := h
  simp [soundRecord_iff hfound, htruthy]

theorem addRecord_outcome (hr : r.OpenAlone) (v : Value) :
    RecordOutcome v (addRecord r v).result := by
  rw [addRecord_result]
  cases hfound : recordOf v with
  | error c =>
    refine .misfit ?_ ?_ (fitting_recordOf v c hfound)
    · simp [SoundRecord, hfound]
    · simp [KeylessRecord, hfound]
  | ok found =>
    obtain ⟨key, d⟩ := found
    have hsound := soundRecord_iff hfound
    have hkeyless := keylessRecord_iff hfound
    show RecordOutcome v (r.recordLogged key d).result
    rcases hr.recordLogged_cases key d with
      ⟨htruthy, h⟩ | ⟨htruthy, hhash, m, h⟩ | ⟨htruthy, hhash, r', h, hr'⟩
    · rw [h]
      exact .keyless (hkeyless.2 htruthy) _
    · rw [h]
      exact .misfit (by simp [hsound, hhash]) (by simp [hkeyless, htruthy]) (.wrongType m)
    · rw [h]
      exact .added (hsound.2 ⟨htruthy, hhash⟩) hr'

/-- The first record that is not sound lacks its key. -/
def KeylessFirst : List Value → Prop
  | [] => False
  | v :: vs => KeylessRecord v ∨ SoundRecord v ∧ KeylessFirst vs

/-- What a registry of its own makes of records one after another. -/
inductive RecordsOutcome (vs : List Value) : Except Failure Registry → Prop where
  | added {r : Registry} (h : ∀ v ∈ vs, SoundRecord v) : RecordsOutcome vs (.ok r)
  /-- The first one that is not sound lacks its key. -/
  | keyless (h : KeylessFirst vs) (kind : String) : RecordsOutcome vs (.error (.of (.noKey kind)))
  /-- The first one that is not sound is a misfit. -/
  | misfit {c : Cause} (h : ¬∀ v ∈ vs, SoundRecord v) (h' : ¬KeylessFirst vs) (hc : Misfit c) :
    RecordsOutcome vs (.error (.bare c))

theorem addRecords_outcome (hr : r.OpenAlone) (vs : List Value) :
    RecordsOutcome vs (addRecords r vs).result := by
  -- What is carried along is that the registry stays open and alone, so that only keys decide.
  induction vs generalizing r with
  | nil => exact .added nofun
  | cons v vs ih =>
    rw [addRecords, Logged.result_bind]
    have hv := addRecord_outcome hr v
    generalize (addRecord r v).result = y at hv ⊢
    cases hv with
    | keyless h kind =>
      have hfirst : KeylessFirst (v :: vs) := .inl h
      exact .keyless hfirst kind
    | misfit h h' hc =>
      exact .misfit (fun hall => h (hall v List.mem_cons_self))
        (fun hk => hk.elim h' fun hk => h hk.1) hc
    | @added r' h hr' =>
      have hvs := ih hr'
      show RecordsOutcome (v :: vs) (addRecords r' vs).result
      generalize (addRecords r' vs).result = z at hvs ⊢
      cases hvs with
      | added hall => exact .added (List.forall_mem_cons.2 ⟨h, hall⟩)
      | keyless hk kind =>
        have hfirst : KeylessFirst (v :: vs) := .inr ⟨h, hk⟩
        exact .keyless hfirst kind
      | misfit hall hk hc =>
        exact .misfit (fun hall' => hall (List.forall_mem_cons.1 hall').2)
          (fun hk' => hk'.elim (fun hv => hv.not_sound h) fun hk' => hk hk'.2) hc

/-! ### Documents -/

/-- The records of a document. -/
def recordsOf (v : Value) : Except Cause (List Value) := v.need "records" >>= Value.elements

/-- The document says that it is binding metadata of this version. -/
def Declared (v : Value) : Prop :=
  (∃ format, v.get "format" = .ok format ∧ (format == .text formatName) = true) ∧
    ∃ found, v.get "version" = .ok found ∧ (found == .int version) = true

/-- The document says what it is, and all its records are sound. -/
def SoundDocument (v : Value) : Prop :=
  Declared v ∧ ∃ vs, recordsOf v = .ok vs ∧ ∀ u ∈ vs, SoundRecord u

/-- The document says what it is, and its first record that is not sound lacks its key. -/
def KeylessDocument (v : Value) : Prop :=
  Declared v ∧ ∃ vs, recordsOf v = .ok vs ∧ KeylessFirst vs

/-- Reading ends with a closed registry or with an error about the metadata. -/
def Settles (x : Except Failure Registry) : Prop :=
  (∃ r, x = .ok r ∧ r.frozen = true) ∨ ∃ e, x = .error (.error e) ∧ e.kind = .persistence

theorem not_settles_bare : ¬Settles (.error (.bare c)) := by
  rintro (⟨r, hr, -⟩ | ⟨e, he, -⟩)
  · cases hr
  · cases he

/-- How reading a document ends. -/
inductive DocumentResult (v : Value) : Except Failure Registry → Prop where
  | closed {r : Registry} (h : SoundDocument v) (hr : r.frozen = true) : DocumentResult v (.ok r)
  /-- A document without a key is an error about the model. -/
  | keyless (h : KeylessDocument v) (kind : String) :
    DocumentResult v (.error (.of (.noKey kind)))
  /-- Any other mapping is an error about the metadata. -/
  | refused {e : Error} (hmap : ∃ es, v = .map es) (h : ¬SoundDocument v) (h' : ¬KeylessDocument v)
    (he : e.kind = .persistence) : DocumentResult v (.error (.error e))
  /-- What is no mapping lacks a member that mappings have. -/
  | shapeless (h : ∀ es, v ≠ .map es) (m : String) :
    DocumentResult v (.error (.bare (.noMember m)))

theorem shapeless_get (h : ∀ es, v ≠ .map es) (key : String) :
    v.get key = .error (v.lacks "get") := by
  cases v with
  | map es => exact absurd rfl (h es)
  | null | bool | int | float | text | date | moment | bytes | list | tuple | set | loop => rfl

theorem KeylessFirst.not_sound (h : KeylessFirst vs) : ¬∀ v ∈ vs, SoundRecord v := by
  induction vs with
  | nil => exact h.elim
  | cons v vs ih =>
    intro hall
    obtain ⟨hv, hvs⟩ := List.forall_mem_cons.1 hall
    exact h.elim (fun h => h.not_sound hv) fun h => ih h.2 hvs

theorem malformed_of_misfit (h : Misfit c) :
    ∃ e, malformed (.bare c) = .error e ∧ e.kind = .persistence := by
  cases h <;> exact ⟨_, rfl, rfl⟩

/-- What becomes of the records decides over a document that says what it is. -/
theorem ofDocument_of_declared (h : Declared v) : (ofDocument v).result =
    ((bare (recordsOf v) >>= fun vs => (addRecords .empty vs).result).mapError malformed).map
      Registry.freeze := by
  obtain ⟨⟨format, hformat, hf⟩, found, hfound, hv⟩ := h
  have hok : ∀ w, bare (.ok w : Except Cause Value) = .ok w := fun _ => rfl
  simp only [ofDocument, hformat, hfound, hok, Logged.lift_ok_bind, hf, hv, Bool.not_true,
    Bool.false_eq_true, if_false]
  simp only [Logged.result_bind, Logged.lift, recordsOf]
  cases (bare (v.need "records" >>= Value.elements) >>= fun vs =>
    (addRecords .empty vs).result).mapError malformed <;> rfl

theorem ofDocument_result_of_declared (hmap : ∃ es, v = .map es) (h : Declared v) :
    DocumentResult v (ofDocument v).result := by
  rw [ofDocument_of_declared h]
  cases hrecords : recordsOf v with
  | error c =>
    obtain ⟨e, he, hkind⟩ := malformed_of_misfit
      (((Fitting.need v "records").bind Fitting.elements) c hrecords)
    have hno : ∀ {P : List Value → Prop}, ¬∃ vs, recordsOf v = .ok vs ∧ P vs := by
      rintro P ⟨vs, h, -⟩
      cases hrecords.symm.trans h
    show DocumentResult v (.error (malformed (.bare c)))
    rw [he]
    exact .refused hmap (fun h => hno h.2) (fun h => hno h.2) hkind
  | ok vs =>
    have hall : ∀ {P : List Value → Prop}, (∃ vs, recordsOf v = .ok vs ∧ P vs) → P vs := by
      rintro P ⟨vs', h, hP⟩
      cases hrecords.symm.trans h
      exact hP
    have hvs := addRecords_outcome (r := .empty) ⟨rfl, rfl⟩ vs
    show DocumentResult v (((addRecords .empty vs).result.mapError malformed).map Registry.freeze)
    generalize (addRecords .empty vs).result = x at hvs ⊢
    cases hvs with
    | @added r hadded => exact .closed ⟨h, vs, hrecords, hadded⟩ (by cases r <;> rfl)
    | keyless hkeyless kind => exact .keyless ⟨h, vs, hrecords, hkeyless⟩ kind
    | @misfit c hsound hkeyless hc =>
      obtain ⟨e, he, hkind⟩ := malformed_of_misfit hc
      show DocumentResult v (.error (malformed (.bare c)))
      rw [he]
      exact .refused hmap (fun hs => hsound (hall hs.2)) (fun hk => hkeyless (hall hk.2)) hkind

theorem ofDocument_result_of_not_declared {es : List (Value × Value)} (h : ¬Declared (.map es)) :
    DocumentResult (.map es) (ofDocument (.map es)).result := by
  have hrefused : ∀ {e : Error}, e.kind = .persistence →
      DocumentResult (.map es) (.error (.error e)) :=
    .refused ⟨es, rfl⟩ (fun hs => h hs.1) fun hk => h hk.1
  obtain ⟨format, hformat⟩ : ∃ w, (Value.map es).get "format" = .ok w := ⟨_, rfl⟩
  obtain ⟨found, hfound⟩ : ∃ w, (Value.map es).get "version" = .ok w := ⟨_, rfl⟩
  simp only [ofDocument, hformat, bare, Logged.lift_ok_bind]
  cases hf : format == .text formatName with
  | false => exact hrefused rfl
  | true =>
    simp only [hfound, Logged.lift_ok_bind]
    cases hv : found == .int version with
    | false => exact hrefused rfl
    | true => exact absurd ⟨⟨format, hformat, hf⟩, found, hfound, hv⟩ h

theorem ofDocument_result (v : Value) : DocumentResult v (ofDocument v).result := by
  by_cases hmap : ∃ es, v = .map es
  · by_cases hdeclared : Declared v
    · exact ofDocument_result_of_declared hmap hdeclared
    · obtain ⟨es, rfl⟩ := hmap
      exact ofDocument_result_of_not_declared hdeclared
  · have hmap : ∀ es, v ≠ .map es := fun es h => hmap ⟨es, h⟩
    rw [ofDocument, shapeless_get hmap]
    exact .shapeless hmap _

/-- **Which documents settle.** -/
theorem DocumentResult.settles_iff (h : DocumentResult v x) :
    Settles x ↔ (∃ es, v = .map es) ∧ ¬KeylessDocument v := by
  cases h with
  | closed h hr =>
    refine iff_of_true (.inl ⟨_, rfl, hr⟩) ⟨?_, ?_⟩
    · by_contra hmap
      obtain ⟨⟨format, hformat, -⟩, -⟩ := h.1
      rw [shapeless_get fun es h => hmap ⟨es, h⟩] at hformat
      cases hformat
    · rintro ⟨-, vs, hvs, hk⟩
      obtain ⟨-, vs', hvs', hall⟩ := h
      cases hvs.symm.trans hvs'
      exact hk.not_sound hall
  | keyless h kind =>
    refine iff_of_false ?_ fun h' => h'.2 h
    rintro (⟨r, hr, -⟩ | ⟨e, he, hkind⟩)
    · cases hr
    · cases he
      cases hkind
  | refused hmap h h' he => exact iff_of_true (.inr ⟨_, rfl, he⟩) ⟨hmap, h'⟩
  | shapeless h m => exact iff_of_false not_settles_bare fun ⟨⟨es, hes⟩, _⟩ => h es hes

/-! ### Files -/

/-- How reading a file with some content ends, if the stack has some room. -/
inductive FileResult (p : Path) (room : Nat) : Content → Except Failure Registry → Prop where
  /-- A text with a JSON value ends like the document. -/
  | document {s : String} {v : Value} {x : Except Failure Registry}
    (h : Json.read (Text.unifyNewlines s) room = .ok v) (hx : DocumentResult v x) :
    FileResult p room (.text s) x
  /-- A text that is no JSON is an error about the metadata. -/
  | malformed {s m : String} (h : Json.read (Text.unifyNewlines s) room = .error (.json m)) :
    FileResult p room (.text s) (.error (.of (.cannotReadBindings p.text) [] (some (.json m))))
  /-- An integer with too many digits escapes. -/
  | long {s m : String} (h : Json.read (Text.unifyNewlines s) room = .error (.invalid m))
    (hrun : Json.LongRun (Text.unifyNewlines s).toList) :
    FileResult p room (.text s) (.error (.bare (.invalid m)))
  /-- A text with more brackets inside each other than there is room for escapes. -/
  | deep {s m : String} (h : Json.read (Text.unifyNewlines s) room = .error (.recursion m))
    (hdeep : room < (Text.unifyNewlines s).toList.countP Json.isOpening) :
    FileResult p room (.text s) (.error (.bare (.recursion m)))
  /-- Bytes that are no text escape. -/
  | binary {content : Content} (h : ∀ s, content ≠ .text s) (m : String) :
    FileResult p room content (.error (.bare (.undecodable m)))

/-- The file is a text, and reading it settles. -/
def Regular (room : Nat) : Content → Prop
  | .text s =>
    match Json.read (Text.unifyNewlines s) room with
    | .ok v => (∃ es, v = .map es) ∧ ¬KeylessDocument v
    | .error c => ∃ m, c = .json m
  | _ => False

theorem loadRegistry_of_readJson_ok (h : readJson t p room = .ok v) :
    (loadRegistry t p room).result = (ofDocument v).result := by
  rw [loadRegistry, h, Logged.result_bind]
  rfl

theorem loadRegistry_of_readJson_error (h : readJson t p room = .error c) :
    (loadRegistry t p room).result = .error (unreadable (.cannotReadBindings p.text) c) := by
  rw [loadRegistry, h, Logged.result_bind]
  rfl

theorem loadRegistry_result (hread : t.read p = .ok content) :
    FileResult p room content (loadRegistry t p room).result := by
  cases content with
  | text s =>
    have hjson : readJson t p room = Json.read (Text.unifyNewlines s) room := by
      rw [readJson, FileTree.readText, hread]
      rfl
    rcases Json.read_cases (Text.unifyNewlines s) room with
      ⟨v, hv, -⟩ | ⟨m, hm⟩ | ⟨m, hm, hrun⟩ | ⟨m, hm, hdeep⟩
    · rw [loadRegistry_of_readJson_ok (hjson.trans hv)]
      exact .document hv (ofDocument_result v)
    · rw [loadRegistry_of_readJson_error (hjson.trans hm)]
      exact .malformed hm
    · rw [loadRegistry_of_readJson_error (hjson.trans hm)]
      exact .long hm hrun
    · rw [loadRegistry_of_readJson_error (hjson.trans hm)]
      exact .deep hm hdeep
  | bytes | archive =>
    have hjson : ∃ m, readJson t p room = .error (.undecodable m) := by
      rw [readJson, FileTree.readText, hread]
      exact ⟨_, rfl⟩
    obtain ⟨m, hjson⟩ := hjson
    rw [loadRegistry_of_readJson_error hjson]
    exact .binary (fun _ h => by cases h) m

/-- **Which files settle.** -/
theorem FileResult.settles_iff (h : FileResult p room content x) :
    Settles x ↔ Regular room content := by
  cases h with
  | document h hx => rw [hx.settles_iff, Regular, h]
  | malformed h =>
    rw [Regular, h]
    exact iff_of_true (.inr ⟨_, rfl, rfl⟩) ⟨_, rfl⟩
  | long h _ | deep h _ =>
    rw [Regular, h]
    exact iff_of_false not_settles_bare fun ⟨_, hm⟩ => nomatch hm
  | binary h m =>
    refine iff_of_false not_settles_bare fun hregular => ?_
    cases content with
    | text s => exact h s rfl
    | bytes | archive => exact hregular

/-- **How the reading of binding metadata ends.**  A document settles if and only if it is a mapping
whose first record that is not sound, if there is one, does not lack its key; a file settles if and
only if it is a text that is no JSON or the JSON of such a document.  What escapes from the others
is said by `DocumentResult` and `FileResult`.  All of this holds whatever room there is on the stack
when the file is read. -/
theorem reading_settles (v : Value) (t : FileTree) (p : Path) (content : Content) (room : Nat)
    (hread : t.read p = .ok content) :
    (DocumentResult v (ofDocument v).result ∧
      (Settles (ofDocument v).result ↔ (∃ es, v = .map es) ∧ ¬KeylessDocument v)) ∧
    FileResult p room content (loadRegistry t p room).result ∧
      (Settles (loadRegistry t p room).result ↔ Regular room content) :=
  ⟨⟨ofDocument_result v, (ofDocument_result v).settles_iff⟩, loadRegistry_result hread,
    (loadRegistry_result hread).settles_iff⟩

/-- A document with one record. -/
def oneRecord (key : String) : Value :=
  .record [("format", .text formatName), ("version", .int version),
    ("records", .list [.record [("key", .text key), ("kind", .text "one-way"),
      ("fields", .record [])]])]

/-- A directory with one file of metadata. -/
def oneFile (content : Content) : FileTree := ⟨[(["x.bindings.json"], .file content)]⟩

theorem read_oneFile (content : Content) :
    (oneFile content).read ⟨"", ["x.bindings.json"]⟩ = .ok content := rfl

/-- A record with a key settles, as a document and in a file. -/
theorem reading_settles_one_record :
    let v := oneRecord "desk.Bell.ring"
    let p : Path := ⟨"", ["x.bindings.json"]⟩
    let content : Content := .text (Json.render .line v)
    (oneFile content).read p = .ok content ∧ Settles (ofDocument v).result ∧
      FileResult p Json.room content (loadRegistry (oneFile content) p).result := by
  intro v p content
  obtain ⟨⟨-, hdocument⟩, hfile, -⟩ := reading_settles v _ p content _ (read_oneFile content)
  refine ⟨read_oneFile content, hdocument.2 ⟨⟨_, rfl⟩, ?_⟩, hfile⟩
  rintro ⟨-, vs, hvs, hkeyless⟩
  cases hvs
  rcases hkeyless with ⟨key, d, hfound, hkey⟩ | ⟨-, hkeyless⟩
  · cases hfound
    cases hkey
  · exact hkeyless

/-- Bytes that are no text, a list and a record without a key do not settle. -/
theorem reading_escapes :
    let p : Path := ⟨"", ["x.bindings.json"]⟩
    ¬Settles (loadRegistry (oneFile (.ofBytes [0xff])) p).result ∧
      ¬Settles (loadRegistry (oneFile (.text "[]")) p).result ∧
      ¬Settles (ofDocument (oneRecord "")).result := by
  refine ⟨?_, ?_, ?_⟩
  · have hbytes : Content.ofBytes [0xff] = .bytes [0xff] := rfl
    rw [hbytes]
    exact not_settles_bare
  · exact not_settles_bare
  · rintro (⟨r, hr, -⟩ | ⟨e, he, hkind⟩)
    · cases hr
    · cases he
      cases hkind

end Metadata

end SoapStubs
