import SoapStubs.Proofs.Descriptor
import SoapStubs.Proofs.JsonValue
import SoapStubs.Proofs.Persist
import SoapStubs.Proofs.Registry

/-!
# Metadata is read back

The binding metadata that is written for a run is the registry that is read from the file.

* `Metadata.addRecords_slots` says that writing the records of a sound registry one after another
  makes a registry with the same slots;
* `Metadata.plain_document` says that JSON has a form of its own for the document;
* `Metadata.loadRegistry_persist` is the whole way: through the text and the file and back.
-/

namespace SoapStubs

namespace Logged

theorem lift_ok_bind {α β : Type} (a : α) (f : α → Logged β) : (lift (.ok a) >>= f) = f a := rfl

end Logged

theorem labelled_read_name (kind : DescriptorKind) :
    Labelled.read (.text kind.name) = .ok kind := by
  cases kind <;> rfl

theorem Json.plain_record {room : Nat} {fields : List (String × Value)}
    (hd : fields.Pairwise fun p q => p.1 ≠ q.1) (h : ∀ p ∈ fields, Json.Plain room p.2) :
    Json.Plain (room + 1) (.record fields) := by
  have hne : ∀ {p q : String × Value}, p.1 ≠ q.1 → (Value.text p.1 == .text q.1) = false :=
    fun {p q} h => show (p.1 == q.1) = false from beq_eq_false_iff_ne.2 h
  refine .map _ ?_ (List.pairwise_map.2 (hd.imp hne)) ?_
  · intro e he
    obtain ⟨p, -, rfl⟩ := List.mem_map.1 he
    exact ⟨p.1, rfl⟩
  · intro e he
    obtain ⟨p, hp, rfl⟩ := List.mem_map.1 he
    exact h p hp

namespace Metadata

open Registry FileTree

variable {r : Registry} {record : Record} {run : String} {variant : Option String} {room : Nat}

/-! ### Records -/

/-- The key of the record is a text, and its descriptor is simple. -/
def SimpleRecord (record : Record) : Prop :=
  (∃ s, record.key = .text s) ∧ record.descriptor.Simple

/-- Reading a record is writing it into a registry. -/
theorem addRecord_recordValue (h : record.descriptor.Simple) :
    addRecord r (recordValue record) = r.recordLogged record.key record.descriptor := by
  have hneed : ∀ fields : List (String × Value), ∀ key v, Ordered.get? fields key = some v →
      (Value.record fields).need key = .ok v := by
    intro fields key v hget
    have hfield := (Value.field?_record fields key).trans hget
    unfold Value.record at hfield ⊢
    rw [Value.need, hfield]
  rw [addRecord, recordValue, hneed _ "key" record.key rfl, hneed _ "kind" (.text record.kind.name)
    rfl, hneed _ "fields" (.record record.descriptor.fields) rfl]
  have hkind : (Except.ok (.text record.kind.name) >>= Labelled.read :
      Except Cause DescriptorKind) = .ok record.kind := labelled_read_name _
  have hfields : (Except.ok (.record record.descriptor.fields) >>=
      Descriptor.ofFields record.kind : Except Cause Descriptor) = .ok record.descriptor :=
    Descriptor.ofFields_record h
  rw [hkind]
  simp only [bare, Logged.lift_ok_bind, hfields]

/-- Writing records with different slots one after another puts them behind what is there. -/
theorem addRecords_slots {todo : Ordered Slot Descriptor} : ∀ {done : Ordered Slot Descriptor},
    (done ++ todo).Pairwise (fun e e' => (e.1 == e'.1) = false) →
    (∀ e ∈ todo, e.1.2 = e.2.kind ∧ e.1.1.truthy = true ∧ SimpleRecord ⟨e.1.1, e.2⟩) →
    addRecords (.base ⟨done, [], false⟩) (todo.map fun e => recordValue ⟨e.1.1, e.2⟩) =
      ⟨[], .ok (.base ⟨done ++ todo, [], false⟩)⟩ := by
  induction todo with
  | nil =>
    intro done _ _
    rw [List.append_nil]
    rfl
  | cons e todo ih =>
    intro done hdistinct hrecords
    obtain ⟨hkind, htruthy, ⟨s, hs⟩, hsimple⟩ := hrecords e List.mem_cons_self
    have hslot : (e.1.1, e.2.kind) = e.1 := by rw [← hkind]
    have hfresh : Ordered.get? done (e.1.1, e.2.kind) = none := by
      rw [hslot, Ordered.get?_eq_none_iff]
      exact fun e' he' => (List.pairwise_append.1 hdistinct).2.2 e' he' e List.mem_cons_self
    have hrecord : Registry.recordLogged (.base ⟨done, [], false⟩) e.1.1 e.2 =
        ⟨[], .ok (.base ⟨done ++ [e], [], false⟩)⟩ := by
      have hkey : e.1.1.hashable = true := by rw [show e.1.1 = .text s from hs]; rfl
      have hok : Registry.record (.base ⟨done, [], false⟩) e.1.1 e.2 =
          .ok (.base ⟨done ++ [((e.1.1, e.2.kind), e.2)], [], false⟩, none) :=
        record_ok rfl htruthy hkey rfl hfresh
      rw [recordLogged, hok, hslot]
      rfl
    rw [List.map_cons, addRecords, addRecord_recordValue hsimple]
    simp only [hrecord]
    rw [show done ++ e :: todo = done ++ [e] ++ todo by simp] at hdistinct ⊢
    exact ih hdistinct fun e' he' => hrecords e' (List.mem_cons_of_mem _ he')

/-! ### Documents -/

theorem plain_thaw {v : Value} (h : v.Simple) : Json.Plain (room + 1) (Descriptor.thaw v) := by
  cases h with
  | null => exact .null
  | bool b => exact .bool b
  | text s => exact .text s
  | texts items =>
    refine .list _ fun v hv => ?_
    obtain ⟨s, -, rfl⟩ := List.mem_map.1 hv
    exact .text s

theorem plain_recordValue (h : SimpleRecord record) :
    Json.Plain (room + 3) (recordValue record) := by
  obtain ⟨⟨s, hs⟩, hsimple⟩ := h
  have hfields : Json.Plain (room + 2) (.record record.descriptor.fields) := by
    refine Json.plain_record record.descriptor.fields_distinct fun p hp => ?_
    obtain ⟨q, hq, rfl⟩ := List.mem_map.1 hp
    exact plain_thaw (hsimple q hq)
  refine Json.plain_record (by simp) ?_
  simp only [List.mem_cons, List.not_mem_nil, or_false, forall_eq_or_imp, forall_eq, hs]
  exact ⟨.text s, .text _, hfields⟩

/-- JSON has a form of its own for the document of simple records. -/
theorem plain_document (h : ∀ record ∈ r.records, SimpleRecord record) :
    Json.Plain (room + 5) (document r (.text run) (.ofOption variant)) := by
  have hvariant : Json.Plain (room + 4) (.ofOption variant) := by
    cases variant with
    | none => exact .null
    | some s => exact .text s
  have hrecords : Json.Plain (room + 4) (.list (r.records.map recordValue)) := by
    refine .list _ fun v hv => ?_
    obtain ⟨record, hrecord, rfl⟩ := List.mem_map.1 hv
    exact plain_recordValue (h record hrecord)
  refine Json.plain_record (by simp) ?_
  simp only [List.mem_cons, List.not_mem_nil, or_false, forall_eq_or_imp, forall_eq]
  exact ⟨.text _, .int 1 (by decide), .text run, hvariant, hrecords⟩

/-- The document of a sound registry is read as a closed registry with the same slots. -/
theorem ofDocument_document {run variant : Value} (hr : Sound r)
    (h : ∀ record ∈ r.records, SimpleRecord record) :
    ofDocument (document r run variant) = ⟨[], .ok (.base ⟨r.slots, [], true⟩)⟩ := by
  have hrecords : r.records.map recordValue = r.slots.map fun e => recordValue ⟨e.1.1, e.2⟩ := by
    rw [records_eq, List.map_map]
    rfl
  have hadd : addRecords .empty (r.records.map recordValue) =
      ⟨[], .ok (.base ⟨r.slots, [], false⟩)⟩ := by
    rw [hrecords]
    refine @addRecords_slots _ [] (List.pairwise_map.1 hr.distinct) fun e he => ?_
    refine ⟨hr.kind e he, hr.truthy e he, h _ ?_⟩
    rw [records_eq]
    exact List.mem_map_of_mem he
  have hformat : (document r run variant).get "format" = .ok (.text formatName) := rfl
  have hversion : (document r run variant).get "version" = .ok (.int version) := rfl
  have hneed : ((document r run variant).need "records" >>= Value.elements) =
      .ok (r.records.map recordValue) := rfl
  have hf : (Value.text formatName == .text formatName) = true := rfl
  have hv : (Value.int version == .int version) = true := rfl
  simp only [ofDocument, hformat, hversion, hneed, bare, Logged.lift_ok_bind, hf, hv, hadd,
    Bool.not_true, Bool.false_eq_true, if_false]
  rfl

/-! ### The whole way -/

theorem same_of_records_eq {r' : Registry} (h : ∀ record ∈ r.records, SimpleRecord record)
    (heq : r'.records = r.records) : r'.same r = true := by
  have hself : ∀ record : Record, SimpleRecord record → (record == record) = true := by
    rintro record ⟨⟨s, hs⟩, hsimple⟩
    have hkey : (record.key == record.key) = true := by rw [hs]; exact beq_self_eq_true s
    change (record.key == record.key && record.descriptor == record.descriptor) = true
    rw [hkey, (hsimple.beq_iff hsimple).2 rfl]
    rfl
  rw [Registry.same, heq]
  generalize r.records = records at h
  induction records with
  | nil => rfl
  | cons record records ih =>
    change (record == record && records == records) = true
    rw [hself record (h record List.mem_cons_self),
      ih fun x hx => h x (List.mem_cons_of_mem _ hx)]
    rfl

/-- **Binding metadata is read back.**  A registry that can be reached, with texts as keys and
simple fields, is the one that is read from the file that was written for it: it has the same
records in the same order, is closed and has no conflicts. -/
theorem loadRegistry_persist {chance : Chance} (law : chance.Lawful) {t t' : FileTree} {q : Request}
    {events : List Event} {f : Files} (hr : r.Reachable)
    (h : ∀ record ∈ r.records, SimpleRecord record) (hq : q.registry = some r)
    (hp : persist chance t q = (t', ⟨events, .ok f⟩)) :
    ∃ r', loadRegistry t' f.bindings = ⟨[], .ok r'⟩ ∧ r'.records = r.records ∧
      r'.same r = true ∧ r'.frozen = true ∧ r'.conflicts = [] := by
  obtain ⟨man, hman⟩ : ∃ man, q.manifest = some man := by
    cases hman : q.manifest with
    | none => simp [persist, hman, Logged.lift] at hp
    | some man => exact ⟨man, rfl⟩
  obtain ⟨rfl, hwritten⟩ := persist_written (f := f) hman hq law (by rw [hp])
  rw [hp] at hwritten
  have hplain : Json.Plain Json.room (document r (.text q.run) (.ofOption q.variant)) :=
    @plain_document _ _ _ 985 h
  have hnewline : bindingsText r q.run q.variant =
      Json.render .indented (document r (.text q.run) (.ofOption q.variant)) ++
        String.ofList ['\n'] := rfl
  have htext : t'.readText q.files.bindings = .ok (bindingsText r q.run q.variant) := by
    have hread := hwritten.bindings
    simp only [readText, hread, ok_bind, hnewline]
    rw [Json.unifyNewlines_render hplain (by simp [Json.Unbroken])]
  have hjson : readJson t' q.files.bindings =
      .ok (document r (.text q.run) (.ofOption q.variant)) := by
    rw [readJson, htext, hnewline, ok_bind]
    exact Json.read_render hplain (by simp [Json.isGap])
  have hrecords : (Registry.base ⟨r.slots, [], true⟩).records = r.records := (records_eq r).symm
  refine ⟨.base ⟨r.slots, [], true⟩, ?_, hrecords, same_of_records_eq h hrecords, rfl, rfl⟩
  rw [loadRegistry, hjson]
  exact ofDocument_document hr.sound h

/-- A registry over a closed one, with characters that are escaped, is read back. -/
theorem loadRegistry_persist_overlay :
    let d : Descriptor := .wrapper (.text "é\"\n\\😀") .null (.text "request") (.text "c")
      (.tuple [.text "x", .text "y"])
    let below : Registry := .base ⟨[((.text "a.B.c", .oneWay), .oneWay)], [], true⟩
    let r : Registry := .overlay below ⟨[((.text "a.C", .wrapper), d)], [], false⟩
    let q : Request := ⟨some {}, some r, ⟨"", []⟩, "run", some "legacy"⟩
    ∃ r', loadRegistry (persist .none {} q).1 q.files.bindings = ⟨[], .ok r'⟩ ∧
      r'.records = r.records ∧ r'.same r = true ∧ r'.frozen = true ∧ r'.conflicts = [] := by
  intro d below r q
  have hbelow : below.Reachable :=
    .freeze (@Reachable.record .empty _ (.text "a.B.c") .oneWay none .empty rfl)
  have hr : r.Reachable :=
    @Reachable.record (.overlay below {}) _ (.text "a.C") d none (.above hbelow rfl) rfl
  have h : ∀ record ∈ r.records, SimpleRecord record := by
    intro record hrecord
    rcases List.mem_pair.1 hrecord with rfl | rfl
    · exact ⟨⟨_, rfl⟩, nofun⟩
    · refine ⟨⟨_, rfl⟩, ?_⟩
      simp only [Descriptor.Simple, d, Descriptor.entries, List.mem_cons, List.not_mem_nil,
        or_false, forall_eq_or_imp, forall_eq]
      exact ⟨.text _, .null, .text _, .text _, .texts ["x", "y"]⟩
  have hok : (persist .none {} q).2.result = .ok q.files := persist_succeeds_empty rfl
  exact loadRegistry_persist (.of_beside rfl) hr h rfl (Prod.ext rfl (congrArg (Logged.mk _) hok))

end Metadata

end SoapStubs
