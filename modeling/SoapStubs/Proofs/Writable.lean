import SoapStubs.Proofs.Persist

/-!
# Values that can be written

* `Json.nesting` is how deep a value is nested;
* `Json.Writable` says that a value has a form in JSON: everything but dates, bytes and sets,
  integers with too many digits and what is inside itself.  A list, a tuple or a mapping has one if
  its parts do;
* `Json.check_eq_ok_iff`: a value can be written if and only if it has a form, and room for it;
* `Metadata.check_document_iff`: the document of a registry can be written if and only if all fields
  of its descriptors have a form, and there is room for the document.
-/

namespace SoapStubs

namespace Json

variable {v w k : Value} {vs : List Value} {es : List (Value × Value)} {key : String} {room : Nat}

mutual

/-- How many lists and mappings are inside each other. -/
def nesting : Value → Nat
  | .list items => nestingItems items + 1
  | .tuple items => nestingItems items + 1
  | .map entries => nestingMembers entries + 1
  | _ => 0
termination_by structural v => v

/-- The greatest nesting of the items. -/
def nestingItems : List Value → Nat
  | [] => 0
  | v :: rest => max (nesting v) (nestingItems rest)
termination_by structural items => items

/-- The greatest nesting of the members. -/
def nestingMembers : List (Value × Value) → Nat
  | [] => 0
  | (_, v) :: rest => max (nesting v) (nestingMembers rest)
termination_by structural entries => entries

end

/-- The value has a form: it can be written if there is room for it. -/
def Writable (v : Value) : Prop := checkIn (nesting v) v = .ok ()

/-- The value can be the name of a member. -/
def IsMemberName : Value → Prop
  | .null | .bool _ | .float _ | .text _ => True
  | .int n => checkInt n = .ok ()
  | _ => False

instance : DecidablePred Writable := fun v =>
  decidable_of_iff ((checkIn (nesting v) v).isOk = true) (by
    unfold Writable
    cases checkIn (nesting v) v <;> simp [Except.isOk, Except.toBool])

theorem checkItems_cons : checkItems room (v :: vs) = .ok () ↔
    checkIn room v = .ok () ∧ checkItems room vs = .ok () := by
  rw [checkItems, then_eq_ok]

theorem checkMembers_cons : checkMembers room ((k, v) :: es) = .ok () ↔
    IsMemberName k ∧ checkIn room v = .ok () ∧ checkMembers room es = .ok () := by
  cases k with
  | null | bool | float | text => exact then_eq_ok.trans (by simp [IsMemberName])
  | int n => rw [checkMembers, then_eq_ok, then_eq_ok, IsMemberName]
  | date | moment | bytes | tuple | list | map | set | loop =>
    exact iff_of_false nofun fun ⟨h, _⟩ => h

theorem inside_eq_ok_iff {n : Nat} {next : Nat → Except Cause Unit}
    (h : ∀ room, next room = .ok () ↔ next n = .ok () ∧ n ≤ room) :
    inside room "" next = .ok () ↔ inside (n + 1) "" next = .ok () ∧ n + 1 ≤ room := by
  cases room with
  | zero => exact iff_of_false nofun fun ⟨_, hroom⟩ => absurd hroom (by omega)
  | succ room => exact (h room).trans (and_congr_right fun _ => Nat.succ_le_succ_iff.symm)

mutual

theorem checkIn_eq_ok_iff : ∀ (room : Nat) (v : Value),
    checkIn room v = .ok () ↔ checkIn (nesting v) v = .ok () ∧ nesting v ≤ room
  | _, .list vs | _, .tuple vs => inside_eq_ok_iff fun room => checkItems_eq_ok_iff room vs
  | _, .map es => inside_eq_ok_iff fun room => checkMembers_eq_ok_iff room es
  | _, .null | _, .bool _ | _, .float _ | _, .text _ | _, .int _ | _, .date _ | _, .moment _
  | _, .bytes _ | _, .set _ | _, .loop _ => (and_iff_left (Nat.zero_le _)).symm

theorem checkItems_eq_ok_iff : ∀ (room : Nat) (vs : List Value), checkItems room vs = .ok () ↔
    checkItems (nestingItems vs) vs = .ok () ∧ nestingItems vs ≤ room
  | _, [] => (and_iff_left (Nat.zero_le _)).symm
  | room, v :: vs => by
    rw [nestingItems, checkItems_cons, checkItems_cons, checkIn_eq_ok_iff room,
      checkItems_eq_ok_iff room, checkIn_eq_ok_iff (max _ _), checkItems_eq_ok_iff (max _ _)]
    simp only [Nat.le_max_left, Nat.le_max_right, and_true, Nat.max_le]
    exact and_and_and_comm

theorem checkMembers_eq_ok_iff : ∀ (room : Nat) (es : List (Value × Value)),
    checkMembers room es = .ok () ↔
      checkMembers (nestingMembers es) es = .ok () ∧ nestingMembers es ≤ room
  | _, [] => (and_iff_left (Nat.zero_le _)).symm
  | room, (k, v) :: es => by
    rw [nestingMembers, checkMembers_cons, checkMembers_cons, checkIn_eq_ok_iff room,
      checkMembers_eq_ok_iff room, checkIn_eq_ok_iff (max _ _), checkMembers_eq_ok_iff (max _ _)]
    simp only [Nat.le_max_left, Nat.le_max_right, and_true, Nat.max_le]
    exact (and_congr_right fun _ => and_and_and_comm).trans and_assoc.symm

end

/-- **What can be written**: what has a form, if there is room for it. -/
theorem check_eq_ok_iff : check v = .ok () ↔ Writable v ∧ nesting v ≤ Json.room :=
  checkIn_eq_ok_iff Json.room v

theorem writable_null : Writable .null := rfl

theorem writable_bool (b : Bool) : Writable (.bool b) := rfl

theorem writable_text (s : String) : Writable (.text s) := rfl

theorem writable_ofOption (s : Option String) : Writable (.ofOption s) := by cases s <;> rfl

theorem writable_nil : Writable (.list []) := rfl

theorem writable_empty : Writable (.map []) := rfl

theorem writable_list : Writable (.list vs) ↔ ∀ v ∈ vs, Writable v := by
  show checkItems (nestingItems vs) vs = .ok () ↔ _
  induction vs with
  | nil => exact iff_of_true rfl nofun
  | cons v vs ih =>
    rw [List.forall_mem_cons, ← ih, nestingItems, checkItems_cons, checkIn_eq_ok_iff,
      checkItems_eq_ok_iff, and_iff_left (Nat.le_max_left ..), and_iff_left (Nat.le_max_right ..),
      Writable]

theorem writable_tuple : Writable (.tuple vs) ↔ ∀ v ∈ vs, Writable v := writable_list

theorem writable_map : Writable (.map es) ↔ ∀ e ∈ es, IsMemberName e.1 ∧ Writable e.2 := by
  show checkMembers (nestingMembers es) es = .ok () ↔ _
  induction es with
  | nil => exact iff_of_true rfl nofun
  | cons e es ih =>
    obtain ⟨k, v⟩ := e
    rw [List.forall_mem_cons, ← ih, nestingMembers, checkMembers_cons, checkIn_eq_ok_iff,
      checkMembers_eq_ok_iff, and_iff_left (Nat.le_max_left ..), and_iff_left (Nat.le_max_right ..),
      Writable, and_assoc]

theorem writable_record {fields : List (String × Value)} :
    Writable (.record fields) ↔ ∀ p ∈ fields, Writable p.2 := by
  rw [Value.record, writable_map, List.forall_mem_map]
  exact forall₂_congr fun p _ => and_iff_right trivial

theorem IsMemberName.writable (h : IsMemberName k) : Writable k := by
  cases k with
  | null | bool | float | text => rfl
  | int n => exact h
  | date | moment | bytes | tuple | list | map | set | loop => cases h

end Json

/-! ### Registries -/

/-- All fields can be written. -/
def Descriptor.Writable (d : Descriptor) : Prop := ∀ p ∈ d.entries, Json.Writable p.2

/-- All keys and descriptors can be written. -/
def Registry.Writable (r : Registry) : Prop :=
  ∀ record ∈ r.records, Json.Writable record.key ∧ record.descriptor.Writable

namespace Metadata

theorem writable_thaw {v : Value} : Json.Writable (Descriptor.thaw v) ↔ Json.Writable v := by
  cases v <;> exact Iff.rfl

theorem writable_recordValue {record : Record} : Json.Writable (recordValue record) ↔
    Json.Writable record.key ∧ record.descriptor.Writable := by
  have hfields : Json.Writable (.record record.descriptor.fields) ↔ record.descriptor.Writable := by
    rw [Json.writable_record, Descriptor.fields, List.forall_mem_map]
    exact forall₂_congr fun p _ => writable_thaw
  simp [recordValue, Json.writable_record, hfields, Json.writable_text]

/-- There is room for the document of the registry. -/
def Fits (r : Registry) (run : String) (variant : Option String) : Prop :=
  Json.nesting (document r (.text run) (.ofOption variant)) ≤ Json.room

instance {r : Registry} {run : String} {variant : Option String} :
    Decidable (Fits r run variant) :=
  inferInstanceAs (Decidable (_ ≤ _))

/-- **When the document of a registry can be written.** -/
theorem check_document_iff {r : Registry} {run : String} {variant : Option String} :
    Json.check (document r (.text run) (.ofOption variant)) = .ok () ↔
      r.Writable ∧ Fits r run variant := by
  have hrecords : Json.Writable (.list (r.records.map recordValue)) ↔ r.Writable := by
    rw [Json.writable_list, List.forall_mem_map]
    exact forall₂_congr fun record _ => writable_recordValue
  have hversion : Json.Writable (.int version) := by decide
  have hdocument : Json.Writable (document r (.text run) (.ofOption variant)) ↔ r.Writable := by
    simp [document, Json.writable_record, Json.writable_text, Json.writable_ofOption, hrecords,
      hversion]
  rw [Json.check_eq_ok_iff, hdocument, Fits]

end Metadata

end SoapStubs
