import SoapStubs.Descriptor
import SoapStubs.Proofs.Ordered
import SoapStubs.Proofs.Outcome

/-!
# Simple descriptors

The fields of the descriptors that are made from models and read from documents are texts, truth
values, missing values and lists of texts.  On these, equality of data is equality.

* `Value.Simple` are such values, `Descriptor.Simple` are descriptors with such fields;
* `Value.Simple.beq_iff` and `Descriptor.Simple.beq_iff` say that `==` is equality on them;
* `Descriptor.ofFields_record` says that a simple descriptor is made again from its fields.
-/

namespace SoapStubs

/-! ### Fields -/

namespace Value

/-- The value is a text, a truth value, no value or a list of texts that cannot change. -/
inductive Simple : Value → Prop
  /-- No value. -/
  | null : Simple .null
  /-- A truth value. -/
  | bool (b : Bool) : Simple (.bool b)
  | text (s : String) : Simple (.text s)
  | texts (items : List String) : Simple (.tuple (items.map .text))

theorem text_beq (s t : String) : (Value.text s == .text t) = (s == t) := rfl

theorem equalsList_iff {vs ws : List Value}
    (h : ∀ v ∈ vs, ∀ w ∈ ws, (v == w) = true ↔ v = w) : equalsList vs ws = true ↔ vs = ws := by
  induction vs generalizing ws with
  | nil => cases ws <;> simp [equalsList]
  | cons v vs ih =>
    cases ws with
    | nil => simp [equalsList]
    | cons w ws =>
      have hv : equals v w = true ↔ v = w := h v List.mem_cons_self w List.mem_cons_self
      rw [equalsList, Bool.and_eq_true, hv, ih fun v hv w hw =>
        h v (List.mem_cons_of_mem _ hv) w (List.mem_cons_of_mem _ hw), List.cons.injEq]

theorem Simple.beq_iff {v w : Value} (hv : v.Simple) (hw : w.Simple) :
    (v == w) = true ↔ v = w := by
  -- a truth value may equal a number that it is not, but numbers are not simple
  cases hv with
  | null =>
    cases hw with
    | null => exact iff_of_true rfl rfl
    | _ => exact iff_of_false nofun nofun
  | bool b =>
    cases hw with
    | bool c =>
      cases b <;> cases c
      · exact iff_of_true rfl rfl
      · exact iff_of_false nofun nofun
      · exact iff_of_false nofun nofun
      · exact iff_of_true rfl rfl
    | _ => exact iff_of_false nofun nofun
  | text s =>
    cases hw with
    | text t => simp [text_beq]
    | _ => exact iff_of_false nofun nofun
  | texts items =>
    cases hw with
    | texts items' =>
      have htexts : ∀ v ∈ items.map Value.text, ∀ w ∈ items'.map Value.text,
          (v == w) = true ↔ v = w := by
        simp [text_beq]
      rw [tuple.injEq]
      exact equalsList_iff htexts
    | _ => exact iff_of_false nofun nofun

theorem field?_record (fields : List (String × Value)) (key : String) :
    (record fields).field? key = Ordered.get? fields key := by
  induction fields with
  | nil => rfl
  | cons p fields ih =>
    rw [Ordered.get?_cons]
    simp only [field?, record, List.map_cons, List.find?_cons, text_beq] at ih ⊢
    cases h : p.1 == key
    · exact ih
    · rfl

end Value

namespace Descriptor

/-- All fields are simple. -/
def Simple (d : Descriptor) : Prop := ∀ p ∈ d.entries, p.2.Simple

/-- Descriptors of one kind with the same fields are the same. -/
theorem ext_entries {d e : Descriptor} (hk : d.kind = e.kind)
    (h : d.entries.map Prod.snd = e.entries.map Prod.snd) : d = e := by
  cases d <;> cases e <;> simp_all [kind, entries]

theorem Simple.beq_iff {d e : Descriptor} (hd : d.Simple) (he : e.Simple) :
    (d == e) = true ↔ d = e := by
  have hfields : Value.equalsList (d.entries.map Prod.snd) (e.entries.map Prod.snd) = true ↔
      d.entries.map Prod.snd = e.entries.map Prod.snd := by
    refine Value.equalsList_iff fun v hv w hw => ?_
    obtain ⟨p, hp, rfl⟩ := List.mem_map.1 hv
    obtain ⟨q, hq, rfl⟩ := List.mem_map.1 hw
    exact (hd p hp).beq_iff (he q hq)
  show (d.kind == e.kind && Value.equalsList _ _) = true ↔ d = e
  rw [Bool.and_eq_true, beq_iff_eq, hfields]
  constructor
  · rintro ⟨hk, h⟩
    exact ext_entries hk h
  · rintro rfl
    exact ⟨rfl, rfl⟩

theorem freeze_thaw {v : Value} (h : v.Simple) : freeze (thaw v) = v := by
  cases h <;> rfl

theorem entries_distinct (d : Descriptor) : d.entries.Pairwise fun p q => p.1 ≠ q.1 := by
  cases d <;> simp [entries]

theorem build_kind {d : Descriptor} {look : String → Except Cause Value}
    (h : ∀ p ∈ d.entries, look p.1 = .ok p.2) : build look d.kind = .ok d := by
  cases d <;> simp_all [build, kind, entries]

theorem fields_distinct (d : Descriptor) : d.fields.Pairwise fun p q => p.1 ≠ q.1 :=
  List.pairwise_map.2 d.entries_distinct

/-- **A descriptor is made again from its fields.** -/
theorem ofFields_record {d : Descriptor} (h : d.Simple) :
    ofFields d.kind (.record d.fields) = .ok d := by
  refine build_kind fun p hp => ?_
  have hget : Ordered.get? d.fields p.1 = some (thaw p.2) :=
    Ordered.get?_of_mem d.fields_distinct (List.mem_map_of_mem hp)
  have hfield := (Value.field?_record d.fields p.1).trans hget
  unfold Value.record at hfield ⊢
  rw [lookIn, hfield]
  exact congrArg Except.ok (freeze_thaw (h p hp))

end Descriptor

end SoapStubs
