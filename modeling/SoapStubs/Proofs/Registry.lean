import SoapStubs.Proofs.Ordered
import SoapStubs.Proofs.Outcome
import SoapStubs.Registry

/-!
# Registries that can be reached

What every sequence of writing, closing and laying registries over one another keeps.

* `Registry.record_inv` says all that a write does;
* `Registry.slots` are the slots of all layers, and `Registry.Sound` says that no slot is there
  twice: a layer may not redefine what is below it;
* `Registry.Reachable` registries are sound (`Registry.Reachable.sound`).
-/

namespace SoapStubs.Registry

variable {r r' : Registry} {key : Value} {d : Descriptor} {c : Option Conflict} {slot : Slot}

/-! ### Writing -/

/-- The conflict that writing a descriptor over what is in a slot leads to. -/
def conflictOf (key : Value) (d : Descriptor) : Option Descriptor → Option Conflict
  | none => none
  | some previous => if previous == d then none else some ⟨key, previous, d⟩

/-- A write that succeeds puts the descriptor into the slot of its kind. -/
theorem record_inv (h : r.record key d = .ok (r', c)) :
    r.frozen = false ∧ key.truthy = true ∧ r.inherits (key, d.kind) = false ∧
      c = conflictOf key d (r.own.slots.get? (key, d.kind)) ∧
      r' = r.withOwn { r.own with
        slots := r.own.slots.put (key, d.kind) d, conflicts := r.own.conflicts ++ c.toList } := by
  unfold record at h
  split at h
  · cases h
  rename_i hfrozen
  split at h
  · cases h
  rename_i htruthy
  obtain ⟨key', hkey, h⟩ := bind_eq_ok.1 h
  obtain rfl : key = key' := by
    have hkey := bare_eq_ok.1 hkey
    unfold Value.asKey at hkey
    split at hkey <;> cases hkey
    rfl
  dsimp only at h
  split at h
  · cases h
  rename_i hinherits
  simp only [pure_eq_ok, Except.ok.injEq, Prod.mk.injEq] at h
  obtain ⟨hr, hc⟩ := h
  have hconflict : c = conflictOf key d (r.own.slots.get? (key, d.kind)) := by
    rw [← hc]
    cases r.own.slots.get? (key, d.kind) <;> rfl
  refine ⟨by simpa using hfrozen, by simpa using htruthy, by simpa using hinherits, hconflict, ?_⟩
  rw [← hr, hc]

/-- A key that no layer has can be written. -/
theorem record_ok (hfrozen : r.frozen = false) (htruthy : key.truthy = true)
    (hkey : key.hashable = true) (hinherits : r.inherits (key, d.kind) = false)
    (hfresh : r.own.slots.get? (key, d.kind) = none) :
    r.record key d = .ok (r.withOwn { r.own with
      slots := r.own.slots ++ [((key, d.kind), d)] }, none) := by
  simp [record, hfrozen, htruthy, Value.asKey, hkey, hinherits, hfresh, bare,
    Ordered.put_of_get?_eq_none _ hfresh]

/-- A logged write is a write. -/
theorem recordLogged_inv (h : (r.recordLogged key d).result = .ok r') :
    ∃ c, r.record key d = .ok (r', c) := by
  unfold recordLogged at h
  split at h <;> cases h
  rename_i c hrecord
  exact ⟨c, hrecord⟩

theorem recordLogged_error {f : Failure} (h : (r.recordLogged key d).result = .error f) :
    r.record key d = .error f := by
  unfold recordLogged at h
  split at h <;> cases h
  assumption

/-! ### All layers -/

/-- The slots of all layers: those below first, each layer in the order of the first writes. -/
def slots : Registry → Ordered Slot Descriptor
  | .base own => own.slots
  | .overlay parent own => parent.slots ++ own.slots

/-- The slots of the layers below. -/
def inherited (r : Registry) : Ordered Slot Descriptor := (r.parent?.map slots).getD []

theorem slots_eq (r : Registry) : r.slots = r.inherited ++ r.own.slots := by
  cases r <;> rfl

theorem records_eq (r : Registry) : r.records = r.slots.map fun e => ⟨e.1.1, e.2⟩ := by
  induction r with
  | base own => rfl
  | overlay parent own ih => rw [records, slots, List.map_append, ih]; rfl

theorem lookup_eq_none_iff : r.lookup slot = none ↔ ∀ e ∈ r.slots, (e.1 == slot) = false := by
  induction r with
  | base own => exact Ordered.get?_eq_none_iff
  | overlay parent own ih =>
    simp only [lookup, Option.or_eq_none_iff, Ordered.get?_eq_none_iff, ih, slots,
      List.mem_append]
    exact ⟨fun ⟨h, h'⟩ e he => he.elim (h' e) (h e),
      fun h => ⟨fun e he => h e (.inr he), fun e he => h e (.inl he)⟩⟩

theorem inherits_eq_false_iff :
    r.inherits slot = false ↔ ∀ e ∈ r.inherited, (e.1 == slot) = false := by
  cases r with
  | base own => simp [inherits, inherited, parent?]
  | overlay parent own =>
    simp only [inherits, inherited, parent?, Option.map_some, Option.getD_some,
      Option.isSome_eq_false_iff, Option.isNone_iff_eq_none]
    exact lookup_eq_none_iff

@[simp] theorem own_withOwn (r : Registry) (own : Layer) : (r.withOwn own).own = own := by
  cases r <;> rfl

@[simp] theorem parent?_withOwn (r : Registry) (own : Layer) :
    (r.withOwn own).parent? = r.parent? := by
  cases r <;> rfl

@[simp] theorem inherited_withOwn (r : Registry) (own : Layer) :
    (r.withOwn own).inherited = r.inherited := by
  cases r <;> rfl

/-! ### Soundness -/

/-- No slot is there twice, a descriptor is in a slot of its kind, and no key is empty. -/
structure Sound (r : Registry) : Prop where
  /-- No slot is there twice. -/
  distinct : r.slots.keys.Pairwise fun s s' => (s == s') = false
  /-- A descriptor is in a slot of its kind. -/
  kind : ∀ e ∈ r.slots, e.1.2 = e.2.kind
  /-- No key is empty. -/
  truthy : ∀ e ∈ r.slots, e.1.1.truthy = true

theorem sound_empty : Sound empty := ⟨.nil, nofun, nofun⟩

/-- What a write leaves in the slots: the entries that were there, a new one, or the descriptor in
the place of one with an equal slot. -/
theorem mem_slots_record (hr : r.record key d = .ok (r', c)) {e : Slot × Descriptor}
    (he : e ∈ r'.slots) : e ∈ r.slots ∨ e = ((key, d.kind), d) ∨
      e.2 = d ∧ (e.1 == (key, d.kind)) = true ∧ ∃ b, (e.1, b) ∈ r.slots := by
  obtain ⟨-, -, -, -, rfl⟩ := record_inv hr
  simp only [slots_eq, own_withOwn, inherited_withOwn] at he ⊢
  rcases List.mem_append.1 he with he | he
  · exact .inl (List.mem_append_left _ he)
  · rcases Ordered.mem_put he with he | he | ⟨hd, hk, b, hb⟩
    · exact .inl (List.mem_append_right _ he)
    · exact .inr (.inl he)
    · exact .inr (.inr ⟨hd, hk, b, List.mem_append_right _ hb⟩)

theorem distinct_record (h : r.slots.keys.Pairwise fun s s' => (s == s') = false)
    (hr : r.record key d = .ok (r', c)) :
    r'.slots.keys.Pairwise fun s s' => (s == s') = false := by
  obtain ⟨-, -, hinherits, -, rfl⟩ := record_inv hr
  rw [inherits_eq_false_iff] at hinherits
  rw [slots_eq] at h ⊢
  simp only [own_withOwn, inherited_withOwn, Ordered.keys, List.map_append] at h ⊢
  by_cases hget : r.own.slots.get? (key, d.kind) = none
  · -- a new slot differs from those below, by the check, and from those of its layer
    rw [Ordered.put_of_get?_eq_none _ hget, List.map_append, ← List.append_assoc,
      List.pairwise_append]
    refine ⟨h, List.pairwise_singleton _ _, ?_⟩
    simp only [List.map_cons, List.map_nil, List.mem_singleton, List.mem_append, List.mem_map]
    rintro s (⟨e, he, rfl⟩ | ⟨e, he, rfl⟩) s' rfl
    · exact hinherits e he
    · exact Ordered.get?_eq_none_iff.1 hget e he
  · have hkeys := Ordered.keys_put_of_get?_ne_none d hget
    rw [Ordered.keys, Ordered.keys] at hkeys
    rwa [hkeys]

theorem Sound.record (h : Sound r) (hr : r.record key d = .ok (r', c)) : Sound r' := by
  obtain ⟨-, htruthy, -⟩ := record_inv hr
  refine ⟨distinct_record h.distinct hr, fun e he => ?_, fun e he => ?_⟩
  · rcases mem_slots_record hr he with he | rfl | ⟨hd, hk, -⟩
    · exact h.kind e he
    · rfl
    · rw [hd]
      have hk' : (e.1.1 == key && e.1.2 == d.kind) = true := hk
      simp only [Bool.and_eq_true, beq_iff_eq] at hk'
      exact hk'.2
  · rcases mem_slots_record hr he with he | rfl | ⟨-, -, b, hb⟩
    · exact h.truthy e he
    · exact htruthy
    · exact h.truthy (e.1, b) hb

theorem Sound.freeze (h : Sound r) : Sound r.freeze := by
  have hslots : r.freeze.slots = r.slots := by
    rw [slots_eq, slots_eq, Registry.freeze, own_withOwn, inherited_withOwn]
  exact ⟨hslots ▸ h.distinct, hslots ▸ h.kind, hslots ▸ h.truthy⟩

theorem Sound.above (h : Sound r) (ha : r.above = .ok r') : Sound r' := by
  unfold Registry.above at ha
  split at ha
  · cases ha
    have hslots : (overlay r {}).slots = r.slots := List.append_nil _
    exact ⟨hslots ▸ h.distinct, hslots ▸ h.kind, hslots ▸ h.truthy⟩
  · cases ha

/-- The registry comes about by writing, closing and laying registries over one another. -/
inductive Reachable : Registry → Prop
  /-- The empty registry. -/
  | empty : Reachable .empty
  /-- A write. -/
  | record {r r' : Registry} {key : Value} {d : Descriptor} {c : Option Conflict}
      (h : Reachable r) (hr : r.record key d = .ok (r', c)) : Reachable r'
  /-- Closing. -/
  | freeze {r : Registry} (h : Reachable r) : Reachable r.freeze
  /-- Laying a registry over another. -/
  | above {r r' : Registry} (h : Reachable r) (ha : r.above = .ok r') : Reachable r'

/-- **Every registry that can be reached is sound.** -/
theorem Reachable.sound (h : Reachable r) : Sound r := by
  induction h with
  | empty => exact sound_empty
  | record _ hr ih => exact ih.record hr
  | freeze _ ih => exact ih.freeze
  | above _ ha ih => exact ih.above ha

end SoapStubs.Registry
