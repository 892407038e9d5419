import SoapStubs.Proofs.FaultResolution
import SoapStubs.Proofs.RegistryWrites

/-!
# Writing over another registry

Descriptors are written one after another into a registry that lies over a closed one.

* `Registry.writeAll_inv`: only the layer of the registry itself changes, and it holds what the
  ledger of the writes has;
* `Registry.writeAll_cases`: the writes succeed unless one of them is into a slot that is below, and
  that is an integrity error;
* `Registry.conflicts_writeAll`: writing the same descriptors again is no conflict.
-/

namespace SoapStubs

namespace Ordered

variable {κ : Type u} {α : Type v} [BEq κ]

theorem ofList_concat (pairs : List (κ × α)) (p : κ × α) :
    ofList (pairs ++ [p]) = (ofList pairs).put p.1 p.2 := by
  simp [ofList, putAll]

section Determined

variable [LawfulBEq κ] {ι : Type w} {key : ι → κ} (value : ι → α)
  (hkey : ∀ i j, key i = key j → i = j)

include hkey in
theorem get?_map_of_mem {l : List ι} {j : ι} (h : j ∈ l) :
    get? (l.map fun i => (key i, value i)) (key j) = some (value j) := by
  induction l with
  | nil => cases h
  | cons i l ih =>
    rw [List.map_cons, get?_cons]
    by_cases hi : key i = key j
    · rw [if_pos (by simpa using hi), hkey i j hi]
    · have hne : j ≠ i := fun he => hi (by rw [he])
      rw [if_neg (by simpa using hi), ih ((List.mem_cons.1 h).resolve_left hne)]

include hkey in
theorem get?_map_of_notMem {l : List ι} {j : ι} (h : j ∉ l) :
    get? (l.map fun i => (key i, value i)) (key j) = none := by
  rw [get?_eq_none_iff_notMem, keys, List.map_map, List.mem_map]
  rintro ⟨i, hi, heq⟩
  rw [hkey i j heq] at hi
  exact h hi

include hkey in
/-- Pairs that one item determines are there once for each item, at the first places. -/
theorem ofList_map [BEq ι] [LawfulBEq ι] (l : List ι) :
    ofList (l.map fun i => (key i, value i)) = l.eraseDups.map fun i => (key i, value i) := by
  induction l using List.reverseRecOn with
  | nil => rfl
  | append_singleton l i ih =>
    rw [List.map_append, List.map_singleton, ofList_concat, ih, List.eraseDups_append]
    by_cases hi : i ∈ l
    · rw [put_of_get?_eq_some (get?_map_of_mem value hkey (List.mem_eraseDups.2 hi))]
      simp [List.removeAll, hi]
    · rw [put_of_get?_eq_none _ (get?_map_of_notMem value hkey (mt List.mem_eraseDups.1 hi))]
      simp [List.removeAll, hi, List.eraseDups_cons]

end Determined

end Ordered

namespace Registry

variable {r r' : Registry} {writes : List Write} {w : Write} {key : String} {kind : DescriptorKind}
  {d : Descriptor}

/-! ### The ledger -/

theorem mem_of_get?_ledger (h : (ledger writes).get? (key, kind) = some d) :
    (key, d) ∈ writes ∧ d.kind = kind := by
  induction writes using List.reverseRecOn with
  | nil => cases h
  | append_singleton writes w ih =>
    rw [ledger_concat, Ordered.get?_put] at h
    split at h
    · rename_i hslot
      obtain ⟨rfl, rfl⟩ := Prod.mk.inj hslot
      obtain rfl := Option.some.inj h
      exact ⟨List.mem_append_right _ (List.mem_singleton.2 rfl), rfl⟩
    · obtain ⟨hmem, hkind⟩ := ih h
      exact ⟨List.mem_append_left _ hmem, hkind⟩

theorem get?_ledger_ne_none (hw : w ∈ writes) : (ledger writes).get? (w.1, w.2.kind) ≠ none := by
  rw [ledger, Ne, Ordered.get?_eq_none_iff_notMem, not_not, Ordered.keys_ofList,
    List.mem_eraseDups, List.map_map, List.mem_map]
  exact ⟨w, hw, rfl⟩

/-! ### What writes do -/

/-- Writes into an empty layer leave the ledger in it. -/
theorem own_writeAll (h : r.writeAll writes = .ok r') (hown : r.own.slots = []) :
    r'.own.slots = (ledger writes).map fun p => (textSlot p.1, p.2) := by
  rw [(writeAll_inv h).2, hown, ledger, ← Ordered.ofList_mapKeys textSlot_beq, List.map_map]
  rfl

/-- Writing the same descriptors again is no conflict. -/
theorem conflicts_writeAll (h : r.writeAll writes = .ok r') (hown : r.own.slots = [])
    (hs : ∀ w ∈ writes, w.2.Simple)
    (hsame : ∀ w ∈ writes, ∀ w' ∈ writes, w.1 = w'.1 → w.2.kind = w'.2.kind → w.2 = w'.2) :
    r'.conflicts = r.conflicts := by
  induction writes using List.reverseRecOn generalizing r' with
  | nil =>
    obtain rfl := Except.ok.inj h
    rfl
  | append_singleton writes w ih =>
    obtain ⟨mid, conflict, hmid, hrecord⟩ := writeAll_concat_inv h
    have ih := ih hmid (fun v hv => hs v (List.mem_append_left _ hv)) fun v hv v' hv' =>
      hsame v (List.mem_append_left _ hv) v' (List.mem_append_left _ hv')
    obtain ⟨-, -, -, hconflict, rfl⟩ := record_inv hrecord
    have hnone : conflict = none := by
      cases hget : mid.own.slots.get? (.text w.1, w.2.kind) with
      | none => rw [hconflict, hget]; rfl
      | some previous =>
        have hledger : (ledger writes).get? (w.1, w.2.kind) = some previous := by
          rw [own_writeAll hmid hown] at hget
          rw [← hget]
          exact (Ordered.get?_mapKeys textSlot_beq _ (w.1, w.2.kind)).symm
        obtain ⟨hmem, hkind⟩ := mem_of_get?_ledger hledger
        have hlast : w ∈ writes ++ [w] := List.mem_append_right _ (List.mem_singleton.2 rfl)
        have heq : previous = w.2 :=
          hsame (w.1, previous) (List.mem_append_left _ hmem) w hlast rfl hkind
        have hbeq : (previous == w.2) = true := by
          rw [heq, (hs w hlast).beq_iff (hs w hlast)]
        rw [hconflict, hget, conflictOf, if_pos hbeq]
    rw [conflicts, own_withOwn, hnone]
    simpa [conflicts] using ih

/-! ### Which writes fail -/

/-- A text that is not empty is written into an open registry, unless the slot is below. -/
theorem record_cases (hopen : r.frozen = false) (hkey : key ≠ "") (d : Descriptor) :
    (r.inherits (.text key, d.kind) = false ∧ ∃ r' c, r.record (.text key) d = .ok (r', c)) ∨
      (r.inherits (.text key, d.kind) = true ∧ IntegrityError (r.record (.text key) d)) := by
  have htruthy : (Value.text key).truthy = true := by simpa [Value.truthy] using hkey
  have hasKey : (Value.text key).asKey = .ok (.text key) := rfl
  cases hinherits : r.inherits (.text key, d.kind) with
  | false =>
    refine .inl ⟨rfl, ?_⟩
    simp [record, hopen, htruthy, hasKey, hinherits, bare]
  | true =>
    refine .inr ⟨rfl, ?_⟩
    simp only [record, hopen, htruthy, hasKey, hinherits, bare, ok_bind]
    exact ⟨_, rfl, rfl⟩

theorem inherits_congr (h : r'.parent? = r.parent?) (slot : Slot) :
    r'.inherits slot = r.inherits slot := by
  rw [inherits, inherits, h]

/-- **Which writes fail.**  Writes into an open registry succeed, unless the slot of one is below;
then they are an integrity error. -/
theorem writeAll_cases (hopen : r.frozen = false) (hkeys : ∀ w ∈ writes, w.1 ≠ "") :
    ((∀ w ∈ writes, r.inherits (.text w.1, w.2.kind) = false) ∧
        ∃ r', r.writeAll writes = .ok r') ∨
      ((∃ w ∈ writes, r.inherits (.text w.1, w.2.kind) = true) ∧
        IntegrityError (r.writeAll writes)) := by
  induction writes generalizing r with
  | nil => exact .inl ⟨nofun, r, rfl⟩
  | cons w writes ih =>
    rcases record_cases hopen (hkeys w List.mem_cons_self) w.2 with
      ⟨hno, mid, c, hrecord⟩ | ⟨hyes, e, hrecord, hkind⟩
    · have hstep : r.writeAll (w :: writes) = mid.writeAll writes := by
        simp [writeAll, hrecord, Except.map]
      -- a write changes neither what is below nor whether the registry is open
      obtain ⟨-, -, -, -, hmid⟩ := record_inv hrecord
      have hparent : mid.parent? = r.parent? := by rw [hmid, parent?_withOwn]
      have hfrozen : mid.frozen = false := by rw [hmid, frozen, own_withOwn]; exact hopen
      rw [hstep]
      rcases ih hfrozen fun w hw => hkeys w (List.mem_cons_of_mem _ hw) with
        ⟨hall, hok⟩ | ⟨⟨w', hw', hsome⟩, herr⟩
      · refine .inl ⟨List.forall_mem_cons.2 ⟨hno, fun w hw => ?_⟩, hok⟩
        rw [← inherits_congr hparent]
        exact hall w hw
      · refine .inr ⟨⟨w', List.mem_cons_of_mem _ hw', ?_⟩, herr⟩
        rw [← inherits_congr hparent]
        exact hsome
    · refine .inr ⟨⟨w, List.mem_cons_self, hyes⟩, e, ?_, hkind⟩
      simp [writeAll, hrecord, Except.map]

end Registry

end SoapStubs
