import Mathlib.Data.List.Induction
import SoapStubs.Proofs.Descriptor
import SoapStubs.Proofs.Registry

/-!
# Registries and what was written into them

A registry of its own, with texts as keys, is the list of the descriptors that were written into
it: the last one of each slot, at the place of its first.  If no write was a conflict, then all
descriptors of a slot are the same, so that every write can be read back.

* `Registry.writeAll` writes descriptors one after another, `Registry.ledger` is what a list of
  writes leaves in the slots;
* `Registry.lookup_writeAll`: what is read is what the ledger has;
* `Registry.reads_of_conflicts_nil`: without conflicts, every write is read back.
-/

namespace SoapStubs.Registry

/-- A key together with the descriptor to be written there. -/
abbrev Write := String × Descriptor

/-- Writes descriptors one after another. -/
def writeAll (r : Registry) (writes : List Write) : Except Failure Registry :=
  writes.foldlM (fun r w => (r.record (.text w.1) w.2).map Prod.fst) r

/-- The descriptor can be read at the key. -/
def Reads (r : Registry) (key : String) (d : Descriptor) : Prop :=
  r.get? (.text key) d.kind = .ok (some d)

/-- What a list of writes leaves in the slots. -/
def ledger (writes : List Write) : Ordered (String × DescriptorKind) Descriptor :=
  Ordered.ofList (writes.map fun w => ((w.1, w.2.kind), w.2))

def textSlot (s : String × DescriptorKind) : Slot := (.text s.1, s.2)

variable {r r' : Registry} {writes : List Write} {w : Write}

theorem textSlot_beq (s t : String × DescriptorKind) : (textSlot s == textSlot t) = (s == t) := rfl

theorem ledger_concat (writes : List Write) (w : Write) :
    ledger (writes ++ [w]) = (ledger writes).put (w.1, w.2.kind) w.2 := by
  simp [ledger, Ordered.ofList, Ordered.putAll]

theorem writeAll_append (r : Registry) (front back : List Write) :
    r.writeAll (front ++ back) = r.writeAll front >>= fun r => r.writeAll back := by
  rw [writeAll, List.foldlM_append]
  rfl

/-- One more write that succeeds. -/
theorem writeAll_concat_inv (h : r.writeAll (writes ++ [w]) = .ok r') :
    ∃ mid conflict, r.writeAll writes = .ok mid ∧
      mid.record (.text w.1) w.2 = .ok (r', conflict) := by
  rw [writeAll_append] at h
  obtain ⟨mid, hmid, h⟩ := bind_eq_ok.1 h
  obtain ⟨last, hlast, h⟩ := bind_eq_ok.1 h
  obtain ⟨⟨_, conflict⟩, hrecord, rfl⟩ := map_eq_ok.1 hlast
  cases h
  exact ⟨mid, conflict, hmid, hrecord⟩

/-- Writes change the layer of the registry itself. -/
theorem writeAll_inv (h : r.writeAll writes = .ok r') :
    r'.parent? = r.parent? ∧ r'.own.slots = r.own.slots.putAll
      (writes.map fun w => (textSlot (w.1, w.2.kind), w.2)) := by
  induction writes using List.reverseRecOn generalizing r' with
  | nil =>
    obtain rfl := Except.ok.inj h
    exact ⟨rfl, rfl⟩
  | append_singleton writes w ih =>
    obtain ⟨mid, conflict, hmid, hrecord⟩ := writeAll_concat_inv h
    obtain ⟨hparent, hslots⟩ := ih hmid
    obtain ⟨-, -, -, -, rfl⟩ := record_inv hrecord
    refine ⟨by rw [parent?_withOwn, hparent], ?_⟩
    rw [own_withOwn, hslots]
    simp [Ordered.putAll, textSlot]

/-- Writing into an empty registry leaves the ledger in the slots. -/
theorem slots_writeAll (h : empty.writeAll writes = .ok r) :
    r.parent? = none ∧ r.own.slots = (ledger writes).map fun p => (textSlot p.1, p.2) := by
  obtain ⟨hparent, hslots⟩ := writeAll_inv h
  refine ⟨hparent, hslots.trans ?_⟩
  rw [ledger, ← Ordered.ofList_mapKeys textSlot_beq, List.map_map]
  rfl

theorem lookup_of_parent?_eq_none (h : r.parent? = none) (slot : Slot) :
    r.lookup slot = r.own.slots.get? slot := by
  cases r with
  | base own => rfl
  | overlay parent own => cases h

/-- **What is read is what was written.** -/
theorem lookup_writeAll (h : empty.writeAll writes = .ok r) (key : String)
    (kind : DescriptorKind) : r.lookup (.text key, kind) = (ledger writes).get? (key, kind) := by
  obtain ⟨hparent, hslots⟩ := slots_writeAll h
  rw [lookup_of_parent?_eq_none hparent, hslots]
  exact Ordered.get?_mapKeys textSlot_beq _ (key, kind)

/-- Without conflicts, the ledger has every descriptor that was written. -/
theorem ledger_of_conflicts_nil (h : empty.writeAll writes = .ok r) (hc : r.conflicts = [])
    (hs : ∀ w ∈ writes, w.2.Simple) :
    ∀ w ∈ writes, (ledger writes).get? (w.1, w.2.kind) = some w.2 := by
  induction writes using List.reverseRecOn generalizing r with
  | nil => exact nofun
  | append_singleton writes w ih =>
    obtain ⟨mid, conflict, hmid, hrecord⟩ := writeAll_concat_inv h
    obtain ⟨-, -, -, hconflict, rfl⟩ := record_inv hrecord
    simp only [conflicts, own_withOwn, List.append_eq_nil_iff] at hc
    have hs' : ∀ w ∈ writes, w.2.Simple := fun w hw => hs w (List.mem_append_left _ hw)
    have ih := ih hmid hc.1 hs'
    intro v hv
    rw [ledger_concat, Ordered.get?_put]
    rcases List.mem_append.1 hv with hv | hv
    swap
    · rw [List.mem_singleton.1 hv, if_pos rfl]
    split
    · rename_i hslot
      have hget : mid.own.slots.get? (.text w.1, w.2.kind) = some v.2 := by
        rw [← lookup_of_parent?_eq_none (slots_writeAll hmid).1, lookup_writeAll hmid, ← hslot]
        exact ih v hv
      have hsame : (v.2 == w.2) = true := by
        rw [hget] at hconflict
        by_contra hne
        simp [hconflict, conflictOf, hne] at hc
      rw [((hs' v hv).beq_iff (hs w (by simp))).1 hsame]
    · exact ih v hv

/-- **Every write is read back**, if none was a conflict. -/
theorem reads_of_conflicts_nil (h : empty.writeAll writes = .ok r) (hc : r.conflicts = [])
    (hs : ∀ w ∈ writes, w.2.Simple) (hw : w ∈ writes) : r.Reads w.1 w.2 := by
  have hlookup := lookup_writeAll h w.1 w.2.kind
  rw [ledger_of_conflicts_nil h hc hs w hw] at hlookup
  rw [Reads, Registry.get?]
  exact congrArg Except.ok hlookup

theorem reads_freeze {key : String} {d : Descriptor} : r.freeze.Reads key d ↔ r.Reads key d := by
  have hlookup : ∀ slot, r.freeze.lookup slot = r.lookup slot := fun slot => by cases r <;> rfl
  simp only [Reads, Registry.get?, hlookup]

theorem Reads.eq {key : String} {d e : Descriptor} (hd : r.Reads key d) (he : r.Reads key e)
    (hk : d.kind = e.kind) : d = e := by
  rw [Reads, hk] at hd
  exact Option.some.inj (Except.ok.inj (hd.symm.trans he))

end SoapStubs.Registry
