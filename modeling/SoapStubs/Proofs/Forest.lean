import Mathlib.Data.List.Induction
import Mathlib.Logic.Relation
import SoapStubs.Proofs.Registry
import SoapStubs.Proofs.Typed

/-!
# Forests of registries

Registries are made, written, closed and laid over one another in any order.  A registry that lies
over another one refers to it, and the one below may lie below others at the same time.

A `Forest` lists the registries in the order in which they were made, each with the place of the
one below it, and `Forest.run` is the forest after any calls.  A call that fails changes nothing.

* `Forest.apply_cases` says all that a call can do: nothing, a new registry, a change of one, or a
  registry over one that is closed;
* `Registry.Consistent` says that all ways of reading a registry agree;
* `Forest.run_consistent`: after any calls, every registry is consistent, and every registry below
  another is closed, has the first records of the one above, and stays as it is.

The keys are texts, as in all that is generated.
-/

namespace SoapStubs

/-! ### Reading a registry -/

namespace Registry

/-- All ways of reading the registry agree. -/
structure Consistent (r : Registry) : Prop where
  /-- No two records have the same key and the same kind. -/
  distinct : r.records.Pairwise fun a b => a.key ≠ b.key ∨ a.kind ≠ b.kind
  /-- A key and a kind have a descriptor exactly if there is a record of them with it. -/
  get : ∀ (key : String) (kind : DescriptorKind), ∃ found, r.get? (.text key) kind = .ok found ∧
    ∀ d, found = some d ↔ ⟨.text key, d⟩ ∈ r.records ∧ d.kind = kind
  /-- The size is the number of records. -/
  size : r.size = r.records.length
  /-- The keys are those of the records, each once, in the order of the first ones. -/
  keys : ∃ names : List String, r.records.map Record.key = names.map .text ∧
    r.keys = names.eraseDups.map .text
  /-- A value is in the registry exactly if it is one of the keys. -/
  contains : ∀ key : Value, r.contains key = true ↔ key ∈ r.keys
  /-- Every slot is of the kind of its descriptor. -/
  kind : ∀ e ∈ r.slots, e.1.2 = e.2.kind

/-- All keys of the registry are texts. -/
def Textual (r : Registry) : Prop := ∀ e ∈ r.slots, e.1.1.IsText

variable {r r' : Registry} {key : String} {d : Descriptor} {c : Option Conflict}

theorem textual_empty : Textual empty := nofun

theorem Textual.record (h : Textual r) (hr : r.record (.text key) d = .ok (r', c)) :
    Textual r' := by
  obtain ⟨-, -, -, -, rfl⟩ := record_inv hr
  intro e he
  rw [slots_eq, own_withOwn, inherited_withOwn] at he
  rcases List.mem_append.1 he with he | he
  · exact h e (by rw [slots_eq]; exact List.mem_append_left _ he)
  · rcases Ordered.mem_put he with he | rfl | ⟨-, -, b, hb⟩
    · exact h e (by rw [slots_eq]; exact List.mem_append_right _ he)
    · exact Value.isText_text key
    · exact h (e.1, b) (by rw [slots_eq]; exact List.mem_append_right _ hb)

theorem slots_freeze (r : Registry) : r.freeze.slots = r.slots := by
  rw [slots_eq, slots_eq, freeze, own_withOwn, inherited_withOwn]

theorem above_inv (h : r.above = .ok r') : r.frozen = true ∧ r' = .overlay r {} := by
  unfold above at h
  split at h
  · exact ⟨‹_›, (Except.ok.inj h).symm⟩
  · cases h

theorem slots_above (h : r.above = .ok r') : r'.slots = r.slots := by
  obtain ⟨-, rfl⟩ := above_inv h
  exact List.append_nil _

theorem records_of_parent? {p : Registry} (h : r.parent? = some p) :
    r.records = p.records ++ r.ownRecords := by
  cases r with
  | base own => cases h
  | overlay parent own =>
    obtain rfl := Option.some.inj h
    rfl

/-! ### What soundness gives -/

theorem size_eq (r : Registry) : r.size = r.slots.length := by
  induction r with
  | base own => rfl
  | overlay parent own ih => rw [size, slots, List.length_append, ih, Nat.add_comm]

/-- The slot of a text, if all slots are of texts. -/
theorem Textual.beq_iff (h : Textual r) {e : Slot × Descriptor} (he : e ∈ r.slots)
    (kind : DescriptorKind) : (e.1 == (Value.text key, kind)) = true ↔ e.1 = (.text key, kind) := by
  obtain ⟨⟨k, l⟩, e⟩ := e
  have hk : k.IsText := h _ he
  show (k == Value.text key && l == kind) = true ↔ _
  rw [Bool.and_eq_true, hk.beq_iff (Value.isText_text key), beq_iff_eq, Prod.mk.injEq]

/-- Slots of texts that differ as data differ. -/
theorem Sound.slots_ne (h : Sound r) (ht : Textual r) :
    r.slots.Pairwise fun e e' => e.1 ≠ e'.1 := by
  have hkeys := List.pairwise_map.1 h.distinct
  refine hkeys.imp_of_mem fun {e e'} he he' hne heq => ?_
  have htext : e'.1.1 = .text e'.1.1.nameText := (ht e' he').eq
  have hbeq : (e.1 == (Value.text e'.1.1.nameText, e'.1.2)) = true := by
    rw [ht.beq_iff he, ← htext, heq]
  rw [← htext, hne] at hbeq
  cases hbeq

/-- What a text and a kind have in a layer, if all its keys are texts. -/
theorem get?_slots_iff {slots : Ordered Slot Descriptor} {kind : DescriptorKind}
    (ht : ∀ e ∈ slots, (e.1 == (Value.text key, kind)) = true ↔ e.1 = (.text key, kind))
    (hd : slots.Pairwise fun e e' => e.1 ≠ e'.1) :
    slots.get? (.text key, kind) = some d ↔ ((.text key, kind), d) ∈ slots := by
  induction slots with
  | nil => simp
  | cons e slots ih =>
    obtain ⟨hne, hd⟩ := List.pairwise_cons.1 hd
    have ih := ih (fun e he => ht e (List.mem_cons_of_mem _ he)) hd
    rw [Ordered.get?_cons, List.mem_cons]
    by_cases he : e.1 = (.text key, kind)
    · have hno : ((.text key, kind), d) ∉ slots := fun hmem => hne _ hmem he
      rw [if_pos ((ht e List.mem_cons_self).2 he), ← he, Option.some_inj, or_iff_left (he ▸ hno)]
      exact ⟨fun h => h ▸ rfl, fun h => by rw [← h]⟩
    · rw [if_neg (mt (ht e List.mem_cons_self).1 he), ih, or_iff_right]
      exact fun h => he (by rw [← h])

/-- The slots of a sound registry are read through all layers. -/
theorem lookup_iff (hd : r.slots.Pairwise fun e e' => e.1 ≠ e'.1) (ht : Textual r)
    (kind : DescriptorKind) :
    r.lookup (.text key, kind) = some d ↔ ((.text key, kind), d) ∈ r.slots := by
  induction r with
  | base own => exact get?_slots_iff (fun e he => ht.beq_iff he kind) hd
  | overlay parent own ih =>
    obtain ⟨hparent, hown, hne⟩ := List.pairwise_append.1 hd
    have htext : ∀ e ∈ own.slots,
        (e.1 == (Value.text key, kind)) = true ↔ e.1 = (.text key, kind) :=
      fun e he => ht.beq_iff (List.mem_append_right _ he) kind
    have ih := ih hparent fun e he => ht e (List.mem_append_left _ he)
    rw [lookup, slots, List.mem_append, ← ih, ← get?_slots_iff htext hown]
    cases hget : own.slots.get? (.text key, kind) with
    | none => simp
    | some d' =>
      -- what the layer has itself, none below has
      have hmem := (get?_slots_iff htext hown).1 hget
      have hno : ¬ parent.lookup (.text key, kind) = some d := fun h => hne _ (ih.1 h) _ hmem rfl
      simp [hno]

theorem mem_records_iff (h : Sound r) {kind : DescriptorKind} :
    ⟨.text key, d⟩ ∈ r.records ∧ d.kind = kind ↔ ((.text key, kind), d) ∈ r.slots := by
  rw [records_eq, List.mem_map]
  constructor
  · rintro ⟨⟨⟨⟨k, l⟩, d'⟩, he, heq⟩, rfl⟩
    obtain ⟨rfl, rfl⟩ : k = .text key ∧ d' = d := by simpa using heq
    have hkind : l = d'.kind := h.kind _ he
    rwa [← hkind]
  · intro he
    exact ⟨⟨_, he, rfl⟩, (h.kind _ he).symm⟩

/-- The names of the keys, if all keys are texts. -/
theorem Textual.map_key (ht : Textual r) :
    r.records.map Record.key = (r.slots.map fun e => e.1.1.nameText).map .text := by
  rw [records_eq, List.map_map, List.map_map]
  exact List.map_congr_left fun e he => (ht e he).eq

/-- Keys that are texts are there once each, at their first places. -/
theorem keys_eq_of_texts {names : List String} (h : r.records.map Record.key = names.map .text) :
    r.keys = names.eraseDups.map .text := by
  have hpairs : (r.records.map fun e => (e.key, ())) =
      (names.map fun name => (name, ())).map fun p => (Value.text p.1, p.2) := by
    calc (r.records.map fun e => (e.key, ()))
        = (r.records.map Record.key).map fun key => (key, ()) := by rw [List.map_map]; rfl
      _ = _ := by rw [h, List.map_map, List.map_map]; rfl
  have htexts : ∀ s t : String, (Value.text s == Value.text t) = (s == t) := fun _ _ => rfl
  rw [keys, hpairs, Ordered.ofList_mapKeys htexts, Ordered.keys, List.map_map]
  calc (Ordered.ofList (names.map fun name => (name, ()))).map (fun p => Value.text p.1)
      = (Ordered.ofList (names.map fun name => (name, ()))).keys.map .text := by
        rw [Ordered.keys, List.map_map]; rfl
    _ = names.eraseDups.map .text := by
        rw [Ordered.keys_ofList, List.map_map]
        exact congrArg (fun l : List String => l.eraseDups.map Value.text) (List.map_id names)

/-- A value is a key of texts if it is one of them. -/
theorem contains_iff_of_texts {names : List String}
    (h : r.records.map Record.key = names.map .text) (key : Value) :
    r.contains key = true ↔ key ∈ names.map .text := by
  have hany : r.contains key = (r.records.map Record.key).any (· == key) := by
    rw [contains, List.any_map]; rfl
  rw [hany, h, List.any_map, List.any_eq_true, List.mem_map]
  refine exists_congr fun name => and_congr_right fun _ => ?_
  cases key <;> simp [Function.comp, BEq.beq, Value.equals]

/-- **A registry without a repeated slot is read the same in all ways.** -/
theorem Sound.consistent (h : Sound r) (ht : Textual r) : Consistent r := by
  have hd := h.slots_ne ht
  have hnames := ht.map_key
  constructor
  case distinct =>
    rw [records_eq, List.pairwise_map]
    refine hd.imp_of_mem fun {e e'} he he' hne => ?_
    refine not_and_or.1 fun ⟨hkey, hkind⟩ => hne (Prod.ext hkey ?_)
    rw [h.kind e he, h.kind e' he']
    exact hkind
  case get =>
    intro key kind
    refine ⟨r.lookup (.text key, kind), rfl, fun d => ?_⟩
    rw [lookup_iff hd ht kind, mem_records_iff h]
  case size => rw [size_eq, records_eq, List.length_map]
  case keys => exact ⟨_, hnames, keys_eq_of_texts hnames⟩
  case contains =>
    intro key
    rw [contains_iff_of_texts hnames, keys_eq_of_texts hnames]
    simp only [List.mem_map, List.mem_eraseDups]
  case kind => exact h.kind

end Registry

/-! ### Forests -/

/-- A registry of a forest. -/
structure Node where
  registry : Registry
  /-- The place of the registry below it. -/
  below : Option Nat

/-- Registries in the order in which they were made. -/
abbrev Forest := List Node

/-- A call on the registries of a forest, which are named by their places. -/
inductive Call where
  /-- Makes a registry of its own. -/
  | new
  /-- Writes a descriptor. -/
  | record (place : Nat) (key : String) (d : Descriptor)
  /-- Closes a registry. -/
  | freeze (place : Nat)
  /-- Makes a registry over another. -/
  | overlay (place : Nat)

namespace Registry

/-- The registry is written or closed. -/
def Becomes (r r' : Registry) : Prop :=
  (∃ key d c, r.record (.text key) d = .ok (r', c)) ∨ r' = r.freeze

variable {r r' : Registry}

theorem freeze_of_frozen (h : r.frozen = true) : r.freeze = r := by
  cases r <;> (rename_i own; obtain ⟨slots, conflicts, frozen⟩ := own; cases h; rfl)

theorem Becomes.parent? (h : r.Becomes r') : r'.parent? = r.parent? := by
  rcases h with ⟨key, d, c, h⟩ | rfl
  · obtain ⟨-, -, -, -, rfl⟩ := record_inv h
    exact parent?_withOwn _ _
  · exact parent?_withOwn _ _

/-- A closed registry does not change. -/
theorem Becomes.eq_of_frozen (h : r.Becomes r') (hr : r.frozen = true) : r' = r := by
  rcases h with ⟨key, d, c, h⟩ | rfl
  · rw [(record_inv h).1] at hr
    cases hr
  · exact freeze_of_frozen hr

end Registry

/-- The forest after a call on one of its registries; a call that fails changes nothing. -/
def Forest.after (forest : Forest) (i : Nat) (call : Registry → Except Failure Registry)
    (keep : Node → Registry → Forest) : Forest :=
  match forest[i]? with
  | none => forest
  | some n =>
    match call n.registry with
    | .ok r => keep n r
    | .error _ => forest

/-- The forest after a call. -/
def Call.apply (forest : Forest) : Call → Forest
  | .new => forest ++ [⟨.empty, none⟩]
  | .record i key d =>
    forest.after i (fun r => (r.record (.text key) d).map Prod.fst) fun n r =>
      forest.set i { n with registry := r }
  | .freeze i => forest.after i (fun r => .ok r.freeze) fun n r =>
      forest.set i { n with registry := r }
  | .overlay i => forest.after i Registry.above fun _ r => forest ++ [⟨r, some i⟩]

namespace Forest

/-- The forest after some calls, from none. -/
def run (calls : List Call) : Forest := calls.foldl Call.apply []

/-- The first registry lies right below the second. -/
def Under (forest : Forest) (i j : Nat) : Prop := ∃ n, forest[j]? = some n ∧ n.below = some i

/-- The first registry lies below the second, with any number of others in between. -/
def Ancestor (forest : Forest) : Nat → Nat → Prop := Relation.TransGen forest.Under

variable {forest : Forest} {i j : Nat} {n : Node}

theorem run_concat (calls : List Call) (call : Call) :
    run (calls ++ [call]) = call.apply (run calls) := by
  simp [run]

/-! ### One call -/

theorem after_cases (forest : Forest) (i : Nat) (call : Registry → Except Failure Registry)
    (keep : Node → Registry → Forest) :
    forest.after i call keep = forest ∨ ∃ n r, forest[i]? = some n ∧ call n.registry = .ok r ∧
      forest.after i call keep = keep n r := by
  unfold after
  cases hn : forest[i]? with
  | none => exact .inl rfl
  | some n =>
    cases hr : call n.registry with
    | error f => exact .inl (by simp only [hr])
    | ok r => exact .inr ⟨n, r, rfl, hr, by simp only [hr]⟩

/-- **What a call does**: nothing, a registry of its own, a change of one, or one over another. -/
theorem apply_cases (forest : Forest) (call : Call) :
    call.apply forest = forest ∨
    call.apply forest = forest ++ [⟨.empty, none⟩] ∨
    (∃ i n r, forest[i]? = some n ∧ n.registry.Becomes r ∧
      call.apply forest = forest.set i { n with registry := r }) ∨
    ∃ i n r, forest[i]? = some n ∧ n.registry.above = .ok r ∧
      call.apply forest = forest ++ [⟨r, some i⟩] := by
  -- but for `new`, a call that fails leaves the forest as it is
  cases call with
  | new => exact .inr (.inl rfl)
  | record i key d =>
    rcases after_cases forest i (fun r => (r.record (.text key) d).map Prod.fst) fun n r =>
      forest.set i { n with registry := r } with h | ⟨n, r, hn, hr, h⟩
    · exact .inl h
    · obtain ⟨p, hrecord, rfl⟩ := map_eq_ok.1 hr
      exact .inr (.inr (.inl ⟨i, n, p.1, hn, .inl ⟨key, d, p.2, hrecord⟩, h⟩))
  | freeze i =>
    rcases after_cases forest i (fun r => .ok r.freeze) fun n r =>
      forest.set i { n with registry := r } with h | ⟨n, r, hn, hr, h⟩
    · exact .inl h
    · exact .inr (.inr (.inl ⟨i, n, r, hn, .inr (Except.ok.inj hr).symm, h⟩))
  | overlay i =>
    rcases after_cases forest i Registry.above fun _ r => forest ++ [⟨r, some i⟩] with
      h | ⟨n, r, hn, hr, h⟩
    · exact .inl h
    · exact .inr (.inr (.inr ⟨i, n, r, hn, hr, h⟩))

/-- A registry that is closed stays as it is. -/
theorem apply_of_frozen (call : Call) (hn : forest[i]? = some n)
    (hfrozen : n.registry.frozen = true) : (call.apply forest)[i]? = some n := by
  have hi : i < forest.length := (List.getElem?_eq_some_iff.1 hn).1
  rcases apply_cases forest call with h | h | ⟨j, m, r, hm, hbecomes, h⟩ | ⟨j, m, r, -, -, h⟩
  · rwa [h]
  · rwa [h, List.getElem?_append_left hi]
  · rw [h]
    by_cases hij : i = j
    · obtain rfl := hij
      obtain rfl := Option.some.inj (hm.symm.trans hn)
      rw [hbecomes.eq_of_frozen hfrozen, List.getElem?_set_self hi]
    · rwa [List.getElem?_set_ne (Ne.symm hij)]
  · rwa [h, List.getElem?_append_left hi]

/-! ### Any calls -/

theorem run_of_frozen (calls more : List Call) (hn : (run calls)[i]? = some n)
    (hfrozen : n.registry.frozen = true) : (run (calls ++ more))[i]? = some n := by
  induction more using List.reverseRecOn with
  | nil => rwa [List.append_nil]
  | append_singleton more call ih =>
    rw [← List.append_assoc, run_concat]
    exact apply_of_frozen call ih hfrozen

/-- What every registry has that is made, written, closed or laid over another, all have. -/
theorem forall_run {P : Registry → Prop} (hempty : P .empty)
    (hbecomes : ∀ {r r' : Registry}, P r → r.Becomes r' → P r')
    (habove : ∀ {r r' : Registry}, P r → r.above = .ok r' → P r') (calls : List Call) :
    ∀ n ∈ run calls, P n.registry := by
  induction calls using List.reverseRecOn with
  | nil => exact nofun
  | append_singleton calls call ih =>
    intro n hn
    rw [run_concat] at hn
    rcases apply_cases (run calls) call with h | h | ⟨i, m, r, hm, hr, h⟩ | ⟨i, m, r, hm, hr, h⟩ <;>
      rw [h] at hn
    · exact ih n hn
    · rcases List.mem_append.1 hn with hn | hn
      · exact ih n hn
      · rw [List.mem_singleton.1 hn]
        exact hempty
    · rcases List.mem_or_eq_of_mem_set hn with hn | rfl
      · exact ih n hn
      · exact hbecomes (ih m (List.mem_of_getElem? hm)) hr
    · rcases List.mem_append.1 hn with hn | hn
      · exact ih n hn
      · rw [List.mem_singleton.1 hn]
        exact habove (ih m (List.mem_of_getElem? hm)) hr

/-- The registry lies over one of the forest, as that one is now, and that one is closed. -/
def Rests (forest : Forest) (n : Node) : Prop :=
  match n.below with
  | none => n.registry.parent? = none
  | some i => ∃ p, forest[i]? = some p ∧ p.registry.frozen = true ∧
      n.registry.parent? = some p.registry

theorem Rests.apply (h : Rests forest n) (call : Call) : Rests (call.apply forest) n := by
  unfold Rests at h ⊢
  split
  · rename_i hbelow
    rwa [hbelow] at h
  · rename_i i hbelow
    rw [hbelow] at h
    obtain ⟨p, hp, hfrozen, hparent⟩ := h
    exact ⟨p, apply_of_frozen call hp hfrozen, hfrozen, hparent⟩

/-- Every registry of a forest lies over the one at its place, which is closed. -/
theorem run_rests (calls : List Call) : ∀ n ∈ run calls, Rests (run calls) n := by
  induction calls using List.reverseRecOn with
  | nil => exact nofun
  | append_singleton calls call ih =>
    intro n hn
    -- what was below a registry is still there, for it is closed
    have hold : ∀ m ∈ run calls, Rests (run (calls ++ [call])) m := fun m hm => by
      rw [run_concat]
      exact (ih m hm).apply call
    rw [run_concat] at hn
    rcases apply_cases (run calls) call with h | h | ⟨i, m, r, hm, hr, h⟩ | ⟨i, m, r, hm, hr, h⟩ <;>
      rw [h] at hn
    · exact hold n hn
    · rcases List.mem_append.1 hn with hn | hn
      · exact hold n hn
      · rw [List.mem_singleton.1 hn]
        exact rfl
    · rcases List.mem_or_eq_of_mem_set hn with hn | rfl
      · exact hold n hn
      · have hmem := hold m (List.mem_of_getElem? hm)
        unfold Rests at hmem ⊢
        rwa [hr.parent?]
    · rcases List.mem_append.1 hn with hn | hn
      · exact hold n hn
      · rw [List.mem_singleton.1 hn]
        obtain ⟨hfrozen, rfl⟩ := Registry.above_inv hr
        refine ⟨m, ?_, hfrozen, rfl⟩
        rw [run_concat]
        exact apply_of_frozen call hm hfrozen

theorem sound_run (calls : List Call) :
    ∀ n ∈ run calls, n.registry.Sound ∧ n.registry.Textual := by
  refine forall_run (P := fun r => r.Sound ∧ r.Textual) ⟨Registry.sound_empty,
    Registry.textual_empty⟩ ?_ ?_ calls
  · rintro r r' ⟨hsound, htextual⟩ (⟨key, d, c, h⟩ | rfl)
    · exact ⟨hsound.record h, htextual.record h⟩
    · exact ⟨hsound.freeze, fun e he => htextual e (Registry.slots_freeze r ▸ he)⟩
  · rintro r r' ⟨hsound, htextual⟩ h
    exact ⟨hsound.above h, fun e he => htextual e (Registry.slots_above h ▸ he)⟩

/-- Closed, with the first records of the registry above. -/
theorem ancestor_inv (calls : List Call) (h : Ancestor (run calls) i j) :
    ∃ a d, (run calls)[i]? = some a ∧ (run calls)[j]? = some d ∧ a.registry.frozen = true ∧
      a.registry.records <+: d.registry.records := by
  have hunder : ∀ i j, Under (run calls) i j → ∃ a d, (run calls)[i]? = some a ∧
      (run calls)[j]? = some d ∧ a.registry.frozen = true ∧
      a.registry.records <+: d.registry.records := by
    rintro i j ⟨d, hd, hbelow⟩
    have hrests := run_rests calls d (List.mem_of_getElem? hd)
    unfold Rests at hrests
    rw [hbelow] at hrests
    obtain ⟨a, ha, hfrozen, hparent⟩ := hrests
    refine ⟨a, d, ha, hd, hfrozen, ?_⟩
    rw [Registry.records_of_parent? hparent]
    exact List.prefix_append _ _
  induction h with
  | single h => exact hunder _ _ h
  | tail _ h ih =>
    obtain ⟨a, b, ha, hb, hfrozen, hab⟩ := ih
    obtain ⟨b', d, hb', hd, -, hbd⟩ := hunder _ _ h
    obtain rfl := Option.some.inj (hb.symm.trans hb')
    exact ⟨a, d, ha, hd, hfrozen, hab.trans hbd⟩

/-- **All ways of reading agree, and what is below stays.**  After any calls,

* every registry is consistent;
* the registry below another is the one that is now at its place;
* every registry below another, next to it or further down, is closed, has the first records of
  the one above, and is the same after any more calls. -/
theorem run_consistent (calls : List Call) :
    (∀ n ∈ run calls, n.registry.Consistent ∧
      n.registry.parent? = n.below.bind fun i => (run calls)[i]?.map Node.registry) ∧
    ∀ i j, Ancestor (run calls) i j →
      ∃ a d, (run calls)[i]? = some a ∧ (run calls)[j]? = some d ∧ a.registry.frozen = true ∧
        a.registry.records <+: d.registry.records ∧
        ∀ more, (run (calls ++ more))[i]? = some a := by
  refine ⟨fun n hn => ⟨?_, ?_⟩, fun i j hij => ?_⟩
  · obtain ⟨hsound, htextual⟩ := sound_run calls n hn
    exact hsound.consistent htextual
  · have hrests := run_rests calls n hn
    unfold Rests at hrests
    cases hbelow : n.below with
    | none => rwa [hbelow] at hrests
    | some i =>
      rw [hbelow] at hrests
      obtain ⟨p, hp, -, hparent⟩ := hrests
      rw [hparent, Option.bind_some, hp, Option.map_some]
  · obtain ⟨a, d, ha, hd, hfrozen, hprefix⟩ := ancestor_inv calls hij
    exact ⟨a, d, ha, hd, hfrozen, hprefix, fun more => run_of_frozen calls more ha hfrozen⟩

/-- Two registries over one, a third one over the first of them, and two writes that fail: one into
a closed registry, one into a slot that is below. -/
def layered : List Call :=
  [.new, .record 0 "shop" .oneWay, .freeze 0, .overlay 0, .overlay 0,
    .record 1 "shop" (.rootElement (.text "shop") (.text "urn:shop")), .record 2 "till" .oneWay,
    .freeze 1, .overlay 1, .record 1 "late" .oneWay, .record 3 "shop" .oneWay]

theorem run_consistent_layered :
    (run layered).map (fun n => (n.registry.size, n.below)) =
      [(1, none), (2, some 0), (2, some 0), (2, some 1)] ∧
    (∀ n ∈ run layered, n.registry.Consistent) ∧ Ancestor (run layered) 0 3 ∧
    ∃ a d, (run layered)[0]? = some a ∧ (run layered)[3]? = some d ∧ a.registry.frozen = true ∧
      a.registry.records <+: d.registry.records ∧
      ∀ more, (run (layered ++ more))[0]? = some a := by
  have hancestor : Ancestor (run layered) 0 3 := .tail (.single ⟨_, rfl, rfl⟩) ⟨_, rfl, rfl⟩
  obtain ⟨hnodes, hbelow⟩ := run_consistent layered
  exact ⟨by decide +kernel, fun n hn => (hnodes n hn).1, hancestor, hbelow 0 3 hancestor⟩

end Forest

end SoapStubs
