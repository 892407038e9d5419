import Mathlib.Data.List.Induction
import SoapStubs.Ordered

/-!
# Laws of association lists

How looking up a key goes together with putting one in and taking one out.

* `Ordered.get?_put` and `Ordered.get?_erase` hold for keys whose `==` is equality;
* `Ordered.put_of_get?_eq_none` and `Ordered.ofList_eq_self` hold for any `==`: a key that is not
  there goes to the end, so that pairs whose keys differ make a map as they stand;
* `Ordered.grouped` puts items into groups by a key of theirs, one after another.
  `Ordered.get?_grouped` says what a group holds, `Ordered.keys_grouped` in which order groups are.
-/

namespace SoapStubs.Ordered

variable {κ : Type u} {α : Type v} [BEq κ]

@[simp] theorem get?_nil (k : κ) : get? ([] : Ordered κ α) k = none := rfl

theorem get?_cons (p : κ × α) (m : Ordered κ α) (k : κ) :
    get? (p :: m) k = if p.1 == k then some p.2 else get? m k := rfl

theorem has_eq_isSome (m : Ordered κ α) (k : κ) : m.has k = (m.get? k).isSome := by
  induction m with
  | nil => rfl
  | cons p m ih =>
    rw [has, List.any_cons, get?_cons]
    cases p.1 == k
    · exact ih
    · rfl

theorem put_cons (p : κ × α) (m : Ordered κ α) (k : κ) (a : α) :
    put (p :: m) k a = if p.1 == k then (p.1, a) :: m else p :: put m k a := rfl

theorem get?_eq_none_iff {m : Ordered κ α} {k : κ} :
    m.get? k = none ↔ ∀ p ∈ m, (p.1 == k) = false := by
  induction m with
  | nil => simp
  | cons p m ih =>
    rw [get?_cons]
    cases h : p.1 == k <;> simp [h, ih]

theorem exists_mem_of_get?_eq_some {m : Ordered κ α} {k : κ} {a : α} (h : m.get? k = some a) :
    ∃ k', (k', a) ∈ m ∧ (k' == k) = true := by
  induction m with
  | nil => simp at h
  | cons p m ih =>
    rw [get?_cons] at h
    split at h
    · rename_i hp
      obtain rfl := Option.some.inj h
      exact ⟨p.1, List.mem_cons_self, hp⟩
    · obtain ⟨k', hm, hk⟩ := ih h
      exact ⟨k', List.mem_cons_of_mem _ hm, hk⟩

theorem put_of_get?_eq_none {m : Ordered κ α} {k : κ} (a : α) (h : m.get? k = none) :
    m.put k a = m ++ [(k, a)] := by
  induction m with
  | nil => rfl
  | cons p m ih =>
    rw [get?_cons] at h
    split at h
    · simp at h
    · rename_i hp
      rw [put_cons, if_neg hp, ih h, List.cons_append]

/-- Putting what is there changes nothing. -/
theorem put_of_get?_eq_some {m : Ordered κ α} {k : κ} {a : α} (h : m.get? k = some a) :
    m.put k a = m := by
  induction m with
  | nil => cases h
  | cons p m ih =>
    rw [get?_cons] at h
    rw [put_cons]
    split
    · rename_i hp
      rw [if_pos hp] at h
      rw [← Option.some.inj h]
    · rename_i hp
      rw [if_neg hp] at h
      rw [ih h]

theorem length_put_le (m : Ordered κ α) (k : κ) (a : α) : (m.put k a).length ≤ m.length + 1 := by
  induction m with
  | nil => exact Nat.le_refl 1
  | cons p m ih =>
    rw [put_cons]
    split
    · exact Nat.le_succ _
    · simpa using ih

theorem keys_put_of_get?_ne_none {m : Ordered κ α} {k : κ} (a : α) (h : m.get? k ≠ none) :
    (m.put k a).keys = m.keys := by
  induction m with
  | nil => exact absurd rfl h
  | cons p m ih =>
    rw [get?_cons] at h
    rw [put_cons]
    split
    · rfl
    · rename_i hp
      rw [if_neg hp] at h
      simpa [keys] using ih h

theorem mem_put {m : Ordered κ α} {k : κ} {a : α} {p : κ × α} (h : p ∈ m.put k a) :
    p ∈ m ∨ p = (k, a) ∨ p.2 = a ∧ (p.1 == k) = true ∧ ∃ b, (p.1, b) ∈ m := by
  induction m with
  | nil => exact .inr (.inl (by simpa [put] using h))
  | cons q m ih =>
    rw [put_cons] at h
    split at h
    · rename_i hq
      rcases List.mem_cons.1 h with rfl | h
      · exact .inr (.inr ⟨rfl, hq, q.2, List.mem_cons_self⟩)
      · exact .inl (List.mem_cons_of_mem _ h)
    · rcases List.mem_cons.1 h with rfl | h
      · exact .inl List.mem_cons_self
      · rcases ih h with h | h | ⟨h₁, h₂, b, h₃⟩
        · exact .inl (List.mem_cons_of_mem _ h)
        · exact .inr (.inl h)
        · exact .inr (.inr ⟨h₁, h₂, b, List.mem_cons_of_mem _ h₃⟩)

/-- Keys and values that come in are all there is. -/
theorem forall_mem_putAll {A : κ → Prop} {B : α → Prop} {m : Ordered κ α} {pairs : List (κ × α)}
    (hm : ∀ p ∈ m, A p.1 ∧ B p.2) (hpairs : ∀ p ∈ pairs, A p.1 ∧ B p.2) :
    ∀ p ∈ m.putAll pairs, A p.1 ∧ B p.2 := by
  induction pairs generalizing m with
  | nil => exact hm
  | cons q pairs ih =>
    obtain ⟨hq, hpairs⟩ := List.forall_mem_cons.1 hpairs
    refine ih (fun p hp => ?_) hpairs
    rcases mem_put hp with h | rfl | ⟨h₁, -, b, h₂⟩
    · exact hm p h
    · exact hq
    · exact ⟨(hm _ h₂).1, h₁ ▸ hq.2⟩

theorem putAll_of_pairwise {pairs : List (κ × α)} (m : Ordered κ α)
    (h : (m ++ pairs).Pairwise fun p q => (p.1 == q.1) = false) :
    m.putAll pairs = m ++ pairs := by
  induction pairs generalizing m with
  | nil => simp [putAll]
  | cons p pairs ih =>
    have hp : m.get? p.1 = none :=
      get?_eq_none_iff.2 fun q hq => (List.pairwise_append.1 h).2.2 q hq p List.mem_cons_self
    have hm : (m ++ [p] ++ pairs).Pairwise fun p q => (p.1 == q.1) = false := by simpa using h
    calc m.putAll (p :: pairs) = (m.put p.1 p.2).putAll pairs := rfl
      _ = (m ++ [p]).putAll pairs := by rw [put_of_get?_eq_none _ hp]
      _ = m ++ p :: pairs := by rw [ih _ hm]; simp

/-- Pairs whose keys differ make a map as they stand. -/
theorem ofList_eq_self {pairs : List (κ × α)}
    (h : pairs.Pairwise fun p q => (p.1 == q.1) = false) : ofList pairs = pairs :=
  putAll_of_pairwise [] h

section Lawful

variable [LawfulBEq κ]

theorem get?_of_mem {m : Ordered κ α} {p : κ × α} (hd : m.Pairwise fun p q => p.1 ≠ q.1)
    (h : p ∈ m) : m.get? p.1 = some p.2 := by
  induction m with
  | nil => simp at h
  | cons q m ih =>
    obtain ⟨hq, hd⟩ := List.pairwise_cons.1 hd
    rw [get?_cons]
    rcases List.mem_cons.1 h with rfl | h
    · rw [if_pos (beq_self_eq_true _)]
    · rw [if_neg (by simpa using hq p h), ih hd h]

theorem mem_iff_get? {m : Ordered κ α} {p : κ × α} (hd : m.keys.Nodup) :
    p ∈ m ↔ m.get? p.1 = some p.2 := by
  constructor
  · intro h
    exact get?_of_mem (List.pairwise_map.1 hd) h
  · intro h
    obtain ⟨k, hmem, hk⟩ := exists_mem_of_get?_eq_some h
    rwa [eq_of_beq hk] at hmem

theorem get?_put [DecidableEq κ] (m : Ordered κ α) (k k' : κ) (a : α) :
    (m.put k a).get? k' = if k' = k then some a else m.get? k' := by
  induction m with
  | nil =>
    by_cases hk : k = k'
    · simp [put, get?_cons, hk]
    · simp [put, get?_cons, hk, Ne.symm hk]
  | cons p m ih =>
    rw [put_cons]
    split
    · rename_i hp
      obtain rfl := eq_of_beq hp
      simp only [get?_cons, beq_iff_eq]
      by_cases hk : p.1 = k'
      · simp [hk]
      · simp [hk, Ne.symm hk]
    · rename_i hp
      rw [get?_cons, ih, get?_cons]
      by_cases hk : k' = k
      · subst hk; simp [hp]
      · simp [hk]

theorem mem_keys_put (m : Ordered κ α) (k k' : κ) (a : α) :
    k' ∈ (m.put k a).keys ↔ k' = k ∨ k' ∈ m.keys := by
  induction m with
  | nil => simp [put, keys]
  | cons p m ih =>
    rw [put_cons]
    split
    · rename_i hp
      obtain rfl := eq_of_beq hp
      simp [keys]
    · simp only [keys, List.map_cons, List.mem_cons] at ih ⊢
      rw [ih]
      exact or_left_comm

theorem nodup_keys_put {m : Ordered κ α} (h : m.keys.Nodup) (k : κ) (a : α) :
    (m.put k a).keys.Nodup := by
  by_cases hk : m.get? k = none
  · rw [put_of_get?_eq_none a hk]
    have hm : k ∉ m.keys := by
      simpa [keys] using fun b hb => get?_eq_none_iff.1 hk (k, b) hb
    simpa [keys, List.nodup_append] using ⟨h, fun b c hc hbk => hm (hbk ▸ List.mem_map_of_mem hc)⟩
  · rwa [keys_put_of_get?_ne_none a hk]

theorem mem_keys_putAll (m : Ordered κ α) (pairs : List (κ × α)) (k : κ) :
    k ∈ (m.putAll pairs).keys ↔ k ∈ m.keys ∨ ∃ p ∈ pairs, p.1 = k := by
  induction pairs generalizing m with
  | nil => simp [putAll]
  | cons p pairs ih =>
    rw [show m.putAll (p :: pairs) = (m.put p.1 p.2).putAll pairs from rfl, ih, mem_keys_put]
    simp only [List.mem_cons, exists_eq_or_imp, eq_comm (a := k)]
    rw [or_comm (a := p.1 = k), or_assoc]

theorem nodup_keys_putAll {m : Ordered κ α} (h : m.keys.Nodup) (pairs : List (κ × α)) :
    (m.putAll pairs).keys.Nodup := by
  induction pairs generalizing m with
  | nil => exact h
  | cons p pairs ih => exact ih (nodup_keys_put h p.1 p.2)

theorem get?_eq_none_iff_notMem {m : Ordered κ α} {k : κ} : m.get? k = none ↔ k ∉ m.keys := by
  rw [get?_eq_none_iff, keys, List.mem_map]
  simp only [beq_eq_false_iff_ne, not_exists, not_and]

/-- The last pair of a key counts, and the map if there is none. -/
theorem get?_putAll [DecidableEq κ] (m : Ordered κ α) (pairs : List (κ × α)) (k : κ) :
    (m.putAll pairs).get? k =
      ((pairs.filter (·.1 == k)).getLast?.map Prod.snd).or (m.get? k) := by
  induction pairs generalizing m with
  | nil => rfl
  | cons p pairs ih =>
    rw [show m.putAll (p :: pairs) = (m.put p.1 p.2).putAll pairs from rfl, ih, get?_put]
    by_cases hp : p.1 = k
    · cases hlast : (pairs.filter (·.1 == k)).getLast? <;> simp [hp, List.getLast?_cons, hlast]
    · simp [hp, Ne.symm hp]

theorem get?_ofList [DecidableEq κ] (pairs : List (κ × α)) (k : κ) :
    (ofList pairs).get? k = (pairs.filter (·.1 == k)).getLast?.map Prod.snd := by
  rw [ofList, get?_putAll, get?_nil, Option.or_none]

theorem get?_putAll_of_notMem [DecidableEq κ] (m : Ordered κ α) {pairs : List (κ × α)} {k : κ}
    (h : k ∉ pairs.map Prod.fst) : (m.putAll pairs).get? k = m.get? k := by
  have hnone : pairs.filter (·.1 == k) = [] := by
    rw [List.filter_eq_nil_iff]
    intro p hp hk
    exact h (eq_of_beq hk ▸ List.mem_map_of_mem hp)
  rw [get?_putAll, hnone]
  rfl

/-- A pair that is put on top of a map is found there. -/
theorem get?_putAll_of_mem [DecidableEq κ] (m : Ordered κ α) {pairs : List (κ × α)} {p : κ × α}
    (hd : (pairs.map Prod.fst).Nodup) (h : p ∈ pairs) : (m.putAll pairs).get? p.1 = some p.2 := by
  induction pairs generalizing m with
  | nil => cases h
  | cons q pairs ih =>
    rw [List.map_cons, List.nodup_cons] at hd
    rcases List.mem_cons.1 h with rfl | h
    · calc (m.putAll (p :: pairs)).get? p.1 = (m.put p.1 p.2).get? p.1 :=
          get?_putAll_of_notMem (m.put p.1 p.2) hd.1
        _ = some p.2 := by rw [get?_put, if_pos rfl]
    · exact ih (m.put q.1 q.2) hd.2 h

/-- Pairs put on top of a map add the keys that are not there, each once, in their order. -/
theorem keys_putAll (m : Ordered κ α) (pairs : List (κ × α)) :
    (m.putAll pairs).keys = m.keys ++ ((pairs.map Prod.fst).removeAll m.keys).eraseDups := by
  induction pairs generalizing m with
  | nil => simp [putAll, List.removeAll]
  | cons p pairs ih =>
    rw [show m.putAll (p :: pairs) = (m.put p.1 p.2).putAll pairs from rfl, ih, List.map_cons,
      List.cons_removeAll]
    by_cases hp : p.1 ∈ m.keys
    · rw [keys_put_of_get?_ne_none _ (mt get?_eq_none_iff_notMem.1 (not_not_intro hp))]
      simp [hp]
    · have hkeys : (m.put p.1 p.2).keys = m.keys ++ [p.1] := by
        rw [put_of_get?_eq_none _ (get?_eq_none_iff_notMem.2 hp)]
        simp [keys]
      have hrest : (pairs.map Prod.fst).removeAll (m.keys ++ [p.1]) =
          ((pairs.map Prod.fst).removeAll m.keys).filter fun k => !(k == p.1) := by
        rw [List.removeAll, List.removeAll, List.filter_filter]
        refine List.filter_congr fun k _ => ?_
        rw [Bool.eq_iff_iff]
        simp [or_comm]
      simp [hp, hkeys, hrest, List.eraseDups_cons]

/-- The keys of a map of pairs are those of the pairs, each at its first place. -/
theorem keys_ofList (pairs : List (κ × α)) :
    (ofList pairs).keys = (pairs.map Prod.fst).eraseDups := by
  rw [ofList, keys_putAll]
  exact congrArg List.eraseDups (List.filter_eq_self.2 fun _ _ => rfl)

/-- A map of pairs has one key at most if their keys are all the same. -/
theorem length_ofList_le_one_iff {pairs : List (κ × α)} :
    (ofList pairs).length ≤ 1 ↔ ∀ p ∈ pairs, ∀ q ∈ pairs, p.1 = q.1 := by
  have hmem : ∀ k, k ∈ (ofList pairs).keys ↔ ∃ p ∈ pairs, p.1 = k := fun k =>
    (mem_keys_putAll [] pairs k).trans (or_iff_right List.not_mem_nil)
  have hnodup : (ofList pairs).keys.Nodup := @nodup_keys_putAll _ _ _ _ [] List.nodup_nil pairs
  rw [show (ofList pairs).length = (ofList pairs).keys.length by simp [keys]]
  constructor
  · intro hl p hp q hq
    match hks : (ofList pairs).keys, hl with
    | [], _ => exact absurd ((hmem p.1).2 ⟨p, hp, rfl⟩) (by simp [hks])
    | [k], _ =>
      have hp := (hmem p.1).2 ⟨p, hp, rfl⟩
      have hq := (hmem q.1).2 ⟨q, hq, rfl⟩
      rw [hks, List.mem_singleton] at hp hq
      rw [hp, hq]
  · intro h
    match hks : (ofList pairs).keys with
    | [] | [_] => simp
    | k :: k' :: ks =>
      obtain ⟨p, hp, hpk⟩ := (hmem k).1 (by simp [hks])
      obtain ⟨q, hq, hqk⟩ := (hmem k').1 (by simp [hks])
      rw [hks] at hnodup
      exact absurd (hpk.symm.trans ((h p hp q hq).trans hqk)) (by
        simp only [List.nodup_cons, List.mem_cons, not_or] at hnodup
        exact hnodup.1.1)

theorem get?_erase [DecidableEq κ] (m : Ordered κ α) (k k' : κ) :
    (m.erase k).get? k' = if k' = k then none else m.get? k' := by
  induction m with
  | nil => simp [erase]
  | cons p m ih =>
    by_cases hp : p.1 = k
    · have he : erase (p :: m) k = erase m k := by simp [erase, hp]
      rw [he, ih, get?_cons]
      by_cases hk : k' = k
      · simp [hk]
      · simp [hp, hk, Ne.symm hk]
    · have he : erase (p :: m) k = p :: erase m k := by simp [erase, hp]
      rw [he, get?_cons, ih, get?_cons]
      by_cases hk : k' = k
      · subst hk; simp [hp]
      · simp [hk]

end Lawful

/-! ### Groups -/

section Grouped

variable (key : α → κ)

/-- Items by a key, groups in the order of their first items. -/
def grouped (items : List α) : Ordered κ (List α) :=
  items.foldl (fun groups a => groups.alter (key a) fun found => found.getD [] ++ [a]) []

theorem grouped_concat (items : List α) (a : α) : grouped key (items ++ [a]) =
    (grouped key items).put (key a) (((grouped key items).get? (key a)).getD [] ++ [a]) := by
  simp [grouped, alter]

variable [LawfulBEq κ]

theorem get?_grouped [DecidableEq κ] (items : List α) (k : κ) :
    ((grouped key items).get? k).getD [] = items.filter fun a => key a = k := by
  induction items using List.reverseRecOn with
  | nil => rfl
  | append_singleton items a ih =>
    rw [grouped_concat, get?_put]
    by_cases hk : k = key a
    · subst hk
      simp [ih]
    · simp [hk, ih, Ne.symm hk]

theorem eraseDups_concat (l : List κ) (k : κ) :
    (l ++ [k]).eraseDups = if l.contains k then l.eraseDups else l.eraseDups ++ [k] := by
  rw [List.eraseDups_append, List.cons_removeAll]
  cases hk : l.contains k <;> simp [List.removeAll, List.eraseDups_cons]

theorem keys_grouped (items : List α) :
    (grouped key items).keys = (items.map key).eraseDups := by
  induction items using List.reverseRecOn with
  | nil => rfl
  | append_singleton items a ih =>
    have hfound : (items.map key).contains (key a) = true ↔
        (grouped key items).get? (key a) ≠ none := by
      rw [Ne, get?_eq_none_iff_notMem, ih, List.mem_eraseDups, not_not, List.contains_iff_mem]
    rw [grouped_concat, List.map_append, List.map_singleton, eraseDups_concat, ← ih]
    by_cases hk : (grouped key items).get? (key a) = none
    · rw [put_of_get?_eq_none _ hk, if_neg fun h => hfound.1 h hk]
      simp [keys]
    · rw [keys_put_of_get?_ne_none _ hk, if_pos (hfound.2 hk)]

theorem nodup_keys_grouped (items : List α) : (grouped key items).keys.Nodup := by
  induction items using List.reverseRecOn with
  | nil => exact List.nodup_nil
  | append_singleton items a ih =>
    rw [grouped_concat]
    exact nodup_keys_put ih _ _

/-- A group holds the items with its key. -/
theorem snd_of_mem_grouped [DecidableEq κ] {items : List α} {p : κ × List α}
    (h : p ∈ grouped key items) : p.2 = items.filter fun a => key a = p.1 := by
  rw [← get?_grouped, (mem_iff_get? (nodup_keys_grouped key items)).1 h]
  rfl

end Grouped

/-! ### Other keys -/

section MapKeys

variable {κ' : Type w} [BEq κ'] {φ : κ → κ'}

theorem get?_mapKeys (hφ : ∀ k k', (φ k == φ k') = (k == k')) (m : Ordered κ α) (k : κ) :
    get? (m.map fun p => (φ p.1, p.2)) (φ k) = m.get? k := by
  induction m with
  | nil => rfl
  | cons p m ih => rw [List.map_cons, get?_cons, get?_cons, ih, hφ]

theorem put_mapKeys (hφ : ∀ k k', (φ k == φ k') = (k == k')) (m : Ordered κ α) (k : κ) (a : α) :
    put (m.map fun p => (φ p.1, p.2)) (φ k) a = (m.put k a).map fun p => (φ p.1, p.2) := by
  induction m with
  | nil => rfl
  | cons p m ih =>
    rw [List.map_cons, put_cons, put_cons, ih, hφ]
    split <;> rfl

theorem ofList_mapKeys (hφ : ∀ k k', (φ k == φ k') = (k == k')) (pairs : List (κ × α)) :
    ofList (pairs.map fun p => (φ p.1, p.2)) = (ofList pairs).map fun p => (φ p.1, p.2) := by
  have h : ∀ (m : Ordered κ α), putAll (m.map fun p => (φ p.1, p.2))
      (pairs.map fun p => (φ p.1, p.2)) = (m.putAll pairs).map fun p => (φ p.1, p.2) := by
    intro m
    induction pairs generalizing m with
    | nil => rfl
    | cons p pairs ih =>
      simp only [putAll, List.map_cons, List.foldl_cons, put_mapKeys hφ] at ih ⊢
      exact ih _
  exact h []

end MapKeys

end SoapStubs.Ordered
