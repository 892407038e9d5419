import Mathlib.Data.List.Perm.Basic
import SoapStubs.Proofs.Contents
import SoapStubs.Proofs.FaultResolution

/-!
# Reading regroups without loss

A document lists its endpoints, types and global elements in any order, and a model holds them by
namespace.  So a model lists them in another order than the document, but it lists the same ones:
nothing is lost, nothing is there twice, and what has the same namespace keeps its order.

* `flatMap_filter_perm` and `filter_flatMap_filter` are the reason: lists that are cut by a key and
  put together again;
* `groupM_inv`: reading values group by group gives what reading them one after another gives, by
  the text of a key;
* `ServiceModel.Regroups` says how a model holds the entities of a document, and
  `ServiceModel.ofValue_regroups` is the theorem.
-/

namespace SoapStubs

/-! ### Lists cut by a key -/

section

variable {α κ : Type} [DecidableEq κ]

theorem flatMap_ite_eq {keys : List κ} {k : κ} {l : List α} (hd : keys.Nodup)
    (hl : k ∉ keys → l = []) : (keys.flatMap fun k' => if k = k' then l else []) = l := by
  induction keys with
  | nil => exact (hl List.not_mem_nil).symm
  | cons k' keys ih =>
    rw [List.nodup_cons] at hd
    by_cases hk : k = k'
    · subst hk
      have hrest : (keys.flatMap fun k' => if k = k' then l else []) = [] := by
        rw [List.flatMap_eq_nil_iff]
        intro k' hk'
        rw [if_neg fun (h : k = k') => hd.1 (h ▸ hk')]
      rw [List.flatMap_cons, hrest, if_pos rfl, List.append_nil]
    · rw [List.flatMap_cons, if_neg hk, List.nil_append, ih hd.2]
      exact fun hnot => hl (by simp [hk, hnot])

variable {key : α → κ} {keys : List κ} {items : List α}

/-- Cutting a list by a key and putting it together again keeps every item. -/
theorem flatMap_filter_perm (hd : keys.Nodup) (hkeys : ∀ a ∈ items, key a ∈ keys) :
    (keys.flatMap fun k => items.filter fun a => key a = k).Perm items := by
  induction items with
  | nil => simp
  | cons a items ih =>
    obtain ⟨ha, hkeys⟩ := List.forall_mem_cons.1 hkeys
    have hcut : ∀ k, ((a :: items).filter fun a => key a = k) =
        (if key a = k then [a] else []) ++ items.filter fun a => key a = k := by
      intro k
      by_cases hk : key a = k <;> simp [hk]
    have hone : (keys.flatMap fun k => if key a = k then [a] else []) = [a] :=
      flatMap_ite_eq hd fun hnot => absurd ha hnot
    simp only [hcut]
    refine (List.flatMap_append_perm keys _ _).symm.trans ?_
    rw [hone]
    exact (ih hkeys).cons a

/-- Cutting a list by a key and putting it together again keeps the order of the items with one
key. -/
theorem filter_flatMap_filter (hd : keys.Nodup) (hkeys : ∀ a ∈ items, key a ∈ keys) (k : κ) :
    ((keys.flatMap fun k => items.filter fun a => key a = k).filter fun a => key a = k) =
      items.filter fun a => key a = k := by
  have hcut : ∀ k', ((items.filter fun a => key a = k').filter fun a => key a = k) =
      if k = k' then items.filter fun a => key a = k else [] := by
    intro k'
    rw [List.filter_filter]
    split
    · rename_i hk
      simp [hk]
    · rename_i hk
      simp only [List.filter_eq_nil_iff, Bool.and_eq_true, decide_eq_true_eq]
      rintro a - ⟨rfl, rfl⟩
      exact hk rfl
  rw [List.filter_flatMap]
  simp only [hcut]
  refine flatMap_ite_eq hd fun hnot => ?_
  simp only [List.filter_eq_nil_iff, decide_eq_true_eq]
  rintro a ha rfl
  exact hnot (hkeys a ha)

end

section

variable {κ : Type} [BEq κ] [LawfulBEq κ]

theorem eraseDups_append_eraseDups (l l' : List κ) :
    (l ++ l'.eraseDups).eraseDups = (l ++ l').eraseDups := by
  induction l' using List.reverseRecOn with
  | nil => rfl
  | append_singleton l' k ih =>
    have hmem : (l ++ l'.eraseDups).contains k = (l ++ l').contains k := by
      rw [Bool.eq_iff_iff]
      simp
    rw [Ordered.eraseDups_concat, ← List.append_assoc, Ordered.eraseDups_concat]
    by_cases hk : l'.contains k = true
    · rw [if_pos hk, if_pos (by simp_all), ih]
    · rw [if_neg hk, ← List.append_assoc, Ordered.eraseDups_concat, hmem, ih]

theorem eraseDups_eraseDups_append (l l' : List κ) :
    (l.eraseDups ++ l').eraseDups = (l ++ l').eraseDups := by
  have hsame : l.eraseDups.eraseDups = l.eraseDups := eraseDups_append_eraseDups [] l
  rw [List.eraseDups_append, List.eraseDups_append, hsame]
  simp [List.removeAll]

end

/-! ### Entities by namespace -/

section

variable {α : Type} {key : α → Value} {items : List α}

/-- The text of an item's key. -/
abbrev keyText (key : α → Value) (a : α) : String := (key a).nameText

/-- The other list has the same items, each as often, and those with one key in the same order. -/
structure Regrouped (key : α → Value) (items out : List α) : Prop where
  /-- The items are the same. -/
  perm : out.Perm items
  /-- Items with one key keep their order. -/
  stable : ∀ k : String, out.filter (key · == .text k) = items.filter (key · == .text k)

theorem eq_text_of_mem_filter {a : α} {k : String} (htext : ∀ a ∈ items, (key a).IsText)
    (ha : a ∈ items.filter fun a => keyText key a = k) : key a = .text k := by
  obtain ⟨hmem, hk⟩ := List.mem_filter.1 ha
  rw [(htext a hmem).eq]
  exact congrArg Value.text (of_decide_eq_true hk)

theorem regrouped_flatMap {names : List String} (hd : names.Nodup)
    (hnames : ∀ a ∈ items, keyText key a ∈ names) (htext : ∀ a ∈ items, (key a).IsText) :
    Regrouped key items (names.flatMap fun k => items.filter fun a => keyText key a = k) := by
  have hperm := flatMap_filter_perm hd hnames
  refine ⟨hperm, fun k => ?_⟩
  have hkey : ∀ l : List α, (∀ a ∈ l, a ∈ items) →
      l.filter (key · == .text k) = l.filter fun a => keyText key a = k := by
    intro l hl
    refine List.filter_congr fun a ha => ?_
    rw [keyText, (htext a (hl a ha)).eq]
    rfl
  rw [hkey _ fun a ha => hperm.mem_iff.1 ha, hkey _ fun a ha => ha]
  exact filter_flatMap_filter hd hnames k

/-! ### Reading -/

theorem text_beq_text (s t : String) : (Value.text s == Value.text t) = (s == t) := rfl

/-- The groups of items by the texts of their keys. -/
abbrev groupsOf (key : α → Value) (items : List α) : Ordered Value (List α) :=
  (Ordered.grouped (keyText key) items).map fun p => (.text p.1, p.2)

theorem get?_groupsOf (key : α → Value) (items : List α) (k : String) :
    ((groupsOf key items).get? (.text k)).getD [] = items.filter fun a => keyText key a = k := by
  rw [groupsOf, Ordered.get?_mapKeys text_beq_text, Ordered.get?_grouped]

theorem keys_groupsOf (key : α → Value) (items : List α) :
    (groupsOf key items).keys = (items.map (keyText key)).eraseDups.map .text := by
  rw [← Ordered.keys_grouped]
  simp [groupsOf, Ordered.keys]

theorem groupsOf_concat {a : α} (ha : (key a).IsText) (items : List α) :
    (groupsOf key items).alter (key a) (fun found => found.getD [] ++ [a]) =
      groupsOf key (items ++ [a]) := by
  rw [groupsOf, groupsOf, Ordered.alter, ha.eq, Ordered.get?_mapKeys text_beq_text,
    Ordered.put_mapKeys text_beq_text, Ordered.grouped_concat]

/-- **Reading and grouping.**  If values can be read and grouped by keys that are texts, then they
can be read one after another, and the groups are those of what is read. -/
theorem groupM_inv {read : Value → Except Cause α} {values : List Value}
    {groups : Ordered Value (List α)} (h : groupM read key values = .ok groups)
    (hread : ∀ v ∈ values, Gives (fun a => (key a).IsText) (read v)) :
    ∃ items, values.mapM read = .ok items ∧ (∀ a ∈ items, (key a).IsText) ∧
      groups = groupsOf key items := by
  -- the groups after a part of the values are those of what was read so far
  suffices hfrom : ∀ front : List α, values.foldlM (fun groups item => do
      let a ← read item
      let k ← (key a).asKey
      return groups.alter k fun found => found.getD [] ++ [a]) (groupsOf key front) = .ok groups →
        ∃ items, values.mapM read = .ok items ∧ (∀ a ∈ items, (key a).IsText) ∧
          groups = groupsOf key (front ++ items) from hfrom [] h
  clear h
  induction values with
  | nil =>
    rintro front ⟨⟩
    exact ⟨[], rfl, nofun, by rw [List.append_nil]⟩
  | cons v values ih =>
    intro front h
    obtain ⟨hv, hread⟩ := List.forall_mem_cons.1 hread
    rw [List.foldlM_cons] at h
    obtain ⟨groups', hfirst, h⟩ := bind_eq_ok.1 h
    obtain ⟨a, ha, hfirst⟩ := bind_eq_ok.1 hfirst
    have htext := hv a ha
    have hkey : (key a).asKey = .ok (key a) := by
      rw [htext.eq]
      rfl
    rw [hkey, ok_bind, groupsOf_concat htext] at hfirst
    obtain rfl := Except.ok.inj hfirst
    obtain ⟨items, hitems, htexts, rfl⟩ := ih hread _ h
    refine ⟨a :: items, ?_, List.forall_mem_cons.2 ⟨htext, htexts⟩, by simp⟩
    exact mapM_cons_eq_ok.2 ⟨a, ha, items, hitems, rfl⟩

end

/-! ### Models -/

def Value.listed (v : Value) (name : String) : Except Cause (List Value) := do
  (← v.get name (.list [])).elements

/-- The entities of a list of a document. -/
def Value.entities {α : Type} (v : Value) (name : String) (read : Value → Except Cause α) :
    Except Cause (List α) := do
  (← v.listed name).mapM read

/-- The namespaces in a list of a document are texts. -/
def Value.TextSpaces (v : Value) (name : String) : Prop :=
  Gives (fun items => ∀ item ∈ items, Gives IsText (item.get "namespace" (.text "")))
    (v.listed name)

theorem Endpoint.space_ofValue {v : Value} (h : Gives Value.IsText (v.get "namespace" (.text ""))) :
    Gives (fun e : Endpoint => e.targetNamespace.IsText) (Endpoint.ofValue v) := by
  unfold Endpoint.ofValue
  refine h.bind fun space hspace => .andThen fun _ => .andThen fun _ => .andThen fun _ => ?_
  refine .andThen fun _ => .andThen fun _ => .andThen fun _ => .andThen fun _ => ?_
  exact .andThen fun _ => .andThen fun _ => .ok hspace

theorem TypeDefinition.space_ofValue {v : Value}
    (h : Gives Value.IsText (v.get "namespace" (.text ""))) :
    Gives (fun t : TypeDefinition => t.space.IsText) (TypeDefinition.ofValue v) := by
  unfold TypeDefinition.ofValue
  refine .andThen fun _ => h.bind fun space hspace => .andThen fun _ => .andThen fun _ => ?_
  refine .andThen fun _ => .andThen fun _ => .andThen fun _ => .andThen fun _ => ?_
  exact .andThen fun _ => .andThen fun _ => .andThen fun _ => .andThen fun _ => .ok hspace

theorem RootElement.space_ofValue {v : Value}
    (h : Gives Value.IsText (v.get "namespace" (.text ""))) :
    Gives (fun e : RootElement => e.space.IsText) (RootElement.ofValue v) := by
  unfold RootElement.ofValue
  exact .andThen fun _ => .andThen fun _ => h.bind fun space hspace => .ok hspace

/-- A list of a document that can be read and grouped by namespaces that are texts. -/
theorem entities_of_groupM {α : Type} {key : α → Value} {read : Value → Except Cause α}
    {v w : Value} {name : String} {values : List Value} {groups : Ordered Value (List α)}
    (hv : v.get name (.list []) = .ok w) (hw : w.elements = .ok values)
    (h : groupM read key values = .ok groups) (hspaces : v.TextSpaces name)
    (hread : ∀ {item : Value}, Gives Value.IsText (item.get "namespace" (.text "")) →
      Gives (fun a => (key a).IsText) (read item)) :
    ∃ items, v.entities name read = .ok items ∧ (∀ a ∈ items, (key a).IsText) ∧
      groups = groupsOf key items := by
  have hlisted : v.listed name = .ok values := by
    rw [Value.listed, hv]
    exact hw
  obtain ⟨items, hitems, htexts, hgroups⟩ :=
    groupM_inv h fun item hitem => hread (hspaces values hlisted item hitem)
  refine ⟨items, ?_, htexts, hgroups⟩
  rw [Value.entities, hlisted]
  exact hitems

namespace ServiceModel

/-- The namespaces of entities, in the order of their first appearance. -/
def spacesOf (names : List String) : List Value := names.eraseDups.map .text

/-- **How a model holds the entities of a document**: it lists the same ones, those of a namespace
in the same order, in groups of one namespace each.  The groups of endpoints are in the order in
which their namespaces first appear, those of types and global elements in the order of the types
and then of the elements. -/
structure Regroups (m : ServiceModel) (es : List Endpoint) (ts : List TypeDefinition)
    (rs : List RootElement) : Prop where
  endpoints : Regrouped (·.targetNamespace) es m.endpoints
  types : Regrouped (·.space) ts m.types
  /-- The global elements. -/
  rootElements : Regrouped (·.space) rs m.rootElements
  /-- The order of the groups of endpoints. -/
  endpointSpaces : m.endpointGroups.keys = spacesOf (es.map (keyText (·.targetNamespace)))
  /-- The order of the groups of types and global elements. -/
  schemaSpaces : m.schemaGroups.keys =
    spacesOf (ts.map (keyText (·.space)) ++ rs.map (keyText (·.space)))
  ownEndpoints : ∀ p ∈ m.endpointGroups, ∀ e ∈ p.2, e.targetNamespace = p.1
  /-- A group of types and global elements is of one namespace. -/
  ownSchema : ∀ p ∈ m.schemaGroups,
    (∀ t ∈ p.2.types, t.space = p.1) ∧ ∀ e ∈ p.2.rootElements, e.space = p.1

variable {v : Value} {m : ServiceModel} {es : List Endpoint} {ts : List TypeDefinition}
  {rs : List RootElement}

/-- The model that holds entities by namespace. -/
def regroup (es : List Endpoint) (ts : List TypeDefinition) (rs : List RootElement) :
    ServiceModel where
  endpointGroups := groupsOf (·.targetNamespace) es
  schemaGroups :=
    (ts.map (keyText (·.space)) ++ rs.map (keyText (·.space))).eraseDups.map fun k =>
      (.text k, ⟨ts.filter fun t => keyText (·.space) t = k,
        rs.filter fun e => keyText (·.space) e = k⟩)

theorem schemaGroups_eq (ts : List TypeDefinition) (rs : List RootElement) :
    (Ordered.ofList (((groupsOf (·.space) ts).keys ++ (groupsOf (·.space) rs).keys).map
      fun k => (k, ()))).map (fun (k, _) => (k, SchemaGroup.mk
        (((groupsOf (·.space) ts).get? k).getD []) (((groupsOf (·.space) rs).get? k).getD []))) =
      (regroup [] ts rs).schemaGroups := by
  have hspaces : Ordered.ofList (((groupsOf (·.space) ts).keys ++
      (groupsOf (·.space) rs).keys).map fun k => (k, ())) =
        (Ordered.ofList (((ts.map (keyText (·.space))).eraseDups ++
          (rs.map (keyText (·.space))).eraseDups).map fun k => (k, ()))).map
            fun p => (.text p.1, p.2) := by
    rw [keys_groupsOf, keys_groupsOf, ← Ordered.ofList_mapKeys text_beq_text, ← List.map_append,
      List.map_map, List.map_map]
    rfl
  have hkeys := Ordered.keys_ofList (((ts.map (keyText (·.space))).eraseDups ++
    (rs.map (keyText (·.space))).eraseDups).map fun k => (k, ()))
  rw [List.map_map, List.map_id'', eraseDups_append_eraseDups, eraseDups_eraseDups_append] at hkeys
  · rw [hspaces, regroup, ← hkeys, Ordered.keys, List.map_map, List.map_map]
    refine List.map_congr_left fun p _ => ?_
    simp [get?_groupsOf]
  · exact fun _ => rfl

theorem endpoints_regroup (es : List Endpoint) (ts : List TypeDefinition) (rs : List RootElement) :
    (regroup es ts rs).endpoints =
      (es.map (keyText (·.targetNamespace))).eraseDups.flatMap fun k =>
        es.filter fun e => keyText (·.targetNamespace) e = k := by
  rw [← Ordered.keys_grouped, Ordered.keys, List.flatMap_map, endpoints, Ordered.values, regroup,
    List.map_map, List.flatMap]
  refine congrArg List.flatten (List.map_congr_left fun p hp => ?_)
  exact Ordered.snd_of_mem_grouped _ hp

theorem regroups_regroup (hes : ∀ e ∈ es, e.targetNamespace.IsText)
    (hts : ∀ t ∈ ts, t.space.IsText) (hrs : ∀ e ∈ rs, e.space.IsText) :
    (regroup es ts rs).Regroups es ts rs := by
  have hd : ∀ l : List String, l.eraseDups.Nodup := fun l => by
    have hnodup := Ordered.nodup_keys_grouped id l
    rwa [Ordered.keys_grouped, List.map_id] at hnodup
  constructor
  case endpoints =>
    rw [endpoints_regroup]
    refine regrouped_flatMap (hd _) (fun e he => ?_) hes
    exact List.mem_eraseDups.2 (List.mem_map_of_mem he)
  case types =>
    have htypes : (regroup es ts rs).types = (ts.map (keyText (·.space)) ++
        rs.map (keyText (·.space))).eraseDups.flatMap fun k =>
          ts.filter fun t => keyText (·.space) t = k := by
      simp [types, regroup, Ordered.values, List.flatMap_map]
    rw [htypes]
    refine regrouped_flatMap (hd _) (fun t ht => ?_) hts
    exact List.mem_eraseDups.2 (List.mem_append_left _ (List.mem_map_of_mem ht))
  case rootElements =>
    have hroots : (regroup es ts rs).rootElements = (ts.map (keyText (·.space)) ++
        rs.map (keyText (·.space))).eraseDups.flatMap fun k =>
          rs.filter fun e => keyText (·.space) e = k := by
      simp [rootElements, regroup, Ordered.values, List.flatMap_map]
    rw [hroots]
    refine regrouped_flatMap (hd _) (fun e he => ?_) hrs
    exact List.mem_eraseDups.2 (List.mem_append_right _ (List.mem_map_of_mem he))
  case endpointSpaces => exact keys_groupsOf _ es
  case schemaSpaces => simp [regroup, Ordered.keys, spacesOf]
  case ownEndpoints =>
    intro p hp e he
    obtain ⟨q, hq, rfl⟩ := List.mem_map.1 hp
    rw [Ordered.snd_of_mem_grouped _ hq] at he
    exact eq_text_of_mem_filter hes he
  case ownSchema =>
    intro p hp
    obtain ⟨k, -, rfl⟩ := List.mem_map.1 hp
    exact ⟨fun t ht => eq_text_of_mem_filter hts ht, fun e he => eq_text_of_mem_filter hrs he⟩

theorem gives_ofValue (hendpoints : v.TextSpaces "endpoints") (htypes : v.TextSpaces "types")
    (hroots : v.TextSpaces "root_elements") :
    Gives (fun m => ∃ es ts rs, v.entities "endpoints" Endpoint.ofValue = .ok es ∧
      v.entities "types" TypeDefinition.ofValue = .ok ts ∧
      v.entities "root_elements" RootElement.ofValue = .ok rs ∧ Regroups m es ts rs)
        (ofValue v) := by
  unfold ofValue
  refine .known fun w₁ hv₁ => .known fun values₁ hw₁ => .known fun endpoints h₁ => ?_
  refine .known fun w₂ hv₂ => .known fun values₂ hw₂ => .known fun types h₂ => ?_
  refine .known fun w₃ hv₃ => .known fun values₃ hw₃ => .known fun roots h₃ => .ok ?_
  obtain ⟨es, hes, hestexts, rfl⟩ :=
    entities_of_groupM hv₁ hw₁ h₁ hendpoints Endpoint.space_ofValue
  obtain ⟨ts, hts, htstexts, rfl⟩ :=
    entities_of_groupM hv₂ hw₂ h₂ htypes TypeDefinition.space_ofValue
  obtain ⟨rs, hrs, hrstexts, rfl⟩ :=
    entities_of_groupM hv₃ hw₃ h₃ hroots RootElement.space_ofValue
  refine ⟨es, ts, rs, hes, hts, hrs, ?_⟩
  dsimp only
  rw [schemaGroups_eq]
  exact regroups_regroup hestexts htstexts hrstexts

/-- The element is the first one of the model that is for the type. -/
def IsFirstFor (m : ServiceModel) (t : TypeDefinition) (e : RootElement) : Prop :=
  ∃ front back, m.rootElements = front ++ e :: back ∧ (e.qualifiedName == t.qualifiedName) = true ∧
    ∀ e' ∈ front, (e'.qualifiedName == t.qualifiedName) = false

theorem rootElementOf_of_ne_null {t : TypeDefinition} (ht : t.qualifiedName ≠ .null) :
    m.rootElementOf t = m.rootElements.find? (·.qualifiedName == t.qualifiedName) := by
  unfold rootElementOf
  split
  · rename_i hnull
    exact absurd hnull ht
  · rfl

theorem rootElementOf_eq_some_iff {t : TypeDefinition} {e : RootElement} :
    m.rootElementOf t = some e ↔ t.qualifiedName ≠ .null ∧ m.IsFirstFor t e := by
  by_cases ht : t.qualifiedName = .null
  · simp [rootElementOf, ht]
  · rw [rootElementOf_of_ne_null ht, List.find?_eq_some_iff_append]
    simp only [IsFirstFor, Bool.not_eq_true', ne_eq, ht, not_false_eq_true, true_and]
    constructor
    · rintro ⟨he, front, back, heq, hfront⟩
      exact ⟨front, back, heq, he, hfront⟩
    · rintro ⟨front, back, heq, he, hfront⟩
      exact ⟨he, front, back, heq, hfront⟩

theorem rootElementOf_eq_none_iff {t : TypeDefinition} :
    m.rootElementOf t = none ↔ t.qualifiedName = .null ∨
      ∀ e ∈ m.rootElements, (e.qualifiedName == t.qualifiedName) = false := by
  by_cases ht : t.qualifiedName = .null
  · simp [rootElementOf, ht]
  · rw [rootElementOf_of_ne_null ht, List.find?_eq_none]
    simp [ht]

/-- **Reading regroups without loss.**  A document with texts for namespaces that is accepted lists
endpoints, types and global elements that can be read one after another, and its model holds
exactly those: each of them once, those of one namespace in the order of the document, in groups
of one namespace that are in the order of first appearance.  The global element of a type is the
first one that the model lists under the name of the type; there is none exactly if the type has no
name or no element has it. -/
theorem ofValue_regroups (h : ofValue v = .ok m) (hendpoints : v.TextSpaces "endpoints")
    (htypes : v.TextSpaces "types") (hroots : v.TextSpaces "root_elements") :
    ∃ es ts rs, v.entities "endpoints" Endpoint.ofValue = .ok es ∧
      v.entities "types" TypeDefinition.ofValue = .ok ts ∧
      v.entities "root_elements" RootElement.ofValue = .ok rs ∧ m.Regroups es ts rs ∧
      ∀ t : TypeDefinition,
        (∀ e, m.rootElementOf t = some e ↔ t.qualifiedName ≠ .null ∧ m.IsFirstFor t e) ∧
        (m.rootElementOf t = none ↔ t.qualifiedName = .null ∨
          ∀ e ∈ m.rootElements, (e.qualifiedName == t.qualifiedName) = false) := by
  obtain ⟨es, ts, rs, hes, hts, hrs, hregroups⟩ := gives_ofValue hendpoints htypes hroots m h
  exact ⟨es, ts, rs, hes, hts, hrs, hregroups, fun t =>
    ⟨fun e => rootElementOf_eq_some_iff, rootElementOf_eq_none_iff⟩⟩

/-- A list of a document, with a name, a namespace and an element's name for each entry. -/
def atlasList (entries : List (String × String × String)) : Value :=
  .list (entries.map fun e =>
    .record [("qualified_name", .text e.1), ("namespace", .text e.2.1), ("name", .text e.2.2)])

/-- A document whose namespaces take turns.  Two global elements are for the same type. -/
def atlasDocument : Value :=
  .record [
    ("endpoints", atlasList [("atlas.Map", "urn:b", ""), ("atlas.Pin", "urn:a", ""),
      ("atlas.Key", "urn:b", "")]),
    ("types", atlasList [("atlas.Road", "urn:c", ""), ("atlas.Town", "urn:a", ""),
      ("atlas.Lane", "urn:c", "")]),
    ("root_elements", atlasList [("atlas.Road", "urn:b", "highway"),
      ("atlas.Town", "urn:b", "town"), ("atlas.Road", "urn:a", "road")])]

/-- The namespace `urn:a` comes before `urn:b`, as there is a type in it.  So the element of the
road is the one that the document lists last. -/
theorem ofValue_regroups_atlas : ∃ m es ts rs, ofValue atlasDocument = .ok m ∧
    atlasDocument.entities "endpoints" Endpoint.ofValue = .ok es ∧
    atlasDocument.entities "types" TypeDefinition.ofValue = .ok ts ∧
    atlasDocument.entities "root_elements" RootElement.ofValue = .ok rs ∧ m.Regroups es ts rs ∧
    m.endpoints.map (·.qualifiedName.nameText) = ["atlas.Map", "atlas.Key", "atlas.Pin"] ∧
    m.schemaGroups.keys.map Value.nameText = ["urn:c", "urn:a", "urn:b"] ∧
    m.types.map (fun t => (m.rootElementOf t).map (·.name.nameText)) =
      [some "road", none, some "town"] := by
  have hspaces : ∀ name entries, atlasDocument.get name (.list []) = .ok (atlasList entries) →
      atlasDocument.TextSpaces name := by
    intro name entries hget items hitems item hitem
    rw [Value.listed, hget] at hitems
    obtain rfl := Except.ok.inj hitems
    obtain ⟨e, -, rfl⟩ := List.mem_map.1 hitem
    exact .ok rfl
  obtain ⟨es, ts, rs, hes, hts, hrs, hregroups, -⟩ :=
    @ofValue_regroups atlasDocument ((ofValue atlasDocument).toOption.getD {}) rfl
      (hspaces _ _ rfl) (hspaces _ _ rfl) (hspaces _ _ rfl)
  exact ⟨_, es, ts, rs, rfl, hes, hts, hrs, hregroups, rfl, rfl, rfl⟩

end ServiceModel

end SoapStubs
