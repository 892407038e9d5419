import SoapStubs.Proofs.Closure

/-!
# What the common metadata tells about a method

A method has a one-way record or it has none, and records of its parameters for as many numbers as
it has parameters.  Keys of methods are put together from names, so that operations may share one.
A descriptor that is written over a different one is reported as a conflict; that nothing is written
is not, so a method's key has the marks of all its operations together, without a conflict.

* `Registry.Tells` says that the records of a method's key are right about an operation;
* `Delivered.hasRecord_oneWay_iff` and `Delivered.hasRecord_parameter_iff` say which records there
  are;
* `Generator.runCommon_tells_iff` says which operations the records are right about, and
  `Generator.runCommon_tells_wrong` that they may be wrong without a conflict.
-/

namespace SoapStubs

/-! ### Keys of parameters -/

/-- The key of a parameter of a method, by number. -/
def parameterKey (key : String) (i : Nat) : String := key ++ "." ++ toString i

theorem dot_not_mem_toString (i : Nat) : '.' ∉ (toString i).toList := by
  intro hdot
  rw [Nat.toString_eq_repr, Nat.toList_repr] at hdot
  exact absurd (Nat.isDigit_of_mem_toDigits (by decide) (by decide) hdot) (by decide)

/-- The last dot of the key of a parameter stands before the number. -/
theorem parameterKey_inj {key key' : String} {i j : Nat} :
    parameterKey key i = parameterKey key' j ↔ key = key' ∧ i = j := by
  constructor
  · intro h
    have hsplit : (key, toString i) = (key', toString j) := by
      rw [← Text.splitLast_append key (dot_not_mem_toString i),
        ← Text.splitLast_append key' (dot_not_mem_toString j)]
      exact congrArg (Text.splitLast '.') h
    obtain ⟨hkey, hnumber⟩ := Prod.mk.inj hsplit
    have hdigits : Nat.toDigits 10 i = Nat.toDigits 10 j := by
      simpa only [Nat.toString_eq_repr, Nat.toList_repr] using congrArg String.toList hnumber
    refine ⟨hkey, ?_⟩
    rw [← Nat.ofDigitChars_ten_toDigits (n := i), hdigits, Nat.ofDigitChars_ten_toDigits]
  · rintro ⟨rfl, rfl⟩
    rfl

/-! ### Operations with one key -/

/-- The operations, of all endpoints, whose methods have the key. -/
def ServiceModel.methodsAt (r : Resolver) (m : ServiceModel) (key : String) : List Operation :=
  m.endpoints.flatMap fun e => e.operations.filter fun o => o.methodKey (e.identifier r) == key

theorem ServiceModel.mem_methodsAt {r : Resolver} {m : ServiceModel} {key : String}
    {o : Operation} : o ∈ m.methodsAt r key ↔
      ∃ e ∈ m.endpoints, o ∈ e.operations ∧ o.methodKey (e.identifier r) = key := by
  simp only [methodsAt, List.mem_flatMap, List.mem_filter, beq_iff_eq]

theorem ServiceModel.mem_writes_of_mem_methodsAt {r : Resolver} {m : ServiceModel}
    {faults : List ResolvedFault} {key : String} {o : Operation} {w : Registry.Write}
    (ho : o ∈ m.methodsAt r key) (hw : w ∈ o.writesAt r key) : w ∈ m.writes r faults := by
  obtain ⟨e, he, hmem, rfl⟩ := mem_methodsAt.1 ho
  exact mem_writes.2 (.inl ⟨e, he, .inr (.inr ⟨o, hmem, hw⟩)⟩)

theorem Operation.parameter_mem_writesAt {r : Resolver} {o : Operation} {i : Nat} (key : String)
    (hi : i < o.parameters.length) :
    (parameterKey key i, o.parameters[i].descriptor) ∈ o.writesAt r key := by
  exact mem_writesAt.2 (.inr (.inr (.inr ⟨i, hi, rfl⟩)))

/-- What is recorded for operations, other than the three descriptors that each of them has. -/
theorem Operation.mark_of_mem_writesAt {r : Resolver} {key : String} {o : Operation}
    {w : Registry.Write} (hw : w ∈ o.writesAt r key) :
    (w.2.kind = .oneWay → w.1 = key ∧ o.oneWay = true) ∧
      (w.2.kind = .parameter → ∃ i < o.parameters.length, w.1 = parameterKey key i) := by
  rcases mem_writesAt.1 hw with ⟨m, -, rfl⟩ | (rfl | rfl | rfl) | ⟨ho, rfl⟩ | ⟨i, hi, rfl⟩
  · exact ⟨nofun, nofun⟩
  · exact ⟨nofun, nofun⟩
  · exact ⟨nofun, nofun⟩
  · exact ⟨nofun, nofun⟩
  · exact ⟨fun _ => ⟨rfl, ho⟩, nofun⟩
  · exact ⟨nofun, fun _ => ⟨i, hi, rfl⟩⟩

/-- Marks of methods are recorded for operations only. -/
theorem ServiceModel.exists_of_mark {r : Resolver} {m : ServiceModel} {faults : List ResolvedFault}
    {w : Registry.Write} (hw : w ∈ m.writes r faults)
    (hkind : w.2.kind = .oneWay ∨ w.2.kind = .parameter) :
    ∃ e ∈ m.endpoints, ∃ o ∈ e.operations, w ∈ o.writesAt r (o.methodKey (e.identifier r)) := by
  rcases ServiceModel.mem_writes.1 hw with
    ⟨e, he, rfl | rfl | ⟨o, ho, hw⟩⟩ | ⟨f, -, rfl⟩ | ⟨e, -, rfl⟩
  · exact absurd hkind (by rintro (h | h) <;> cases h)
  · exact absurd hkind (by rintro (h | h) <;> cases h)
  · exact ⟨e, he, o, ho, hw⟩
  · exact absurd hkind (by rintro (h | h) <;> cases h)
  · exact absurd hkind (by rintro (h | h) <;> cases h)

/-- Two operations have the same descriptors, as far as both have them. -/
structure Operation.Agrees (r : Resolver) (o o' : Operation) : Prop where
  binding : o.binding.descriptor = o'.binding.descriptor
  /-- Of the operations themselves. -/
  operation : o.descriptor r = o'.descriptor r
  result : o.result.descriptor = o'.result.descriptor
  /-- Of the parameters that both have. -/
  parameter : ∀ i (hi : i < o.parameters.length) (hi' : i < o'.parameters.length),
    o.parameters[i].descriptor = o'.parameters[i].descriptor

/-! ### Which records there are -/

/-- The records of a method's key are right about an operation: there is a one-way record if it has
no response, and there are as many records of parameters as it has parameters. -/
structure Registry.Tells (registry : Registry) (key : String) (o : Operation) : Prop where
  oneWay : registry.HasRecord (.text key) .oneWay ↔ o.oneWay = true
  parameter : ∀ i, registry.HasRecord (.text (parameterKey key i)) .parameter ↔
    i < o.parameters.length

namespace Generator

variable {g : Generator} {s s' : Session} {c : CommonResult}

namespace Delivered

variable (hc : g.Delivered c)

include hc

/-- A method has a one-way record if one of its operations has no response. -/
theorem hasRecord_oneWay_iff (key : String) : c.registry.HasRecord (.text key) .oneWay ↔
    ∃ o ∈ g.model.methodsAt g.resolver key, o.oneWay = true := by
  constructor
  · rintro ⟨record, hrecord, hkey, hkind⟩
    obtain ⟨w, hw, rfl⟩ := hc.mem_of_record hrecord
    obtain ⟨e, he, o, ho, hw⟩ := ServiceModel.exists_of_mark hw (.inl hkind)
    obtain ⟨hmethod, hone⟩ := (Operation.mark_of_mem_writesAt hw).1 hkind
    have hkey : w.1 = key := Value.text.inj hkey
    exact ⟨o, ServiceModel.mem_methodsAt.2 ⟨e, he, ho, hmethod.symm.trans hkey⟩, hone⟩
  · rintro ⟨o, ho, hone⟩
    refine hc.hasRecord (d := .oneWay) (ServiceModel.mem_writes_of_mem_methodsAt ho ?_)
    exact Operation.mem_writesAt.2 (.inr (.inr (.inl ⟨hone, rfl⟩)))

/-- A method has records of as many parameters as one of its operations has. -/
theorem hasRecord_parameter_iff (key : String) (i : Nat) :
    c.registry.HasRecord (.text (parameterKey key i)) .parameter ↔
      ∃ o ∈ g.model.methodsAt g.resolver key, i < o.parameters.length := by
  constructor
  · rintro ⟨record, hrecord, hkey, hkind⟩
    obtain ⟨w, hw, rfl⟩ := hc.mem_of_record hrecord
    obtain ⟨e, he, o, ho, hw⟩ := ServiceModel.exists_of_mark hw (.inr hkind)
    obtain ⟨j, hj, hw⟩ := (Operation.mark_of_mem_writesAt hw).2 hkind
    obtain ⟨hmethod, rfl⟩ := parameterKey_inj.1 (hw.symm.trans (Value.text.inj hkey))
    exact ⟨o, ServiceModel.mem_methodsAt.2 ⟨e, he, ho, hmethod⟩, hj⟩
  · rintro ⟨o, ho, hi⟩
    exact hc.hasRecord (d := o.parameters[i].descriptor)
      (ServiceModel.mem_writes_of_mem_methodsAt ho (Operation.parameter_mem_writesAt key hi))

/-- The records of a key are right about an operation of it that has all marks of the others. -/
theorem tells_iff {key : String} {o : Operation} (ho : o ∈ g.model.methodsAt g.resolver key) :
    c.registry.Tells key o ↔ ∀ o' ∈ g.model.methodsAt g.resolver key,
      (o'.oneWay = true → o.oneWay = true) ∧ o'.parameters.length ≤ o.parameters.length := by
  constructor
  · intro htells o' ho'
    refine ⟨fun hone => htells.oneWay.1 ((hc.hasRecord_oneWay_iff key).2 ⟨o', ho', hone⟩), ?_⟩
    by_contra hlt
    have hlast : o.parameters.length < o'.parameters.length := by omega
    have hrecord := (hc.hasRecord_parameter_iff key o.parameters.length).2 ⟨o', ho', hlast⟩
    exact absurd ((htells.parameter _).1 hrecord) (lt_irrefl _)
  · intro hall
    refine ⟨⟨fun hrecord => ?_, fun hone => ?_⟩, fun i => ⟨fun hrecord => ?_, fun hi => ?_⟩⟩
    · obtain ⟨o', ho', hone⟩ := (hc.hasRecord_oneWay_iff key).1 hrecord
      exact (hall o' ho').1 hone
    · exact (hc.hasRecord_oneWay_iff key).2 ⟨o, ho, hone⟩
    · obtain ⟨o', ho', hi⟩ := (hc.hasRecord_parameter_iff key i).1 hrecord
      exact hi.trans_le (hall o' ho').2
    · exact (hc.hasRecord_parameter_iff key i).2 ⟨o, ho, hi⟩

/-- Without conflicts, operations with one key differ at most in their marks. -/
theorem agrees (hm : g.model.Typed) (hconflicts : c.registry.conflicts = []) {key : String}
    {o o' : Operation} (ho : o ∈ g.model.methodsAt g.resolver key)
    (ho' : o' ∈ g.model.methodsAt g.resolver key) : o.Agrees g.resolver o' := by
  have heq : ∀ {k : String} {d d' : Descriptor}, (k, d) ∈ o.writesAt g.resolver key →
      (k, d') ∈ o'.writesAt g.resolver key → d.kind = d'.kind → d = d' := fun hd hd' =>
    hc.descriptor_eq hm hconflicts (ServiceModel.mem_writes_of_mem_methodsAt ho hd)
      (ServiceModel.mem_writes_of_mem_methodsAt ho' hd')
  refine ⟨heq (k := key) ?_ ?_ rfl, heq (k := key) ?_ ?_ rfl, heq (k := key) ?_ ?_ rfl,
    fun i hi hi' => heq (Operation.parameter_mem_writesAt key hi)
      (Operation.parameter_mem_writesAt key hi') rfl⟩
  all_goals simp [Operation.mem_writesAt]

end Delivered

/-- **What the common metadata tells about a method.**  If the common phase of a typed model
returns, then the key of an operation's method has a one-way record exactly if one of the operations
with that key is one-way, and a record of a parameter exactly if one of them has that many
parameters; so the records are right about the operation exactly if it has the marks of all of them.
All else that is recorded of operations with one key is the same when there are no conflicts. -/
theorem runCommon_tells_iff (hm : g.model.Typed) (h : g.runCommon.Returns s c s') {e : Endpoint}
    (he : e ∈ g.model.endpoints) {o : Operation} (ho : o ∈ e.operations) (key : String)
    (hkey : key = o.methodKey (e.identifier g.resolver)) :
    (c.registry.HasRecord (.text key) .oneWay ↔
      ∃ o' ∈ g.model.methodsAt g.resolver key, o'.oneWay = true) ∧
    (∀ i, c.registry.HasRecord (.text (parameterKey key i)) .parameter ↔
      ∃ o' ∈ g.model.methodsAt g.resolver key, i < o'.parameters.length) ∧
    (c.registry.Tells key o ↔ ∀ o' ∈ g.model.methodsAt g.resolver key,
      (o'.oneWay = true → o.oneWay = true) ∧ o'.parameters.length ≤ o.parameters.length) ∧
    (c.registry.conflicts = [] →
      ∀ o' ∈ g.model.methodsAt g.resolver key, o.Agrees g.resolver o') := by
  have hc := delivered_of_returns hm h
  have hmem : o ∈ g.model.methodsAt g.resolver key :=
    ServiceModel.mem_methodsAt.2 ⟨e, he, ho, hkey.symm⟩
  exact ⟨hc.hasRecord_oneWay_iff key, hc.hasRecord_parameter_iff key, hc.tells_iff hmem,
    fun hconflicts o' ho' => hc.agrees hm hconflicts hmem ho'⟩

/-- A desk whose bell can be rung in two ways. -/
def deskService : Generator where
  model := { endpointGroups := [(.text "urn:desk", [bell])], schemaGroups := [] }
  settings := { runId := "7", outputDir := ⟨"", ["out"]⟩ }
  resolver := ⟨[]⟩
  renderer := .shipped
  compiler := ⟨fun _ => Run.fail (.of .compileBeforeCommon)⟩
where
  bell : Endpoint :=
    { qualifiedName := .text "desk.Bell", targetNamespace := .text "urn:desk"
      operations := [signal, call] }
  /-- With a tone, and no response. -/
  signal : Operation :=
    { name := .text "ring", oneWay := true, parameters := [{ elementName := .text "tone" }] }
  /-- With neither. -/
  call : Operation := { name := .text "ring" }

theorem methodsAt_deskService :
    deskService.model.methodsAt deskService.resolver "desk.Bell.ring" =
      [deskService.signal, deskService.call] := by
  rfl

/-- The records are right about the one operation and wrong about the other. -/
theorem runCommon_tells_iff_desk :
    deskService.model.Typed ∧ deskService.bell ∈ deskService.model.endpoints ∧
      ∃ c s', deskService.runCommon.Returns {} c s' ∧
        c.registry.Tells "desk.Bell.ring" deskService.signal ∧
        ¬ c.registry.Tells "desk.Bell.ring" deskService.call := by
  have hm : deskService.model.Typed := by decide
  have hbell : deskService.bell ∈ deskService.model.endpoints := List.mem_cons_self
  obtain ⟨c, s', h⟩ := @Run.returns_of_isOk _ deskService.runCommon {} (by decide +kernel)
  obtain ⟨-, -, hsignal, -⟩ := runCommon_tells_iff hm h hbell (o := deskService.signal)
    List.mem_cons_self "desk.Bell.ring" (by decide)
  obtain ⟨-, -, hcall, -⟩ := runCommon_tells_iff hm h hbell (o := deskService.call)
    (List.mem_cons_of_mem _ List.mem_cons_self) "desk.Bell.ring" (by decide)
  rw [methodsAt_deskService] at hsignal hcall
  exact ⟨hm, hbell, c, s', h, hsignal.2 (by decide), mt hcall.1 (by decide)⟩

/-- **Wrong without a conflict**: of two operations with one key, one is one-way and has a
parameter, and the other neither is nor has, but the records are those of the first. -/
theorem runCommon_tells_wrong : ∃ c s', deskService.runCommon.Returns {} c s' ∧
    c.registry.conflicts = [] ∧ deskService.call.oneWay = false ∧
      c.registry.HasRecord (.text "desk.Bell.ring") .oneWay ∧
      deskService.call.parameters.length = 0 ∧
      c.registry.HasRecord (.text (parameterKey "desk.Bell.ring" 0)) .parameter := by
  have hm : deskService.model.Typed := by decide
  obtain ⟨c, s', h, hconflicts⟩ := @Run.returns_of_check _ deskService.runCommon {}
    (fun c => c.registry.conflicts.isEmpty) (by decide +kernel)
  have hc := delivered_of_returns hm h
  have hsignal : deskService.signal ∈
      deskService.model.methodsAt deskService.resolver "desk.Bell.ring" := by
    simp [methodsAt_deskService]
  exact ⟨c, s', h, List.isEmpty_iff.1 hconflicts, rfl,
    (hc.hasRecord_oneWay_iff _).2 ⟨_, hsignal, rfl⟩, rfl,
    (hc.hasRecord_parameter_iff _ 0).2 ⟨_, hsignal, by decide⟩⟩

end Generator

end SoapStubs
