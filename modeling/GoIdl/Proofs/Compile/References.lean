import GoIdl.Proofs.Compile.Packages
import GoIdl.Proofs.Session.ErrorField
import GoIdl.Proofs.Session.Reachability

/-!
# References to objects

In a definition that has been compiled, the methods of services refer to objects that it holds. So
do the fields of objects that a service reaches. A field of an object that no service reaches may
refer to one that is left out, because excluded services reach it and retained ones do not.
-/

namespace GoIdl

variable {disk : Disk} {v w : World} {s : Session} {typeId : String}

/-- Exactly one object carries the identifier. -/
def Definition.Resolves (d : Definition) (typeId : String) : Prop :=
  (d.objects.map (·.typeId)).count typeId = 1

theorem Definition.resolves_iff {d : Definition} (distinct : (d.objects.map (·.typeId)).Nodup) :
    d.Resolves typeId ↔ typeId ∈ d.objects.map (·.typeId) :=
  ⟨fun once => List.count_pos_iff.mp (Nat.lt_of_lt_of_eq Nat.zero_lt_one once.symm),
    List.count_eq_one_of_mem distinct⟩

namespace Session

variable {packageName : Option String} {params : List (String × Json)}

/-! ### The objects that a definition holds -/

/-- The objects of a definition are those registered, without those that are left out. -/
theorem finalize_typeIds (registry : Registry s) :
    ((s.finalize packageName params).definition.objects.map (·.typeId)).Perm
      ((Json.keys s.objects).filter fun id => !s.excludedIds.contains id) := by
  refine ((sortBy_perm _).map _).trans (.of_eq ?_)
  simp only [Json.keys, List.filter_map, List.map_map]
  refine List.map_congr_left fun entry member => ?_
  obtain ⟨id, o⟩ := entry
  exact (afterFinalize_typeId o).trans (registry.typeIds id o (List.mem_filter.mp member).1)

theorem finalize_typeIds_nodup (registry : Registry s) :
    ((s.finalize packageName params).definition.objects.map (·.typeId)).Nodup :=
  (finalize_typeIds registry).nodup_iff.mpr (registry.ids.filter _)

theorem finalize_resolves_iff (registry : Registry s) :
    (s.finalize packageName params).definition.Resolves typeId ↔
      (s.object? typeId).isSome ∧ typeId ∉ s.excludedIds := by
  rw [Definition.resolves_iff (finalize_typeIds_nodup registry), (finalize_typeIds registry).mem_iff,
    object?, Json.find?_isSome_iff, List.mem_filter]
  simp

/-! ### References -/

/-- Objects refer to registered objects only. -/
def Closed (s : Session) : Prop :=
  ∀ id o, s.object? id = some o → ∀ f ∈ o.fields, f.type.isObject = true →
    (s.object? f.type.typeId).isSome

/-- The services, retained or excluded, reach the object. -/
def Served (s : Session) (typeId : String) : Prop :=
  s.Reaches (ioTypeIds s.services) typeId ∨ s.Reaches (ioTypeIds s.excludedServices) typeId

/-- Only excluded services reach the object. -/
def OnlyExcluded (s : Session) (typeId : String) : Prop :=
  s.Reaches (ioTypeIds s.excludedServices) typeId ∧ ¬ s.Reaches (ioTypeIds s.services) typeId

/-- A field of a finalized object that refers to an object is one that the object declares. -/
theorem mem_fields_of_afterFinalize {o : Object} {f : Field}
    (member : f ∈ (s.afterFinalize typeId o).fields) (isObject : f.type.isObject = true) :
    f ∈ o.fields := by
  unfold afterFinalize at member
  split at member
  · rcases List.mem_append.mp member with kept | added
    · exact (List.mem_filter.mp kept).1
    · rw [List.mem_singleton.mp added] at isObject
      cases isObject
  · exact member

theorem resolves_of_retained {exclusions : List String} (registry : Registry s)
    (serviced : Serviced exclusions s) {service : Service} (retained : service ∈ s.services)
    {m : Method} (method : m ∈ service.methods) {t : FieldType} (ofMethod : t = m.input ∨ t = m.output)
    (isObject : t.isObject = true) :
    (s.finalize packageName params).definition.Resolves t.typeId := by
  have holds := serviced.types service (List.mem_append_left _ retained) m method
  have known : (s.object? t.typeId).isSome := by
    rcases ofMethod with rfl | rfl
    · exact (holds.input isObject).registered
    · exact (holds.output isObject).registered
  have listed : t.typeId ∈ ioTypeIds s.services :=
    mem_ioTypeIds_iff.mpr ⟨service, retained, m, method, t, ofMethod, isObject, rfl⟩
  refine (finalize_resolves_iff registry).mpr ⟨known, fun left => ?_⟩
  exact (mem_excludedIds_iff.mp left).2 ⟨_, listed, known, .refl⟩

/-- A field's object is held unless only excluded services reach it, and always if some service
reaches the object with the field. -/
theorem resolves_of_field (registry : Registry s) (closed : Closed s) {o : Object}
    (member : o ∈ (s.finalize packageName params).definition.objects) {f : Field}
    (field : f ∈ o.fields) (isObject : f.type.isObject = true) :
    ((s.finalize packageName params).definition.Resolves f.type.typeId ↔
        ¬ s.OnlyExcluded f.type.typeId) ∧
      (s.Served o.typeId → (s.finalize packageName params).definition.Resolves f.type.typeId) := by
  obtain ⟨kept, before, found, same⟩ := finalize_object registry packageName params member
  rw [same] at field
  have declared := mem_fields_of_afterFinalize field isObject
  have known := closed o.typeId before found f declared isObject
  have held : (s.finalize packageName params).definition.Resolves f.type.typeId ↔
      ¬ s.OnlyExcluded f.type.typeId := by
    rw [finalize_resolves_iff registry, mem_excludedIds_iff]
    exact ⟨fun resolves => resolves.2, fun other => ⟨known, other⟩⟩
  refine ⟨held, fun served => held.mpr fun only => only.2 ?_⟩
  have retained : s.Reaches (ioTypeIds s.services) o.typeId := by
    rcases served with retained | excluded
    · exact retained
    · by_contra other
      exact kept (mem_excludedIds_iff.mpr ⟨excluded, other⟩)
  exact retained.tail ⟨before, found, f, declared, isObject, rfl, known⟩

end Session

/-! ### Compiled definitions -/

namespace Compile

variable {input : Input} {options : Options} {compiled : Compiled}

/-- In a definition that has been compiled, no two objects carry one identifier, and what the methods
of its services take and answer with is held exactly once. What a field refers to is held exactly
once, unless only excluded services reach it; then no service reaches the object with the field. -/
theorem compiled_references (run : (compile input options).runOn disk {} = (.ok compiled, v)) :
    ∃ count w, (extract (exclusionsOf options) input).runOn disk {} = (.ok count, w) ∧
      (compiled.definition.objects.map (·.typeId)).Nodup ∧
      (∀ service ∈ compiled.definition.services, ∀ m ∈ service.methods, ∀ t,
        t = m.input ∨ t = m.output → t.isObject = true → compiled.definition.Resolves t.typeId) ∧
      ∀ o ∈ compiled.definition.objects, ∀ f ∈ o.fields, f.type.isObject = true →
        (compiled.definition.Resolves f.type.typeId ↔ ¬ w.session.OnlyExcluded f.type.typeId) ∧
          (w.session.Served o.typeId → compiled.definition.Resolves f.type.typeId) := by
  obtain ⟨count, w, extracted, same⟩ := compile_ok run
  obtain ⟨registry, serviced, complete⟩ := Extract.extract_ok extracted
  have closed : w.session.Closed := by
    intro id o found
    obtain ⟨_, _, _, complete⟩ := complete id o found
    exact complete.targets
  refine ⟨count, w, extracted, ?_, ?_, ?_⟩
  · rw [same]
    exact Session.finalize_typeIds_nodup registry
  · intro service member m method t ofMethod isObject
    rw [same] at member ⊢
    exact Session.resolves_of_retained registry serviced (mem_sortBy.mp member) method ofMethod isObject
  · intro o member f field isObject
    rw [same] at member ⊢
    exact Session.resolves_of_field registry closed member field isObject

/-- A service takes and answers with an object that a struct no service reaches refers to. -/
def unserved : Input :=
  .sources [("a.go",
    "package a; type S interface\x7b M(I) I \x7d; type I struct\x7b\x7d; type R struct\x7b F I \x7d")]

theorem compiled_references_unserved :
    ∃ compiled v, (compile unserved {}).runOn ⟨[], []⟩ {} = (.ok compiled, v) ∧
      ∃ service ∈ compiled.definition.services, ∃ m ∈ service.methods,
        m.input.isObject = true ∧ compiled.definition.Resolves m.input.typeId := by
  have shape : (match ((compile unserved {}).runOn ⟨[], []⟩ {}).1 with
      | .ok compiled => compiled.definition.services.any fun service =>
          service.methods.any (·.input.isObject)
      | .error _ => false) = true := by
    decide +kernel
  rcases run : (compile unserved {}).runOn ⟨[], []⟩ {} with ⟨_ | compiled, v⟩
  · simp [run] at shape
  · simp only [run, List.any_eq_true] at shape
    obtain ⟨service, listed, m, method, isObject⟩ := shape
    obtain ⟨_, _, _, _, methods, _⟩ := compiled_references run
    exact ⟨compiled, v, rfl, service, listed, m, method, isObject,
      methods service listed m method m.input (Or.inl rfl) isObject⟩

/-- Where that service is excluded, the struct refers to an object that is not held. -/
theorem unserved_unresolved :
    ∃ compiled v, (compile unserved { exclusions := ["S"] }).runOn ⟨[], []⟩ {} = (.ok compiled, v) ∧
      ∃ o ∈ compiled.definition.objects, ∃ f ∈ o.fields,
        f.type.isObject = true ∧ ¬ compiled.definition.Resolves f.type.typeId := by
  have shape : (match ((compile unserved { exclusions := ["S"] }).runOn ⟨[], []⟩ {}).1 with
      | .ok compiled => compiled.definition.objects.any fun o => o.fields.any fun f =>
          f.type.isObject && (compiled.definition.objects.map (·.typeId)).count f.type.typeId != 1
      | .error _ => false) = true := by
    decide +kernel
  rcases run : (compile unserved { exclusions := ["S"] }).runOn ⟨[], []⟩ {} with ⟨_ | compiled, v⟩
  · simp [run] at shape
  · simp only [run, List.any_eq_true, Bool.and_eq_true, bne_iff_ne] at shape
    obtain ⟨o, member, f, field, isObject, other⟩ := shape
    exact ⟨compiled, v, rfl, o, member, f, field, isObject, other⟩

end Compile

end GoIdl
