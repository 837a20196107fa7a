import GoIdl.Proofs.Session.ErrorField

/-!
# The types that a session holds

The types of a session are those of its objects' fields and of the methods of its services, retained
or excluded. A call holds on to the types it is given and drops none; only registering imports
changes what is imported.
-/

namespace GoIdl

deriving instance DecidableEq for FieldType

def Object.types (o : Object) : List FieldType := o.fields.map (·.type)

def Service.types (s : Service) : List FieldType := s.methods.flatMap fun m => [m.input, m.output]

def Definition.types (d : Definition) : List FieldType :=
  d.objects.flatMap Object.types ++ d.services.flatMap Service.types

namespace Session

variable {s t : Session} {typeId : String} {type : FieldType}

def types (s : Session) : List FieldType :=
  s.objects.flatMap (·.2.types) ++ (s.services ++ s.excludedServices).flatMap Service.types

theorem mem_types :
    type ∈ s.types ↔ (∃ id o, (id, o) ∈ s.objects ∧ type ∈ o.types) ∨
      ∃ service ∈ s.services ++ s.excludedServices, type ∈ service.types := by
  rw [types, List.mem_append, List.mem_flatMap, List.mem_flatMap, Prod.exists]

theorem types_of_parts (objects : t.objects = s.objects) (services : t.services = s.services)
    (excluded : t.excludedServices = s.excludedServices) : t.types = s.types := by
  rw [types, types, objects, services, excluded]

/-! ### Objects -/

theorem types_reserve {name : String} {location : Option Syntax.Location}
    (reserved : s.reserve typeId name location = .ok (some t)) :
    t.types = s.types ∧ t.imports = s.imports := by
  obtain ⟨_, _, rfl⟩ := reserve_eq_some reserved
  refine ⟨?_, rfl⟩
  simp [types, Object.types]

theorem types_updateObject (s : Session) (typeId : String) {change : Object → Object}
    (fields : ∀ o, (change o).fields = o.fields) :
    (s.updateObject typeId change).types = s.types := by
  have same : ∀ entry : String × Object,
      Object.types (if entry.1 = typeId then change entry.2 else entry.2) = entry.2.types := by
    intro entry
    split
    · rw [Object.types, Object.types, fields]
    · rfl
  simp only [types, updateObject, List.flatMap_map, same]

theorem mem_types_addField {field : Field} (registered : (s.object? typeId).isSome) :
    type ∈ (s.addField typeId field).types ↔ type ∈ s.types ∨ type = field.type := by
  obtain ⟨own, found⟩ := Option.isSome_iff_exists.mp registered
  have member := Json.mem_of_find? found
  simp only [mem_types, addField, updateObject, List.mem_map, Prod.exists]
  constructor
  · rintro (⟨id, o, ⟨id', before, listed, same⟩, held⟩ | held)
    · cases same
      split at held
      · rw [Object.types, List.map_append, List.map_singleton, List.mem_append,
          List.mem_singleton] at held
        exact held.elim (fun old => .inl (.inl ⟨id, before, listed, old⟩)) .inr
      · exact .inl (.inl ⟨id, before, listed, held⟩)
    · exact .inl (.inr held)
  · rintro ((⟨id, o, listed, held⟩ | held) | rfl)
    · refine .inl ⟨id, _, ⟨id, o, listed, rfl⟩, ?_⟩
      split
      · rw [Object.types, List.map_append]
        exact List.mem_append_left _ held
      · exact held
    · exact .inr held
    · refine .inl ⟨typeId, _, ⟨typeId, own, member, rfl⟩, ?_⟩
      rw [if_pos rfl, Object.types, List.map_append]
      exact List.mem_append_right _ (List.mem_singleton.mpr rfl)

/-! ### Services -/

theorem imports_addService (s : Session) (service : Service) (excluded : Bool) :
    (s.addService service excluded).imports = s.imports := by
  unfold addService
  split <;> rfl

theorem mem_types_addService (s : Session) (service : Service) (excluded : Bool) :
    type ∈ (s.addService service excluded).types ↔ type ∈ s.types ∨ type ∈ service.types := by
  unfold addService
  split <;> simp only [types, List.mem_append, List.flatMap_append, List.flatMap_cons,
    List.flatMap_nil, List.append_nil] <;> tauto

/-! ### Imports -/

theorem types_registerImports (s : Session) (packages : List (String × String)) :
    (s.registerImports packages).types = s.types := by
  induction packages generalizing s with
  | nil => rfl
  | cons entry rest ih => exact ih (s.registerImport entry.1 entry.2)

/-- The imports after registering packages depend on the imports before only. -/
theorem imports_registerImports (s : Session) (packages : List (String × String)) :
    (s.registerImports packages).imports =
      packages.foldl (fun imports entry => Json.put entry.1 entry.2 imports) s.imports := by
  induction packages generalizing s with
  | nil => rfl
  | cons entry rest ih => exact ih (s.registerImport entry.1 entry.2)

/-! ### The definition -/

theorem mem_types_finalize {packageName : Option String} {params : List (String × Json)}
    (member : type ∈ (s.finalize packageName params).definition.types) :
    type ∈ s.types ∨ type = (errorField s.rootPath).type := by
  rcases List.mem_append.mp member with ofObject | ofService
  · obtain ⟨o, listed, held⟩ := List.mem_flatMap.mp ofObject
    obtain ⟨id, before, registered, _, rfl⟩ := (mem_finalize_objects packageName params).mp listed
    unfold afterFinalize at held
    split at held
    · obtain ⟨f, field, rfl⟩ := List.mem_map.mp held
      rcases List.mem_append.mp field with kept | added
      · exact .inl (mem_types.mpr (.inl ⟨id, before, registered,
          List.mem_map.mpr ⟨f, (List.mem_filter.mp kept).1, rfl⟩⟩))
      · rw [List.mem_singleton.mp added]
        exact .inr rfl
    · exact .inl (mem_types.mpr (.inl ⟨id, before, registered, held⟩))
  · obtain ⟨service, listed, held⟩ := List.mem_flatMap.mp ofService
    exact .inl (mem_types.mpr (.inr ⟨service, List.mem_append_left _ (mem_sortBy.mp listed), held⟩))

end Session

end GoIdl
