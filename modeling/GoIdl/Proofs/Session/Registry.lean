import GoIdl.Definition.Session
import GoIdl.Proofs.Members
import GoIdl.Proofs.Order

/-!
# The registry of objects

Every call on a session keeps its objects under distinct identifiers, which they carry themselves,
and keeps the table of names inverse to them.
-/

namespace GoIdl.Session

variable {s t : Session} {typeId name : String}

/-! ### Calls -/

/-- A call that changes a session. -/
inductive Step : Session → Session → Prop where
  | enter (s : Session) (path name : String) : Step s { s with rootPath := path, packageName := name }
  | reserve {s t : Session} (typeId name : String) (location : Option Syntax.Location)
      (reserved : s.reserve typeId name location = .ok (some t)) : Step s t
  | addField (s : Session) (typeId : String) (field : Field) : Step s (s.addField typeId field)
  | addService (s : Session) (service : Service) (excluded : Bool) :
      Step s (s.addService service excluded)
  | recordOutput (s : Session) (typeId service : String) : Step s (s.recordOutput typeId service)
  | registerImport (s : Session) (path name : String) : Step s (s.registerImport path name)
  | finalize (s : Session) (packageName : Option String) (params : List (String × Json)) :
      Step s (s.finalize packageName params).session

/-- The sessions that calls lead to from an empty one. -/
inductive Reachable : Session → Prop where
  | start (path name : String) : Reachable { rootPath := path, packageName := name }
  | step {s t : Session} (before : Reachable s) (call : Step s t) : Reachable t

/-- Objects are registered under the identifiers they carry, and each name leads to its object. -/
structure Registry (s : Session) : Prop where
  ids : (Json.keys s.objects).Nodup
  typeIds : ∀ id o, (id, o) ∈ s.objects → o.typeId = id
  names : ∀ name id,
    Json.find? name s.idsByName = some id ↔ ∃ o, s.object? id = some o ∧ o.name = name
  responses : (Json.keys s.responses).Nodup

namespace Registry

theorem object?_eq_some_iff (registry : Registry s) {o : Object} :
    s.object? typeId = some o ↔ (typeId, o) ∈ s.objects :=
  Json.find?_eq_some_iff registry.ids

theorem typeId_of_object? (registry : Registry s) {o : Object}
    (found : s.object? typeId = some o) : o.typeId = typeId :=
  registry.typeIds _ _ (Json.mem_of_find? found)

theorem ids_eq_of_name_eq (registry : Registry s) {first second : String} {o p : Object}
    (foundFirst : s.object? first = some o) (foundSecond : s.object? second = some p)
    (same : o.name = p.name) : first = second := by
  have one := (registry.names o.name first).mpr ⟨o, foundFirst, rfl⟩
  have two := (registry.names o.name second).mpr ⟨p, foundSecond, same.symm⟩
  exact Option.some.inj (one.symm.trans two)

theorem empty (path name : String) : Registry { rootPath := path, packageName := name } where
  ids := List.nodup_nil
  typeIds := by simp
  names := by simp [object?]
  responses := List.nodup_nil

/-- Objects may change in their places if they keep identifier and name. -/
theorem mapObjects (registry : Registry s) (change : String → Object → Object)
    (same : ∀ id o, (change id o).typeId = o.typeId ∧ (change id o).name = o.name) :
    Registry { s with objects := s.objects.map fun (id, o) => (id, change id o) } where
  ids := by simpa only [Json.keys_map] using registry.ids
  typeIds := by
    intro id o member
    obtain ⟨⟨_, p⟩, before, changed⟩ := List.mem_map.mp member
    cases changed
    exact (same id p).1.trans (registry.typeIds id p before)
  names := by
    intro name id
    simp only [object?, Json.find?_map, registry.names name id]
    constructor
    · rintro ⟨o, found, rfl⟩
      exact ⟨change id o, by rw [found]; rfl, (same id o).2⟩
    · rintro ⟨_, found, rfl⟩
      obtain ⟨o, before, rfl⟩ := Option.map_eq_some_iff.mp found
      exact ⟨o, before, (same id o).2.symm⟩
  responses := registry.responses

end Registry

/-! ### Reserving -/

/-- An object is registered last, and only if neither its identifier nor its name is known. -/
theorem reserve_eq_some {location : Option Syntax.Location}
    (reserved : s.reserve typeId name location = .ok (some t)) :
    typeId ∉ Json.keys s.objects ∧ name ∉ Json.keys s.idsByName ∧
      t = { s with
        objects := s.objects ++ [(typeId, { typeId, name })]
        idsByName := s.idsByName ++ [(name, typeId)] } := by
  unfold reserve at reserved
  split at reserved
  · cases reserved
  · rename_i absent
    split at reserved
    · cases reserved
    · rename_i unnamed
      have freshId : typeId ∉ Json.keys s.objects := fun known =>
        absent (Json.find?_isSome_iff.mpr known)
      have freshName : name ∉ Json.keys s.idsByName := Json.find?_eq_none_iff.mp unnamed
      rw [Json.put_of_not_mem freshId, Json.put_of_not_mem freshName] at reserved
      cases reserved
      exact ⟨freshId, freshName, rfl⟩

theorem reserve_eq_none {location : Option Syntax.Location}
    (reserved : s.reserve typeId name location = .ok none) : typeId ∈ Json.keys s.objects := by
  unfold reserve at reserved
  split at reserved
  · rename_i known
    exact Json.find?_isSome_iff.mp known
  · split at reserved <;> cases reserved

theorem reserve_eq_error {location : Option Syntax.Location} {error : DefinitionError}
    (refused : s.reserve typeId name location = .error error) :
    s.object? typeId = none ∧ ∃ first, Json.find? name s.idsByName = some first := by
  unfold reserve at refused
  split at refused
  · cases refused
  · rename_i absent
    split at refused
    · rename_i first found
      exact ⟨by simpa using absent, first, found⟩
    · cases refused

theorem Registry.reserve (registry : Registry s) {location : Option Syntax.Location}
    (reserved : s.reserve typeId name location = .ok (some t)) : Registry t := by
  obtain ⟨freshId, freshName, rfl⟩ := reserve_eq_some reserved
  refine ⟨?_, ?_, ?_, registry.responses⟩
  · have step := Json.keys_put_nodup typeId ({ typeId, name } : Object) registry.ids
    rwa [Json.put_of_not_mem freshId] at step
  · intro id o member
    rcases List.mem_append.mp member with old | new
    · exact registry.typeIds id o old
    · cases List.mem_singleton.mp new
      rfl
  · intro name' id
    simp only [object?, Json.find?_append_new freshId, Json.find?_append_new freshName,
      registry.names name' id]
    constructor
    · rintro (⟨o, found, named⟩ | ⟨rfl, rfl⟩)
      · exact ⟨o, .inl found, named⟩
      · exact ⟨_, .inr ⟨rfl, rfl⟩, rfl⟩
    · rintro ⟨o, found | ⟨rfl, rfl⟩, named⟩
      · exact .inl ⟨o, found, named⟩
      · exact .inr ⟨named.symm, rfl⟩

/-! ### The other calls -/

theorem Registry.updateObject (registry : Registry s) (change : Object → Object)
    (same : ∀ o, (change o).typeId = o.typeId ∧ (change o).name = o.name) (typeId : String) :
    Registry (s.updateObject typeId change) := by
  refine registry.mapObjects (fun id o => if id = typeId then change o else o) ?_
  intro id o
  split
  · exact same o
  · exact ⟨rfl, rfl⟩

theorem Registry.addField (registry : Registry s) (typeId : String) (field : Field) :
    Registry (s.addField typeId field) :=
  registry.updateObject (fun o => { o with fields := o.fields ++ [field] })
    (fun _ => ⟨rfl, rfl⟩) typeId

theorem Registry.finalize (registry : Registry s) (packageName : Option String)
    (params : List (String × Json)) : Registry (s.finalize packageName params).session := by
  refine registry.mapObjects (fun id o =>
    if (s.answered s.excludedIds).contains id then withErrorField s.rootPath o else o) ?_
  intro id o
  split <;> exact ⟨rfl, rfl⟩

/-- Every call keeps the registry. -/
theorem Registry.step (registry : Registry s) (call : Step s t) : Registry t := by
  cases call with
  | enter path name => exact ⟨registry.ids, registry.typeIds, registry.names, registry.responses⟩
  | reserve typeId name location reserved => exact registry.reserve reserved
  | addField typeId field => exact registry.addField typeId field
  | addService service excluded =>
    unfold addService
    split <;> exact ⟨registry.ids, registry.typeIds, registry.names, registry.responses⟩
  | recordOutput typeId service =>
    exact ⟨registry.ids, registry.typeIds, registry.names, Json.keys_put_nodup _ _ registry.responses⟩
  | registerImport path name =>
    exact ⟨registry.ids, registry.typeIds, registry.names, registry.responses⟩
  | finalize packageName params => exact registry.finalize packageName params

theorem Reachable.registry (reachable : Reachable s) : Registry s := by
  induction reachable with
  | start path name => exact .empty path name
  | step _ call ih => exact ih.step call

end GoIdl.Session
