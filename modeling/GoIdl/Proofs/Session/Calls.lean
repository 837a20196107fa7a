import GoIdl.Proofs.Session.ErrorField

/-!
# Calls one after another

Calls are made on a session that begins empty; some of them may be refused. After each of them the
objects and the table of names lead to each other, and so the objects of a definition have distinct
names, in whose order they stand.
-/

namespace GoIdl.Session

open Syntax (Location)

variable {s : Session} {typeId name : String} {location : Option Location}

/-- A call on a session, or on an object that the session has handed out. -/
inductive Call where
  | enter (path name : String)
  | reserve (typeId name : String) (location : Option Location)
  /-- Replaces all of an object but its identifier and its name. -/
  | fill (typeId : String) (content : Object)
  | addField (typeId : String) (field : Field)
  | addService (service : Service) (excluded : Bool)
  | recordOutput (typeId service : String)
  | registerImport (path name : String)
  | finalize (packageName : Option String) (params : List (String × Json))

def after (s : Session) : Call → Session
  | .enter path name => { s with rootPath := path, packageName := name }
  | .reserve typeId name location =>
    match s.reserve typeId name location with
    | .ok (some t) => t
    | .ok none => s
    | .error _ => s
  | .fill typeId content =>
    s.updateObject typeId fun o => { content with typeId := o.typeId, name := o.name }
  | .addField typeId field => s.addField typeId field
  | .addService service excluded => s.addService service excluded
  | .recordOutput typeId service => s.recordOutput typeId service
  | .registerImport path name => s.registerImport path name
  | .finalize packageName params => (s.finalize packageName params).session

def afterAll (s : Session) (calls : List Call) : Session := calls.foldl after s

/-- Each identifier leads to an object that carries it and whose name leads back, and each name
leads to the identifier of an object that has it. -/
structure Inverse (s : Session) : Prop where
  objects : ∀ id o, s.object? id = some o →
    o.typeId = id ∧ Json.find? o.name s.idsByName = some id
  names : ∀ name id, Json.find? name s.idsByName = some id → ∃ o, s.object? id = some o ∧ o.name = name

/-- How a session answers when an object is to be reserved, and what it is like afterwards. -/
structure Answers (s : Session) (typeId name : String) (location : Option Location) : Prop where
  known : s.reserve typeId name location = .ok none ↔ (s.object? typeId).isSome
  refused : ∀ error, s.reserve typeId name location = .error error ↔
    s.object? typeId = none ∧ ∃ first, Json.find? name s.idsByName = some first ∧
      error = { cause := .ambiguousObjectName name first typeId, location }
  unchanged : (s.object? typeId).isSome ∨ (Json.find? name s.idsByName).isSome →
    s.after (.reserve typeId name location) = s
  entered : s.object? typeId = none → Json.find? name s.idsByName = none →
    s.reserve typeId name location = .ok (some (s.after (.reserve typeId name location))) ∧
      s.after (.reserve typeId name location) = { s with
        objects := s.objects ++ [(typeId, { typeId, name })]
        idsByName := s.idsByName ++ [(name, typeId)] }

/-! ### Reserving -/

theorem reserve_of_known (known : (s.object? typeId).isSome) :
    s.reserve typeId name location = .ok none := if_pos known

theorem reserve_of_taken (fresh : s.object? typeId = none) {first : String}
    (taken : Json.find? name s.idsByName = some first) :
    s.reserve typeId name location =
      .error { cause := .ambiguousObjectName name first typeId, location } := by
  unfold reserve
  simp only [fresh, taken, Option.isSome_none, Bool.false_eq_true, if_false]

theorem reserve_of_free (fresh : s.object? typeId = none)
    (free : Json.find? name s.idsByName = none) :
    s.reserve typeId name location = .ok (some { s with
      objects := s.objects ++ [(typeId, { typeId, name })]
      idsByName := s.idsByName ++ [(name, typeId)] }) := by
  have freshId : typeId ∉ Json.keys s.objects := Json.find?_eq_none_iff.mp fresh
  have freshName : name ∉ Json.keys s.idsByName := Json.find?_eq_none_iff.mp free
  unfold reserve
  simp only [fresh, free, Option.isSome_none, Bool.false_eq_true, if_false,
    Json.put_of_not_mem freshId, Json.put_of_not_mem freshName]

theorem answers (s : Session) (typeId name : String) (location : Option Location) :
    s.Answers typeId name location := by
  cases present : s.object? typeId with
  | some o =>
    have known : (s.object? typeId).isSome := by rw [present]; rfl
    have answer : s.reserve typeId name location = .ok none := reserve_of_known known
    exact {
      known := iff_of_true answer known
      refused := fun error => by rw [answer, present]; simp
      unchanged := fun _ => by simp only [after, answer]
      entered := fun fresh => by rw [present] at fresh; cases fresh }
  | none =>
    cases named : Json.find? name s.idsByName with
    | some first =>
      have answer : s.reserve typeId name location =
          .error { cause := .ambiguousObjectName name first typeId, location } :=
        reserve_of_taken present named
      exact {
        known := by rw [answer, present]; simp
        refused := fun error => by rw [answer, present, named]; simp [eq_comm]
        unchanged := fun _ => by simp only [after, answer]
        entered := fun _ free => by rw [named] at free; cases free }
    | none =>
      have answer : s.reserve typeId name location = .ok (some { s with
          objects := s.objects ++ [(typeId, { typeId, name })]
          idsByName := s.idsByName ++ [(name, typeId)] }) := reserve_of_free present named
      exact {
        known := by rw [answer, present]; simp
        refused := fun error => by rw [answer, named]; simp
        unchanged := fun other => by rw [present, named] at other; simp at other
        entered := fun _ _ => by simp only [after, answer, and_self] }

/-! ### The registry -/

theorem Registry.inverse (registry : Registry s) : s.Inverse where
  objects := fun id o found =>
    ⟨registry.typeId_of_object? found, (registry.names o.name id).mpr ⟨o, found, rfl⟩⟩
  names := fun name id => (registry.names name id).mp

/-- Every call keeps the registry, whether it is refused or not. -/
theorem Registry.after (registry : Registry s) (call : Call) : Registry (s.after call) := by
  cases call with
  | enter path name => exact registry.step (.enter s path name)
  | reserve typeId name location =>
    simp only [Session.after]
    split
    · rename_i reserved
      exact registry.reserve reserved
    · exact registry
    · exact registry
  | fill typeId content =>
    exact registry.updateObject (fun o => { content with typeId := o.typeId, name := o.name })
      (fun _ => ⟨rfl, rfl⟩) typeId
  | addField typeId field => exact registry.addField typeId field
  | addService service excluded => exact registry.step (.addService s service excluded)
  | recordOutput typeId service => exact registry.step (.recordOutput s typeId service)
  | registerImport path name => exact registry.step (.registerImport s path name)
  | finalize packageName params => exact registry.finalize packageName params

theorem Registry.afterAll (registry : Registry s) (calls : List Call) :
    Registry (s.afterAll calls) := by
  induction calls generalizing s with
  | nil => exact registry
  | cons call rest ih => exact ih (registry.after call)

/-! ### The order of objects -/

theorem Registry.eq_of_name_eq (registry : Registry s) {entry other : String × Object}
    (member : entry ∈ s.objects) (member' : other ∈ s.objects)
    (same : entry.2.name = other.2.name) : entry = other := by
  obtain ⟨id, o⟩ := entry
  obtain ⟨id', p⟩ := other
  have found := registry.object?_eq_some_iff.mpr member
  have found' := registry.object?_eq_some_iff.mpr member'
  cases registry.ids_eq_of_name_eq found found' same
  cases found.symm.trans found'
  rfl

theorem finalize_objects_ascending (registry : Registry s) (packageName : Option String)
    (params : List (String × Json)) :
    (s.finalize packageName params).definition.objects.Pairwise fun a b => a.name < b.name := by
  refine (sortBy_name_strict_iff Object.name _).mpr ?_
  have distinct : (s.objects.map fun entry => entry.2.name).Nodup :=
    List.Nodup.map_on (fun entry member other member' => registry.eq_of_name_eq member member')
      (List.Nodup.of_map _ registry.ids)
  rw [List.filter_map, List.map_map, List.map_map]
  refine List.Nodup.sublist ?_ distinct
  have same : (Object.name ∘ (·.2)) ∘ (fun entry : String × Object =>
      (entry.1, s.afterFinalize entry.1 entry.2)) = fun entry => entry.2.name :=
    funext fun entry => afterFinalize_name entry.2
  exact same ▸ List.filter_sublist.map _

/-- Whatever calls have been made, objects and names are inverse to each other, reserving answers by
them and changes nothing where it does not enter, and a definition's objects ascend by their names. -/
theorem registry_after_calls (calls : List Call) :
    (afterAll {} calls).Inverse ∧
      (∀ typeId name location, (afterAll {} calls).Answers typeId name location) ∧
      ∀ packageName params, ((afterAll {} calls).finalize packageName params).definition.objects.Pairwise
        fun a b => a.name < b.name := by
  have registry : Registry (afterAll {} calls) := (Registry.empty "" "").afterAll calls
  exact ⟨registry.inverse, answers _, finalize_objects_ascending registry⟩

end GoIdl.Session
