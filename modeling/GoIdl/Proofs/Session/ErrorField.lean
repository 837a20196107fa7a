import GoIdl.Proofs.Session.Registry

/-!
# The error field

`finalize` gives the objects that retained services answer with one error field, the last one, and
leaves all other objects alone. This holds of every session that calls lead to.
-/

namespace GoIdl.Session

variable {s : Session} {typeId : String}

/-- Some retained service is recorded as answering with the object. -/
def IsAnswer (s : Session) (typeId : String) : Prop :=
  ∃ service ∈ s.services, service.name ∈ (Json.find? typeId s.responses).getD []

/-- The field that the output of every method has. -/
structure IsErrorField (f : Field) : Prop where
  name : f.name = "Error"
  typeName : f.type.typeName = "string"
  single : f.type.isObject = false ∧ f.type.multiple = false ∧ f.type.optional = false
  omitEmpty : f.omitEmpty = true
  comment : f.comment = "Error is string explaining what went wrong. Empty if everything was fine."
  sample : f.sample = .str "something went wrong"

/-- `after` has the error field last and only there; its other fields are those of `before`. -/
structure TakesErrorField (before after : List Field) : Prop where
  last : ∃ e, after.getLast? = some e ∧ IsErrorField e
  only : (after.filter (·.name == "Error")).length = 1
  others : after.filter (·.name != "Error") = before.filter (·.name != "Error")

theorem errorField_isErrorField (root : String) : IsErrorField (errorField root) :=
  ⟨rfl, rfl, ⟨rfl, rfl, rfl⟩, rfl, rfl, rfl⟩

theorem withErrorField_takes (root : String) (o : Object) :
    TakesErrorField o.fields (withErrorField root o).fields := by
  have name : (errorField root).name = "Error" := rfl
  refine ⟨⟨errorField root, by simp [withErrorField], errorField_isErrorField root⟩, ?_, ?_⟩
  · have none : (o.fields.filter (·.name != "Error")).filter (·.name == "Error") = [] := by
      simp [List.filter_filter]
    simp only [withErrorField, errorFieldName, List.filter_append, none, List.nil_append]
    simp [name]
  · simp only [withErrorField, errorFieldName, List.filter_append, List.filter_filter, Bool.and_self]
    simp [name]

/-! ### What finalizing does to each object -/

theorem mem_answered_iff (registry : Registry s) (removed : List String) :
    typeId ∈ s.answered removed ↔
      IsAnswer s typeId ∧ (s.object? typeId).isSome ∧ typeId ∉ removed := by
  have recorded : ∀ names, (typeId, names) ∈ s.responses ↔
      Json.find? typeId s.responses = some names :=
    fun names => (Json.find?_eq_some_iff registry.responses).symm
  have named : ∀ names : List String, names.any (s.services.map (·.name)).contains = true ↔
      ∃ service ∈ s.services, service.name ∈ names := by
    intro names
    simp only [List.any_eq_true, List.contains_iff_mem, List.mem_map]
    constructor
    · rintro ⟨_, member, service, retained, rfl⟩
      exact ⟨service, retained, member⟩
    · rintro ⟨service, retained, member⟩
      exact ⟨_, member, service, retained, rfl⟩
  simp only [answered, List.mem_map, List.mem_filter, Bool.and_eq_true, Prod.exists,
    exists_and_right, exists_eq_right, recorded, named, Bool.not_eq_true', List.contains_eq_mem,
    decide_eq_false_iff_not, IsAnswer]
  constructor
  · rintro ⟨names, found, ⟨answers, known⟩, kept⟩
    exact ⟨by simpa only [found, Option.getD_some] using answers, known, kept⟩
  · rintro ⟨answers, known, kept⟩
    cases found : Json.find? typeId s.responses with
    | none => simp [found] at answers
    | some names =>
      exact ⟨names, rfl, ⟨by simpa only [found, Option.getD_some] using answers, known⟩, kept⟩

/-- The object as it is after finalizing. -/
def afterFinalize (s : Session) (typeId : String) (o : Object) : Object :=
  if (s.answered s.excludedIds).contains typeId then withErrorField s.rootPath o else o

theorem finalize_object? (packageName : Option String) (params : List (String × Json)) :
    (s.finalize packageName params).session.object? typeId =
      (s.object? typeId).map (s.afterFinalize typeId) :=
  Json.find?_map s.objects s.afterFinalize

theorem afterFinalize_typeId (o : Object) : (s.afterFinalize typeId o).typeId = o.typeId := by
  unfold afterFinalize
  split <;> rfl

theorem afterFinalize_name (o : Object) : (s.afterFinalize typeId o).name = o.name := by
  unfold afterFinalize
  split <;> rfl

theorem mem_finalize_objects (packageName : Option String) (params : List (String × Json))
    {o : Object} :
    o ∈ (s.finalize packageName params).definition.objects ↔
      ∃ id before, (id, before) ∈ s.objects ∧ id ∉ s.excludedIds ∧
        o = s.afterFinalize id before := by
  simp only [finalize, mem_sortBy, List.mem_map, List.mem_filter, Prod.exists]
  constructor
  · rintro ⟨id, p, ⟨⟨id', before, member, changed⟩, kept⟩, rfl⟩
    cases changed
    exact ⟨id, before, member, by simpa using kept, rfl⟩
  · rintro ⟨id, before, member, kept, rfl⟩
    exact ⟨id, _, ⟨⟨id, before, member, rfl⟩, by simpa using kept⟩, rfl⟩

/-- Every object of a definition is one of the session's under the identifier that it carries. -/
theorem finalize_object (registry : Registry s) (packageName : Option String)
    (params : List (String × Json)) {o : Object}
    (member : o ∈ (s.finalize packageName params).definition.objects) :
    o.typeId ∉ s.excludedIds ∧
      ∃ before, s.object? o.typeId = some before ∧ o = s.afterFinalize o.typeId before := by
  obtain ⟨id, before, registered, kept, rfl⟩ := (mem_finalize_objects packageName params).mp member
  have same : (s.afterFinalize id before).typeId = id :=
    (afterFinalize_typeId before).trans (registry.typeIds id before registered)
  rw [same]
  exact ⟨kept, before, registry.object?_eq_some_iff.mpr registered, rfl⟩

theorem afterFinalize_of_isAnswer (registry : Registry s) {o : Object}
    (found : s.object? typeId = some o) (kept : typeId ∉ s.excludedIds) (answer : IsAnswer s typeId) :
    s.afterFinalize typeId o = withErrorField s.rootPath o := by
  have known : (s.object? typeId).isSome := by rw [found]; rfl
  have entered := (mem_answered_iff registry s.excludedIds).mpr ⟨answer, known, kept⟩
  rw [afterFinalize, if_pos (List.contains_iff_mem.mpr entered)]

theorem afterFinalize_of_not_isAnswer (registry : Registry s) (o : Object)
    (other : ¬ IsAnswer s typeId) : s.afterFinalize typeId o = o := by
  have left : ¬ (s.answered s.excludedIds).contains typeId = true := fun entered =>
    other ((mem_answered_iff registry s.excludedIds).mp (List.contains_iff_mem.mp entered)).1
  rw [afterFinalize, if_neg left]

/-- In the definition of any session that calls lead to, an object that some retained service is
recorded to answer with ends with the error field and has no other of that name, its further fields
being as before; every other object, in the definition or not, is as before. -/
theorem finalize_error_fields (reachable : Reachable s) (packageName : Option String)
    (params : List (String × Json)) :
    (∀ o ∈ (s.finalize packageName params).definition.objects,
      ∃ before, s.object? o.typeId = some before ∧ o = { before with fields := o.fields } ∧
        (IsAnswer s o.typeId → TakesErrorField before.fields o.fields) ∧
        (¬ IsAnswer s o.typeId → o.fields = before.fields)) ∧
    (∀ typeId before, s.object? typeId = some before →
      ¬ (IsAnswer s typeId ∧
        ∃ o ∈ (s.finalize packageName params).definition.objects, o.typeId = typeId) →
      (s.finalize packageName params).session.object? typeId = some before) := by
  have registry := reachable.registry
  constructor
  · intro o member
    obtain ⟨kept, before, found, same⟩ := finalize_object registry packageName params member
    refine ⟨before, found, ?_, fun answer => ?_, fun other => ?_⟩
    · rw [same]
      unfold afterFinalize
      split <;> rfl
    · rw [same, afterFinalize_of_isAnswer registry found kept answer]
      exact withErrorField_takes s.rootPath before
    · rw [same, afterFinalize_of_not_isAnswer registry before other]
  · intro typeId before found other
    have left : ¬ (s.answered s.excludedIds).contains typeId = true := by
      intro entered
      obtain ⟨answer, _, kept⟩ :=
        (mem_answered_iff registry s.excludedIds).mp (List.contains_iff_mem.mp entered)
      refine other ⟨answer, s.afterFinalize typeId before, ?_, ?_⟩
      · exact (mem_finalize_objects packageName params).mpr
          ⟨typeId, before, registry.object?_eq_some_iff.mp found, kept, rfl⟩
      · exact (afterFinalize_typeId before).trans (registry.typeId_of_object? found)
    rw [finalize_object?, found, Option.map_some, afterFinalize, if_neg left]

/-- A session whose output object declares an error field of its own. -/
def answering : Session :=
  let field (name : String) : Field := { name, nameLowerCamel := name, type := {} }
  let registered : Session := {
    rootPath := "api", packageName := "api"
    objects := [("api.Out", { typeId := "api.Out", name := "Out" })]
    idsByName := [("Out", "api.Out")] }
  let declared := (registered.addField "api.Out" (field "Error")).addField "api.Out" (field "Value")
  (declared.addService { name := "Svc" } false).recordOutput "api.Out" "Svc"

/-- The same session, finalized and then given a further field. -/
def revisited : Session :=
  (answering.finalize none []).session.addField "api.Out"
    { name := "Late", nameLowerCamel := "late", type := {} }

theorem answering_reachable : Reachable answering :=
  .step (.step (.step (.step (.step (.start "api" "api")
    (.reserve "api.Out" "Out" none rfl))
    (.addField _ _ _)) (.addField _ _ _)) (.addService _ _ _)) (.recordOutput _ _ _)

theorem revisited_reachable : Reachable revisited :=
  .step (.step answering_reachable (.finalize _ none [])) (.addField _ _ _)

theorem finalize_error_fields_revisited :
    Reachable revisited ∧ IsAnswer revisited "api.Out" ∧
      ∃ o ∈ (revisited.finalize none []).definition.objects, ∃ before : Object,
        revisited.object? "api.Out" = some before ∧
        before.fields.map (·.name) = ["Value", "Error", "Late"] ∧
        o.fields.map (·.name) = ["Value", "Late", "Error"] ∧
        TakesErrorField before.fields o.fields := by
  have answer : IsAnswer revisited "api.Out" :=
    ⟨{ name := "Svc" }, List.mem_singleton.mpr rfl, by decide⟩
  have names : (revisited.finalize none []).definition.objects.map
      (fun o => (o.typeId, o.fields.map (·.name))) = [("api.Out", ["Value", "Late", "Error"])] := by
    decide +kernel
  obtain ⟨o, member, shape⟩ := List.mem_map.mp (names ▸ List.mem_singleton_self _)
  obtain ⟨identity, after⟩ := Prod.mk.inj shape
  obtain ⟨before, found, -, takes, -⟩ :=
    (finalize_error_fields revisited_reachable none []).1 o member
  rw [identity] at found takes
  have declared : (revisited.object? "api.Out").map (fun o => o.fields.map (·.name)) =
      some ["Value", "Error", "Late"] := by
    decide +kernel
  rw [found, Option.map_some] at declared
  exact ⟨revisited_reachable, answer, o, member, before, found, Option.some.inj declared, after,
    takes answer⟩

end GoIdl.Session
