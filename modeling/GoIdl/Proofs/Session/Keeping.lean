import GoIdl.Proofs.Order
import GoIdl.Proofs.Session.ErrorField
import GoIdl.Proofs.Session.Reachability

/-!
# Kept objects

A definition has exactly the objects of its session but for those that excluded services alone lead
to. This holds of every session, also of one that no calls lead to.
-/

namespace GoIdl.Session

variable {s : Session} {services : List Service} {typeId : String}

/-- A method of one of the services takes or answers with an object that leads to this one along
the fields of registered objects. -/
def LedToBy (s : Session) (services : List Service) (typeId : String) : Prop :=
  ∃ service ∈ services, ∃ m ∈ service.methods, ∃ t, (t = m.input ∨ t = m.output) ∧
    t.isObject = true ∧ (s.object? t.typeId).isSome ∧
      Relation.ReflTransGen s.Mentions t.typeId typeId

theorem reaches_ioTypeIds_iff : s.Reaches (ioTypeIds services) typeId ↔ s.LedToBy services typeId := by
  constructor
  · rintro ⟨root, listed, known, path⟩
    obtain ⟨service, offered, m, declared, t, io, isObject, rfl⟩ := mem_ioTypeIds_iff.mp listed
    exact ⟨service, offered, m, declared, t, io, isObject, known, path⟩
  · rintro ⟨service, offered, m, declared, t, io, isObject, known, path⟩
    have listed : t.typeId ∈ ioTypeIds services :=
      mem_ioTypeIds_iff.mpr ⟨service, offered, m, declared, t, io, isObject, rfl⟩
    exact ⟨t.typeId, listed, known, path⟩

theorem mem_excludedIds_iff_ledToBy :
    typeId ∈ s.excludedIds ↔
      s.LedToBy s.excludedServices typeId ∧ ¬ s.LedToBy s.services typeId := by
  rw [mem_excludedIds_iff, reaches_ioTypeIds_iff, reaches_ioTypeIds_iff]

theorem excludedIds_nodup (s : Session) : s.excludedIds.Nodup :=
  (reachable_valid s (ioTypeIds s.excludedServices)).distinct.filter _

/-- The objects of a definition, up to their order: every entry of the session whose identifier is
not excluded, once, and as it is after finalizing. -/
theorem finalize_objects_perm (s : Session) (packageName : Option String)
    (params : List (String × Json)) :
    (s.finalize packageName params).definition.objects.Perm
      ((s.objects.filter fun entry => decide (entry.1 ∉ s.excludedIds)).map
        fun entry => s.afterFinalize entry.1 entry.2) := by
  have kept : ((s.objects.map fun entry => (entry.1, s.afterFinalize entry.1 entry.2)).filter
      fun entry => !s.excludedIds.contains entry.1).map (·.2) =
        (s.objects.filter fun entry => decide (entry.1 ∉ s.excludedIds)).map
          fun entry => s.afterFinalize entry.1 entry.2 := by
    simp only [List.filter_map, List.map_map, Function.comp_def, List.contains_eq_mem, decide_not]
  rw [← kept]
  exact sortBy_perm _

/-- In every session the search for reachable objects ends, in whatever order it takes what is
pending, with exactly the registered objects that registered roots lead to, each once. The excluded
identifiers are exactly those that excluded services lead to and retained ones do not, and a
definition keeps exactly the other objects of its session. -/
theorem finalize_keeps_unexcluded (s : Session) (packageName : Option String)
    (params : List (String × Json)) :
    WellFounded (fun next now => Search.Step s now next) ∧
    (∀ roots, Relation.ReflTransGen (Search.Step s) (Search.start s roots)
      ⟨[], s.reachable roots⟩) ∧
    (∀ roots reached, Relation.ReflTransGen (Search.Step s) (Search.start s roots) ⟨[], reached⟩ →
      reached.Nodup ∧ ∀ typeId, typeId ∈ reached ↔ s.Reaches roots typeId) ∧
    s.excludedIds.Nodup ∧
    (∀ typeId, typeId ∈ s.excludedIds ↔
      s.LedToBy s.excludedServices typeId ∧ ¬ s.LedToBy s.services typeId) ∧
    (s.finalize packageName params).definition.objects.Perm
      ((s.objects.filter fun entry => decide (entry.1 ∉ s.excludedIds)).map
        fun entry => s.afterFinalize entry.1 entry.2) := by
  refine ⟨Search.step_wellFounded s, reachable_search s, ?_, excludedIds_nodup s,
    fun typeId => mem_excludedIds_iff_ledToBy, finalize_objects_perm s packageName params⟩
  intro roots reached run
  have valid := (Search.start_valid s roots).run run
  exact ⟨valid.distinct, fun typeId => valid.mem_reached_iff⟩

/-- An excluded service takes an object that shares a field with one that a retained service answers
with. The shared object has itself for a field, and one that is not registered. -/
def sharing : Session :=
  let field (name typeId : String) : Field :=
    { name, nameLowerCamel := name, type := { typeId, isObject := true } }
  let method (name input output : String) : Method :=
    { name, nameLowerCamel := name
      input := { typeId := input, isObject := true }
      output := { typeId := output, isObject := true } }
  { rootPath := "api", packageName := "api"
    objects := [
      ("api.In", { typeId := "api.In", name := "In", fields := [field "Of" "api.Shared"] }),
      ("api.Out", { typeId := "api.Out", name := "Out", fields := [field "Of" "api.Shared"] }),
      ("api.Shared", { typeId := "api.Shared", name := "Shared"
                       fields := [field "Next" "api.Shared", field "Gone" "api.Gone"] })]
    services := [{ name := "Kept", methods := [method "Get" "api.Out" "api.Out"] }]
    excludedServices := [{ name := "Left", methods := [method "Put" "api.In" "api.In"] }] }

theorem finalize_keeps_unexcluded_sharing :
    sharing.LedToBy sharing.excludedServices "api.In" ∧
      ¬ sharing.LedToBy sharing.services "api.In" ∧
      sharing.LedToBy sharing.excludedServices "api.Shared" ∧
      sharing.LedToBy sharing.services "api.Shared" ∧
      (sharing.finalize none []).definition.objects.map (·.typeId) = ["api.Out", "api.Shared"] := by
  obtain ⟨-, searches, ends, -, excluded, -⟩ := finalize_keeps_unexcluded sharing none []
  have removed : "api.In" ∈ sharing.excludedIds := by decide +kernel
  obtain ⟨left, notKept⟩ := (excluded "api.In").mp removed
  have shared : ∀ services, "api.Shared" ∈ sharing.reachable (ioTypeIds services) →
      sharing.LedToBy services "api.Shared" := by
    intro services member
    have exact := (ends _ _ (searches (ioTypeIds services))).2 "api.Shared"
    exact reaches_ioTypeIds_iff.mp (exact.mp member)
  exact ⟨left, notKept, shared _ (by decide +kernel), shared _ (by decide +kernel),
    by decide +kernel⟩

end GoIdl.Session
