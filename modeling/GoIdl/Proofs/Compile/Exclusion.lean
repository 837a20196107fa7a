import GoIdl.Proofs.Compile.Excluding
import GoIdl.Proofs.Compile.Packages
import GoIdl.Proofs.Session.ErrorField
import GoIdl.Proofs.Session.Reachability

/-!
# Excluding services

Excluding services has no influence on whether a compilation succeeds and on the error if it does
not. The services excluded are missing in the definition, and so are objects. What is left is as it
would be, only that an object takes no error field if no retained method answers with it.
-/

namespace GoIdl

variable {α β : Type} {disk : Disk} {exclusions : List String} {s : Session} {typeId : String}

/-- Some method of a definition answers with an object. -/
def Definition.AnswersWith (d : Definition) (typeId : String) : Prop :=
  ∃ service ∈ d.services, Session.AnswersWith service typeId

/-- `d` is `d₀` without services and objects. Only objects that no method of `d` answers with may
differ: they are as they were extracted, whereas they may have the error field in `d₀`. -/
structure OnlyFilters (exclusions : List String) (extracted : Session) (d d₀ : Definition) : Prop where
  packageName : d.packageName = d₀.packageName
  services : d.services = d₀.services.filter fun service => !exclusions.contains service.name
  imports : d.imports = d₀.imports
  params : d.params = d₀.params
  objects : ∀ o ∈ d.objects, ∃ p ∈ d₀.objects, p.typeId = o.typeId ∧
    (d.AnswersWith o.typeId → o = p) ∧
    (¬ d.AnswersWith o.typeId → extracted.object? o.typeId = some o ∧
      (p = o ∨ p = Session.withErrorField extracted.rootPath o))

namespace Session

/-! ### Finalizing with services set aside -/

/-- Retained services are recorded for what their own methods answer with. -/
theorem isAnswer_iff (serviced : Serviced exclusions s) :
    s.IsAnswer typeId ↔ ∃ service ∈ s.services, AnswersWith service typeId := by
  constructor
  · rintro ⟨service, retained, recorded⟩
    obtain ⟨other, listed, name, answers⟩ := (serviced.records typeId service.name).mp recorded
    rcases List.mem_append.mp listed with kept | excluded
    · exact ⟨other, kept, answers⟩
    · exact absurd (name ▸ serviced.excluded other excluded) (serviced.retained service retained)
  · rintro ⟨service, retained, answers⟩
    exact ⟨service, retained, (serviced.records typeId service.name).mpr
      ⟨service, List.mem_append_left _ retained, rfl, answers⟩⟩

theorem excludedIds_eq_nil (none : s.excludedServices = []) : s.excludedIds = [] := by
  refine List.eq_nil_iff_forall_not_mem.mpr fun id left => ?_
  obtain ⟨⟨root, listed, _⟩, _⟩ := mem_excludedIds_iff.mp left
  rw [none] at listed
  cases listed

theorem finalize_exclude (packageName : Option String) (params : List (String × Json))
    (registry : Registry s) (none : s.excludedServices = [])
    (serviced : Serviced exclusions (s.exclude exclusions)) :
    OnlyFilters exclusions (s.exclude exclusions)
      ((s.exclude exclusions).finalize packageName params).definition
      (s.finalize packageName params).definition where
  packageName := rfl
  services := (filter_sortBy_name Service.name _ s.services).symm
  imports := rfl
  params := rfl
  objects := by
    intro o member
    have registry' : Registry (s.exclude exclusions) :=
      ⟨registry.ids, registry.typeIds, registry.names, registry.responses⟩
    obtain ⟨kept, before, found, same⟩ := finalize_object registry' packageName params member
    have known : s.object? o.typeId = some before := found
    have answers : Definition.AnswersWith
        ((s.exclude exclusions).finalize packageName params).definition o.typeId ↔
          (s.exclude exclusions).IsAnswer o.typeId := by
      rw [isAnswer_iff serviced]
      exact exists_congr fun service => and_congr_left fun _ => mem_sortBy
    have left : o.typeId ∉ s.excludedIds := by simp [excludedIds_eq_nil none]
    refine ⟨s.afterFinalize o.typeId before, ?_, ?_, fun answered => ?_, fun other => ?_⟩
    · exact (mem_finalize_objects packageName params).mpr
        ⟨o.typeId, before, registry.object?_eq_some_iff.mp known, left, rfl⟩
    · rw [afterFinalize_typeId, registry.typeId_of_object? known]
    · have answer := answers.mp answered
      have whole : s.IsAnswer o.typeId := by
        obtain ⟨service, retained, recorded⟩ := answer
        exact ⟨service, (List.mem_filter.mp retained).1, recorded⟩
      calc o = _ := same
        _ = withErrorField s.rootPath before := afterFinalize_of_isAnswer registry' found kept answer
        _ = _ := (afterFinalize_of_isAnswer registry known left whole).symm
    · have plain : o = before :=
        same.trans (afterFinalize_of_not_isAnswer registry' before (mt answers.mpr other))
      refine ⟨found.trans (congrArg some plain.symm), ?_⟩
      by_cases whole : s.IsAnswer o.typeId
      · exact Or.inr ((afterFinalize_of_isAnswer registry known left whole).trans
          (congrArg (withErrorField s.rootPath) plain.symm))
      · exact Or.inl ((afterFinalize_of_not_isAnswer registry before whole).trans plain.symm)

end Session

/-! ### Whole compilations -/

/-- How two compilations end that set different services aside. -/
inductive Alike (exclusions : List String) :
    Except Failure α × World → Except Failure α × World → Prop where
  | failed (failure : Failure) (v v₀ : World) : Alike exclusions (.error failure, v) (.error failure, v₀)
  | done (a : α) {v v₀ : World} (excludes : Excludes exclusions v v₀) :
      Alike exclusions (.ok a, v) (.ok a, v₀)

theorem Simulates.alike {c c₀ : Compile α} (simulates : Simulates exclusions c c₀) {w w₀ : World}
    (excludes : Excludes exclusions w w₀) :
    Alike exclusions (c.runOn disk w) (c₀.runOn disk w₀) := by
  have both := simulates.run disk w w₀ excludes
  generalize c.runOn disk w = left, c₀.runOn disk w₀ = right at both
  obtain ⟨outcome, v⟩ := left
  obtain ⟨_, v₀⟩ := right
  obtain ⟨rfl, ended⟩ := both
  cases outcome with
  | error failure => exact .failed failure v v₀
  | ok a => exact .done a ended

namespace Compile

variable {input : Input} {options : Options}

theorem excludes_start {w : World} (session : w.session = {}) : Excludes exclusions w w :=
  ⟨rfl, by rw [session]; rfl, by rw [session]⟩

theorem loaded_alike {load : Compile α} {f f₀ : α → Compile β}
    (loads : ∀ a w, load.runOn disk {} = (.ok a, w) → w.session = {})
    (later : ∀ a, Simulates exclusions (f a) (f₀ a)) :
    Alike exclusions ((load >>= f).runOn disk {}) ((load >>= f₀).runOn disk {}) := by
  rw [runOn_bind, runOn_bind]
  rcases loaded : load.runOn disk {} with ⟨failure | a, w⟩
  · exact .failed failure w w
  · exact (later a).alike (excludes_start (loads a w loaded))

theorem extract_alike (disk : Disk) (exclusions : List String) (input : Input) :
    Alike exclusions ((extract exclusions input).runOn disk {}) ((extract [] input).runOn disk {}) := by
  cases input with
  | patterns patterns =>
    refine loaded_alike (fun _ _ run => (Loading.load_ok .empty run).1.session) fun packages => ?_
    exact .bind (.forM _ fun p => .bind (Steady.note ..) fun _ => Extract.package_simulates p) fun _ =>
      Steady.pure _
  | sources sources =>
    refine loaded_alike (fun _ _ run => (Loading.loadSources_ok .empty run).1.session) fun package => ?_
    exact .bind (Extract.package_simulates package) fun _ => Steady.pure _

theorem exclusionsOf_contains (options : Options) {name : String} (named : name ≠ "") :
    (exclusionsOf options).contains name = options.exclusions.contains name := by
  rw [Bool.eq_iff_iff, List.contains_iff_mem, List.contains_iff_mem, mem_exclusionsOf named]

/-- Whatever services are excluded, a compilation fails as the one that excludes none, or its
definition only filters the other's. -/
theorem exclusion_only_filters (disk : Disk) (input : Input) (options : Options) :
    match ((compile input options).runOn disk {}).1,
      ((compile input { options with exclusions := [] }).runOn disk {}).1 with
    | .error failure, .error failure₀ => failure = failure₀
    | .ok compiled, .ok compiled₀ =>
      ∃ count w, (extract (exclusionsOf options) input).runOn disk {} = (.ok count, w) ∧
        OnlyFilters options.exclusions w.session compiled.definition compiled₀.definition
    | _, _ => False := by
  have alike := extract_alike disk (exclusionsOf options) input
  have none : exclusionsOf { options with exclusions := [] } = [] := rfl
  unfold compile
  rw [runOn_bind, runOn_bind, none]
  generalize same : (extract (exclusionsOf options) input).runOn disk {} = left,
    whole : (extract [] input).runOn disk {} = right at alike
  cases alike with
  | failed failure v v₀ => rfl
  | @done count v v₀ excludes =>
    refine ⟨count, v, rfl, ?_⟩
    obtain ⟨registry, serviced₀, _⟩ := Extract.extract_ok whole
    obtain ⟨_, serviced, _⟩ := Extract.extract_ok same
    rw [excludes.session] at serviced
    have filters := Session.finalize_exclude options.packageName options.params registry excludes.none serviced
    rw [← excludes.session] at filters
    refine ⟨filters.packageName, filters.services.trans ?_, filters.imports, filters.params,
      filters.objects⟩
    refine List.filter_congr fun service listed => ?_
    have named : service.name ≠ "" :=
      serviced₀.named service (List.mem_append_left _ (mem_sortBy.mp listed))
    rw [exclusionsOf_contains options named]

end Compile

end GoIdl
