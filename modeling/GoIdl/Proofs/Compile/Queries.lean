import GoIdl.Proofs.Compile.Exclusion

/-!
# Asking by name

Whether methods take or answer with an object is asked by the name of the object, and answered by
the names that the types of methods show. The types that refer to an object show its name and no
other type of an object does. But types that are no objects show names as well.
-/

namespace GoIdl

open Extract Session

variable {disk : Disk} {v w : World} {l : Loader} {s : Session} {o : Object} {id : String}
  {d : Definition}

/-! ### Types of methods -/

/-- A method of the definition refers to the object by the type that `part` takes of it. -/
def Definition.RefersTo (d : Definition) (part : Method → FieldType) (typeId : String) : Prop :=
  ∃ m ∈ d.methods, (part m).isObject = true ∧ (part m).typeId = typeId

/-- A method of the definition has a type there that shows the name and is no object. -/
def Definition.Shows (d : Definition) (part : Method → FieldType) (name : String) : Prop :=
  ∃ m ∈ d.methods, (part m).isObject = false ∧ (part m).bareObjectName = name

theorem Definition.objectIsInput_iff {name : String} :
    d.objectIsInput name = true ↔ ∃ m ∈ d.methods, m.input.bareObjectName = name := by
  simp [objectIsInput]

theorem Definition.objectIsOutput_iff {name : String} :
    d.objectIsOutput name = true ↔ ∃ m ∈ d.methods, m.output.bareObjectName = name := by
  simp [objectIsOutput]

theorem Session.Holds.shows_iff {t : FieldType} (holds : s.Holds t) (sound : l.Sound)
    (registry : s.Registry) (complete : AllComplete disk l s) (found : s.object? id = some o) :
    t.bareObjectName = o.name ↔ t.typeId = id := by
  obtain ⟨p, present⟩ := Option.isSome_iff_exists.mp holds.registered
  obtain ⟨e, root, identity, whole⟩ := complete t.typeId p present
  obtain ⟨path, qualified⟩ := holds.qualified
  have shown : t.bareObjectName = p.name := by
    rw [whole.described.name]
    exact (qualified_inj holds.name (whole.known.identifier sound) (qualified.symm.trans identity)).2
  rw [shown]
  constructor
  · exact registry.ids_eq_of_name_eq present found
  · rintro rfl
    cases present.symm.trans found
    rfl

/-- What is answered by name is right, but for types that are no objects. -/
theorem shown_iff (part : Method → FieldType)
    (holds : ∀ m ∈ d.methods, (part m).isObject = true → s.Holds (part m)) (sound : l.Sound)
    (registry : s.Registry) (complete : AllComplete disk l s) (found : s.object? id = some o) :
    (∃ m ∈ d.methods, (part m).bareObjectName = o.name) ↔ d.RefersTo part id ∨ d.Shows part o.name := by
  constructor
  · rintro ⟨m, method, shown⟩
    cases isObject : (part m).isObject with
    | false => exact Or.inr ⟨m, method, isObject, shown⟩
    | true =>
      have same := ((holds m method isObject).shows_iff sound registry complete found).mp shown
      exact Or.inl ⟨m, method, isObject, same⟩
  · rintro (⟨m, method, isObject, same⟩ | ⟨m, method, _, shown⟩)
    · exact ⟨m, method, ((holds m method isObject).shows_iff sound registry complete found).mpr same⟩
    · exact ⟨m, method, shown⟩

/-! ### Compiled definitions -/

namespace Compile

variable {input : Input} {options : Options} {compiled : Compiled}

theorem mem_finalize_methods {packageName : Option String} {params : List (String × Json)} {m : Method} :
    m ∈ (s.finalize packageName params).definition.methods ↔
      ∃ service ∈ s.services, m ∈ service.methods := by
  rw [Definition.methods, List.mem_flatMap]
  exact exists_congr fun service => and_congr_left fun _ => mem_sortBy

theorem refersTo_output_iff {exclusions : List String} {packageName : Option String}
    {params : List (String × Json)} (serviced : s.Serviced exclusions) :
    (s.finalize packageName params).definition.RefersTo Method.output id ↔ s.IsAnswer id := by
  rw [isAnswer_iff serviced]
  constructor
  · rintro ⟨m, method, isObject, same⟩
    obtain ⟨service, retained, method⟩ := mem_finalize_methods.mp method
    exact ⟨service, retained, m, method, isObject, same⟩
  · rintro ⟨service, retained, m, method, isObject, same⟩
    exact ⟨m, mem_finalize_methods.mpr ⟨service, retained, method⟩, isObject, same⟩

/-- Asked by name, a definition takes an object for an input or an output exactly if a method refers
to it there or has a type there that is no object and shows its name. Only objects that a method
refers to as its output have taken the error field. -/
theorem compiled_queries (run : (compile input options).runOn disk {} = (.ok compiled, v)) :
    ∃ count w, (extract (exclusionsOf options) input).runOn disk {} = (.ok count, w) ∧
      ∀ o ∈ compiled.definition.objects,
        (compiled.definition.objectIsInput o.name = true ↔
          compiled.definition.RefersTo Method.input o.typeId ∨
            compiled.definition.Shows Method.input o.name) ∧
        (compiled.definition.objectIsOutput o.name = true ↔
          compiled.definition.RefersTo Method.output o.typeId ∨
            compiled.definition.Shows Method.output o.name) ∧
        ∃ before, w.session.object? o.typeId = some before ∧
          (compiled.definition.RefersTo Method.output o.typeId →
            o = withErrorField w.session.rootPath before) ∧
          (¬ compiled.definition.RefersTo Method.output o.typeId → o = before) := by
  obtain ⟨count, w, extracted, same⟩ := compile_ok run
  obtain ⟨_, _, _, _, session, added, serviced, _⟩ := extract_adds extracted
  have registry := added.registry
  have complete := added.allComplete session
  refine ⟨count, w, extracted, fun o member => ?_⟩
  rw [same] at member ⊢
  obtain ⟨kept, before, found, finalized⟩ := finalize_object registry _ _ member
  have name : o.name = before.name := by
    rw [finalized]
    exact afterFinalize_name before
  have holds : ∀ m ∈ (w.session.finalize options.packageName options.params).definition.methods,
      w.session.HoldsTypesOf m := by
    intro m method
    obtain ⟨service, retained, method⟩ := mem_finalize_methods.mp method
    exact serviced.types service (List.mem_append_left _ retained) m method
  rw [Definition.objectIsInput_iff, Definition.objectIsOutput_iff, name]
  refine ⟨?_, ?_, before, found, fun refers => ?_, fun other => ?_⟩
  · exact shown_iff Method.input (fun m method => (holds m method).input) added.sound registry
      complete found
  · exact shown_iff Method.output (fun m method => (holds m method).output) added.sound registry
      complete found
  · exact finalized.trans
      (afterFinalize_of_isAnswer registry found kept ((refersTo_output_iff serviced).mp refers))
  · exact finalized.trans
      (afterFinalize_of_not_isAnswer registry before (mt (refersTo_output_iff serviced).mpr other))

/-- A service answers with a type of a package outside that has the name of the struct it takes. -/
def lookalike : Input :=
  .sources [("a.go", "package a; import \"o.org/y\"; " ++
    "type S interface\x7b M(T) y.T \x7d; type T struct\x7b\x7d")]

theorem lookalike_asked :
    ∃ compiled v, (compile lookalike {}).runOn ⟨[], []⟩ {} = (.ok compiled, v) ∧
      ∃ o ∈ compiled.definition.objects, compiled.definition.objectIsOutput o.name = true ∧
        ¬ compiled.definition.RefersTo Method.output o.typeId := by
  have shape : (match ((compile lookalike {}).runOn ⟨[], []⟩ {}).1 with
      | .ok compiled => compiled.definition.objects.any fun o =>
          compiled.definition.objectIsOutput o.name && !compiled.definition.methods.any fun m =>
            m.output.isObject && m.output.typeId == o.typeId
      | .error _ => false) = true := by
    decide +kernel
  rcases run : (compile lookalike {}).runOn ⟨[], []⟩ {} with ⟨_ | compiled, v⟩
  · simp [run] at shape
  · simp only [run, List.any_eq_true, Bool.and_eq_true, Bool.not_eq_true', ← Bool.not_eq_true,
      beq_iff_eq] at shape
    obtain ⟨o, member, asked, other⟩ := shape
    exact ⟨compiled, v, rfl, o, member, asked, other⟩

/-- There is a type that is no object and shows the name of the struct. -/
theorem compiled_queries_lookalike :
    ∃ compiled v, (compile lookalike {}).runOn ⟨[], []⟩ {} = (.ok compiled, v) ∧
      ∃ o ∈ compiled.definition.objects, compiled.definition.Shows Method.output o.name := by
  obtain ⟨compiled, v, run, o, member, asked, other⟩ := lookalike_asked
  obtain ⟨_, _, _, queries⟩ := compiled_queries run
  obtain ⟨_, outputs, _⟩ := queries o member
  exact ⟨compiled, v, run, o, member, (outputs.mp asked).resolve_left other⟩

/-- An object may be taken for an output though no method refers to it. -/
theorem queries_by_name_differ :
    ¬ ∀ disk input options compiled v, (compile input options).runOn disk {} = (.ok compiled, v) →
      ∀ o ∈ compiled.definition.objects, compiled.definition.objectIsOutput o.name = true ↔
        compiled.definition.RefersTo Method.output o.typeId := by
  intro agree
  obtain ⟨compiled, v, run, o, member, asked, other⟩ := lookalike_asked
  exact other ((agree _ _ _ compiled v run o member).mp asked)

end Compile

end GoIdl
