import GoIdl.Proofs.Compile.Imports

/-!
# Structs without a name

A type whose expression is a struct without a name, once aliases, one slice and one pointer have been
taken off, is refused where it stands. So none of these comes into a definition. Inside other types
such a struct is printed like any other expression.
-/

namespace GoIdl

open Syntax (TypeExpr TypeName FieldDecl Position Location)

variable {disk : Disk} {u v w : World} {l : Loader} {ctx ctx' : Context} {expr expr' : TypeExpr}
  {location : Location}

namespace Resolve

/-- At most one slice and at most one pointer stand before a struct without a name, aliases being
expanded before, between and after. -/
def LeadsToInline (disk : Disk) (l : Loader) (expr : TypeExpr) (ctx : Context) : Prop :=
  ∃ whole wholeIn shown shownIn pos fields coreIn,
    Yields disk l (expandAliases expr ctx) (whole, wholeIn) ∧
      Unsliced disk l whole wholeIn shown shownIn ∧
      Unpointed disk l shown shownIn (.struct pos fields) coreIn

/-! ### Refusing -/

theorem HasShape.not_leadsToInline {s : Shape} (shape : HasShape disk l expr ctx s) :
    ¬ LeadsToInline disk l expr ctx := by
  rintro ⟨whole, wholeIn, shown, shownIn, pos, fields, coreIn, expanded, sliced, pointed⟩
  obtain ⟨p, peeled, core, _⟩ := peel_yields expanded sliced pointed
  cases shape.peeled.unique peeled
  exact shape.named pos fields core

/-- A struct without a name is refused as soon as it has been found, whatever objects are made of. -/
theorem fieldType_refused (extract : DeclaredType → Compile Unit) {p : Peeled} {pos : Position}
    {fields : List (FieldDecl TypeExpr)} (peeled : (peel expr ctx).runOn disk u = (.ok p, v))
    (core : p.core = .struct pos fields) (location : Location) :
    (fieldType extract expr ctx location).runOn disk u =
      (.error (.definition { cause := .nestedStruct, location := some location
                             package := some p.coreIn.package.path }), v) := by
  have refused : (refuseStruct p location).runOn disk v =
      (.error (.definition { cause := .nestedStruct, location := some location
                             package := some p.coreIn.package.path }), v) := by
    unfold refuseStruct
    rw [core]
    rfl
  rw [fieldType, Compile.runOn_bind, peeled]
  dsimp only
  rw [Compile.runOn_bind, refused]

/-! ### How texts begin -/

/-- The text before the parts of a type expression that is no name. -/
def opening : TypeExpr → String
  | .named _ => ""
  | .pointer _ _ => "*"
  | .slice _ _ => "[]"
  | .array _ length _ => s!"[{length}]"
  | .map _ _ _ => "map["
  | .chan _ _ => "chan "
  | .func _ _ => "func"
  | .struct _ _ => "struct\x7b"
  | .interface _ _ _ => "interface\x7b"

theorem opening_struct (same : opening expr = "struct\x7b") : ∃ pos fields, expr = .struct pos fields := by
  cases expr with
  | struct pos fields => exact ⟨pos, fields, rfl⟩
  | array pos length elem =>
    have first := congrArg (·.toList.head?) same
    simp [opening, toString] at first
  | _ => simp [opening] at same

theorem opening_pointer (same : opening expr = "*") : ∃ pos elem, expr = .pointer pos elem := by
  cases expr with
  | pointer pos elem => exact ⟨pos, elem, rfl⟩
  | array pos length elem =>
    have first := congrArg (·.toList.head?) same
    simp [opening, toString] at first
  | _ => simp [opening] at same

theorem lookup_none (sound : l.Sound) {name : TypeName} (yields : Yields disk l (lookup name ctx) none) :
    name.name ∈ Loading.predeclaredTypes := by
  rcases lookup_cases sound yields with ⟨_, _, ⟨⟩, _⟩ | ⟨declared, same, found⟩
  cases Option.map_eq_none_iff.mp same.symm
  rcases Loading.resolveName_cases sound found with ⟨_, ⟨⟩, _⟩ | ⟨_, ⟨⟩, _⟩ | ⟨-, predeclared⟩
  exact predeclared

/-- A name that is no alias is rendered as one part, which is not how a struct begins. -/
theorem render_name {m : Nat} {seen : List (String × String)} {name : TypeName} {r : Rendered}
    (sound : l.Sound)
    (plain : ∀ d, Yields disk l (lookupDeclared name ctx) (some d) → d.spec.isAlias = false)
    (yields : Yields disk l (renderInside m seen ctx (.named name)) r) :
    ∃ part, r.parts = [part] ∧ part ≠ .plain "struct\x7b" := by
  cases m with
  | zero => exact (yields_throw yields).elim
  | succ m =>
    obtain ⟨found, read, yields⟩ := Resolving.bind_yields (lookup_resolving ..) (fun _ => by
      split
      · exact .pure _
      · exact .pure _
      · split
        · dsimp only
          split
          · exact .throw _
          · exact renderInside_resolving ..
        · exact .pure _) sound yields
    split at yields
    · cases yields_pure yields
      refine ⟨.plain name.name, rfl, fun same => ?_⟩
      have predeclared := lookup_none sound read
      rw [Part.plain.inj same] at predeclared
      revert predeclared
      decide
    · cases yields_pure yields
      exact ⟨_, rfl, nofun⟩
    · rename_i d
      rw [plain d (read.bind (.pure _))] at yields
      cases yields_pure yields
      exact ⟨_, rfl, nofun⟩

/-- Any other expression is rendered from its opening on. -/
theorem render_opening {m : Nat} {seen : List (String × String)} {r : Rendered} (sound : l.Sound)
    (unnamed : ∀ name, expr ≠ .named name)
    (yields : Yields disk l (renderInside m seen ctx expr) r) :
    ∃ rest, r.parts = .plain (opening expr) :: rest := by
  cases m with
  | zero => exact (yields_throw yields).elim
  | succ m =>
    have aliases : ∀ d : DeclaredType, Resolving (if seen.contains d.key then aliasCycle d
        else renderInside m (d.key :: seen) d.context d.spec.type) := by
      intro d
      split
      · exact .throw _
      · exact renderInside_resolving ..
    have inner := fun e => (renderWith_rendering ctx e).resolving aliases
    cases expr with
    | named name => exact absurd rfl (unnamed name)
    | pointer _ elem | slice _ elem | array _ _ elem | chan _ elem =>
      obtain ⟨_, _, yields⟩ := Resolving.bind_yields (inner elem) (fun _ => .pure _) sound yields
      cases yields_pure yields
      exact ⟨_, rfl⟩
    | map pos key value =>
      obtain ⟨_, _, yields⟩ := Resolving.bind_yields (inner key)
        (fun _ => .bind (inner value) fun _ => .pure _) sound yields
      obtain ⟨_, _, yields⟩ := Resolving.bind_yields (inner value) (fun _ => .pure _) sound yields
      cases yields_pure yields
      exact ⟨_, rfl⟩
    | func pos signature =>
      obtain ⟨params, results⟩ := signature
      have taken := (renderParams_naming ctx params).rendering.resolving aliases
      have given := (renderResults_naming ctx results).rendering.resolving aliases
      obtain ⟨_, _, yields⟩ := Resolving.bind_yields taken
        (fun _ => .bind given fun _ => .pure _) sound yields
      obtain ⟨_, _, yields⟩ := Resolving.bind_yields given (fun _ => .pure _) sound yields
      cases yields_pure yields
      exact ⟨_, rfl⟩
    | struct pos fields =>
      obtain ⟨_, _, yields⟩ := Resolving.bind_yields
        ((renderFields_naming ctx fields).rendering.resolving aliases) (fun _ => .pure _) sound yields
      cases yields_pure yields
      exact ⟨_, rfl⟩
    | interface pos methods embeds =>
      have own := (renderMethods_naming ctx methods).rendering.resolving aliases
      have names := (renderNames_naming ctx embeds).rendering.resolving aliases
      obtain ⟨_, _, yields⟩ := Resolving.bind_yields own
        (fun _ => .bind names fun _ => .pure _) sound yields
      obtain ⟨_, _, yields⟩ := Resolving.bind_yields names (fun _ => .pure _) sound yields
      cases yields_pure yields
      exact ⟨_, rfl⟩

/-- A text that begins as that of a struct without a name does, perhaps behind a star. -/
def Rendered.IsInline (r : Rendered) : Prop :=
  ∃ rest, r.parts = .plain "struct\x7b" :: rest ∨
    r.parts = .plain "*" :: .plain "struct\x7b" :: rest

/-- Of what aliases have been expanded to only a struct begins as a struct. -/
theorem begins_struct {fuel m : Nat} {followed seen : List (String × String)} {r : Rendered}
    {rest : List Part} (sound : l.Sound) (context : ctx.package ∈ l.packages)
    (follows : Yields disk l (followAliases fuel followed expr ctx) (expr', ctx'))
    (yields : Yields disk l (renderInside m seen ctx' expr') r)
    (begins : r.parts = .plain "struct\x7b" :: rest) : ∃ pos fields, expr' = .struct pos fields := by
  by_cases named : ∃ name, expr' = .named name
  · obtain ⟨name, rfl⟩ := named
    obtain ⟨part, parts, other⟩ := render_name sound
      (fun d => (followAliases_known sound context follows).2 name d rfl) yields
    rw [parts] at begins
    exact absurd (List.cons.inj begins).1 other
  · obtain ⟨more, parts⟩ := render_opening sound (not_exists.mp named) yields
    rw [parts] at begins
    exact opening_struct (Part.plain.inj (List.cons.inj begins).1)

/-- Nor does what stands behind a star begin as one, unless it is one. -/
theorem begins_pointer {fuel m : Nat} {followed seen : List (String × String)} {r : Rendered}
    {core : TypeExpr} {coreIn : Context} {rest : List Part} (sound : l.Sound)
    (context : ctx.package ∈ l.packages)
    (follows : Yields disk l (followAliases fuel followed expr ctx) (expr', ctx'))
    (pointed : Unpointed disk l expr' ctx' core coreIn)
    (yields : Yields disk l (renderInside m seen ctx' expr') r)
    (begins : r.parts = .plain "*" :: .plain "struct\x7b" :: rest) :
    ∃ pos fields, core = .struct pos fields := by
  by_cases named : ∃ name, expr' = .named name
  · obtain ⟨name, rfl⟩ := named
    obtain ⟨part, parts, _⟩ := render_name sound
      (fun d => (followAliases_known sound context follows).2 name d rfl) yields
    rw [parts] at begins
    cases begins
  · obtain ⟨more, parts⟩ := render_opening sound (not_exists.mp named) yields
    rw [parts] at begins
    obtain ⟨pos, elem, rfl⟩ := opening_pointer (Part.plain.inj (List.cons.inj begins).1)
    have context' := (followAliases_known sound context follows).1
    cases pointed with
    | plain other => exact absurd rfl (other pos elem)
    | pointer inside =>
      obtain ⟨n, inside⟩ := yields_deep (followAliases_resolving · [] elem ctx') sound inside
      cases m with
      | zero => exact (yields_throw yields).elim
      | succ m =>
        have inner : Resolving (renderInside (m + 1) seen ctx' elem) := renderInside_resolving ..
        obtain ⟨behind, rendered, yields⟩ := Resolving.bind_yields inner (fun _ => .pure _) sound yields
        cases yields_pure yields
        obtain ⟨_, _, rendered⟩ := render_followed sound inside rendered
        exact begins_struct sound context' inside rendered ((List.cons.inj parts).2 ▸ (List.cons.inj begins).2)

theorem HasShape.not_isInline {s : Shape} (shape : HasShape disk l expr ctx s) (sound : l.Sound)
    (context : ctx.package ∈ l.packages) : ¬ s.rendered.IsInline := by
  obtain ⟨whole, wholeIn, expanded, sliced, pointed⟩ := yields_peel sound shape.peeled
  have rendered := shape.rendered
  have named := shape.named
  obtain ⟨e, c, known, expands⟩ : ∃ e c, c.package ∈ l.packages ∧
      Yields disk l (expandAliases e c) (s.peeled.shown, s.peeled.shownIn) := by
    generalize s.peeled.shown = shown, s.peeled.shownIn = shownIn at sliced
    cases sliced with
    | slice inside => exact ⟨_, _, (expandAliases_known sound context expanded).1, inside⟩
    | plain => exact ⟨expr, ctx, context, expanded⟩
  obtain ⟨fuel, follows⟩ := yields_deep (followAliases_resolving · [] e c) sound expands
  obtain ⟨m, rendered⟩ := yields_deep (renderInside_resolving · [] _ _) sound rendered
  rintro ⟨rest, begins | begins⟩
  · obtain ⟨pos, fields, same⟩ := begins_struct sound known follows rendered begins
    rw [same] at pointed
    generalize s.peeled.core = core, s.peeled.coreIn = coreIn at pointed named
    cases pointed with
    | plain => exact named pos fields rfl
  · obtain ⟨pos, fields, same⟩ := begins_pointer sound known follows pointed rendered begins
    exact named pos fields same

end Resolve

/-! ### Compiled definitions -/

namespace Compile

open Resolve Resolution

/-- A struct without a name is refused where it stands, once aliases, a slice and a pointer have been
taken off. So a compilation succeeds only if no field and no parameter or result that it extracts is
of such a type; and no type of a definition is printed as such a struct or as a pointer to one. -/
theorem inline_structs_refused :
    (∀ disk u v extract expr ctx location p pos fields,
      (peel expr ctx).runOn disk u = (.ok p, v) → p.core = .struct pos fields →
        (fieldType extract expr ctx location).runOn disk u =
          (.error (.definition { cause := .nestedStruct, location := some location
                                 package := some p.coreIn.package.path }), v)) ∧
    ∀ disk input options compiled v,
      (compile input options).runOn disk {} = (.ok compiled, v) →
        ∃ roots u count w resolved, input.load.runOn disk {} = (.ok roots, u) ∧
          (extract (exclusionsOf options) input).runOn disk {} = (.ok count, w) ∧
          ResolvedAll disk roots resolved w ∧
          (∀ expr ctx location, Among resolved expr ctx location →
            ¬ LeadsToInline disk w.loader expr ctx) ∧
          ∀ t ∈ compiled.definition.types,
            (∃ r ∈ resolved, r.type = t ∧ t.typeName = r.shape.rendered.text r.root ∧
              ¬ r.shape.rendered.IsInline) ∨
            ∃ root, t = (Session.errorField root).type := by
  refine ⟨fun _ _ _ extract _ _ location _ _ _ peeled core =>
    fieldType_refused extract peeled core location, fun disk input options compiled v run => ?_⟩
  obtain ⟨count, w, extracted, definition, _⟩ := compile_ends run
  obtain ⟨roots, u, resolved, loaded, sound, _, all⟩ := extract_resolves extracted
  refine ⟨roots, u, count, w, resolved, loaded, extracted, all, ?_, fun t member => ?_⟩
  · rintro expr ctx location ⟨r, listed, here⟩
    rw [← here.expr, ← here.context]
    exact (all.stands r listed).shape.not_leadsToInline
  · rw [definition] at member
    rcases Session.mem_types_finalize member with held | added
    · obtain ⟨r, listed, rfl⟩ := (all.types t).mp held
      have stands := all.stands r listed
      exact .inl ⟨r, listed, rfl, rfl, stands.shape.not_isInline sound stands.context⟩
    · exact .inr ⟨_, added⟩

/-- A struct that lists itself, and an interface that takes it. -/
def chained : Input :=
  .sources [("a.go",
    "package a; type N struct\x7b Next []*N \x7d; type S interface\x7b M(N) *N \x7d")]

theorem inline_structs_refused_chained :
    ∃ compiled v, (compile chained {}).runOn ⟨[], []⟩ {} = (.ok compiled, v) ∧
      ∃ resolved : List Resolution, ∀ t ∈ compiled.definition.types,
        (∃ r ∈ resolved, r.type = t ∧ ¬ r.shape.rendered.IsInline) ∨
        ∃ root, t = (Session.errorField root).type := by
  have succeeds : ((compile chained {}).runOn ⟨[], []⟩ {}).1.isOk = true := by decide +kernel
  rcases run : (compile chained {}).runOn ⟨[], []⟩ {} with ⟨_ | compiled, v⟩
  · rw [run] at succeeds
    cases succeeds
  · obtain ⟨_, _, _, _, resolved, _, _, _, _, types⟩ := inline_structs_refused.2 _ _ _ _ _ run
    refine ⟨compiled, v, rfl, resolved, fun t member => ?_⟩
    exact (types t member).imp (fun ⟨r, listed, same, _, other⟩ => ⟨r, listed, same, other⟩) id

/-- A set of texts, which maps them to a struct without a name. -/
def textSet : Input :=
  .sources [("a.go", "package a; type S struct\x7b F map[string]struct\x7b\x7d \x7d")]

/-- A struct without a name inside another type is printed. -/
theorem inline_struct_printed :
    ∃ compiled v, (compile textSet {}).runOn ⟨[], []⟩ {} = (.ok compiled, v) ∧
      compiled.definition.types.map (·.typeName) = ["map[string]struct\x7b\x7d"] := by
  have shape : ((compile textSet {}).runOn ⟨[], []⟩ {}).1.toOption.any (fun compiled =>
      compiled.definition.types.map (·.typeName) == ["map[string]struct\x7b\x7d"]) = true := by
    decide +kernel
  rcases run : (compile textSet {}).runOn ⟨[], []⟩ {} with ⟨_ | compiled, v⟩
  · rw [run] at shape
    cases shape
  · simp only [run, Except.toOption, Option.any_some, beq_iff_eq] at shape
    exact ⟨compiled, v, rfl, shape⟩

end Compile

end GoIdl
