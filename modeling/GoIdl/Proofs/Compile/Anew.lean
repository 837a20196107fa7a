import GoIdl.Proofs.Compile.Reaching

/-!
# Extracting anew

Once a session has been finished, each of its objects can be extracted again from an empty session:
all it needs has been loaded, no name becomes ambiguous, and recursion ends because it registers a
new declaration at every level.
-/

namespace GoIdl.Extract

open Syntax (TypeExpr FieldDecl Location)
open Resolve Session

variable {α : Type} {disk : Disk} {u v : World} {l : Loader} {s : Session} {ctx : Context}
  {expr : TypeExpr} {d : DeclaredType} {root : String} {o : Object} {n : Nat}

/-! ### Worlds inside a finished session -/

/-- All packages of `l` are loaded, and the objects registered are among those of `s`. -/
structure Within (l : Loader) (s : Session) (u : World) : Prop where
  loader : u.loader = l
  registry : u.session.Registry
  objects : ∀ id o, u.session.object? id = some o → ∃ p, s.object? id = some p ∧ p.name = o.name

theorem Within.runs {c : Compile α} {a : α} (within : Within l s u) (yields : Yields disk l c a) :
    c.runOn disk u = (.ok a, u) :=
  yields u (by rw [within.loader]; exact .refl l)

/-- Registered objects may change if they keep their names. -/
theorem Within.change (within : Within l s u) (loader : v.loader = u.loader)
    (registry : v.session.Registry)
    (named : ∀ id o, v.session.object? id = some o → ∃ p, u.session.object? id = some p ∧ p.name = o.name) :
    Within l s v where
  loader := loader.trans within.loader
  registry := registry
  objects := fun id o found => by
    obtain ⟨p, before, same⟩ := named id o found
    obtain ⟨q, known, same'⟩ := within.objects id p before
    exact ⟨q, known, same'.trans same⟩

/-- The identifiers of all declarations in loaded packages. -/
def declaredIds (l : Loader) : List String :=
  l.packages.flatMap fun p => p.scope.map fun entry => p.path ++ "." ++ entry.1

theorem length_declaredIds (l : Loader) : (declaredIds l).length = l.declared := by
  rw [declaredIds, Loader.declared]
  induction l.packages with
  | nil => rfl
  | cons p rest ih => rw [List.flatMap_cons, List.length_append, List.length_map, ih, List.foldr_cons]

theorem mem_declaredIds (known : d.Known l) : typeIdOf d ∈ declaredIds l := by
  obtain ⟨declaration, listed, _⟩ := Option.map_eq_some_iff.mp known.found
  exact List.mem_flatMap.mpr ⟨d.package, known.package,
    List.mem_map.mpr ⟨(d.name, declaration), Json.mem_of_find? listed, rfl⟩⟩

theorem Within.length_le (within : Within l s u) (complete : AllComplete disk l s) :
    u.session.objects.length ≤ l.declared := by
  have ids : Json.keys u.session.objects ⊆ declaredIds l := by
    intro id listed
    obtain ⟨o, found⟩ := Option.isSome_iff_exists.mp (Json.find?_isSome_iff.mpr listed)
    obtain ⟨p, known, _⟩ := within.objects id o found
    obtain ⟨d, _, rfl, complete⟩ := complete id p known
    exact mem_declaredIds complete.known
  have shorter := within.registry.ids.length_le_of_subset ids
  rwa [length_declaredIds, Json.keys, List.length_map] at shorter

/-- A run that succeeds and stays inside the finished session. -/
def Succeeds (disk : Disk) (l : Loader) (s : Session) (c : Compile α) (u : World) : Prop :=
  ∃ a v, c.runOn disk u = (.ok a, v) ∧ Within l s v ∧
    u.session.objects.length ≤ v.session.objects.length

/-- With `n` levels of recursion left, extraction succeeds on what the finished session holds. -/
def ExtractsAnew (disk : Disk) (l : Loader) (s : Session) (n : Nat)
    (extract : DeclaredType → Compile Unit) : Prop :=
  ∀ d u, Within l s u → d.Known l → (s.object? (typeIdOf d)).isSome →
    l.declared < u.session.objects.length + n → Succeeds disk l s (extract d) u

/-! ### Types and fields -/

section

variable {extract : DeclaredType → Compile Unit} (anew : ExtractsAnew disk l s n extract)

include anew

theorem fieldType_succeeds {shape : Shape} (location : Location) (within : Within l s u)
    (spare : l.declared < u.session.objects.length + n) (shaped : HasShape disk l expr ctx shape)
    (registered : ∀ d, shape.target = some d → d.Known l ∧ (s.object? (typeIdOf d)).isSome) :
    Succeeds disk l s (fieldType extract expr ctx location) u := by
  have refused : (refuseStruct shape.peeled location).runOn disk u = (.ok (), u) := by
    unfold refuseStruct
    split
    · rename_i pos fields same
      exact absurd same (shaped.named pos fields)
    · rfl
  have extracted : Succeeds disk l s (shape.target.forM extract) u := by
    cases target : shape.target with
    | none => exact ⟨(), u, rfl, within, Nat.le_refl _⟩
    | some d =>
      obtain ⟨known, held⟩ := registered d target
      exact anew d u within known held spare
  obtain ⟨_, v, extracted, within', longer⟩ := extracted
  obtain ⟨imports, imported⟩ :=
    v.session.registerImports_eq (shape.rendered.packages v.session.rootPath)
  refine ⟨shape.type v.session.rootPath, { v with session := { v.session with imports } }, ?_,
    within'.change rfl ⟨within'.registry.ids, within'.registry.typeIds, within'.registry.names,
      within'.registry.responses⟩ fun id o found => ⟨o, found, rfl⟩, longer⟩
  rw [← imported]
  exact Compile.bind_ok.mpr ⟨_, u, within.runs shaped.peeled, Compile.bind_ok.mpr ⟨(), u, refused,
    Compile.bind_ok.mpr ⟨_, u, within.runs shaped.target, Compile.bind_ok.mpr ⟨_, v, extracted,
      Compile.bind_ok.mpr ⟨_, v, within'.runs shaped.rendered, rfl⟩⟩⟩⟩⟩

theorem field_succeeds {f : FieldDecl TypeExpr} {field : Field} (within : Within l s u)
    (spare : l.declared < u.session.objects.length + n) (sound : l.Sound)
    (context : ctx.package ∈ l.packages) (described : IsFieldOf disk l root ctx f field)
    (target : field.type.isObject = true → (s.object? field.type.typeId).isSome) :
    Succeeds disk l s (Extract.field extract ctx f) u := by
  have refers := fun d => described.refers sound context (e := d)
  obtain ⟨tags, doc, shape, exported, parsed, read, shaped, _⟩ := described
  obtain ⟨log, documented⟩ := readDoc_runOn read disk u
  have within' : Within l s { u with log } := ⟨within.loader, within.registry, within.objects⟩
  obtain ⟨type, v, resolved, ended, longer⟩ :=
    fieldType_succeeds anew (f.pos.inFile ctx.file.path) within' spare shaped fun d same => by
      have leads := (shaped.leadsTo_iff sound).mpr same
      obtain ⟨isObject, typeId⟩ := refers d leads
      exact ⟨leads.known sound context, typeId ▸ target isObject⟩
  exact ⟨describeField f tags doc type, v, Compile.ensure_bind_ok.mpr ⟨exported,
    Compile.bind_ok.mpr ⟨tags, u, parseTag_ok.mpr ⟨parsed, rfl⟩,
      Compile.bind_ok.mpr ⟨doc, _, documented, Compile.bind_ok.mpr ⟨type, v, resolved, rfl⟩⟩⟩⟩,
    ended, longer⟩

theorem fields_succeeds (fields : List (FieldDecl TypeExpr)) (typeId : String)
    (within : Within l s u) (spare : l.declared < u.session.objects.length + n) (sound : l.Sound)
    (context : ctx.package ∈ l.packages)
    (described : ∀ f ∈ fields, ∃ field, IsFieldOf disk l root ctx f field ∧
      (field.type.isObject = true → (s.object? field.type.typeId).isSome)) :
    Succeeds disk l s (fields.forM fun f => do
      let field ← Extract.field extract ctx f
      Compile.modifySession (·.addField typeId field)) u := by
  induction fields generalizing u with
  | nil => exact ⟨(), u, rfl, within, Nat.le_refl _⟩
  | cons f rest ih =>
    obtain ⟨field, here, target⟩ := described f List.mem_cons_self
    obtain ⟨other, v, read, within₁, longer⟩ :=
      field_succeeds anew within spare sound context here target
    have within₂ : Within l s { v with session := v.session.addField typeId other } :=
      within₁.change rfl (within₁.registry.addField typeId other) fun id o found => by
        rw [Session.addField, Session.updateObject_object?] at found
        obtain ⟨p, before, rfl⟩ := Option.map_eq_some_iff.mp found
        refine ⟨p, before, ?_⟩
        split <;> rfl
    have same : (v.session.addField typeId other).objects.length = v.session.objects.length := by
      simp [Session.addField, Session.updateObject]
    obtain ⟨_, w, later, ended, longer'⟩ := ih within₂ (by rw [same]; omega)
      fun f member => described f (List.mem_cons_of_mem _ member)
    refine ⟨(), w, Compile.bind_ok.mpr ⟨(), _, Compile.bind_ok.mpr ⟨other, v, read, rfl⟩, later⟩,
      ended, ?_⟩
    rw [same] at longer'
    exact longer.trans longer'

/-! ### Objects -/

theorem fillObject_succeeds (within : Within l s u)
    (spare : l.declared < u.session.objects.length + n) (sound : l.Sound)
    (complete : Complete disk l root s d o) : Succeeds disk l s (fillObject extract d) u := by
  obtain ⟨doc, read, _⟩ := complete.described
  obtain ⟨log, documented⟩ := readDoc_runOn read disk u
  obtain ⟨fields, origin, shape, described⟩ := complete.fields
  obtain ⟨change, changed⟩ : ∃ change : Object → Object, change = fun o => { o with
    comment := doc.description, metadata := doc.values
    imported := d.package.path != u.session.rootPath } := ⟨_, rfl⟩
  have keeps : ∀ o, (change o).typeId = o.typeId ∧ (change o).name = o.name := by
    rw [changed]
    exact fun _ => ⟨rfl, rfl⟩
  have within₁ : ∀ log, Within l s
      { u with session := u.session.updateObject (typeIdOf d) change, log } := fun log =>
    within.change rfl (within.registry.updateObject change keeps _) fun id o found => by
      rw [Session.updateObject_object?] at found
      obtain ⟨p, before, rfl⟩ := Option.map_eq_some_iff.mp found
      refine ⟨p, before, ?_⟩
      split
      · exact (keeps p).2.symm
      · rfl
  have same : (u.session.updateObject (typeIdOf d) change).objects.length =
      u.session.objects.length := by
    simp [Session.updateObject]
  obtain ⟨_, v, filled, ended, longer⟩ := fields_succeeds anew fields (typeIdOf d)
    (within₁ _) (by rw [same]; exact spare) sound (structOf_known sound complete.known shape).package
    fun f member => by
      obtain ⟨field, listed, isField⟩ := exists_right_of_forall₂ described member
      exact ⟨field, isField, complete.targets field listed⟩
  rw [same] at longer
  refine ⟨(), v, Compile.bind_ok.mpr ⟨doc, _, documented, ?_⟩, ended, longer⟩
  rw [Compile.rootPath_bind, Compile.modifySession_bind, Compile.note_bind]
  subst changed
  exact Compile.bind_ok.mpr ⟨_, _, (within₁ _).runs shape, filled⟩

end

/-- An object that is held can be reserved, unless it has been. -/
theorem reserve_succeeds (finished : Finished disk l s) (within : Within l s u) (known : d.Known l)
    (held : (s.object? (typeIdOf d)).isSome) :
    ((reserve d).runOn disk u = (.ok false, u)) ∨
      ∃ t, (reserve d).runOn disk u = (.ok true, { u with session := t }) ∧
        Within l s { u with session := t } ∧ t.objects.length = u.session.objects.length + 1 := by
  rcases outcome : u.session.reserve (typeIdOf d) d.name (some d.location) with error | _ | t
  · exfalso
    obtain ⟨o, found⟩ := Option.isSome_iff_exists.mp held
    obtain ⟨root, complete⟩ := finished.at known found
    obtain ⟨absent, first, named⟩ := Session.reserve_eq_error outcome
    obtain ⟨p, entered, called⟩ := (within.registry.names d.name first).mp named
    obtain ⟨q, alsoHeld, same⟩ := within.objects first p entered
    have one := finished.registry.ids_eq_of_name_eq alsoHeld found
      (by rw [same, called, complete.described.name])
    rw [one, absent] at entered
    cases entered
  · left
    rw [reserve, Compile.get_bind]
    exact Compile.ofDefinition_bind_ok.mpr ⟨none, outcome, rfl⟩
  · right
    obtain ⟨fresh, _, same⟩ := Session.reserve_eq_some outcome
    refine ⟨t, ?_, ⟨within.loader, within.registry.reserve outcome, fun id p entered => ?_⟩, ?_⟩
    · rw [reserve, Compile.get_bind]
      exact Compile.ofDefinition_bind_ok.mpr ⟨some t, outcome, rfl⟩
    · obtain ⟨_, made, others, _, _⟩ := reserved_object? outcome
      by_cases new : id = typeIdOf d
      · subst new
        cases made.symm.trans entered
        obtain ⟨o, found⟩ := Option.isSome_iff_exists.mp held
        obtain ⟨root, complete⟩ := finished.at known found
        exact ⟨o, found, complete.described.name⟩
      · exact within.objects id p ((others id new).symm.trans entered)
    · rw [same, List.length_append]
      rfl

theorem objectWithin_succeeds (finished : Finished disk l s) (fuel : Nat) :
    ExtractsAnew disk l s fuel (objectWithin fuel) := by
  induction fuel with
  | zero =>
    intro d u within _ _ spare
    have bounded := within.length_le finished.complete
    omega
  | succ fuel ih =>
    intro d u within known held spare
    obtain ⟨o, found⟩ := Option.isSome_iff_exists.mp held
    obtain ⟨root, complete⟩ := finished.at known found
    rcases reserve_succeeds finished within known held with old | ⟨t, reserved, within', longer⟩
    · exact ⟨(), u, Compile.bind_ok.mpr ⟨false, u, old, rfl⟩, within, Nat.le_refl _⟩
    · obtain ⟨_, v, filled, ended, more⟩ := fillObject_succeeds ih within'
        (by show l.declared < t.objects.length + fuel; omega) finished.sound complete
      refine ⟨(), v, Compile.bind_ok.mpr ⟨true, _, reserved, filled⟩, ended, ?_⟩
      have grown : t.objects.length ≤ v.session.objects.length := more
      omega

/-- In an empty session, an object of a finished one is extracted as it was for the same root
package. -/
theorem object_anew (finished : Finished disk l s) (known : d.Known l)
    (found : s.object? (typeIdOf d) = some o) (complete : Complete disk l root s d o) :
    ∃ v, (object d).runOn disk { loader := l, session := { rootPath := root } } = (.ok (), v) ∧
      v.session.object? (typeIdOf d) = some o := by
  have start : Within l s { loader := l, session := { rootPath := root } } :=
    ⟨rfl, .empty root "", fun _ _ none => nomatch none⟩
  obtain ⟨_, v, run, ended, _⟩ := objectWithin_succeeds finished (l.declared + disk.size + 2) d _
    start known (by rw [found]; rfl) (by omega)
  have run : (object d).runOn disk { loader := l, session := { rootPath := root } } = (.ok (), v) :=
    (Compile.depth_bind _).trans run
  refine ⟨v, run, ?_⟩
  obtain ⟨extraction, registered⟩ := object_extracts d _ v finished.sound known start.registry run
  obtain ⟨p, made⟩ := Option.isSome_iff_exists.mp registered
  obtain ⟨_, d', root', _, _, same, rfl, complete'⟩ := extraction.made _ p rfl made
  rw [ended.loader] at complete'
  cases eq_of_typeIdOf_eq finished.sound finished.paths known complete'.known same
  rw [made, complete.unique complete']

end GoIdl.Extract
