import GoIdl.Proofs.Compile.Packages
import GoIdl.Proofs.Session.Types

/-!
# The types that are resolved

Along a run types are resolved one after another. What has been resolved is what the session comes to
hold: every type of a field or a method has been resolved, and every type that has been resolved is
held when the run has succeeded. The imports are the packages that these types name, in order.
-/

namespace GoIdl

open Syntax (TypeExpr TypeName FieldDecl MethodDecl Param Position Location)
open Resolve Extract Session

variable {disk : Disk} {u v w : World} {l l' : Loader} {ctx : Context} {expr : TypeExpr}
  {d e : DeclaredType} {location : Location} {exclusions : List String} {p : Package}
  {roots : List Package}

/-- A type that has been resolved: what is written where, the shape of that, and the root package at
the time. -/
structure Resolution where
  expr : TypeExpr
  context : Context
  location : Location
  root : String
  shape : Shape

namespace Resolution

def type (r : Resolution) : FieldType := r.shape.type r.root

/-- The packages that the text of the type names, each by its path. -/
def printed (r : Resolution) : List (String × String) := r.shape.rendered.packages r.root

/-- The type stands where the declarations say so, for a root package that has been loaded. -/
structure Stands (disk : Disk) (l : Loader) (r : Resolution) : Prop where
  context : r.context.package ∈ l.packages
  shape : HasShape disk l r.expr r.context r.shape
  root : ∃ p ∈ l.packages, p.path = r.root

theorem Stands.mono {r : Resolution} (stands : r.Stands disk l) (le : l.Le l') : r.Stands disk l' where
  context := le.mem stands.context
  shape := stands.shape.mono le
  root := by
    obtain ⟨p, member, same⟩ := stands.root
    exact ⟨p, le.mem member, same⟩

/-- What is written there has been resolved. -/
structure At (expr : TypeExpr) (ctx : Context) (location : Location) (r : Resolution) : Prop where
  expr : r.expr = expr
  context : r.context = ctx
  location : r.location = location

/-- A type that is written there has been resolved. -/
def Among (resolved : List Resolution) (expr : TypeExpr) (ctx : Context) (location : Location) :
    Prop :=
  ∃ r ∈ resolved, r.At expr ctx location

theorem Among.sub {resolved more : List Resolution} (among : Among resolved expr ctx location)
    (sub : resolved ⊆ more) : Among more expr ctx location := by
  obtain ⟨r, listed, here⟩ := among
  exact ⟨r, sub listed, here⟩

/-- The fields of a struct have been resolved. -/
def FieldsAmong (disk : Disk) (l : Loader) (resolved : List Resolution) (d : DeclaredType) : Prop :=
  ∃ fields origin, Yields disk l (structOf d) (some (fields, origin)) ∧
    ∀ f ∈ fields, Among resolved f.type origin.context (f.pos.inFile origin.file.path)

theorem FieldsAmong.mono {resolved more : List Resolution} (fields : FieldsAmong disk l resolved d)
    (le : l.Le l') (sub : resolved ⊆ more) : FieldsAmong disk l' more d := by
  obtain ⟨fields, origin, shape, all⟩ := fields
  exact ⟨fields, origin, shape.mono le, fun f member => (all f member).sub sub⟩

end Resolution

open Resolution

/-- From `u` on these types have been resolved, and nothing else was imported than what they name.
Those of `held` are in no field and no method yet. The fields of all new objects are among them. -/
structure Resolves (disk : Disk) (held : List FieldType) (resolved : List Resolution) (u v : World) :
    Prop where
  stands : ∀ r ∈ resolved, r.Stands disk v.loader
  types : ∀ t, t ∈ v.session.types ∨ t ∈ held ↔ t ∈ u.session.types ∨ ∃ r ∈ resolved, r.type = t
  imports : v.session.imports = (u.session.registerImports (resolved.flatMap printed)).imports
  objects : ∀ id, u.session.object? id = none → (v.session.object? id).isSome →
    ∃ d : DeclaredType, d.Known v.loader ∧ typeIdOf d = id ∧ FieldsAmong disk v.loader resolved d

namespace Resolves

variable {held held' : List FieldType} {resolved resolved' : List Resolution}

/-- A step that resolves nothing, and from which the session holds other types that were given to
it. -/
theorem andHolds (resolves : Resolves disk held resolved u v) (le : v.loader.Le w.loader)
    (types : ∀ t, t ∈ w.session.types ∨ t ∈ held' ↔ t ∈ v.session.types ∨ t ∈ held)
    (imports : w.session.imports = v.session.imports)
    (objects : ∀ id, (w.session.object? id).isSome → (v.session.object? id).isSome) :
    Resolves disk held' resolved u w where
  stands := fun r listed => (resolves.stands r listed).mono le
  types := fun t => (types t).trans (resolves.types t)
  imports := imports.trans resolves.imports
  objects := fun id absent present => by
    obtain ⟨d, known, same, fields⟩ := resolves.objects id absent (objects id present)
    exact ⟨d, known.mono le, same, fields.mono le fun _ listed => listed⟩

/-- Nothing has been resolved. -/
theorem nothing (types : v.session.types = u.session.types)
    (imports : v.session.imports = u.session.imports)
    (objects : ∀ id, (v.session.object? id).isSome → (u.session.object? id).isSome) :
    Resolves disk [] [] u v where
  stands := by simp
  types := by simp [types]
  imports := imports
  objects := fun id absent present => by
    have known := objects id present
    rw [absent] at known
    cases known

theorem of_grows (grows : Grows u v) : Resolves disk [] [] u v :=
  .nothing (by rw [grows.session]) (by rw [grows.session]) (by rw [grows.session]; exact fun _ => id)

/-- The log does not count. -/
theorem of_log (u : World) (log : List LogEntry) : Resolves disk [] [] u { u with log } :=
  .nothing rfl rfl fun _ => id

theorem trans (first : Resolves disk held resolved u v) (second : Resolves disk held' resolved' v w)
    (le : v.loader.Le w.loader) : Resolves disk (held ++ held') (resolved ++ resolved') u w where
  stands := fun r listed => (List.mem_append.mp listed).elim
    (fun early => (first.stands r early).mono le) (second.stands r)
  types := fun t => by
    have before := first.types t
    have after := second.types t
    simp only [List.mem_append, or_and_right, exists_or]
    rw [or_left_comm, after, or_left_comm, ← or_assoc, before, or_assoc]
  imports := by
    rw [second.imports, imports_registerImports, first.imports, imports_registerImports,
      imports_registerImports, List.flatMap_append, List.foldl_append]
  objects := fun id absent present => by
    by_cases known : v.session.object? id = none
    · obtain ⟨d, known, same, fields⟩ := second.objects id known present
      exact ⟨d, known, same, fields.mono (.refl _) (List.subset_append_right _ _)⟩
    · obtain ⟨d, known, same, fields⟩ :=
        first.objects id absent (Option.isSome_iff_ne_none.mpr known)
      exact ⟨d, known.mono le, same, fields.mono le (List.subset_append_left _ _)⟩

end Resolves

theorem Session.isSome_updateObject {s : Session} {typeId id : String} {change : Object → Object} :
    ((s.updateObject typeId change).object? id).isSome ↔ (s.object? id).isSome := by
  rw [updateObject_object?, Option.isSome_map]

/-! ### Worlds to resolve in -/

/-- The loaded packages and the objects are in order, and declarations are read for a root package
that has been loaded. -/
structure Ready (u : World) : Prop where
  sound : u.loader.Sound
  registry : u.session.Registry
  root : ∃ p ∈ u.loader.packages, p.path = u.session.rootPath

namespace Ready

theorem onward (ready : Ready u) (le : u.loader.Le v.loader) (sound : v.loader.Sound)
    (registry : v.session.Registry) (root : v.session.rootPath = u.session.rootPath) : Ready v where
  sound := sound
  registry := registry
  root := by
    obtain ⟨p, member, same⟩ := ready.root
    exact ⟨p, le.mem member, by rw [same, root]⟩

theorem after_grows (ready : Ready u) (grows : Grows u v) : Ready v :=
  ready.onward grows.le grows.sound (by rw [grows.session]; exact ready.registry)
    (by rw [grows.session])

theorem after {own : Option String} {seeds : DeclaredType → Prop} (ready : Ready u)
    (extraction : Extraction disk own seeds u v) : Ready v :=
  ready.onward extraction.le extraction.sound extraction.registry extraction.frame.rootPath

end Ready

namespace Extract

/-- What an extracting function does to types: all that it resolves is held. -/
def Tracks (disk : Disk) (extract : DeclaredType → Compile Unit) : Prop :=
  ∀ d u v, Ready u → d.Known u.loader → (extract d).runOn disk u = (.ok (), v) →
    ∃ resolved, Resolves disk [] resolved u v

/-! ### Types and fields -/

section

variable {extract : DeclaredType → Compile Unit} (extracts : Extracts disk extract)
  (tracks : Tracks disk extract)

include extracts tracks

/-- The type itself is resolved last, after those of the objects behind it. -/
theorem fieldType_resolves {type : FieldType} (ready : Ready u)
    (context : ctx.package ∈ u.loader.packages)
    (run : (fieldType extract expr ctx location).runOn disk u = (.ok type, v)) :
    ∃ resolved, Resolves disk [type] resolved u v ∧ Among resolved expr ctx location := by
  obtain ⟨s, u₁, u₂, u₃, grows, known, extracted, shown, shaped, rfl, rfl⟩ :=
    fieldType_run ready.sound context run
  have ready₁ := ready.after_grows grows
  obtain ⟨extraction, -⟩ := target_ok extracts ready₁.sound ready₁.registry known extracted
  obtain ⟨before, resolves⟩ : ∃ before, Resolves disk [] before u₁ u₂ := by
    cases target : s.target with
    | none =>
      rw [target] at extracted
      obtain ⟨_, rfl⟩ := Compile.pure_ok.mp extracted
      exact ⟨[], .of_grows (.refl grows.sound)⟩
    | some d =>
      rw [target] at extracted
      exact tracks d u₁ u₂ ready₁ (known d target) extracted
  obtain ⟨grows₃, shown⟩ :=
    (render_resolving s.peeled.shown s.peeled.shownIn).ok extraction.sound shown
  have ready₃ := (ready₁.after extraction).after_grows grows₃
  have le : u₁.loader.Le u₃.loader := extraction.le.trans grows₃.le
  let r : Resolution := ⟨expr, ctx, location, u₃.session.rootPath, s⟩
  have stands : r.Stands disk u₃.loader :=
    ⟨(grows.le.trans le).mem context, shaped u₃.loader le shown, ready₃.root⟩
  have last : Resolves disk [r.type] [r] u₃
      { u₃ with session := u₃.session.registerImports r.printed } := {
    stands := by simpa using stands
    types := fun t => by simp [types_registerImports, eq_comm]
    imports := by simp
    objects := fun id absent present => by
      obtain ⟨imports, imported⟩ := u₃.session.registerImports_eq r.printed
      rw [show ({ u₃ with session := u₃.session.registerImports r.printed } : World).session =
        { u₃.session with imports } from imported] at present
      exact absurd present (by simpa [Session.object?] using absent) }
  have early := ((Resolves.of_grows grows).trans resolves extraction.le).trans
    (.of_grows grows₃) grows₃.le
  exact ⟨_, early.trans last (.refl _), r, by simp, rfl, rfl, rfl⟩

theorem field_resolves {f : FieldDecl TypeExpr} {field : Field} (ready : Ready u)
    (context : ctx.package ∈ u.loader.packages)
    (run : (Extract.field extract ctx f).runOn disk u = (.ok field, v)) :
    ∃ resolved, Resolves disk [field.type] resolved u v ∧
      Among resolved f.type ctx (f.pos.inFile ctx.file.path) := by
  obtain ⟨exported, run⟩ := Compile.ensure_bind_ok.mp run
  obtain ⟨tags, _, parsed, run⟩ := Compile.bind_ok.mp run
  obtain ⟨_, same⟩ := parseTag_ok.mp parsed
  rw [same] at run
  obtain ⟨doc, _, read, run⟩ := Compile.bind_ok.mp run
  obtain ⟨_, log, same⟩ := readDoc_ok read
  rw [same] at run
  obtain ⟨type, _, resolved, run⟩ := Compile.bind_ok.mp run
  obtain ⟨rfl, rfl⟩ := Compile.pure_ok.mp run
  obtain ⟨all, resolves, here⟩ := fieldType_resolves extracts tracks (u := { u with log })
    ⟨ready.sound, ready.registry, ready.root⟩ context resolved
  obtain ⟨_, _, _, _, extraction⟩ :=
    fieldType_ok (u := { u with log }) extracts ready.sound context ready.registry resolved
  exact ⟨all, (Resolves.of_log u log).trans resolves extraction.le, here⟩

theorem fields_resolve {fields : List (FieldDecl TypeExpr)} {typeId : String} (ready : Ready u)
    (context : ctx.package ∈ u.loader.packages)
    (registered : (u.session.object? typeId).isSome)
    (run : (fields.forM fun f => do
      let field ← Extract.field extract ctx f
      Compile.modifySession (·.addField typeId field)).runOn disk u = (.ok (), v)) :
    ∃ resolved, Resolves disk [] resolved u v ∧ u.loader.Le v.loader ∧
      ∀ f ∈ fields, Among resolved f.type ctx (f.pos.inFile ctx.file.path) := by
  induction fields generalizing u with
  | nil =>
    obtain ⟨_, rfl⟩ := Compile.pure_ok.mp run
    exact ⟨[], .of_grows (.refl ready.sound), .refl _, by simp⟩
  | cons f rest ih =>
    obtain ⟨_, u₂, first, run⟩ := Compile.bind_ok.mp run
    obtain ⟨field, u₁, read, added⟩ := Compile.bind_ok.mp first
    obtain ⟨_, _, extraction⟩ := field_ok extracts ready.sound context ready.registry read
    obtain ⟨here, resolves, among⟩ := field_resolves extracts tracks ready context read
    cases added
    have present := extraction.registered typeId registered
    have ready₂ : Ready { u₁ with session := u₁.session.addField typeId field } :=
      (ready.after extraction).onward (.refl _) extraction.sound
        (extraction.registry.addField typeId field) rfl
    obtain ⟨others, resolves', le, among'⟩ := ih ready₂ (extraction.le.mem context)
      (isSome_updateObject.mpr present) run
    have stored : Resolves disk [] here u
        { u₁ with session := u₁.session.addField typeId field } :=
      resolves.andHolds (.refl _)
        (fun t => by simp [mem_types_addField present]) rfl fun _ => isSome_updateObject.mp
    refine ⟨here ++ others, stored.trans resolves' le, extraction.le.trans le, ?_⟩
    refine List.forall_mem_cons.mpr ⟨among.sub (List.subset_append_left _ _), fun f' member => ?_⟩
    exact (among' f' member).sub (List.subset_append_right _ _)

theorem fillObject_resolves (ready : Ready u) (known : d.Known u.loader)
    (registered : (u.session.object? (typeIdOf d)).isSome)
    (run : (fillObject extract d).runOn disk u = (.ok (), v)) :
    ∃ resolved, Resolves disk [] resolved u v ∧ u.loader.Le v.loader ∧
      FieldsAmong disk v.loader resolved d := by
  obtain ⟨doc, change, fields, origin, w, -, changed, le, sound, session, behind, run⟩ :=
    fillObject_run ready.sound run
  have registry : w.session.Registry := by
    rw [session]
    exact ready.registry.updateObject change (fun o => by rw [changed]; exact ⟨rfl, rfl⟩) _
  have ready' : Ready w := ready.onward le sound registry (by rw [session]; rfl)
  have documented : Resolves disk [] [] u w := by
    refine .nothing ?_ (by rw [session]; rfl) fun id => ?_
    · rw [session]
      exact types_updateObject _ _ fun o => by rw [changed]
    · rw [session]
      exact isSome_updateObject.mp
  have origin_known := structOf_known sound (known.mono le) behind
  obtain ⟨resolved, resolves, le', among⟩ := fields_resolve extracts tracks ready'
    origin_known.package (by rw [session]; exact isSome_updateObject.mpr registered) run
  exact ⟨resolved, documented.trans resolves le', le.trans le', fields, origin, behind.mono le', among⟩

end

/-! ### Objects -/

theorem objectWithin_tracks (fuel : Nat) : Tracks disk (objectWithin fuel) := by
  induction fuel with
  | zero =>
    intro d u v _ _ run
    cases run
  | succ fuel ih =>
    intro d u v ready known run
    obtain ⟨fresh, u₁, reserved, run⟩ := Compile.bind_ok.mp run
    rcases reserve_ok reserved with ⟨isOld, same, _⟩ | ⟨isNew, t, entered, same⟩
    · rw [isOld, same] at run
      obtain ⟨_, rfl⟩ := Compile.pure_ok.mp run
      exact ⟨[], .of_grows (.refl ready.sound)⟩
    · rw [isNew, same] at run
      obtain ⟨absent, found, others, frame, _⟩ := reserved_object? entered
      obtain ⟨types, imports⟩ := types_reserve entered
      have ready₁ : Ready { u with session := t } :=
        ready.onward (.refl _) ready.sound (ready.registry.reserve entered) frame.rootPath
      obtain ⟨resolved, resolves, le, fields⟩ := fillObject_resolves
        (objectWithin_extracts fuel) ih ready₁ known (by rw [found]; rfl) run
      refine ⟨resolved, ?_⟩
      exact {
        stands := resolves.stands
        types := fun t' => by rw [resolves.types t', types]
        imports := by
          rw [resolves.imports, imports_registerImports, imports, ← imports_registerImports]
        objects := fun id unknown present => by
          by_cases same : id = typeIdOf d
          · exact ⟨d, known.mono le, same.symm, fields⟩
          · exact resolves.objects id ((others id same).trans unknown) present }

theorem object_tracks : Tracks disk object := fun d u v ready known run =>
  objectWithin_tracks _ d u v ready known ((Compile.depth_bind _).symm.trans run)

/-! ### Methods -/

theorem paramType_resolves {param : Param TypeExpr} {type : FieldType} (ready : Ready u)
    (context : ctx.package ∈ u.loader.packages)
    (run : (paramType object param ctx).runOn disk u = (.ok type, v)) :
    ∃ resolved, Resolves disk [type] resolved u v ∧
      Among resolved (typeOf param) ctx (param.pos.inFile ctx.file.path) :=
  fieldType_resolves object_extracts object_tracks ready context run

/-- The parameters and the results of a method have been resolved. -/
def MethodAmong (resolved : List Resolution) (c : Collected) : Prop :=
  ∀ param ∈ c.method.signature.params ++ c.method.signature.results,
    Among resolved (typeOf param) c.context (param.pos.inFile c.context.file.path)

theorem MethodAmong.sub {resolved more : List Resolution} {c : Collected}
    (among : MethodAmong resolved c) (sub : resolved ⊆ more) : MethodAmong more c :=
  fun param listed => (among param listed).sub sub

theorem recordOutput_resolves {service : String} {output : FieldType}
    (run : (Extract.recordOutput service output).runOn disk u = (.ok (), v)) :
    Resolves disk [] [] u v := by
  unfold Extract.recordOutput at run
  split at run
  · cases run
    exact .nothing (types_of_parts rfl rfl rfl) rfl fun _ => id
  · obtain ⟨_, rfl⟩ := Compile.pure_ok.mp run
    exact .nothing rfl rfl fun _ => id

theorem method_resolves {service : String} {c : Collected} {m : Method} (ready : Ready u)
    (context : c.context.package ∈ u.loader.packages)
    (run : (Extract.method service c).runOn disk u = (.ok m, v)) :
    ∃ resolved, Resolves disk [m.input, m.output] resolved u v ∧ MethodAmong resolved c := by
  obtain ⟨param, result, log, u₁, u₂, u₃, _, params, results, taken, given, recorded, rfl⟩ :=
    method_run run
  have ready₀ : Ready { u with log } := ⟨ready.sound, ready.registry, ready.root⟩
  obtain ⟨extraction₁, _, _⟩ := paramType_ok (u := { u with log }) ready.sound context
    ready.registry taken
  have context₁ := extraction₁.le.mem context
  have ready₁ := ready₀.after extraction₁
  obtain ⟨extraction₂, _, _⟩ := paramType_ok ready₁.sound context₁ ready₁.registry given
  obtain ⟨loader, _⟩ := recordOutput_ok extraction₂.registry recorded
  obtain ⟨first, resolves₁, here⟩ := paramType_resolves ready₀ context taken
  obtain ⟨second, resolves₂, there⟩ := paramType_resolves ready₁ context₁ given
  have both := ((Resolves.of_log u log).trans resolves₁ extraction₁.le).trans resolves₂
    extraction₂.le
  have whole := both.trans (recordOutput_resolves recorded) (by rw [loader]; exact .refl _)
  refine ⟨_, (whole.trans (Resolves.of_log u₃ _) (.refl _)), ?_⟩
  intro param' listed
  rw [params, results] at listed
  simp only [List.nil_append, List.append_nil]
  rcases List.mem_pair.mp listed with rfl | rfl
  · exact here.sub (List.subset_append_left _ _)
  · exact there.sub (List.subset_append_right _ _)

theorem methods_resolve {service : String} {collected : List Collected} {methods : List Method}
    (ready : Ready u) (context : ∀ c ∈ collected, c.context.package ∈ u.loader.packages)
    (run : (collected.mapM (Extract.method service)).runOn disk u = (.ok methods, v)) :
    ∃ resolved, Resolves disk (methods.flatMap fun m => [m.input, m.output]) resolved u v ∧
      ∀ c ∈ collected, MethodAmong resolved c := by
  induction collected generalizing u methods with
  | nil =>
    rw [List.mapM_nil] at run
    obtain ⟨rfl, rfl⟩ := Compile.pure_ok.mp run
    exact ⟨[], .of_grows (.refl ready.sound), by simp⟩
  | cons c rest ih =>
    rw [List.mapM_cons] at run
    obtain ⟨m, u₁, first, run⟩ := Compile.bind_ok.mp run
    obtain ⟨more, u₂, later, run⟩ := Compile.bind_ok.mp run
    obtain ⟨rfl, rfl⟩ := Compile.pure_ok.mp run
    have here := context c List.mem_cons_self
    obtain ⟨added, frame, _⟩ := method_ok ready.sound here ready.registry first
    have ready₁ := ready.onward added.le added.sound added.registry frame.rootPath
    have known : ∀ c' ∈ rest, c'.context.package ∈ u₁.loader.packages := fun c' member =>
      added.le.mem (context c' (List.mem_cons_of_mem _ member))
    obtain ⟨added', _⟩ := methods_ok ready₁.sound known ready₁.registry later
    obtain ⟨one, resolves, among⟩ := method_resolves ready here first
    obtain ⟨others, resolves', among'⟩ := ih ready₁ known later
    refine ⟨one ++ others, resolves.trans resolves' added'.le, ?_⟩
    refine List.forall_mem_cons.mpr ⟨among.sub (List.subset_append_left _ _), fun c' member => ?_⟩
    exact (among' c' member).sub (List.subset_append_right _ _)

/-! ### Services -/

theorem service_resolves {methods : List (MethodDecl TypeExpr)} {embeds : List TypeName}
    {made : Service} (ready : Ready u) (context : ctx.package ∈ u.loader.packages)
    (run : (service d methods embeds ctx).runOn disk u = (.ok made, v)) :
    ∃ resolved collected, Resolves disk made.types resolved u v ∧
      Yields disk v.loader (collectMethods methods embeds ctx) collected ∧
      ∀ c ∈ collected, MethodAmong resolved c := by
  obtain ⟨doc, _, read, run⟩ := Compile.bind_ok.mp run
  obtain ⟨_, log, same⟩ := readDoc_ok read
  rw [same, Compile.note_bind] at run
  obtain ⟨collected, u₁, collects, run⟩ := Compile.bind_ok.mp run
  obtain ⟨grows, collects⟩ : Grows u u₁ ∧ Yields disk u₁.loader _ collected := by
    obtain ⟨grows, collects⟩ :=
      (collectMethods_resolving methods embeds ctx).ok (by exact ready.sound) collects
    exact ⟨⟨grows.le, grows.sound, grows.session⟩, collects⟩
  obtain ⟨all, u₂, each, run⟩ := Compile.bind_ok.mp run
  obtain ⟨rfl, rfl⟩ := Compile.pure_ok.mp run
  have ready₁ := ready.after_grows grows
  have known := collectMethods_known grows.sound (grows.le.mem context) collects
  obtain ⟨added, _⟩ := methods_ok ready₁.sound known ready₁.registry each
  obtain ⟨resolved, resolves, among⟩ := methods_resolve ready₁ known each
  exact ⟨resolved, collected, (Resolves.of_grows grows).trans resolves added.le,
    collects.mono added.le, among⟩

/-! ### Declarations -/

/-- A parameter or a result of a method of the service that a declaration describes. -/
inductive ParamOf (disk : Disk) (l : Loader) (d : DeclaredType) :
    TypeExpr → Context → Location → Prop where
  | mk {pos : Position} {methods : List (MethodDecl TypeExpr)} {embeds : List TypeName}
      {origin : DeclaredType} {collected : List Collected} {c : Collected} {param : Param TypeExpr}
      (plain : d.spec.isAlias = false)
      (isInterface : Yields disk l (underlying d) (some (.interface pos methods embeds), origin))
      (collects : Yields disk l (collectMethods methods embeds origin.context) collected)
      (member : c ∈ collected)
      (listed : param ∈ c.method.signature.params ++ c.method.signature.results) :
      ParamOf disk l d (typeOf param) c.context (param.pos.inFile c.context.file.path)

/-- All that `asked` tells has been resolved, whatever may be loaded later. -/
def AllAmong (v : World) (resolved : List Resolution)
    (asked : Loader → TypeExpr → Context → Location → Prop) : Prop :=
  ∀ l expr ctx location, v.loader.Le l → l.Sound → asked l expr ctx location →
    Among resolved expr ctx location

theorem AllAmong.mono {resolved more : List Resolution}
    {asked : Loader → TypeExpr → Context → Location → Prop} (all : AllAmong u resolved asked)
    (le : u.loader.Le v.loader) (sub : resolved ⊆ more) : AllAmong v more asked :=
  fun l expr ctx location after sound here =>
    (all l expr ctx location (le.trans after) sound here).sub sub

theorem declaration_resolves (ready : Ready u) (known : d.Known u.loader)
    (run : (declaration exclusions d).runOn disk u = (.ok (), v)) :
    ∃ resolved, Resolves disk [] resolved u v ∧
      AllAmong v resolved fun l => ParamOf disk l d := by
  cases declaration_visits ready.sound run with
  | skipped isAlias grows =>
    refine ⟨[], .of_grows grows, ?_⟩
    rintro l _ _ _ _ _ ⟨plain⟩
    rw [plain] at isAlias
    cases isAlias
  | service plain grows behind run =>
    obtain ⟨made, u₁, extracted, run⟩ := Compile.bind_ok.mp run
    have ready' := ready.after_grows grows
    have context := (underlying_known grows.sound (known.mono grows.le) behind).package
    obtain ⟨_, _, _, _, _, _, added, _⟩ := service_ok grows.sound context ready'.registry extracted
    obtain ⟨resolved, collected, resolves, collects, among⟩ :=
      service_resolves ready' context extracted
    obtain ⟨loader, ended⟩ := addService_ok run
    have le : u₁.loader.Le v.loader := by rw [loader]; exact .refl _
    refine ⟨resolved, ((Resolves.of_grows grows).trans resolves added.le).andHolds le
      (fun t => ?_) ?_ (fun id => ?_), ?_⟩
    · simp [ended, mem_types_addService]
    · rw [ended, imports_addService]
    · rw [ended]
      unfold Session.addService
      split <;> exact fun present => present
    · rintro l _ _ _ after sound ⟨_, isInterface, collects', member, listed⟩
      have le' := le.trans after
      cases (behind.mono (added.le.trans le')).unique isInterface
      cases (collects.mono le').unique collects'
      exact among _ member _ listed
  | object plain grows behind run =>
    have ready' := ready.after_grows grows
    obtain ⟨extraction, _⟩ := object_extracts d _ v grows.sound (known.mono grows.le)
      ready'.registry run
    obtain ⟨resolved, resolves⟩ := object_tracks d _ v ready' (known.mono grows.le) run
    refine ⟨resolved, (Resolves.of_grows grows).trans resolves extraction.le, ?_⟩
    rintro l _ _ _ after _ ⟨_, isInterface⟩
    cases (behind.mono (extraction.le.trans after)).unique isInterface
  | other grows behind notInterface _ =>
    refine ⟨[], .of_grows grows, ?_⟩
    rintro l _ _ _ after _ ⟨_, isInterface⟩
    cases (behind.mono after).unique isInterface
    exact absurd rfl (notInterface _ _ _)

/-! ### Packages -/

/-- A parameter or a result of a method that a package declares. -/
def ParamIn (disk : Disk) (p : Package) (l : Loader) (expr : TypeExpr) (ctx : Context)
    (location : Location) : Prop :=
  ∃ name d, p.lookup name = some d ∧ ParamOf disk l d expr ctx location

theorem names_resolve {names : List String} (ready : Ready u) (member : p ∈ u.loader.packages)
    (serviced : Serviced exclusions u.session)
    (run : (names.forM fun name => (p.lookup name).forM (declaration exclusions)).runOn disk u =
      (.ok (), v)) :
    ∃ resolved, Resolves disk [] resolved u v ∧
      AllAmong v resolved fun l expr ctx location =>
        ∃ name ∈ names, ∃ d, p.lookup name = some d ∧ ParamOf disk l d expr ctx location := by
  induction names generalizing u with
  | nil =>
    obtain ⟨_, rfl⟩ := Compile.pure_ok.mp run
    exact ⟨[], .of_grows (.refl ready.sound), by simp [AllAmong]⟩
  | cons name rest ih =>
    rcases names_run_cons run with ⟨absent, later⟩ | ⟨d, u₁, found, first, later⟩
    · obtain ⟨resolved, resolves, all⟩ := ih ready member serviced later
      refine ⟨resolved, resolves, ?_⟩
      rintro l expr ctx location after sound ⟨name', listed, d, found, here⟩
      rcases List.mem_cons.mp listed with rfl | later
      · cases absent.symm.trans found
      · exact all l expr ctx location after sound ⟨name', later, d, found, here⟩
    · have known : d.Known u.loader := .of_lookup ready.sound member found
      have declares := declaration_ok ready.sound known ready.registry serviced first
      have ready₁ := ready.onward declares.added.le declares.added.sound declares.added.registry
        declares.rootPath
      have member₁ := declares.added.le.mem member
      have after := names_ok ready₁.sound member₁ ready₁.registry declares.serviced later
      obtain ⟨one, resolves, all⟩ := declaration_resolves ready known first
      obtain ⟨others, resolves', all'⟩ := ih ready₁ member₁ declares.serviced later
      refine ⟨one ++ others, resolves.trans resolves' after.added.le, ?_⟩
      rintro l expr ctx location more sound ⟨name', listed, d', found', here⟩
      rcases List.mem_cons.mp listed with rfl | later
      · cases found.symm.trans found'
        exact (all.mono after.added.le (List.subset_append_left _ _)) l expr ctx location more sound
          here
      · exact (all' l expr ctx location more sound ⟨name', later, d', found', here⟩).sub
          (List.subset_append_right _ _)

theorem package_resolves (sound : u.loader.Sound) (member : p ∈ u.loader.packages)
    (registry : u.session.Registry) (serviced : Serviced exclusions u.session)
    (run : (package exclusions p).runOn disk u = (.ok (), v)) :
    ∃ resolved, Resolves disk [] resolved u v ∧ AllAmong v resolved (ParamIn disk p) := by
  rw [package, Compile.modifySession_bind] at run
  have ready : Ready { u with
      session := { u.session with rootPath := p.path, packageName := p.name } } :=
    ⟨sound, registry.step (.enter u.session p.path p.name), p, member, rfl⟩
  have serviced' :
      Serviced exclusions { u.session with rootPath := p.path, packageName := p.name } :=
    serviced.mono rfl rfl rfl fun _ => id
  have declares := names_ok ready.sound member ready.registry serviced' run
  obtain ⟨resolved, resolves, all⟩ := names_resolve ready member serviced' run
  have entered : Resolves disk [] [] u { u with
      session := { u.session with rootPath := p.path, packageName := p.name } } :=
    .nothing (types_of_parts rfl rfl rfl) rfl fun _ => id
  refine ⟨resolved, entered.trans resolves declares.added.le, ?_⟩
  rintro l expr ctx location after sound' ⟨name, d, found, here⟩
  exact all l expr ctx location after sound' ⟨name, mem_names found, d, found, here⟩

theorem packages_resolve {f : Package → Compile Unit} (sound : u.loader.Sound)
    (member : ∀ p ∈ roots, p ∈ u.loader.packages) (registry : u.session.Registry)
    (serviced : Serviced exclusions u.session)
    (run : (roots.forM f).runOn disk u = (.ok (), v))
    (each : ∀ p u v, (f p).runOn disk u = (.ok (), v) →
      ∃ log, (package exclusions p).runOn disk { u with log } = (.ok (), v)) :
    ∃ resolved, Resolves disk [] resolved u v ∧
      AllAmong v resolved fun l expr ctx location =>
        ∃ p ∈ roots, ParamIn disk p l expr ctx location := by
  induction roots generalizing u with
  | nil =>
    obtain ⟨_, rfl⟩ := Compile.pure_ok.mp run
    exact ⟨[], .of_grows (.refl sound), by simp [AllAmong]⟩
  | cons p rest ih =>
    obtain ⟨_, u₁, first, later⟩ := Compile.bind_ok.mp run
    obtain ⟨log, first⟩ := each p u u₁ first
    have here := member p List.mem_cons_self
    obtain ⟨added, serviced₁, _⟩ :=
      package_ok (u := { u with log }) sound here registry serviced first
    have listed : ∀ q ∈ rest, q ∈ u₁.loader.packages := fun q listed =>
      added.le.mem (member q (List.mem_cons_of_mem _ listed))
    obtain ⟨added', _, _⟩ := packages_ok added.sound listed added.registry serviced₁ later each
    obtain ⟨one, resolves, all⟩ :=
      package_resolves (u := { u with log }) sound here registry serviced first
    obtain ⟨others, resolves', all'⟩ := ih added.sound listed added.registry serviced₁ later
    refine ⟨one ++ others, ((Resolves.of_log u log).trans resolves added.le).trans resolves'
      added'.le, ?_⟩
    rintro l expr ctx location after sound' ⟨q, among, asked⟩
    rcases List.mem_cons.mp among with rfl | later
    · exact (all.mono added'.le (List.subset_append_left _ _)) l expr ctx location after sound' asked
    · exact (all' l expr ctx location after sound' ⟨q, later, asked⟩).sub
        (List.subset_append_right _ _)

end Extract

/-! ### Whole compilations -/

/-- What has been resolved when a session has been extracted from root packages: what the session
holds. All parameters and results of the methods of the root packages are among it, and all fields of
the structs that objects have been made of. -/
structure ResolvedAll (disk : Disk) (roots : List Package) (resolved : List Resolution) (v : World) :
    Prop where
  stands : ∀ r ∈ resolved, r.Stands disk v.loader
  types : ∀ t, t ∈ v.session.types ↔ ∃ r ∈ resolved, r.type = t
  imports : v.session.imports =
    (resolved.flatMap printed).foldl (fun imports entry => Json.put entry.1 entry.2 imports) []
  params : ∀ p ∈ roots, ∀ expr ctx location, ParamIn disk p v.loader expr ctx location →
    Among resolved expr ctx location
  fields : ∀ id, (v.session.object? id).isSome →
    ∃ d : DeclaredType, d.Known v.loader ∧ typeIdOf d = id ∧ FieldsAmong disk v.loader resolved d

theorem Compile.extract_resolves {input : Compile.Input} {count : Nat}
    (run : (Compile.extract exclusions input).runOn disk {} = (.ok count, v)) :
    ∃ roots w resolved, input.load.runOn disk {} = (.ok roots, w) ∧ v.loader.Sound ∧
      v.session.Registry ∧ ResolvedAll disk roots resolved v := by
  obtain ⟨roots, w, f, loaded, grows, _, known, each, package⟩ := Compile.extract_loads run
  have session : w.session = {} := grows.session
  have registry : w.session.Registry := by rw [session]; exact .empty "" ""
  have serviced : Serviced exclusions w.session := by rw [session]; exact .empty "" ""
  obtain ⟨added, _, _⟩ := packages_ok grows.sound known registry serviced each package
  obtain ⟨resolved, resolves, all⟩ :=
    packages_resolve grows.sound known registry serviced each package
  refine ⟨roots, w, resolved, loaded, added.sound, added.registry, resolves.stands, fun t => ?_, ?_,
    fun p listed expr ctx location here => ?_, fun id present => ?_⟩
  · have types := resolves.types t
    rw [session] at types
    simpa [Session.types] using types
  · rw [resolves.imports, imports_registerImports, session]
  · exact all v.loader expr ctx location (.refl _) added.sound ⟨p, listed, here⟩
  · exact resolves.objects id (by rw [session]; rfl) present

end GoIdl
