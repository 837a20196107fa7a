import GoIdl.Proofs.Compile.Extraction
import GoIdl.Proofs.Compile.Packages
import GoIdl.Proofs.Package.Enlarging

/-!
# Worlds that compilations reach

A compilation goes from world to world in small steps: it loads packages, it registers an object for
a declaration it knows, or it calls the session in a way that registers nothing. Whatever the outcome
of a computation is, steps lead to the world it leaves. In all worlds that steps lead to, packages are
sound and registered objects carry the identifiers and the names of known declarations.
-/

namespace GoIdl

open Syntax (TypeExpr TypeName Param FieldDecl MethodDecl Location)
open Extract (typeIdOf)

variable {α β : Type} {disk : Disk} {u v w : World} {d : DeclaredType} {ctx : Context}
  {expr : TypeExpr} {location : Location} {p : Package} {exclusions : List String}

theorem Session.named_of_objects {s t : Session} (change : String → Object → Object)
    (objects : t.objects = s.objects.map fun (id, o) => (id, change id o))
    (keeps : ∀ id o, (change id o).name = o.name) (id : String) (o : Object)
    (found : t.object? id = some o) : ∃ p, s.object? id = some p ∧ o.name = p.name := by
  rw [Session.object?, objects, Json.find?_map] at found
  obtain ⟨p, before, rfl⟩ := Option.map_eq_some_iff.mp found
  exact ⟨p, before, keeps id p⟩

namespace World

/-- What changes a world at once. -/
inductive Step (disk : Disk) (u : World) : World → Prop where
  | load (patterns : List String) : Step disk u ((Loading.load patterns).runOn disk u).2
  | sources (sources : List (String × String)) :
      Step disk u ((Loading.loadSources sources).runOn disk u).2
  | import (importer : Package) (path : String) (location : Location) :
      Step disk u ((Loading.loadImport importer path location).runOn disk u).2
  | log (log : List LogEntry) : Step disk u { u with log }
  | register {d : DeclaredType} {t : Session} (known : d.Known u.loader)
      (reserved : u.session.reserve (typeIdOf d) d.name (some d.location) = .ok (some t)) :
      Step disk u { u with session := t }
  | change (typeId : String) (change : Object → Object)
      (keeps : ∀ o, (change o).typeId = o.typeId ∧ (change o).name = o.name) :
      Step disk u { u with session := u.session.updateObject typeId change }
  | call {t : Session} (call : Session.Step u.session t)
      (nothing : Json.keys t.objects = Json.keys u.session.objects) :
      Step disk u { u with session := t }

/-- The worlds that steps lead to from the empty one. -/
def Reachable (disk : Disk) (w : World) : Prop := Relation.ReflTransGen (Step disk) {} w

/-! ### What steps keep -/

/-- Objects are registered for known declarations, under their identifiers and names. -/
structure Consistent (w : World) : Prop where
  sound : w.loader.Sound
  placed : ∀ p ∈ w.loader.packages, p.Placed
  registry : w.session.Registry
  declared : ∀ id o, w.session.object? id = some o →
    ∃ d : DeclaredType, d.Known w.loader ∧ id = typeIdOf d ∧ o.name = d.name

namespace Consistent

theorem empty : Consistent {} where
  sound := .empty
  placed := by simp
  registry := .empty "" ""
  declared := by simp [Session.object?]

theorem of_enlarges (consistent : u.Consistent) (enlarges : Enlarges u v) : v.Consistent where
  sound := enlarges.sound
  placed := fun p member => (enlarges.placed p member).elim (consistent.placed p) id
  registry := by rw [enlarges.session]; exact consistent.registry
  declared := fun id o found => by
    rw [enlarges.session] at found
    obtain ⟨d, known, same, named⟩ := consistent.declared id o found
    exact ⟨d, known.mono enlarges.le, same, named⟩

/-- A session whose objects have the identifiers and names of those before. -/
theorem of_session {t : Session} (consistent : u.Consistent) (registry : t.Registry)
    (named : ∀ id o, t.object? id = some o → ∃ p, u.session.object? id = some p ∧ o.name = p.name) :
    Consistent { u with session := t } where
  sound := consistent.sound
  placed := consistent.placed
  registry := registry
  declared := fun id o found => by
    obtain ⟨p, before, same⟩ := named id o found
    obtain ⟨d, known, identity, name⟩ := consistent.declared id p before
    exact ⟨d, known, identity, same.trans name⟩

theorem register {t : Session} (consistent : u.Consistent) (known : d.Known u.loader)
    (reserved : u.session.reserve (typeIdOf d) d.name (some d.location) = .ok (some t)) :
    Consistent { u with session := t } where
  sound := consistent.sound
  placed := consistent.placed
  registry := consistent.registry.reserve reserved
  declared := fun id o found => by
    obtain ⟨_, entered, others, _⟩ := Extract.reserved_object? reserved
    by_cases new : id = typeIdOf d
    · subst new
      cases entered.symm.trans found
      exact ⟨d, known, rfl, rfl⟩
    · exact consistent.declared id o ((others id new).symm.trans found)

theorem change (consistent : u.Consistent) {change : Object → Object} (typeId : String)
    (keeps : ∀ o, (change o).typeId = o.typeId ∧ (change o).name = o.name) :
    Consistent { u with session := u.session.updateObject typeId change } := by
  refine consistent.of_session (consistent.registry.updateObject change keeps typeId) ?_
  refine Session.named_of_objects (fun id o => if id = typeId then change o else o) rfl ?_
  intro id o
  split
  · exact (keeps o).2
  · rfl

theorem call {t : Session} (consistent : u.Consistent) (call : Session.Step u.session t)
    (nothing : Json.keys t.objects = Json.keys u.session.objects) :
    Consistent { u with session := t } := by
  refine consistent.of_session (consistent.registry.step call) ?_
  cases call with
  | reserve typeId name location reserved =>
    obtain ⟨_, _, rfl⟩ := Session.reserve_eq_some reserved
    simp [Json.keys] at nothing
  | addField typeId field =>
    refine Session.named_of_objects
      (fun id o => if id = typeId then { o with fields := o.fields ++ [field] } else o) rfl ?_
    intro id o
    split <;> rfl
  | addService service excluded =>
    intro id o found
    unfold Session.addService at found
    split at found <;> exact ⟨o, found, rfl⟩
  | finalize packageName params =>
    refine Session.named_of_objects (fun id o => if (u.session.answered u.session.excludedIds).contains id
      then Session.withErrorField u.session.rootPath o else o) rfl ?_
    intro id o
    split <;> rfl
  | enter | recordOutput | registerImport => exact fun id o found => ⟨o, found, rfl⟩

end Consistent

/-- A step keeps a world consistent, and what has been loaded. -/
theorem Step.keeps (step : Step disk u v) (consistent : u.Consistent) :
    v.Consistent ∧ u.loader.Le v.loader := by
  have loads : ∀ {v}, Enlarges u v → v.Consistent ∧ u.loader.Le v.loader :=
    fun enlarges => ⟨consistent.of_enlarges enlarges, enlarges.le⟩
  cases step with
  | load patterns => exact loads (Loading.load_leaves patterns consistent.sound)
  | sources sources => exact loads (Loading.loadSources_leaves sources consistent.sound)
  | «import» importer path location =>
    exact loads (Loading.loadImport_leaves importer path location consistent.sound)
  | log log => exact ⟨{ consistent with }, .refl _⟩
  | register known reserved => exact ⟨consistent.register known reserved, .refl _⟩
  | change typeId change keeps => exact ⟨consistent.change typeId keeps, .refl _⟩
  | call call nothing => exact ⟨consistent.call call nothing, .refl _⟩

theorem steps_keep (steps : Relation.ReflTransGen (Step disk) u v) (consistent : u.Consistent) :
    v.Consistent ∧ u.loader.Le v.loader := by
  induction steps with
  | refl => exact ⟨consistent, .refl _⟩
  | tail _ step ih =>
    obtain ⟨kept, le⟩ := step.keeps ih.1
    exact ⟨kept, ih.2.trans le⟩

theorem Reachable.consistent (reachable : w.Reachable disk) : w.Consistent :=
  (steps_keep reachable .empty).1

end World

/-! ### Whatever the outcome -/

/-- Steps lead to the world that `c` leaves, whatever its outcome. -/
def Walks (disk : Disk) (u : World) (c : Compile α) : Prop :=
  Relation.ReflTransGen (World.Step disk) u (c.runOn disk u).2

namespace Walks

variable {c : Compile α} {f : α → Compile β}

theorem pure (a : α) : Walks disk u (pure a : Compile α) := .refl

theorem fail (error : DefinitionError) : Walks disk u (Compile.fail error : Compile α) := .refl

theorem ensure (condition : Bool) (error : DefinitionError) :
    Walks disk u (Compile.ensure condition error) := by
  cases condition <;> exact .refl

theorem note (level : LogLevel) (source : LogSource) (message : String) :
    Walks disk u (Compile.note level source message) := .single (.log _)

/-- What follows starts from a consistent world that knows what was known. -/
theorem bind (consistent : u.Consistent) (first : Walks disk u c)
    (later : ∀ a v, c.runOn disk u = (.ok a, v) → v.Consistent → u.loader.Le v.loader →
      Walks disk v (f a)) : Walks disk u (c >>= f) := by
  rw [Walks, Compile.runOn_bind]
  rw [Walks] at first
  generalize run : c.runOn disk u = outcome at first
  obtain ⟨_ | a, v⟩ := outcome
  · exact first
  · obtain ⟨kept, le⟩ := World.steps_keep first consistent
    exact first.trans (later a v run kept le)

theorem forM {f : α → Compile Unit} {xs : List α} (consistent : u.Consistent)
    (each : ∀ x ∈ xs, ∀ v, v.Consistent → u.loader.Le v.loader → Walks disk v (f x)) :
    Walks disk u (xs.forM f) := by
  induction xs generalizing u with
  | nil => exact .refl
  | cons x rest ih =>
    refine (each x List.mem_cons_self u consistent (.refl _)).bind consistent fun _ v _ kept le => ?_
    exact ih kept fun y member v' kept' le' =>
      each y (List.mem_cons_of_mem _ member) v' kept' (le.trans le')

theorem mapM {f : α → Compile β} {xs : List α} (consistent : u.Consistent)
    (each : ∀ x ∈ xs, ∀ v, v.Consistent → u.loader.Le v.loader → Walks disk v (f x)) :
    Walks disk u (xs.mapM f) := by
  induction xs generalizing u with
  | nil => exact .refl
  | cons x rest ih =>
    rw [List.mapM_cons]
    refine (each x List.mem_cons_self u consistent (.refl _)).bind consistent fun _ v _ kept le => ?_
    refine (ih kept fun y member v' kept' le' =>
      each y (List.mem_cons_of_mem _ member) v' kept' (le.trans le')).bind kept fun _ _ _ _ _ => .refl

end Walks

/-- What resolves imports one package after another. -/
theorem Resolving.walks {c : Compile α} (resolving : Resolving c) (u : World) : Walks disk u c := by
  induction resolving generalizing u with
  | pure | throw => exact .refl
  | «import» importer path location => exact .single (.import importer path location)
  | @bind _ _ c f _ _ first later =>
    have here := first u
    rw [Walks] at here
    rw [Walks, Compile.runOn_bind]
    generalize c.runOn disk u = outcome at here
    obtain ⟨_ | a, v⟩ := outcome
    · exact here
    · exact here.trans (later a v)
  | deep _ _ each =>
    rw [Walks, Compile.depth_bind]
    exact each _ u

/-! ### Types and fields -/

namespace Extract

open Resolve

theorem readDoc_walks (doc : String) (location : Location) (u : World) :
    Walks disk u (readDoc doc location) := by
  rw [Walks, readDoc_run rfl]
  exact .single (.log _)

theorem parseTag_walks (tag : String) (location : Location) (ctx : Context) (u : World) :
    Walks disk u (parseTag tag location ctx) := by
  unfold parseTag
  split <;> exact .refl

theorem registerImports_walks (disk : Disk) (packages : List (String × String)) (u : World) :
    Relation.ReflTransGen (World.Step disk) u
      { u with session := u.session.registerImports packages } := by
  induction packages generalizing u with
  | nil => exact .refl
  | cons entry rest ih =>
    exact (Relation.ReflTransGen.single (.call (.registerImport u.session entry.1 entry.2) rfl)).trans
      (ih _)

/-- A way to extract known declarations that goes by steps. -/
def ExtractsStepwise (disk : Disk) (extract : DeclaredType → Compile Unit) : Prop :=
  ∀ d u, u.Consistent → d.Known u.loader → Walks disk u (extract d)

section

variable {extract : DeclaredType → Compile Unit} (extracts : ExtractsStepwise disk extract)
  (consistent : u.Consistent) (context : ctx.package ∈ u.loader.packages)

include extracts consistent context

theorem fieldType_walks : Walks disk u (fieldType extract expr ctx location) := by
  refine ((peel_resolving expr ctx).walks u).bind consistent fun p u₁ peeled kept₁ le₁ => ?_
  obtain ⟨grows₁, peeled⟩ := (peel_resolving expr ctx).ok consistent.sound peeled
  refine ((refuseStruct_resolving p location).walks u₁).bind kept₁ fun _ u₂ _ kept₂ le₂ => ?_
  refine ((structNamed_resolving p.core p.coreIn).walks u₂).bind kept₂ fun target u₃ named kept₃ le₃ => ?_
  obtain ⟨_, named⟩ := (structNamed_resolving p.core p.coreIn).ok kept₂.sound named
  have coreIn := (peel_known grows₁.sound (le₁.mem context) peeled).2
  have extracted : Walks disk u₃ (target.forM extract) := by
    cases target with
    | none => exact .refl
    | some d =>
      exact extracts d u₃ kept₃ (structNamed_known kept₃.sound ((le₂.trans le₃).mem coreIn) named)
  refine extracted.bind kept₃ fun _ u₄ _ kept₄ _ => ?_
  refine ((render_resolving p.shown p.shownIn).walks u₄).bind kept₄ fun rendered u₅ _ _ _ => ?_
  exact registerImports_walks disk (rendered.packages u₅.session.rootPath) u₅

theorem field_walks (f : FieldDecl TypeExpr) : Walks disk u (field extract ctx f) := by
  refine (Walks.ensure ..).bind consistent fun _ u₁ _ kept₁ le₁ => ?_
  refine (parseTag_walks (f.tag.getD "") _ ctx u₁).bind kept₁ fun tags u₂ _ kept₂ le₂ => ?_
  refine (readDoc_walks f.doc _ u₂).bind kept₂ fun doc u₃ _ kept₃ le₃ => ?_
  exact (fieldType_walks extracts kept₃ ((le₁.trans (le₂.trans le₃)).mem context)).bind kept₃
    fun _ _ _ _ _ => .refl

end

/-! ### Objects -/

theorem fillObject_walks {extract : DeclaredType → Compile Unit}
    (extracts : ExtractsStepwise disk extract) (consistent : u.Consistent)
    (known : d.Known u.loader) : Walks disk u (fillObject extract d) := by
  refine (readDoc_walks d.spec.doc _ u).bind consistent fun doc u₁ _ kept₁ le₁ => ?_
  rw [Walks, Compile.rootPath_bind]
  have described : Walks disk u₁ (Compile.modifySession (·.updateObject (typeIdOf d) fun o =>
      { o with
        comment := doc.description, metadata := doc.values
        imported := d.package.path != u₁.session.rootPath })) :=
    .single (.change (typeIdOf d) _ fun _ => ⟨rfl, rfl⟩)
  refine described.bind kept₁ fun _ u₂ _ kept₂ le₂ => ?_
  refine (Walks.note ..).bind kept₂ fun _ u₃ _ kept₃ le₃ => ?_
  refine ((structOf_resolving d).walks u₃).bind kept₃ fun shape u₄ behind kept₄ le₄ => ?_
  obtain ⟨_, behind⟩ := (structOf_resolving d).ok kept₃.sound behind
  cases shape with
  | none => exact .fail _
  | some shape =>
    have le := le₁.trans (le₂.trans (le₃.trans le₄))
    have origin := structOf_known kept₄.sound (known.mono le) behind
    refine .forM kept₄ fun f _ v kept after => ?_
    refine (field_walks extracts kept (after.mem origin.package) f).bind kept fun field v' _ _ _ => ?_
    exact .single (.call (.addField v'.session (typeIdOf d) field) (v'.session.keys_updateObject ..))

theorem reserve_walks (known : d.Known u.loader) : Walks disk u (reserve d) := by
  rw [Walks, reserve_run]
  split
  · exact .refl
  · exact .refl
  · rename_i reserved
    exact .single (.register known reserved)

theorem objectWithin_walks (fuel : Nat) : ExtractsStepwise disk (objectWithin fuel) := by
  induction fuel with
  | zero => exact fun _ _ _ _ => .refl
  | succ fuel ih =>
    intro d u consistent known
    refine (reserve_walks known).bind consistent fun fresh u₁ _ kept le => ?_
    split
    · exact fillObject_walks ih kept (known.mono le)
    · exact .pure ()

theorem object_walks : ExtractsStepwise disk object := by
  intro d u consistent known
  rw [Walks, object, Compile.depth_bind]
  exact objectWithin_walks _ d u consistent known

/-! ### Services -/

theorem paramType_walks (consistent : u.Consistent) (context : ctx.package ∈ u.loader.packages)
    (param : Param TypeExpr) : Walks disk u (paramType object param ctx) :=
  fieldType_walks object_walks consistent context

theorem method_walks {service : String} {c : Collected} (consistent : u.Consistent)
    (context : c.context.package ∈ u.loader.packages) : Walks disk u (method service c) := by
  unfold method
  dsimp only
  split
  · refine (readDoc_walks _ _ u).bind consistent fun doc u₁ _ kept₁ le₁ => ?_
    refine (paramType_walks kept₁ (le₁.mem context) _).bind kept₁ fun input u₂ _ kept₂ le₂ => ?_
    have later := (le₁.trans le₂).mem context
    refine (paramType_walks kept₂ later _).bind kept₂ fun output u₃ _ kept₃ _ => ?_
    have recorded : Walks disk u₃ (recordOutput service output) := by
      unfold recordOutput
      split
      · exact .single (.call (.recordOutput u₃.session output.typeId service) rfl)
      · exact .pure ()
    refine recorded.bind kept₃ fun _ u₄ _ kept₄ _ => ?_
    exact (Walks.note ..).bind kept₄ fun _ _ _ _ _ => .pure _
  · exact .fail _

theorem service_walks {methods : List (MethodDecl TypeExpr)} {embeds : List TypeName}
    (consistent : u.Consistent) (context : ctx.package ∈ u.loader.packages) :
    Walks disk u (service d methods embeds ctx) := by
  refine (readDoc_walks _ _ u).bind consistent fun doc u₁ _ kept₁ le₁ => ?_
  refine (Walks.note ..).bind kept₁ fun _ u₂ _ kept₂ le₂ => ?_
  have context₂ := (le₁.trans le₂).mem context
  refine ((collectMethods_resolving methods embeds ctx).walks u₂).bind kept₂
    fun collected u₃ gathered kept₃ le₃ => ?_
  obtain ⟨_, gathered⟩ := (collectMethods_resolving methods embeds ctx).ok kept₂.sound gathered
  have places := collectMethods_known kept₃.sound (le₃.mem context₂) gathered
  refine (Walks.mapM kept₃ fun c member v kept le => ?_).bind kept₃ fun _ _ _ _ _ => .pure _
  exact method_walks kept (le.mem (places c member))

theorem addService_walks (consistent : u.Consistent) (made : Service) (excluded : Bool) :
    Walks disk u (addService made excluded) := by
  have added : ∀ v : World, Walks disk v (Compile.modifySession (·.addService made excluded)) :=
    fun v => .single (.call (.addService v.session made excluded)
      (by unfold Session.addService; split <;> rfl))
  cases excluded with
  | false => exact added u
  | true => exact (Walks.note ..).bind consistent fun _ v _ _ _ => added v

/-! ### Packages -/

theorem declaration_walks (consistent : u.Consistent) (known : d.Known u.loader) :
    Walks disk u (declaration exclusions d) := by
  unfold declaration
  split
  · exact .note ..
  · refine ((underlying_resolving d).walks u).bind consistent fun found u₁ behind kept₁ le₁ => ?_
    obtain ⟨_, behind⟩ := (underlying_resolving d).ok consistent.sound behind
    have known₁ := known.mono le₁
    split
    · have origin := underlying_known kept₁.sound known₁ behind
      exact (service_walks kept₁ origin.package).bind kept₁ fun made _ _ kept _ =>
        addService_walks kept made _
    · exact object_walks d u₁ kept₁ known₁
    · exact .note ..

theorem package_walks (consistent : u.Consistent) (member : p ∈ u.loader.packages) :
    Walks disk u (package exclusions p) := by
  have entered : Walks disk u (Compile.modifySession fun s =>
      { s with rootPath := p.path, packageName := p.name }) :=
    .single (.call (.enter u.session p.path p.name) rfl)
  refine entered.bind consistent fun _ u₁ _ kept₁ le₁ => ?_
  refine .forM kept₁ fun name _ v kept le => ?_
  cases found : p.lookup name with
  | none => exact .pure ()
  | some d =>
    exact declaration_walks kept (.of_lookup kept.sound ((le₁.trans le).mem member) found)

end Extract

namespace Compile

variable {input : Input}

theorem extract_walks (consistent : u.Consistent) : Walks disk u (extract exclusions input) := by
  cases input with
  | patterns given =>
    have loads : Walks disk u (Loading.load given) := .single (.load given)
    refine loads.bind consistent fun packages v loaded kept _ => ?_
    obtain ⟨_, known⟩ := Loading.load_ok consistent.sound loaded
    refine (Walks.forM kept fun p listed v' kept' le => ?_).bind kept fun _ _ _ _ _ => .pure _
    exact (Walks.note ..).bind kept' fun _ _ _ noted le' =>
      Extract.package_walks noted ((le.trans le').mem (known p listed))
  | sources texts =>
    have loads : Walks disk u (Loading.loadSources texts) := .single (.sources texts)
    refine loads.bind consistent fun p v loaded kept _ => ?_
    obtain ⟨_, known⟩ := Loading.loadSources_ok consistent.sound loaded
    exact (Extract.package_walks kept known).bind kept fun _ _ _ _ _ => .pure _

theorem extract_reachable {count : Nat}
    (run : (extract exclusions input).runOn disk {} = (.ok count, w)) : w.Reachable disk := by
  have walks : Walks disk {} (extract exclusions input) := extract_walks .empty
  rwa [Walks, run] at walks

end Compile

/-! ### Types of objects -/

namespace Resolve

open Extract

variable {extract : DeclaredType → Compile Unit} {type : FieldType}

/-- The description of a struct shows the path of its package unless that is the root package. -/
theorem describe_package {r : Rendered} {l : Loader} (sound : l.Sound) (known : d.Known l)
    (rendered : r = .ofDeclared d ∨ r = .plain "*" ++ .ofDeclared d) (root : String)
    (multiple optional isObject : Bool) :
    (describe root multiple optional isObject r).package = "" ↔ d.package.path = root := by
  have path := (sound.wellFormed _ known.package).path
  have packages := Rendered.packages_struct rendered root
  simp only [describe, packages]
  by_cases here : d.package.path = root
  · simp [here]
  · simp [here, path]

/-- In every world that a compilation reaches, a type that turns out to be an object carries the
identifier and the name of the struct that the expression leads to, whatever the root package is. Its
package is shown unless it is the root package. The object is registered under both. -/
theorem fieldType_registers (extracts : extract = object ∨ ∃ fuel, extract = objectWithin fuel)
    (reachable : w.Reachable disk) (context : ctx.package ∈ w.loader.packages)
    (run : (fieldType extract expr ctx location).runOn disk w = (.ok type, v))
    (isObject : type.isObject = true) :
    v.Reachable disk ∧ ∃ d o, LeadsTo disk v.loader expr ctx d ∧
      type.typeId = d.package.path ++ "." ++ d.name ∧
      type.bareObjectName = d.name ∧
      (type.package = "" ↔ d.package.path = w.session.rootPath) ∧
      v.session.object? type.typeId = some o ∧ o.typeId = type.typeId ∧ o.name = d.name := by
  have consistent := reachable.consistent
  have within : Extracts disk extract ∧ ExtractsStepwise disk extract := by
    rcases extracts with rfl | ⟨fuel, rfl⟩
    · exact ⟨object_extracts, object_walks⟩
    · exact ⟨objectWithin_extracts fuel, objectWithin_walks fuel⟩
  have steps : Walks disk w (fieldType extract expr ctx location) :=
    fieldType_walks within.2 consistent context
  rw [Walks, run] at steps
  have reached : v.Reachable disk := Relation.ReflTransGen.trans reachable steps
  obtain ⟨shape, shaped, rfl, registered, extraction⟩ :=
    fieldType_ok within.1 consistent.sound context consistent.registry run
  have sound := extraction.sound
  have context' := extraction.le.mem context
  obtain ⟨d, target⟩ := Option.isSome_iff_exists.mp isObject
  have known := shaped.known sound context' target
  have identity := shaped.typeId sound context' target w.session.rootPath
  obtain ⟨o, found⟩ := Option.isSome_iff_exists.mp (registered isObject)
  obtain ⟨e, known', identity', named⟩ := reached.consistent.declared _ o found
  refine ⟨reached, d, o, (shaped.leadsTo_iff sound).mpr target, identity,
    shaped.bareObjectName sound context' target _, ?_, found,
    extraction.registry.typeId_of_object? found, ?_⟩
  · exact describe_package sound known (shaped.rendered_struct sound context' target) ..
  · rw [named]
    exact (typeIdOf_inj sound known' known (identity'.symm.trans identity)).2

/-- An alias for lists of a struct that refers to itself. -/
def listed : List (String × String) :=
  [("a.go", "package a; type L = []*N; type N struct\x7b Next *N \x7d")]

theorem fieldType_registers_listed :
    ∃ p w w' v type, (Loading.loadSources listed).runOn ⟨[], []⟩ {} = (.ok p, w) ∧
      w' = { w with session := { w.session with rootPath := "b", packageName := "b" } } ∧
      (fieldType object (.named ⟨⟨1, 1⟩, none, "L"⟩) ⟨p, ⟨"a.go", ⟨1, 1⟩, "a", [], []⟩⟩
        ⟨"a.go", 1, 1⟩).runOn ⟨[], []⟩ w' = (.ok type, v) ∧ type.isObject = true ∧
      type.typeId = "a.N" ∧ type.package ≠ "" ∧
      ∃ (d : DeclaredType) (o : Object), type.typeId = d.package.path ++ "." ++ d.name ∧
        v.session.object? type.typeId = some o ∧ o.name = d.name := by
  have shape : ((Loading.loadSources listed).runOn ⟨[], []⟩ {}).1.toOption.any (fun p =>
      let w := ((Loading.loadSources listed).runOn ⟨[], []⟩ {}).2
      let w' := { w with session := { w.session with rootPath := "b", packageName := "b" } }
      ((fieldType object (.named ⟨⟨1, 1⟩, none, "L"⟩) ⟨p, ⟨"a.go", ⟨1, 1⟩, "a", [], []⟩⟩
        ⟨"a.go", 1, 1⟩).runOn ⟨[], []⟩ w').1.toOption.any fun type =>
          type.isObject && type.typeId == "a.N" && type.package != "") = true := by
    decide +kernel
  rcases loading : (Loading.loadSources listed).runOn ⟨[], []⟩ {} with ⟨_ | p, w⟩
  · rw [loading] at shape
    cases shape
  · simp only [loading, Except.toOption, Option.any_some] at shape
    generalize entered : ({ w with session :=
      { w.session with rootPath := "b", packageName := "b" } } : World) = w' at shape
    rcases run : (fieldType object (.named ⟨⟨1, 1⟩, none, "L"⟩)
      ⟨p, ⟨"a.go", ⟨1, 1⟩, "a", [], []⟩⟩ ⟨"a.go", 1, 1⟩).runOn ⟨[], []⟩ w' with ⟨_ | type, v⟩
    · rw [run] at shape
      cases shape
    · simp only [run, Option.any_some, Bool.and_eq_true, beq_iff_eq, bne_iff_ne, ne_eq] at shape
      obtain ⟨⟨isObject, typeId⟩, shown⟩ := shape
      have loads : World.Step ⟨[], []⟩ {} w := by
        have step : World.Step ⟨[], []⟩ {} ((Loading.loadSources listed).runOn ⟨[], []⟩ {}).2 :=
          .sources listed
        rwa [loading] at step
      have reachable : World.Reachable ⟨[], []⟩ w' := by
        subst entered
        exact .tail (.single loads) (.call (.enter w.session "b" "b") rfl)
      have context : p ∈ w'.loader.packages := by
        subst entered
        exact (Loading.loadSources_ok .empty loading).2
      obtain ⟨_, d, o, _, identity, _, _, found, _, named⟩ :=
        fieldType_registers (.inl rfl) reachable context run isObject
      exact ⟨p, w, w', v, type, rfl, entered.symm, run, isObject, typeId, shown, d, o, identity,
        found, named⟩

end Resolve

end GoIdl
