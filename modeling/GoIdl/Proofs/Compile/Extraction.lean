import GoIdl.Proofs.Compile.Fields
import GoIdl.Proofs.Session.Registry
import Mathlib.Logic.Relation

/-!
# Extracting objects

An object is registered before its fields are read, so objects may be half filled while others are
extracted. What extracting a declaration adds is complete all the same when it ends: each new object
has all its fields, what these mention is registered, and it is mentioned from the declaration on.
Objects that were registered before stay as they are.
-/

namespace GoIdl

open Syntax (TypeExpr TypeName FieldDecl Location)

variable {disk : Disk} {u v w : World} {l l' : Loader} {ctx : Context} {expr : TypeExpr}
  {d e : DeclaredType} {own : Option String} {seeds : DeclaredType → Prop} {s t : Session}

/-! ### Sessions -/

/-- The parts of a session that only packages and services change. -/
structure Session.Frame (s t : Session) : Prop where
  rootPath : t.rootPath = s.rootPath
  packageName : t.packageName = s.packageName
  services : t.services = s.services
  excludedServices : t.excludedServices = s.excludedServices

namespace Session

theorem Frame.refl (s : Session) : Frame s s := ⟨rfl, rfl, rfl, rfl⟩

theorem Frame.trans {s t r : Session} (first : Frame s t) (second : Frame t r) : Frame s r where
  rootPath := second.rootPath.trans first.rootPath
  packageName := second.packageName.trans first.packageName
  services := second.services.trans first.services
  excludedServices := second.excludedServices.trans first.excludedServices

theorem registerImports_eq (s : Session) (packages : List (String × String)) :
    ∃ imports, s.registerImports packages = { s with imports } := by
  induction packages generalizing s with
  | nil => exact ⟨s.imports, rfl⟩
  | cons entry rest ih =>
    obtain ⟨path, name⟩ := entry
    obtain ⟨imports, same⟩ := ih (s.registerImport path name)
    exact ⟨imports, same⟩

theorem keys_updateObject (s : Session) (typeId : String) (change : Object → Object) :
    Json.keys (s.updateObject typeId change).objects = Json.keys s.objects :=
  Json.keys_map fun id o => if id = typeId then change o else o

theorem updateObject_object? (s : Session) (typeId id : String) (change : Object → Object) :
    (s.updateObject typeId change).object? id =
      (s.object? id).map fun o => if id = typeId then change o else o :=
  Json.find?_map s.objects fun id o => if id = typeId then change o else o

end Session

namespace Extract

open Resolve

/-! ### What is extracted -/

/-- A field of one struct leads to another. -/
def Uses (disk : Disk) (l : Loader) (d e : DeclaredType) : Prop :=
  ∃ fields origin f, Yields disk l (structOf d) (some (fields, origin)) ∧ f ∈ fields ∧
    LeadsTo disk l f.type origin.context e

theorem Uses.mono (uses : Uses disk l d e) (le : l.Le l') : Uses disk l' d e := by
  obtain ⟨fields, origin, f, shape, member, leads⟩ := uses
  exact ⟨fields, origin, f, shape.mono le, member, leads.mono le⟩

/-- The object that describes a declaration for a root package, whatever its fields are. -/
def IsObjectOf (root : String) (d : DeclaredType) (o : Object) : Prop :=
  ∃ doc, Metadata.upToFailure d.spec.doc (some d.location) = (doc, none) ∧
    o = {
      typeId := typeIdOf d
      name := d.name
      imported := d.package.path != root
      fields := o.fields
      comment := doc.description
      metadata := doc.values }

theorem IsObjectOf.name {root : String} {o : Object} (described : IsObjectOf root d o) :
    o.name = d.name := by
  obtain ⟨_, _, same⟩ := described
  rw [same]

/-- An object with all its fields, whose targets are registered. -/
structure Complete (disk : Disk) (l : Loader) (root : String) (s : Session) (d : DeclaredType)
    (o : Object) : Prop where
  known : d.Known l
  described : IsObjectOf root d o
  fields : ∃ fields origin, Yields disk l (structOf d) (some (fields, origin)) ∧
    List.Forall₂ (IsFieldOf disk l root origin.context) fields o.fields
  targets : ∀ f ∈ o.fields, f.type.isObject = true → (s.object? f.type.typeId).isSome

def AllComplete (disk : Disk) (l : Loader) (s : Session) : Prop :=
  ∀ id o, s.object? id = some o → ∃ d root, id = typeIdOf d ∧ Complete disk l root s d o

/-- From `u` on objects have been added that `seeds` lead to, each described for one of `roots`. The
object `own` may have changed as well. -/
structure Additions (disk : Disk) (roots : String → Prop) (own : Option String)
    (seeds : DeclaredType → Prop) (u v : World) : Prop where
  le : u.loader.Le v.loader
  sound : v.loader.Sound
  registry : v.session.Registry
  kept : ∀ id o, own ≠ some id → u.session.object? id = some o → v.session.object? id = some o
  registered : ∀ id, (u.session.object? id).isSome → (v.session.object? id).isSome
  made : ∀ id o, u.session.object? id = none → v.session.object? id = some o →
    ∃ s d root, seeds s ∧ Relation.ReflTransGen (Uses disk v.loader) s d ∧ id = typeIdOf d ∧
      roots root ∧ Complete disk v.loader root v.session d o

/-- From `u` on nothing but objects has been extracted. -/
structure Extraction (disk : Disk) (own : Option String) (seeds : DeclaredType → Prop)
    (u v : World) : Prop extends Additions disk (· = u.session.rootPath) own seeds u v where
  frame : u.session.Frame v.session
  responses : v.session.responses = u.session.responses

theorem Complete.mono {root : String} {o : Object} (complete : Complete disk l root s d o)
    (le : l.Le l') (registered : ∀ id, (s.object? id).isSome → (t.object? id).isSome) :
    Complete disk l' root t d o where
  known := complete.known.mono le
  described := complete.described
  fields := by
    obtain ⟨fields, origin, shape, described⟩ := complete.fields
    exact ⟨fields, origin, shape.mono le, described.imp fun _ _ field => field.mono le⟩
  targets := fun f member isObject => registered _ (complete.targets f member isObject)

theorem AllComplete.mono (complete : AllComplete disk l s) (le : l.Le l') : AllComplete disk l' s := by
  intro id o found
  obtain ⟨d, root, same, whole⟩ := complete id o found
  exact ⟨d, root, same, whole.mono le fun _ known => known⟩

/-- A declaration is described in one way for a root package. -/
theorem Complete.unique {root : String} {o p : Object} (first : Complete disk l root s d o)
    (second : Complete disk l root t d p) : o = p := by
  obtain ⟨doc, read, same⟩ := first.described
  obtain ⟨doc', read', same'⟩ := second.described
  obtain ⟨fields, origin, shape, described⟩ := first.fields
  obtain ⟨fields', origin', shape', described'⟩ := second.fields
  obtain ⟨rfl, _⟩ := Prod.mk.inj (read.symm.trans read')
  cases shape.unique shape'
  have equal : o.fields = p.fields :=
    List.right_unique_forall₂' (fun _ _ _ first second => first.unique second) described described'
  rw [same, same', equal]

namespace Additions

variable {roots : String → Prop}

theorem of_objects (le : u.loader.Le v.loader) (sound : v.loader.Sound)
    (registry : v.session.Registry)
    (objects : ∀ id, v.session.object? id = u.session.object? id) :
    Additions disk roots own seeds u v where
  le := le
  sound := sound
  registry := registry
  kept := fun id o _ found => (objects id).trans found
  registered := fun id known => by rw [objects id]; exact known
  made := fun id o absent found => by
    rw [objects id, absent] at found
    cases found

/-- The log does not count. -/
theorem logs (additions : Additions disk roots own seeds u v) (before after : List LogEntry) :
    Additions disk roots own seeds { u with log := before } { v with log := after } :=
  { additions with }

theorem imp {roots' : String → Prop} {seeds' : DeclaredType → Prop}
    (additions : Additions disk roots own seeds u v) (wider : ∀ d, seeds d → seeds' d)
    (wider' : ∀ r, roots r → roots' r) : Additions disk roots' own seeds' u v :=
  { additions with
    made := fun id o absent found => by
      obtain ⟨s, d, root, seed, path, same, from', complete⟩ := additions.made id o absent found
      exact ⟨s, d, root, wider s seed, path, same, wider' root from', complete⟩ }

theorem trans (first : Additions disk roots own seeds u v)
    (second : Additions disk roots own seeds v w)
    (apart : ∀ id, own = some id → (u.session.object? id).isSome) :
    Additions disk roots own seeds u w where
  le := first.le.trans second.le
  sound := second.sound
  registry := second.registry
  kept := fun id o other found => second.kept id o other (first.kept id o other found)
  registered := fun id known => second.registered id (first.registered id known)
  made := fun id o absent found => by
    have other : own ≠ some id := by
      intro same
      have known := apart id same
      rw [absent] at known
      cases known
    cases before : v.session.object? id with
    | none => exact second.made id o before found
    | some p =>
      cases (second.kept id p other before).symm.trans found
      obtain ⟨s, d, root, seed, path, same, from', complete⟩ := first.made id o absent before
      have later : Relation.ReflTransGen (Uses disk w.loader) s d :=
        Relation.ReflTransGen.mono (fun _ _ uses => Uses.mono uses second.le) _ _ path
      exact ⟨s, d, root, seed, later, same, from', complete.mono second.le second.registered⟩

/-- One after the other, what both lead to has been added. -/
theorem andThen {roots₁ roots₂ : String → Prop} {seeds₁ seeds₂ : DeclaredType → Prop}
    (first : Additions disk roots₁ none seeds₁ u v) (second : Additions disk roots₂ none seeds₂ v w)
    (seedsOfFirst : ∀ d, seeds₁ d → seeds d) (seedsOfSecond : ∀ d, seeds₂ d → seeds d)
    (rootsOfFirst : ∀ r, roots₁ r → roots r) (rootsOfSecond : ∀ r, roots₂ r → roots r) :
    Additions disk roots none seeds u w :=
  (first.imp seedsOfFirst rootsOfFirst).trans (second.imp seedsOfSecond rootsOfSecond) (by simp)

end Additions

namespace Extraction

theorem of_grows (grows : Grows u v) (registry : u.session.Registry) :
    Extraction disk own seeds u v := by
  have same := grows.session
  exact {
    toAdditions := .of_objects grows.le grows.sound (by rw [same]; exact registry)
      fun _ => by rw [same]
    frame := by rw [same]; exact .refl _
    responses := by rw [same] }

theorem imp {seeds' : DeclaredType → Prop} (extraction : Extraction disk own seeds u v)
    (wider : ∀ d, seeds d → seeds' d) : Extraction disk own seeds' u v :=
  { extraction with toAdditions := extraction.toAdditions.imp wider fun _ => id }

theorem trans (first : Extraction disk own seeds u v) (second : Extraction disk own seeds v w)
    (apart : ∀ id, own = some id → (u.session.object? id).isSome) :
    Extraction disk own seeds u w where
  toAdditions := first.toAdditions.trans
    (second.toAdditions.imp (fun _ => id) fun _ same => same.trans first.frame.rootPath) apart
  frame := first.frame.trans second.frame
  responses := second.responses.trans first.responses

/-- An object may change in its place if it keeps identifier and name. -/
theorem updateObject (sound : u.loader.Sound) (registry : u.session.Registry) (typeId : String)
    (change : Object → Object)
    (keeps : ∀ o, (change o).typeId = o.typeId ∧ (change o).name = o.name) :
    Extraction disk (some typeId) seeds u
      { u with session := u.session.updateObject typeId change } where
  le := .refl _
  sound := sound
  registry := registry.updateObject change keeps typeId
  frame := ⟨rfl, rfl, rfl, rfl⟩
  responses := rfl
  kept := fun id o other found => by
    have apart : id ≠ typeId := fun same => other (congrArg some same.symm)
    simp [Session.updateObject_object?, found, apart]
  registered := fun id known => by simpa [Session.updateObject_object?] using known
  made := fun id o absent found => by simp [Session.updateObject_object?, absent] at found

/-- What has been extracted beside an object has been extracted. -/
theorem beside (extraction : Extraction disk none seeds u v) (own : Option String) :
    Extraction disk own seeds u v :=
  { extraction with kept := fun id o _ => extraction.kept id o (by simp) }

end Extraction

/-- What an extracting function has to do: to add the declaration, and what it leads to. -/
def Extracts (disk : Disk) (extract : DeclaredType → Compile Unit) : Prop :=
  ∀ d u v, u.loader.Sound → d.Known u.loader → u.session.Registry →
    (extract d).runOn disk u = (.ok (), v) →
      Extraction disk none (· = d) u v ∧ (v.session.object? (typeIdOf d)).isSome

/-! ### Types and fields -/

section

variable {extract : DeclaredType → Compile Unit} {location : Location}

theorem target_ok (extracts : Extracts disk extract) {target : Option DeclaredType}
    (sound : u.loader.Sound) (registry : u.session.Registry)
    (known : ∀ d, target = some d → d.Known u.loader)
    (run : (target.forM extract).runOn disk u = (.ok (), v)) :
    Extraction disk none (target = some ·) u v ∧
      ∀ d, target = some d → (v.session.object? (typeIdOf d)).isSome := by
  cases target with
  | none =>
    obtain ⟨_, rfl⟩ := Compile.pure_ok.mp run
    exact ⟨.of_grows (.refl sound) registry, by simp⟩
  | some d =>
    obtain ⟨extraction, registered⟩ := extracts d u v sound (known d rfl) registry run
    refine ⟨extraction.imp fun e same => congrArg some same.symm, ?_⟩
    rintro _ ⟨⟩
    exact registered

/-- A type expression is taken apart, the struct that it leads to is extracted, what is shown of the
expression is rendered, and the packages that this names are registered. -/
theorem fieldType_run {type : FieldType} (sound : u.loader.Sound)
    (context : ctx.package ∈ u.loader.packages)
    (run : (fieldType extract expr ctx location).runOn disk u = (.ok type, v)) :
    ∃ shape u₁ u₂ u₃, Grows u u₁ ∧ (∀ d, shape.target = some d → d.Known u₁.loader) ∧
      (shape.target.forM extract).runOn disk u₁ = (.ok (), u₂) ∧
      (render shape.peeled.shown shape.peeled.shownIn).runOn disk u₂ = (.ok shape.rendered, u₃) ∧
      (∀ l, u₁.loader.Le l → Yields disk l (render shape.peeled.shown shape.peeled.shownIn)
        shape.rendered → HasShape disk l expr ctx shape) ∧
      type = shape.type u₃.session.rootPath ∧
      v = { u₃ with session :=
        u₃.session.registerImports (shape.rendered.packages u₃.session.rootPath) } := by
  obtain ⟨p, w₁, peeled, run⟩ := Compile.bind_ok.mp run
  obtain ⟨grows₁, peeled⟩ := (peel_resolving expr ctx).ok sound peeled
  obtain ⟨_, w₂, refused, run⟩ := Compile.bind_ok.mp run
  obtain ⟨grows₂, accepted⟩ := (refuseStruct_resolving p location).ok grows₁.sound refused
  obtain ⟨target, u₁, named, run⟩ := Compile.bind_ok.mp run
  obtain ⟨grows₃, named⟩ := (structNamed_resolving p.core p.coreIn).ok grows₂.sound named
  obtain ⟨_, u₂, extracted, run⟩ := Compile.bind_ok.mp run
  obtain ⟨rendered, u₃, shown, run⟩ := Compile.bind_ok.mp run
  rw [Compile.rootPath_bind, Compile.modifySession_bind] at run
  obtain ⟨rfl, rfl⟩ := Compile.pure_ok.mp run
  have later := grows₂.le.trans grows₃.le
  have coreIn := (peel_known grows₁.sound (grows₁.le.mem context) peeled).2
  refine ⟨⟨p, target, rendered⟩, u₁, u₂, u₃, (grows₁.trans grows₂).trans grows₃, fun d same => ?_,
    extracted, shown, fun l le rendered => ?_, rfl, rfl⟩
  · cases same
    exact structNamed_known grows₃.sound (later.mem coreIn) named
  · exact {
      peeled := peeled.mono (later.trans le)
      named := refuseStruct_yields accepted
      target := named.mono le
      rendered := rendered }

theorem fieldType_ok (extracts : Extracts disk extract) {type : FieldType}
    (sound : u.loader.Sound) (context : ctx.package ∈ u.loader.packages)
    (registry : u.session.Registry)
    (run : (fieldType extract expr ctx location).runOn disk u = (.ok type, v)) :
    ∃ shape, HasShape disk v.loader expr ctx shape ∧ type = shape.type u.session.rootPath ∧
      (type.isObject = true → (v.session.object? type.typeId).isSome) ∧
      Extraction disk none (LeadsTo disk v.loader expr ctx) u v := by
  obtain ⟨s, u₁, u₂, u₃, grows, known, extracted, shown, shaped, rfl, rfl⟩ :=
    fieldType_run sound context run
  obtain ⟨extraction, registered⟩ := target_ok extracts grows.sound
    (by rw [grows.session]; exact registry) known extracted
  obtain ⟨grows₃, shown⟩ :=
    (render_resolving s.peeled.shown s.peeled.shownIn).ok extraction.sound shown
  have shape := shaped u₃.loader (extraction.le.trans grows₃.le) shown
  have root : u₃.session.rootPath = u.session.rootPath := by
    rw [grows₃.session, extraction.frame.rootPath, grows.session]
  obtain ⟨imports, imported⟩ :=
    u₃.session.registerImports_eq (s.rendered.packages u₃.session.rootPath)
  have ended : Extraction disk none (LeadsTo disk u₃.loader expr ctx) u u₃ := by
    refine .trans (.of_grows grows registry) (.trans (extraction.imp fun d same => ?_)
      (.of_grows grows₃ extraction.registry) (by simp)) (by simp)
    exact (shape.leadsTo_iff grows₃.sound).mpr same
  refine ⟨s, shape, by rw [← root], fun isObject => ?_, ?_⟩
  · obtain ⟨d, same⟩ := Option.isSome_iff_exists.mp isObject
    have id := shape.typeId grows₃.sound (ended.le.mem context) same u₃.session.rootPath
    rw [imported]
    show (u₃.session.object? (s.type u₃.session.rootPath).typeId).isSome
    rw [id, grows₃.session]
    exact registered d same
  · refine ended.trans ?_ (by simp)
    rw [imported]
    have registry : Session.Registry { u₃.session with imports } :=
      ⟨ended.registry.ids, ended.registry.typeIds, ended.registry.names, ended.registry.responses⟩
    exact ⟨.of_objects (.refl _) ended.sound registry fun _ => rfl, ⟨rfl, rfl, rfl, rfl⟩, rfl⟩

theorem field_ok (extracts : Extracts disk extract) {f : FieldDecl TypeExpr} {field : Field}
    (sound : u.loader.Sound) (context : ctx.package ∈ u.loader.packages)
    (registry : u.session.Registry)
    (run : (Extract.field extract ctx f).runOn disk u = (.ok field, v)) :
    IsFieldOf disk v.loader u.session.rootPath ctx f field ∧
      (field.type.isObject = true → (v.session.object? field.type.typeId).isSome) ∧
      Extraction disk none (LeadsTo disk v.loader f.type ctx) u v := by
  obtain ⟨exported, run⟩ := Compile.ensure_bind_ok.mp run
  obtain ⟨tags, _, parsed, run⟩ := Compile.bind_ok.mp run
  obtain ⟨parsed, same⟩ := parseTag_ok.mp parsed
  rw [same] at run
  obtain ⟨doc, _, read, run⟩ := Compile.bind_ok.mp run
  obtain ⟨read, log, same⟩ := readDoc_ok read
  rw [same] at run
  obtain ⟨type, _, resolved, run⟩ := Compile.bind_ok.mp run
  obtain ⟨rfl, rfl⟩ := Compile.pure_ok.mp run
  obtain ⟨shape, shaped, rfl, registered, extraction⟩ :=
    fieldType_ok (u := { u with log }) extracts sound context registry resolved
  exact ⟨⟨tags, doc, shape, exported, parsed, read, shaped, rfl⟩, registered,
    .trans (v := { u with log }) (.of_grows ⟨.refl _, sound, rfl⟩ registry) extraction (by simp)⟩

/-- The fields of an object are read and added one by one. -/
theorem fields_ok (extracts : Extracts disk extract) {fields : List (FieldDecl TypeExpr)}
    {typeId : String} {o : Object} (sound : u.loader.Sound)
    (context : ctx.package ∈ u.loader.packages) (registry : u.session.Registry)
    (found : u.session.object? typeId = some o)
    (run : (fields.forM fun f => do
      let field ← Extract.field extract ctx f
      Compile.modifySession (·.addField typeId field)).runOn disk u = (.ok (), v)) :
    ∃ added, List.Forall₂ (IsFieldOf disk v.loader u.session.rootPath ctx) fields added ∧
      v.session.object? typeId = some { o with fields := o.fields ++ added } ∧
      (∀ f ∈ added, f.type.isObject = true → (v.session.object? f.type.typeId).isSome) ∧
      Extraction disk (some typeId) (fun e => ∃ f ∈ fields, LeadsTo disk v.loader f.type ctx e) u v := by
  induction fields generalizing u o with
  | nil =>
    obtain ⟨_, rfl⟩ := Compile.pure_ok.mp run
    exact ⟨[], .nil, by simpa using found, by simp, .of_grows (.refl sound) registry⟩
  | cons f rest ih =>
    obtain ⟨_, u₂, first, run⟩ := Compile.bind_ok.mp run
    obtain ⟨field, u₁, read, added⟩ := Compile.bind_ok.mp first
    obtain ⟨isField, target, extraction⟩ := field_ok extracts sound context registry read
    cases added
    have found₁ := extraction.kept typeId o (by simp) found
    have step : Extraction disk (some typeId)
        (fun e => ∃ f' ∈ f :: rest, LeadsTo disk v.loader f'.type ctx e) u₁
        { u₁ with session := u₁.session.addField typeId field } :=
      .updateObject extraction.sound extraction.registry typeId
        (fun o => { o with fields := o.fields ++ [field] }) fun _ => ⟨rfl, rfl⟩
    have found₂ : (u₁.session.addField typeId field).object? typeId =
        some { o with fields := o.fields ++ [field] } := by
      rw [Session.addField, Session.updateObject_object?, found₁, Option.map_some, if_pos rfl]
    obtain ⟨more, others, whole, targets, later⟩ :=
      ih (u := { u₁ with session := u₁.session.addField typeId field }) extraction.sound
        (extraction.le.mem context) step.registry found₂ run
    refine ⟨field :: more, .cons (isField.mono later.le) ?_, ?_, ?_, ?_⟩
    · exact extraction.frame.rootPath ▸ others
    · rw [whole, List.append_assoc]
      rfl
    · intro f' member isObject
      rcases List.mem_cons.mp member with rfl | after
      · exact later.registered _ (step.registered _ (target isObject))
      · exact targets f' after isObject
    · have apart : ∀ id, some typeId = some id → (u.session.object? id).isSome := by
        rintro _ ⟨⟩
        rw [found]
        rfl
      have here := (extraction.beside (some typeId)).imp fun e leads =>
        show ∃ f' ∈ f :: rest, LeadsTo disk v.loader f'.type ctx e from
          ⟨f, List.mem_cons_self, leads.mono later.le⟩
      refine (here.trans step apart).trans (later.imp ?_) apart
      rintro e ⟨f', member, leads⟩
      exact ⟨f', List.mem_cons_of_mem _ member, leads⟩

end

/-! ### Objects -/

theorem reserve_run (disk : Disk) (d : DeclaredType) (u : World) :
    (reserve d).runOn disk u =
      match u.session.reserve (typeIdOf d) d.name (some d.location) with
      | .error error => (.error (.definition error), u)
      | .ok none => (.ok false, u)
      | .ok (some t) => (.ok true, { u with session := t }) := by
  rw [reserve, Compile.get_bind]
  dsimp only
  rcases u.session.reserve (typeIdOf d) d.name (some d.location) with _ | _ | _ <;> rfl

theorem reserve_ok {fresh : Bool} (run : (reserve d).runOn disk u = (.ok fresh, v)) :
    (fresh = false ∧ v = u ∧ (u.session.object? (typeIdOf d)).isSome) ∨
      (fresh = true ∧ ∃ t, u.session.reserve (typeIdOf d) d.name (some d.location) = .ok (some t) ∧
        v = { u with session := t }) := by
  rw [reserve_run] at run
  rcases outcome : u.session.reserve (typeIdOf d) d.name (some d.location) with error | _ | t
  · rw [outcome] at run
    cases run
  · rw [outcome] at run
    cases run
    exact Or.inl ⟨rfl, rfl, Json.find?_isSome_iff.mpr (Session.reserve_eq_none outcome)⟩
  · rw [outcome] at run
    cases run
    exact Or.inr ⟨rfl, t, rfl, rfl⟩

theorem reserved_object? {name typeId : String} {location : Option Location}
    (reserved : s.reserve typeId name location = .ok (some t)) :
    s.object? typeId = none ∧ t.object? typeId = some { typeId, name } ∧
      (∀ id, id ≠ typeId → t.object? id = s.object? id) ∧ s.Frame t ∧
      t.responses = s.responses := by
  obtain ⟨fresh, _, rfl⟩ := Session.reserve_eq_some reserved
  have absent : s.object? typeId = none := Json.find?_eq_none_iff.mpr fresh
  refine ⟨absent, ?_, fun id other => ?_, ⟨rfl, rfl, rfl, rfl⟩, rfl⟩
  · simp only [Session.object?] at absent ⊢
    rw [Json.find?_append, absent, Option.none_or, Json.find?_cons, if_pos rfl]
  · simp only [Session.object?]
    rw [Json.find?_append, Json.find?_cons, if_neg other, Json.find?_nil, Option.or_none]

/-- What an object says of itself is filled in, and then its fields one by one. -/
theorem fillObject_run {extract : DeclaredType → Compile Unit} (sound : u.loader.Sound)
    (run : (fillObject extract d).runOn disk u = (.ok (), v)) :
    ∃ doc change fields origin w,
      Metadata.upToFailure d.spec.doc (some d.location) = (doc, none) ∧
      (∀ o : Object, change o = { o with
        comment := doc.description, metadata := doc.values
        imported := d.package.path != u.session.rootPath }) ∧
      u.loader.Le w.loader ∧ w.loader.Sound ∧
      w.session = u.session.updateObject (typeIdOf d) change ∧
      Yields disk w.loader (structOf d) (some (fields, origin)) ∧
      (fields.forM fun f => do
        let field ← Extract.field extract origin.context f
        Compile.modifySession (·.addField (typeIdOf d) field)).runOn disk w = (.ok (), v) := by
  obtain ⟨doc, _, read, run⟩ := Compile.bind_ok.mp run
  obtain ⟨documented, log, same⟩ := readDoc_ok read
  rw [same, Compile.rootPath_bind, Compile.modifySession_bind, Compile.note_bind] at run
  obtain ⟨shape, w, behind, run⟩ := Compile.bind_ok.mp run
  obtain ⟨grows, behind⟩ : Grows _ w ∧ Yields disk w.loader (structOf d) shape :=
    (structOf_resolving d).ok (by exact sound) behind
  cases shape with
  | none => cases run
  | some shape =>
    obtain ⟨fields, origin⟩ := shape
    exact ⟨doc, _, fields, origin, w, documented, fun _ => rfl, grows.le, grows.sound, grows.session,
      behind, run⟩

theorem fillObject_ok {extract : DeclaredType → Compile Unit} (extracts : Extracts disk extract)
    (sound : u.loader.Sound) (known : d.Known u.loader) (registry : u.session.Registry)
    (found : u.session.object? (typeIdOf d) = some { typeId := typeIdOf d, name := d.name })
    (run : (fillObject extract d).runOn disk u = (.ok (), v)) :
    ∃ o, v.session.object? (typeIdOf d) = some o ∧
      Complete disk v.loader u.session.rootPath v.session d o ∧
      Extraction disk (some (typeIdOf d)) (Uses disk v.loader d) u v := by
  obtain ⟨doc, change, fields, origin, w, documented, changed, le, sound', session, behind, run⟩ :=
    fillObject_run sound run
  have step : Extraction disk (some (typeIdOf d)) (Uses disk v.loader d) u
      { u with session := u.session.updateObject (typeIdOf d) change } :=
    .updateObject sound registry (typeIdOf d) change fun o => by rw [changed]; exact ⟨rfl, rfl⟩
  have step' : Extraction disk (some (typeIdOf d)) (Uses disk v.loader d)
      { u with session := u.session.updateObject (typeIdOf d) change } w :=
    .of_grows ⟨le, sound', session⟩ step.registry
  have found' : w.session.object? (typeIdOf d) = some {
      typeId := typeIdOf d
      name := d.name
      imported := d.package.path != u.session.rootPath
      comment := doc.description
      metadata := doc.values } := by
    rw [session, Session.updateObject_object?, found, Option.map_some, if_pos rfl, changed]
  have apart : ∀ id, some (typeIdOf d) = some id → (u.session.object? id).isSome := by
    rintro _ ⟨⟩
    rw [found]
    rfl
  have filled := step.trans step' apart
  have known' := known.mono le
  have origin_known := structOf_known sound' known' behind
  obtain ⟨added, described, whole, targets, extraction⟩ :=
    fields_ok extracts sound' origin_known.package filled.registry found' run
  refine ⟨_, whole, ?_, filled.trans (extraction.imp ?_) apart⟩
  · rw [filled.frame.rootPath] at described
    exact ⟨known'.mono extraction.le, ⟨doc, documented, rfl⟩,
      ⟨fields, origin, behind.mono extraction.le, by simpa using described⟩, by simpa using targets⟩
  · rintro e ⟨f, member, leads⟩
    exact ⟨fields, origin, f, behind.mono extraction.le, member, leads⟩

theorem objectWithin_extracts (fuel : Nat) : Extracts disk (objectWithin fuel) := by
  induction fuel with
  | zero =>
    intro d u v _ _ _ run
    cases run
  | succ fuel ih =>
    intro d u v sound known registry run
    obtain ⟨fresh, u₁, reserved, run⟩ := Compile.bind_ok.mp run
    rcases reserve_ok reserved with ⟨isOld, same, present⟩ | ⟨isNew, t, entered, same⟩
    · rw [isOld, same] at run
      obtain ⟨_, rfl⟩ := Compile.pure_ok.mp run
      exact ⟨.of_grows (.refl sound) registry, present⟩
    · rw [isNew, same] at run
      obtain ⟨absent, found, others, frame, responses⟩ := reserved_object? entered
      obtain ⟨o, filled, complete, extraction⟩ := fillObject_ok ih (u := { u with session := t })
        sound known (registry.reserve entered) found run
      refine ⟨?_, by rw [filled]; rfl⟩
      exact {
        le := extraction.le
        sound := extraction.sound
        registry := extraction.registry
        frame := frame.trans extraction.frame
        responses := extraction.responses.trans responses
        kept := fun id p _ here => by
          have other : id ≠ typeIdOf d := by
            rintro rfl
            rw [absent] at here
            cases here
          exact extraction.kept id p (fun same => other (Option.some.inj same).symm)
            ((others id other).trans here)
        registered := fun id here => by
          have other : id ≠ typeIdOf d := by
            rintro rfl
            rw [absent] at here
            cases here
          exact extraction.registered id (by rw [others id other]; exact here)
        made := fun id p unknown here => by
          by_cases same : id = typeIdOf d
          · subst same
            cases filled.symm.trans here
            exact ⟨d, d, _, rfl, .refl, rfl, frame.rootPath, complete⟩
          · obtain ⟨s, e, root, uses, path, identity, inRoot, made⟩ :=
              extraction.made id p ((others id same).trans unknown) here
            exact ⟨d, e, root, rfl, path.head uses, identity, inRoot.trans frame.rootPath, made⟩ }

end Extract

end GoIdl
