import GoIdl.Proofs.Compile.Anew

/-!
# The objects of a session

When root packages have been extracted, the objects of the session are the structs that the packages
lead to, each under its own identifier and as it would be if it were extracted first.
-/

namespace GoIdl

open Extract Resolve Session
open Syntax (Location)

variable {disk : Disk} {w v : World} {l : Loader} {roots : List Package} {d : DeclaredType} {o : Object}
  {exclusions : List String}

/-- The worlds that loading leads to from an empty one. -/
inductive Loaded (disk : Disk) : World → Prop where
  | start : Loaded disk {}
  | patterns {w v : World} {patterns : List String} {packages : List Package}
      (before : Loaded disk w) (run : (Loading.load patterns).runOn disk w = (.ok packages, v)) :
      Loaded disk v
  | sources {w v : World} {sources : List (String × String)} {p : Package} (before : Loaded disk w)
      (run : (Loading.loadSources sources).runOn disk w = (.ok p, v)) : Loaded disk v
  | import {w v : World} {importer p : Package} {path : String} {location : Location}
      (before : Loaded disk w)
      (run : (Loading.loadImport importer path location).runOn disk w = (.ok p, v)) : Loaded disk v

theorem Loaded.grows (loaded : Loaded disk w) : Grows {} w := by
  induction loaded with
  | start => exact .refl .empty
  | patterns _ run ih => exact ih.trans (Loading.load_ok ih.sound run).1
  | sources _ run ih => exact ih.trans (Loading.loadSources_ok ih.sound run).1
  | «import» _ run ih => exact ih.trans (Loading.loadImport_ok ih.sound run).1

namespace Extract

/-- An object stands for a struct of the session: it has a field for each field of the struct, these
are exported and have well-formed tags, and the object is what is extracted first in an empty
session for the first root package that leads to it. -/
structure StandsFor (disk : Disk) (l : Loader) (roots : List Package) (d : DeclaredType)
    (o : Object) : Prop where
  typeId : o.typeId = typeIdOf d
  name : o.name = d.name
  fields : ∃ fields origin, Yields disk l (structOf d) (some (fields, origin)) ∧
    o.fields.map (·.name) = fields.map (·.name) ∧
    ∀ f ∈ fields, isExported f.name = true ∧
      ∃ tags, Tag.parse (f.tag.getD "") (some (f.pos.inFile origin.file.path)) = .ok tags
  anew : ∃ before p after, roots = before ++ p :: after ∧ Reached disk l [p] d ∧
    ¬ Reached disk l before d ∧
    ∃ v, (object d).runOn disk { loader := l, session := { rootPath := p.path } } = (.ok (), v) ∧
      v.session.object? (typeIdOf d) = some o

theorem fields_names {root : String} {ctx : Context} {made : List Field}
    {fields : List (Syntax.FieldDecl Syntax.TypeExpr)}
    (described : List.Forall₂ (IsFieldOf disk l root ctx) fields made) :
    made.map (·.name) = fields.map (·.name) := by
  induction described with
  | nil => rfl
  | cons here _ ih =>
    obtain ⟨_, _, _, _, _, _, _, rfl⟩ := here
    rw [List.map_cons, List.map_cons, ih]
    rfl

/-- An object is described for the first root package that leads to it. -/
theorem described_for_first (sound : w.loader.Sound) (session : w.session = {})
    (member : ∀ p ∈ roots, p ∈ w.loader.packages)
    (run : (roots.forM (package exclusions)).runOn disk w = (.ok (), v))
    (finished : Finished disk v.loader v.session) (known : d.Known v.loader)
    (found : v.session.object? (typeIdOf d) = some o) :
    ∃ before p after, roots = before ++ p :: after ∧ Reached disk v.loader [p] d ∧
      ¬ Reached disk v.loader before d ∧ Complete disk v.loader p.path v.session d o := by
  have registry : w.session.Registry := by rw [session]; exact .empty "" ""
  have serviced : Serviced exclusions w.session := by rw [session]; exact .empty "" ""
  obtain ⟨before, p, after, x, y, split, early, now, late, absent, present⟩ :=
    Compile.forM_first (fun u => (u.session.object? (typeIdOf d)).isSome)
      (by rw [session]; exact Bool.false_ne_true) (by rw [found]; rfl) run
  have ofBefore : ∀ q ∈ before, q ∈ w.loader.packages := fun q listed =>
    member q (split ▸ List.mem_append_left _ listed)
  have ofRest : ∀ q ∈ p :: after, q ∈ w.loader.packages := fun q listed =>
    member q (split ▸ List.mem_append_right _ listed)
  obtain ⟨added₁, serviced₁, covers₁⟩ :=
    packages_ok sound ofBefore registry serviced early fun _ u _ run => ⟨u.log, run⟩
  obtain ⟨added₂, serviced₂, _⟩ := package_ok added₁.sound
    (added₁.le.mem (ofRest p List.mem_cons_self)) added₁.registry serviced₁ now
  have le₂ := added₁.le.trans added₂.le
  obtain ⟨added₃, _, _⟩ := packages_ok added₂.sound
    (fun q listed => le₂.mem (ofRest q (List.mem_cons_of_mem _ listed))) added₂.registry serviced₂
    late fun _ u _ run => ⟨u.log, run⟩
  have le : x.loader.Le v.loader := added₂.le.trans added₃.le
  obtain ⟨o', made⟩ := Option.isSome_iff_exists.mp present
  cases (added₃.kept _ o' (by simp) made).symm.trans found
  obtain ⟨_, d', _, starts, path, same, rfl, complete⟩ :=
    added₂.made _ o (by simpa using absent) made
  have complete := complete.mono added₃.le added₃.registered
  cases eq_of_typeIdOf_eq finished.sound finished.paths known complete.known same
  refine ⟨before, p, after, split, ?_, fun reached => absent ?_, complete⟩
  · exact .of_path List.mem_cons_self (starts.mono added₃.le)
      (Relation.ReflTransGen.mono (fun _ _ uses => Uses.mono uses added₃.le) _ _ path)
  · have finished₁ : Finished disk v.loader x.session :=
      ⟨finished.sound, finished.paths, added₁.registry, (added₁.allComplete session).mono le⟩
    exact finished₁.registered (fun q listed => (added₁.le.trans le).mem (ofBefore q listed))
      (fun e starts => covers₁ v.loader e le finished.sound starts) reached

/-- When root packages have been extracted, the registered identifiers are those of the structs
that the packages lead to, one for each, and the object under it stands for the struct. -/
theorem objects_are_reached (loaded : Loaded disk w) (member : ∀ p ∈ roots, p ∈ w.loader.packages)
    (run : (roots.forM (package exclusions)).runOn disk w = (.ok (), v))
    (paths : (v.loader.packages.map (·.path)).Nodup) :
    (Json.keys v.session.objects).Nodup ∧
      (∀ id, id ∈ Json.keys v.session.objects ↔ ∃ d, Reached disk v.loader roots d ∧ typeIdOf d = id) ∧
      (∀ d e, Reached disk v.loader roots d → Reached disk v.loader roots e →
        typeIdOf d = typeIdOf e → d = e) ∧
      ∀ d, Reached disk v.loader roots d →
        ∃ o, v.session.object? (typeIdOf d) = some o ∧ StandsFor disk v.loader roots d o := by
  have grows := loaded.grows
  have session : w.session = {} := grows.session
  have registry : w.session.Registry := by rw [session]; exact .empty "" ""
  have serviced : Serviced exclusions w.session := by rw [session]; exact .empty "" ""
  obtain ⟨added, _, covers⟩ :=
    packages_ok grows.sound member registry serviced run fun _ u _ run => ⟨u.log, run⟩
  have finished : Finished disk v.loader v.session :=
    ⟨added.sound, paths, added.registry, added.allComplete session⟩
  have loadedRoots : ∀ p ∈ roots, p ∈ v.loader.packages := fun p listed => added.le.mem (member p listed)
  have known : ∀ d, Reached disk v.loader roots d → d.Known v.loader := fun d reached =>
    reached.known added.sound loadedRoots
  have registered : ∀ d, Reached disk v.loader roots d → (v.session.object? (typeIdOf d)).isSome :=
    fun d reached => finished.registered loadedRoots
      (fun e starts => covers v.loader e (.refl _) added.sound starts) reached
  refine ⟨finished.registry.ids, fun id => ?_, fun d e reached reached' same => ?_, fun d reached => ?_⟩
  · rw [← Json.find?_isSome_iff]
    constructor
    · intro present
      obtain ⟨o, found⟩ := Option.isSome_iff_exists.mp present
      obtain ⟨_, d, _, ⟨p, listed, starts⟩, path, same, _, _⟩ :=
        added.made id o (by rw [session]; rfl) found
      exact ⟨d, .of_path listed starts path, same.symm⟩
    · rintro ⟨d, reached, rfl⟩
      exact registered d reached
  · exact eq_of_typeIdOf_eq added.sound paths (known d reached) (known e reached') same
  · obtain ⟨o, found⟩ := Option.isSome_iff_exists.mp (registered d reached)
    obtain ⟨before, p, after, split, leads, others, complete⟩ :=
      described_for_first grows.sound session member run finished (known d reached) found
    obtain ⟨fields, origin, shape, described⟩ := complete.fields
    refine ⟨o, found, finished.registry.typeId_of_object? found, complete.described.name,
      ⟨fields, origin, shape, fields_names described, fun f listed => ?_⟩,
      before, p, after, split, leads, others, object_anew finished (known d reached) found complete⟩
    obtain ⟨_, _, tags, _, _, exported, parsed, _⟩ := exists_right_of_forall₂ described listed
    exact ⟨exported, tags, parsed⟩

/-- A service takes and answers with lists of a struct that refers to itself. -/
def linked : List (String × String) :=
  [("a.go",
    "package a; type S interface\x7b M(L) L \x7d; type L = []*N; type N struct\x7b Next *N \x7d")]

theorem objects_are_reached_linked :
    ∃ p w v, (Loading.loadSources linked).runOn ⟨[], []⟩ {} = (.ok p, w) ∧
      ([p].forM (package ["S"])).runOn ⟨[], []⟩ w = (.ok (), v) ∧
      ∃ d, Reached ⟨[], []⟩ v.loader [p] d ∧ typeIdOf d = "a.N" ∧
        ∃ o, v.session.object? "a.N" = some o ∧ StandsFor ⟨[], []⟩ v.loader [p] d o := by
  have shape : ((Loading.loadSources linked).runOn ⟨[], []⟩ {}).1.toOption.any (fun p =>
      let world := ((Loading.loadSources linked).runOn ⟨[], []⟩ {}).2
      let extracted := ([p].forM (package ["S"])).runOn ⟨[], []⟩ world
      extracted.1.isOk && Json.keys extracted.2.session.objects == ["a.N"] &&
        extracted.2.loader.packages.map (·.path) == ["a"]) = true := by
    decide +kernel
  rcases loading : (Loading.loadSources linked).runOn ⟨[], []⟩ {} with ⟨_ | p, w⟩
  · rw [loading] at shape
    cases shape
  · simp only [loading, Except.toOption, Option.any_some, Bool.and_eq_true, beq_iff_eq] at shape
    rcases run : ([p].forM (package ["S"])).runOn ⟨[], []⟩ w with ⟨_ | u, v⟩
    · rw [run] at shape
      cases shape.1.1
    · rw [run] at shape
      obtain ⟨⟨_, keys⟩, paths⟩ := shape
      have loaded := (Loading.loadSources_ok .empty loading).2
      obtain ⟨_, ids, _, stand⟩ := objects_are_reached (.sources .start loading)
        (by simpa using loaded) run (by rw [paths]; exact List.nodup_singleton _)
      obtain ⟨d, reached, same⟩ := (ids "a.N").mp (by rw [keys]; exact List.mem_cons_self)
      obtain ⟨o, found, stands⟩ := stand d reached
      exact ⟨p, w, v, rfl, run, d, reached, same, o, same ▸ found, stands⟩

end Extract

end GoIdl
