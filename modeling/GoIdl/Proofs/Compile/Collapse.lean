import GoIdl.Proofs.Compile.Reaching

/-!
# Structs that share an object

Objects are told apart by the paths of packages and by names. Structs of one name are never extracted
under different paths, since their names would be ambiguous; under one path they share the object of
the one that is extracted first. Packages share a path if they have one name and no module, and if
their files are named beside their directory.
-/

namespace GoIdl

open Resolve Session
open Syntax (TypeExpr FieldDecl Position)

variable {disk : Disk} {u v w : World} {l : Loader} {roots : List Package} {d e : DeclaredType}
  {s : Session} {o : Object}

namespace Extract

/-- The structs that are extracted: those that root packages start from, and those that the fields of
a struct lead to that an object has been filled in for. -/
inductive Extracted (disk : Disk) (l : Loader) (s : Session) (roots : List Package) :
    DeclaredType → Prop where
  | start {p : Package} {d : DeclaredType} (member : p ∈ roots) (starts : StartsIn disk l p d) :
      Extracted disk l s roots d
  | field {d e : DeclaredType} {root : String} {o : Object} (extracted : Extracted disk l s roots d)
      (found : s.object? (typeIdOf d) = some o) (filled : Complete disk l root s d o)
      (uses : Uses disk l d e) : Extracted disk l s roots e

theorem Extracted.known (extracted : Extracted disk l s roots d) (sound : l.Sound)
    (member : ∀ p ∈ roots, p ∈ l.packages) : d.Known l := by
  induction extracted with
  | start listed starts =>
    obtain ⟨name, d, found, starts⟩ := starts
    exact starts.known sound (.of_lookup sound (member _ listed) found)
  | field _ _ _ uses ih => exact uses.known sound ih

theorem Extracted.registered (extracted : Extracted disk l s roots d) (sound : l.Sound)
    (starts : ∀ e, (∃ p ∈ roots, StartsIn disk l p e) → (s.object? (typeIdOf e)).isSome) :
    (s.object? (typeIdOf d)).isSome := by
  cases extracted with
  | start listed here => exact starts d ⟨_, listed, here⟩
  | field _ _ filled uses => exact filled.registered sound uses

/-- The object under the identifier of a struct has its name, whichever struct it describes. -/
theorem AllComplete.name_of_object? (complete : AllComplete disk l s) (sound : l.Sound)
    (known : d.Known l) (found : s.object? (typeIdOf d) = some o) : o.name = d.name := by
  obtain ⟨d', root, identity, whole⟩ := complete (typeIdOf d) o found
  rw [whole.described.name]
  exact (typeIdOf_inj sound known whole.known identity).2.symm

/-! ### Structs that are written out -/

theorem structOf_written {pos : Position} {fields : List (FieldDecl TypeExpr)}
    (written : d.spec.type = .struct pos fields) : Yields disk l (structOf d) (some (fields, d)) := by
  intro u _
  refine Compile.bind_ok.mpr ⟨(some (.struct pos fields), d), u, ?_, rfl⟩
  rw [underlying, Compile.depth_bind, followNames, written]
  rfl

/-- A declaration that is a struct as it is written. -/
def isWrittenStruct (d : DeclaredType) : Bool :=
  !d.spec.isAlias && match d.spec.type with
    | .struct _ _ => true
    | _ => false

theorem starts_of_isWrittenStruct (written : isWrittenStruct d = true) : Starts disk l d d := by
  rw [isWrittenStruct, Bool.and_eq_true, Bool.not_eq_true'] at written
  obtain ⟨plain, written⟩ := written
  split at written
  · rename_i type
    exact .struct plain ⟨_, _, structOf_written type⟩
  · cases written

end Extract

/-! ### Whole compilations -/

namespace Compile

open Extract

variable {input : Input} {options : Options} {compiled : Compiled}

/-- Two structs that are extracted share an object exactly if they share a name. Different ones do so
only if different packages with one path declare them. -/
theorem extracted_structs_apart (run : (compile input options).runOn disk {} = (.ok compiled, v)) :
    ∃ roots start count w, input.load.runOn disk {} = (.ok roots, start) ∧
      (extract (exclusionsOf options) input).runOn disk {} = (.ok count, w) ∧
      ∀ d e, Extracted disk w.loader w.session roots d → Extracted disk w.loader w.session roots e →
        ∃ o p, w.session.object? (typeIdOf d) = some o ∧ w.session.object? (typeIdOf e) = some p ∧
          (o = p ↔ d.name = e.name) ∧
          (d ≠ e → o = p → d.package ≠ e.package ∧ d.package.path = e.package.path) := by
  obtain ⟨count, w, extracted, _⟩ := compile_ok run
  obtain ⟨roots, start, loaded, member, session, added, _, covers⟩ := extract_adds extracted
  refine ⟨roots, start, count, w, loaded, extracted, fun d e first second => ?_⟩
  have complete := added.allComplete session
  have starts := fun e here => covers w.loader e (.refl _) added.sound here
  have known := first.known added.sound member
  have known' := second.known added.sound member
  obtain ⟨o, found⟩ := Option.isSome_iff_exists.mp (first.registered added.sound starts)
  obtain ⟨p, found'⟩ := Option.isSome_iff_exists.mp (second.registered added.sound starts)
  have name := complete.name_of_object? added.sound known found
  have name' := complete.name_of_object? added.sound known' found'
  refine ⟨o, p, found, found', ?_, fun other same => ?_⟩
  · rw [← name, ← name']
    constructor
    · exact congrArg Object.name
    · intro same
      rw [added.registry.ids_eq_of_name_eq found found' same, found'] at found
      exact (Option.some.inj found).symm
  · have identity : typeIdOf d = typeIdOf e :=
      added.registry.ids_eq_of_name_eq found found' (congrArg Object.name same)
    obtain ⟨path, named⟩ := typeIdOf_inj added.sound known known' identity
    exact ⟨fun package => other (known.eq_of_package_eq known' package named), path⟩

/-- Two directories without a module; both hold a package and a struct of one name. -/
def twins : Disk :=
  ⟨[("x", .dir [("a.go", .file (Text.encode "package p; type T struct\x7bA int\x7d".toList))]),
    ("y", .dir [("a.go", .file (Text.encode "package p; type T struct\x7bB int\x7d".toList))])], []⟩

theorem twins_extracted :
    ∃ compiled v roots start, (compile (.patterns ["x", "y"]) {}).runOn twins {} = (.ok compiled, v) ∧
      (Loading.load ["x", "y"]).runOn twins {} = (.ok roots, start) ∧
      ∃ d e, d.file.path ≠ e.file.path ∧ typeIdOf d = typeIdOf e ∧
        ∀ l s, Extracted twins l s roots d ∧ Extracted twins l s roots e := by
  have succeeds : ((compile (.patterns ["x", "y"]) {}).runOn twins {}).1.isOk = true := by
    decide +kernel
  have shape : ((Loading.load ["x", "y"]).runOn twins {}).1.toOption.any (fun roots =>
      roots.any fun p => roots.any fun q =>
        (p.lookup "T").any fun d => (q.lookup "T").any fun e =>
          isWrittenStruct d && isWrittenStruct e && d.file.path != e.file.path &&
            typeIdOf d == typeIdOf e) = true := by
    decide +kernel
  rcases run : (compile (.patterns ["x", "y"]) {}).runOn twins {} with ⟨_ | compiled, v⟩
  · rw [run] at succeeds
    cases succeeds
  rcases loaded : (Loading.load ["x", "y"]).runOn twins {} with ⟨_ | roots, start⟩
  · rw [loaded] at shape
    cases shape
  · simp only [loaded, Except.toOption, Option.any_some, List.any_eq_true, Option.any_eq_true,
      Bool.and_eq_true, bne_iff_ne, beq_iff_eq] at shape
    obtain ⟨p, member, q, member', d, found, e, found', ⟨⟨written, written'⟩, files⟩, identity⟩ := shape
    exact ⟨compiled, v, roots, start, rfl, rfl, d, e, files, identity, fun l s =>
      ⟨.start member ⟨"T", d, found, starts_of_isWrittenStruct written⟩,
        .start member' ⟨"T", e, found', starts_of_isWrittenStruct written'⟩⟩⟩

/-- The structs of one name are declared by two packages with one path. -/
theorem extracted_structs_apart_twins :
    ∃ roots start, ∃ w : World, (Loading.load ["x", "y"]).runOn twins {} = (.ok roots, start) ∧
      ∃ d e, Extracted twins w.loader w.session roots d ∧ Extracted twins w.loader w.session roots e ∧
        d.package ≠ e.package ∧ d.package.path = e.package.path := by
  obtain ⟨compiled, v, roots, start, run, loaded, d, e, files, identity, extracted⟩ := twins_extracted
  obtain ⟨roots', start', _, w, loaded', _, apart⟩ := extracted_structs_apart run
  cases loaded.symm.trans loaded'
  obtain ⟨first, second⟩ := extracted w.loader w.session
  obtain ⟨o, p, found, found', _, shared⟩ := apart d e first second
  have different : d ≠ e := fun same => files (by rw [same])
  rw [identity, found'] at found
  obtain ⟨packages, paths⟩ := shared different (Option.some.inj found).symm
  exact ⟨roots, start, w, loaded, d, e, first, second, packages, paths⟩

/-- Structs of different files may share an object. -/
theorem structs_collapse :
    ¬ ∀ disk given options compiled v roots start count, ∀ w : World,
      (compile (.patterns given) options).runOn disk {} = (.ok compiled, v) →
        (Loading.load given).runOn disk {} = (.ok roots, start) →
          (extract (exclusionsOf options) (.patterns given)).runOn disk {} = (.ok count, w) →
            ∀ d e, Extracted disk w.loader w.session roots d →
              Extracted disk w.loader w.session roots e → d.file.path ≠ e.file.path →
                w.session.object? (typeIdOf d) ≠ w.session.object? (typeIdOf e) := by
  intro apart
  obtain ⟨compiled, v, roots, start, run, loaded, d, e, files, identity, extracted⟩ := twins_extracted
  obtain ⟨count, w, ran, _⟩ := compile_ok run
  obtain ⟨first, second⟩ := extracted w.loader w.session
  exact apart twins _ _ compiled v roots start count w run loaded ran d e first second files
    (by rw [identity])

end Compile

end GoIdl
