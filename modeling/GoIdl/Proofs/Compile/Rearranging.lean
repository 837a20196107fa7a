import GoIdl.Proofs.Compile.Guarding
import GoIdl.Proofs.Package.Scope
import Mathlib.Data.List.Perm.Basic

/-!
# Rearranged files

Files that hold matching declarations in any order, and are listed in any order, form twin packages
or none.
-/

namespace GoIdl

open Syntax (SourceFile TypeExpr TypeSpec SameShape)

variable {strict : Prop} {stands : TypeExpr → TypeExpr → Prop} {files files' : List SourceFile}
  {file file' : SourceFile} {p p' : Package}

/-- Matching declarations in another order. The path may differ unless it counts. -/
structure Rearranged (strict : Prop) (stands : TypeExpr → TypeExpr → Prop)
    (file file' : SourceFile) : Prop where
  package : file.package = file'.package
  imports : file.imports = file'.imports
  types : ∃ specs, file.types.Perm specs ∧ List.Forall₂ (SpecsAlike strict stands) specs file'.types
  path : strict → file.path = file'.path

namespace Rearranged

theorem flip (same : Rearranged strict stands file file') :
    Rearranged strict (flip stands) file' file where
  package := same.package.symm
  imports := same.imports.symm
  types := by
    obtain ⟨specs, perm, paired⟩ := same.types
    obtain ⟨specs', paired', perm'⟩ := List.perm_comp_forall₂ perm paired
    exact ⟨specs', perm'.symm, (paired'.imp fun _ _ => SpecsAlike.flip).flip⟩
  path counts := (same.path counts).symm

/-- The same declarations in another order. -/
theorem of_perm (package : file.package = file'.package) (imports : file.imports = file'.imports)
    (types : file.types.Perm file'.types) (path : strict → file.path = file'.path) :
    Rearranged strict stands file file' :=
  ⟨package, imports, ⟨_, types, List.forall₂_same.mpr fun spec _ => .refl spec⟩, path⟩

end Rearranged

/-- Rearranged files in another order. -/
def Regrouped (strict : Prop) (stands : TypeExpr → TypeExpr → Prop)
    (files files' : List SourceFile) : Prop :=
  ∃ same, List.Forall₂ (Rearranged strict stands) files same ∧ same.Perm files'

theorem Regrouped.flip (regrouped : Regrouped strict stands files files') :
    Regrouped strict (flip stands) files' files := by
  obtain ⟨same, paired, perm⟩ := regrouped
  exact List.perm_comp_forall₂ perm.symm (paired.imp fun _ _ => Rearranged.flip).flip

theorem Regrouped.counterpart (regrouped : Regrouped strict stands files files')
    (member : file ∈ files) : ∃ file' ∈ files', Rearranged strict stands file file' := by
  obtain ⟨same, paired, perm⟩ := regrouped
  obtain ⟨file', listed, rearranged⟩ := exists_right_of_forall₂ paired member
  exact ⟨file', perm.mem_iff.mp listed, rearranged⟩

namespace Package

theorem mem_declarations_iff {name : String} {declaration : Declaration} :
    (name, declaration) ∈ declarations files ↔
      declaration.file ∈ files ∧ declaration.spec ∈ declaration.file.types ∧
        declaration.spec.name ≠ "_" ∧ declaration.spec.name = name := by
  obtain ⟨spec, file⟩ := declaration
  simp only [declarations, List.mem_flatMap, List.mem_map, List.mem_filter, bne_iff_ne]
  constructor
  · rintro ⟨_, member, _, ⟨held, named⟩, same⟩
    cases same
    exact ⟨member, held, named, rfl⟩
  · rintro ⟨member, held, named, rfl⟩
    exact ⟨file, member, spec, ⟨held, named⟩, rfl⟩

theorem keys_declarations_perm (regrouped : Regrouped strict stands files files') :
    (Json.keys (declarations files)).Perm (Json.keys (declarations files')) := by
  have keys : ∀ files, Json.keys (declarations files) = files.flatMap fun file =>
      (file.types.map (·.name)).filter (· != "_") := by
    intro files
    rw [Json.keys, declarations, List.map_flatMap]
    simp only [List.map_map, List.filter_map, Function.comp_def]
  obtain ⟨same, paired, perm⟩ := regrouped
  rw [keys, keys]
  refine List.Perm.trans (List.Perm.flatten_congr ?_) (perm.flatMap_right _)
  rw [List.forall₂_map_right_iff, List.forall₂_map_left_iff]
  refine paired.imp fun file file' same => ?_
  obtain ⟨specs, perm, paired⟩ := same.types
  have names : specs.map (·.name) = file'.types.map (·.name) := by
    rw [← List.forall₂_eq_eq_eq, List.forall₂_map_right_iff, List.forall₂_map_left_iff]
    exact paired.imp fun _ _ alike => alike.name
  exact (names ▸ perm.map _).filter _

theorem counterpart (regrouped : Regrouped strict stands files files') {name : String}
    {declaration : Declaration} (member : (name, declaration) ∈ declarations files) :
    ∃ declaration' : Declaration, (name, declaration') ∈ declarations files' ∧
      SpecsAlike strict stands declaration.spec declaration'.spec ∧
      Rearranged strict stands declaration.file declaration'.file := by
  obtain ⟨held, listed, named, rfl⟩ := mem_declarations_iff.mp member
  obtain ⟨file', held', same⟩ := regrouped.counterpart held
  obtain ⟨specs, perm, paired⟩ := same.types
  obtain ⟨spec', listed', alike⟩ := exists_right_of_forall₂ paired (perm.mem_iff.mp listed)
  exact ⟨⟨spec', file'⟩, mem_declarations_iff.mpr
    ⟨held', listed', alike.name ▸ named, alike.name.symm⟩, alike, same⟩

/-- Where names are distinct, a look-up finds the declaration of that name. -/
theorem lookup_eq_some_iff (distinct : (Json.keys p.scope).Nodup) {name : String}
    {d : DeclaredType} :
    p.lookup name = some d ↔ d.package = p ∧ (name, ⟨d.spec, d.file⟩) ∈ p.scope := by
  have find : p.scope.lookup name = Json.find? name p.scope := rfl
  rw [lookup, Option.map_eq_some_iff, find]
  simp only [Json.find?_eq_some_iff distinct]
  constructor
  · rintro ⟨declaration, member, rfl⟩
    exact ⟨rfl, member⟩
  · rintro ⟨rfl, member⟩
    exact ⟨_, member, rfl⟩

theorem lookup_eq_none_iff {name : String} : p.lookup name = none ↔ name ∉ Json.keys p.scope := by
  rw [lookup, Option.map_eq_none_iff]
  exact Json.find?_eq_none_iff

theorem twins_of_regrouped (regrouped : Regrouped strict stands files files')
    {serial serial' : Nat} {directory directory' : Option Disk.Path}
    (formed : ofFiles serial files none directory none = .ok p) :
    ∃ p', ofFiles serial' files' none directory' none = .ok p' ∧ Twins strict stands p p' ∧
      p.scope.length = p'.scope.length := by
  obtain ⟨nonempty, name, agree, distinct, formed⟩ := ofFiles_eq_ok.mp formed
  have keys := keys_declarations_perm regrouped
  have distinct' := keys.nodup_iff.mp distinct
  obtain ⟨p', made'⟩ : ∃ p' : Package,
      p' = ⟨serial', name, name, files', directory', none, declarations files'⟩ := ⟨_, rfl⟩
  have formed' : ofFiles serial' files' none directory' none = .ok p' := by
    refine ofFiles_eq_ok.mpr ⟨?_, name, fun file member => ?_, distinct', made'⟩
    · obtain ⟨file, member⟩ := List.exists_mem_of_ne_nil _ nonempty
      obtain ⟨file', member', -⟩ := regrouped.counterpart member
      exact List.ne_nil_of_mem member'
    · obtain ⟨file', held, same⟩ := regrouped.flip.counterpart member
      rw [same.package, agree file' held]
  have scope : p.scope = declarations files := by rw [formed]
  have scope' : p'.scope = declarations files' := by rw [made']
  rw [← scope] at distinct keys
  rw [← scope'] at distinct' keys
  refine ⟨p', formed', ⟨?_, ?_, ?_, ?_, sortStrings_perm keys, fun sought => ?_⟩, ?_⟩
  · rw [formed]
  · rw [made']
  · rw [formed, made']
  · rw [formed, made']
  · cases found : p.lookup sought with
    | none =>
      rw [lookup_eq_none_iff.mpr (mt keys.mem_iff.mpr (lookup_eq_none_iff.mp found))]
      exact .none
    | some d =>
      obtain ⟨package, member⟩ := (lookup_eq_some_iff distinct).mp found
      rw [scope] at member
      obtain ⟨⟨spec', file'⟩, member', alike, same⟩ := counterpart regrouped member
      have found' : p'.lookup sought = some ⟨p', spec', file'⟩ :=
        (lookup_eq_some_iff distinct').mpr ⟨rfl, by rw [scope']; exact member'⟩
      obtain ⟨held, -, -, named⟩ := mem_declarations_iff.mp member
      obtain ⟨held', -, -, named'⟩ := mem_declarations_iff.mp member'
      rw [found']
      refine .some ⟨?_, ?_, ⟨package, rfl, ?_, ?_, same.imports, same.path⟩, alike⟩
      · show p.lookup d.spec.name = _
        rw [named, found]
      · show p'.lookup spec'.name = _
        rw [named', found']
      · rw [formed]
        exact held
      · rw [made']
        exact held'
  · have length := keys.length_eq
    rwa [Json.keys, Json.keys, List.length_map, List.length_map] at length

end Package

end GoIdl
