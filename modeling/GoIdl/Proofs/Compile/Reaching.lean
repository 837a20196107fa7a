import GoIdl.Proofs.Compile.Packages

/-!
# Reached structs

The structs that root packages lead to: what their declarations start from, and what fields of such
structs lead to. In a session whose objects are complete, all of them are registered.
-/

namespace GoIdl.Extract

open Resolve Session

variable {disk : Disk} {l l' : Loader} {p : Package} {roots : List Package} {d e : DeclaredType}
  {s : Session} {root : String} {o : Object}

/-- The least set that holds what the declarations of root packages start from, and with each struct
what its fields lead to. -/
inductive Reached (disk : Disk) (l : Loader) (roots : List Package) : DeclaredType → Prop where
  | start {p : Package} {e : DeclaredType} (member : p ∈ roots) (starts : StartsIn disk l p e) :
      Reached disk l roots e
  | field {d e : DeclaredType} (reached : Reached disk l roots d) (uses : Uses disk l d e) :
      Reached disk l roots e

theorem Reached.of_path (member : p ∈ roots) (starts : StartsIn disk l p d)
    (path : Relation.ReflTransGen (Uses disk l) d e) : Reached disk l roots e := by
  induction path with
  | refl => exact .start member starts
  | tail _ uses ih => exact .field ih uses

/-! ### Known declarations -/

theorem Starts.known (starts : Starts disk l d e) (sound : l.Sound) (known : d.Known l) :
    e.Known l := by
  cases starts with
  | struct => exact known
  | method _ isInterface collects member leads =>
    have origin := underlying_known sound known isInterface
    obtain ⟨param, _, leads⟩ := leads
    exact leads.known sound (collectMethods_known sound origin.package collects _ member)

theorem Uses.known (uses : Uses disk l d e) (sound : l.Sound) (known : d.Known l) : e.Known l := by
  obtain ⟨fields, origin, f, shape, _, leads⟩ := uses
  exact leads.known sound (structOf_known sound known shape).package

theorem Reached.known (reached : Reached disk l roots d) (sound : l.Sound)
    (member : ∀ p ∈ roots, p ∈ l.packages) : d.Known l := by
  induction reached with
  | start listed starts =>
    obtain ⟨name, d, found, starts⟩ := starts
    exact starts.known sound (.of_lookup sound (member _ listed) found)
  | field _ uses ih => exact uses.known sound ih

/-! ### Complete sessions -/

/-- A session of complete objects whose identifiers tell declarations apart. -/
structure Finished (disk : Disk) (l : Loader) (s : Session) : Prop where
  sound : l.Sound
  paths : (l.packages.map (·.path)).Nodup
  registry : s.Registry
  complete : AllComplete disk l s

/-- The object under the identifier of a declaration describes that declaration. -/
theorem Finished.at (finished : Finished disk l s) (known : d.Known l)
    (found : s.object? (typeIdOf d) = some o) : ∃ root, Complete disk l root s d o := by
  obtain ⟨d', root, same, complete⟩ := finished.complete _ o found
  cases eq_of_typeIdOf_eq finished.sound finished.paths known complete.known same
  exact ⟨root, complete⟩

/-- What a field leads to is what its type refers to. -/
theorem IsFieldOf.refers {ctx : Context} {f : Syntax.FieldDecl Syntax.TypeExpr} {field : Field}
    (described : IsFieldOf disk l root ctx f field) (sound : l.Sound)
    (context : ctx.package ∈ l.packages) (leads : LeadsTo disk l f.type ctx e) :
    field.type.isObject = true ∧ field.type.typeId = typeIdOf e := by
  obtain ⟨_, _, shape, _, _, _, shaped, rfl⟩ := described
  have target := (shaped.leadsTo_iff sound).mp leads
  refine ⟨?_, shaped.typeId sound context target root⟩
  show (shape.type root).isObject = true
  rw [HasShape.isObject, target]
  rfl

theorem Complete.registered (complete : Complete disk l root s d o) (sound : l.Sound)
    (uses : Uses disk l d e) : (s.object? (typeIdOf e)).isSome := by
  obtain ⟨fields, origin, f, shape, member, leads⟩ := uses
  obtain ⟨fields', origin', shape', described⟩ := complete.fields
  cases shape.unique shape'
  obtain ⟨field, listed, isField⟩ := exists_right_of_forall₂ described member
  obtain ⟨isObject, same⟩ :=
    isField.refers sound (structOf_known sound complete.known shape).package leads
  rw [← same]
  exact complete.targets field listed isObject

/-- Where what packages start from is registered, so is all that they lead to. -/
theorem Finished.registered (finished : Finished disk l s) (member : ∀ p ∈ roots, p ∈ l.packages)
    (starts : ∀ e, (∃ p ∈ roots, StartsIn disk l p e) → (s.object? (typeIdOf e)).isSome)
    (reached : Reached disk l roots d) : (s.object? (typeIdOf d)).isSome := by
  induction reached with
  | start listed here => exact starts _ ⟨_, listed, here⟩
  | field before uses ih =>
    obtain ⟨o, found⟩ := Option.isSome_iff_exists.mp ih
    obtain ⟨root, whole⟩ := finished.at (before.known finished.sound member) found
    exact whole.registered finished.sound uses

end GoIdl.Extract
