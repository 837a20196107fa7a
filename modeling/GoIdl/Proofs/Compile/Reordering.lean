import GoIdl.Compile.Run
import GoIdl.Proofs.Compile.Rearranging
import GoIdl.Proofs.Compile.TwinExtraction

/-!
# Orders do not matter

From the declarations of some files comes one definition, or one error, in whatever order the files
are listed and their declarations stand.
-/

namespace GoIdl

open Syntax (SourceFile)

variable {disk : Disk} {strict : Prop} {least : Nat} {w : World}

namespace Compile

theorem finalize_mimics (options : Options) :
    Mimics disk strict (World.Alike least) Eq (finalize options) (finalize options) where
  ok alike _ _ run := by
    cases run
    refine ⟨_, _, rfl, ?_, ?_, alike.declared, alike.enough⟩
    · rw [alike.session]
    · exact congrArg (fun s => (s.finalize options.packageName options.params).session) alike.session
  failed _ _ _ _ run := nomatch run

theorem finish_mimics (options : Options) (packages : Nat) :
    Mimics disk strict (World.Alike least) Eq (finish options packages)
      (finish options packages) := by
  refine .bind (finalize_mimics options) fun definition _ agreed => ?_
  subst agreed
  constructor
  · intro u u' alike a v run
    cases run
    exact ⟨_, _, rfl, by rw [alike.session], alike⟩
  · exact fun _ _ _ _ run => nomatch run

end Compile

/-! ### Forming packages -/

namespace Loading

theorem form_mimics {files files' : List SourceFile} (regrouped : Regrouped True Nothing files files') :
    ((form files none none none).runOn disk w).1.isOk →
      ∃ p p' u u', (form files none none none).runOn disk w = (.ok p, u) ∧
        (form files' none none none).runOn disk w = (.ok p', u') ∧
        Twins True Nothing p p' ∧ World.Alike 0 u u' := by
  intro ok
  rw [form_run] at ok ⊢
  rw [form_run]
  cases formed : Package.ofFiles w.loader.packages.length files none none none with
  | error error =>
    rw [formed] at ok
    cases ok
  | ok p =>
    obtain ⟨p', formed', twins, lengths⟩ := Package.twins_of_regrouped regrouped formed
    rw [formed']
    refine ⟨p, p', _, _, rfl, rfl, twins, rfl, ?_, Nat.zero_le _⟩
    simp only [Loader.declared, List.foldr_append, List.foldr_cons, List.foldr_nil, lengths]

end Loading

namespace Compile

/-- What becomes of the package that files form in memory. -/
def assemble (files : List SourceFile) (options : Options) : Compile Definition := do
  let package ← Loading.form files none none none
  Extract.package (exclusionsOf options) package
  finalize options

/-- Whatever the order of files and of the declarations in each of them, they form a package or
none, and what becomes of it is one definition or one error. -/
theorem order_irrelevant {files same files' : List SourceFile}
    (reordered : List.Forall₂ (fun file file' =>
      ∃ types, file.types.Perm types ∧ file' = { file with types }) files same)
    (perm : same.Perm files') (options : Options) (disk : Disk) (w : World) :
    ((Loading.form files none none none).runOn disk w).1.isOk =
        ((Loading.form files' none none none).runOn disk w).1.isOk ∧
      (((Loading.form files none none none).runOn disk w).1.isOk →
        ((assemble files options).runOn disk w).1 = ((assemble files' options).runOn disk w).1) := by
  have regrouped : Regrouped True Nothing files files' := by
    refine ⟨same, reordered.imp ?_, perm⟩
    rintro file _ ⟨types, perm, rfl⟩
    exact .of_perm rfl rfl perm fun _ => rfl
  have formed : ∀ {files files' : List SourceFile}, Regrouped True Nothing files files' →
      ((Loading.form files none none none).runOn disk w).1.isOk →
        ((Loading.form files' none none none).runOn disk w).1.isOk := by
    intro files files' regrouped ok
    obtain ⟨p, p', u, u', -, run', -⟩ := Loading.form_mimics regrouped ok
    rw [run']
    rfl
  refine ⟨Bool.eq_iff_iff.mpr ⟨formed regrouped, formed regrouped.flip⟩, fun ok => ?_⟩
  obtain ⟨p, p', u, u', run, run', twins, alike⟩ := Loading.form_mimics regrouped ok
  have extracted : Mimics disk True (World.Alike 0) Eq
      (do Extract.package (exclusionsOf options) p; finalize options)
      (do Extract.package (exclusionsOf options) p'; finalize options) :=
    .bind (Extract.package_mimics (Resolve.readable_in_step twins) _) fun _ _ _ =>
      finalize_mimics options
  rw [assemble, assemble, runOn_bind, runOn_bind, run, run']
  exact extracted.outcome_eq alike

/-- A struct with a field whose type is an alias for a list of structs of another file. -/
def users : SourceFile :=
  { path := "a.go", pos := ⟨1, 1⟩, package := "a", imports := []
    types := [
      ⟨⟨2, 6⟩, "S", .struct ⟨2, 8⟩
        [⟨⟨2, 16⟩, "F", .named ⟨⟨2, 18⟩, none, "L"⟩, none, false, ""⟩], false, ""⟩,
      ⟨⟨3, 6⟩, "L", .slice ⟨3, 10⟩ (.named ⟨⟨3, 12⟩, none, "N"⟩), true, ""⟩] }

def used : SourceFile :=
  { path := "b.go", pos := ⟨1, 1⟩, package := "a", imports := []
    types := [⟨⟨2, 6⟩, "N", .struct ⟨2, 8⟩ [], false, ""⟩] }

theorem order_irrelevant_exchanged :
    ((Loading.form [users, used] none none none).runOn ⟨[], []⟩ {}).1.isOk = true ∧
      ((assemble [users, used] {}).runOn ⟨[], []⟩ {}).1 =
        ((assemble [used, { users with types := users.types.reverse }] {}).runOn ⟨[], []⟩ {}).1 := by
  have reordered : List.Forall₂ (fun file file' : SourceFile =>
      ∃ types, file.types.Perm types ∧ file' = { file with types }) [users, used]
      [{ users with types := users.types.reverse }, used] :=
    .cons ⟨_, (List.reverse_perm _).symm, rfl⟩ (.cons ⟨_, .refl _, rfl⟩ .nil)
  have formed : ((Loading.form [users, used] none none none).runOn ⟨[], []⟩ {}).1.isOk = true := by
    decide +kernel
  exact ⟨formed, (order_irrelevant reordered (.swap ..) {} ⟨[], []⟩ {}).2 formed⟩

end Compile

end GoIdl
