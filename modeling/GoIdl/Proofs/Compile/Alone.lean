import GoIdl.Proofs.Compile.Reordering

/-!
# Packages that are loaded alone

What is compiled from one package alone depends on the package only, and not on the way it has been
loaded. Packages that read alike come to the same definition with the same statistics.
-/

namespace GoIdl

open Syntax (SourceFile TypeExpr)

variable {disk : Disk} {sources : List (String × String)} {p p' : Package} {u u' : World}
  {options : Options} {least : Nat} {stands : TypeExpr → TypeExpr → Prop}
  {formed formed' : Package → Prop}

/-- Worlds in which this package alone has been loaded, and nothing else has happened. -/
structure World.Alone (p : Package) (u : World) : Prop where
  session : u.session = {}
  packages : u.loader.packages = [p]

theorem World.Alone.declared (alone : u.Alone p) : u.loader.declared = p.scope.length := by
  rw [Loader.declared, alone.packages]
  rfl

namespace Loading

/-- From nothing loaded, this loads one package alone, if it can be formed. -/
structure LoadsAlone (disk : Disk) (c : Compile Package) (formed : Package → Prop) : Prop where
  ok : ∀ p, formed p → ∃ u, c.runOn disk {} = (.ok p, u) ∧ u.Alone p
  failed : (∀ p, ¬ formed p) → ∃ failure u, c.runOn disk {} = (.error failure, u)

theorem loadSources_run (disk : Disk) (sources : List (String × String)) :
    (loadSources sources).runOn disk {} =
      match sources.mapM fun s => Syntax.Source.read s.1 s.2 with
      | .error failure => (.error failure, {})
      | .ok files =>
        match Package.ofFiles 0 files none none none with
        | .error error => (.error (.definition error), {})
        | .ok p => (.ok p,
          { loader := { packages := [p] }
            log := [⟨.debug, .loading,
              s!"loaded in-memory package {p.name} ({files.length} files)"⟩] }) := by
  cases sources with
  | nil => rfl
  | cons source rest =>
    show ((source :: rest).mapM (fun s => Compile.ofExcept (Syntax.Source.read s.1 s.2)) >>=
      _).runOn disk {} = _
    rw [Compile.runOn_bind, Compile.runOn_mapM_ofExcept]
    cases (source :: rest).mapM fun s => Syntax.Source.read s.1 s.2 with
    | error failure => rfl
    | ok files =>
      dsimp only
      have serial : ({} : World).loader.packages.length = 0 := rfl
      rw [Compile.runOn_bind, form_run, serial]
      cases Package.ofFiles 0 files none none none <;> rfl

theorem loadSources_eq_ok (loading : (loadSources sources).runOn disk {} = (.ok p, u)) :
    ∃ files, sources.mapM (fun s => Syntax.Source.read s.1 s.2) = .ok files ∧
      Package.ofFiles 0 files none none none = .ok p ∧ u.Alone p := by
  rw [loadSources_run] at loading
  split at loading
  · cases loading
  · rename_i files read
    split at loading
    · cases loading
    · rename_i formed
      cases loading
      exact ⟨files, read, formed, rfl, rfl⟩

theorem loadSources_alone (disk : Disk) (sources : List (String × String)) :
    LoadsAlone disk (loadSources sources) fun p =>
      ∃ files, sources.mapM (fun s => Syntax.Source.read s.1 s.2) = .ok files ∧
        Package.ofFiles 0 files none none none = .ok p where
  ok := by
    rintro p ⟨files, read, formed⟩
    rw [loadSources_run, read]
    dsimp only
    rw [formed]
    exact ⟨_, rfl, rfl, rfl⟩
  failed := by
    intro none
    rw [loadSources_run]
    split
    · exact ⟨_, _, rfl⟩
    · rename_i files read
      split
      · exact ⟨_, _, rfl⟩
      · rename_i p formed
        exact absurd ⟨files, read, formed⟩ (none p)

end Loading

namespace Compile

/-- What becomes of a package that has been loaded alone. -/
def ofPackage (p : Package) (options : Options) : Compile Compiled := do
  Extract.package (exclusionsOf options) p
  finish options 1

/-- From nothing loaded, this compiles one package alone, if it can be formed. -/
structure CompilesAlone (disk : Disk) (c : Compile Compiled) (options : Options)
    (formed : Package → Prop) : Prop where
  ok : ∀ p, formed p →
    ∃ u, (c.runOn disk {}).1 = ((ofPackage p options).runOn disk u).1 ∧ u.Alone p
  failed : (∀ p, ¬ formed p) → ∃ failure u, c.runOn disk {} = (.error failure, u)

theorem sources_compiled (disk : Disk) (sources : List (String × String)) (options : Options) :
    CompilesAlone disk (Compile.sources sources options) options fun p =>
      ∃ files, sources.mapM (fun s => Syntax.Source.read s.1 s.2) = .ok files ∧
        Package.ofFiles 0 files none none none = .ok p where
  ok p formed := by
    obtain ⟨u, loaded, alone⟩ := (Loading.loadSources_alone disk sources).ok p formed
    refine ⟨u, ?_, alone⟩
    simp only [Compile.sources, compile, extract, ofPackage, bind_assoc, pure_bind]
    rw [runOn_bind, loaded]
  failed none := by
    obtain ⟨failure, u, refused⟩ := (Loading.loadSources_alone disk sources).failed none
    simp only [Compile.sources, compile, extract, bind_assoc]
    rw [runOn_bind, refused]
    exact ⟨failure, u, rfl⟩

/-- Packages that read alike, the one as the other. -/
structure Interchangeable (disk : Disk) (p p' : Package) : Prop where
  lengths : p.scope.length = p'.scope.length
  forth : ∃ stands, Resolve.Readable disk p.scope.length False stands p p'
  back : ∃ stands, Resolve.Readable disk p.scope.length False stands p' p

theorem ofPackage_mimics (readable : Resolve.Readable disk least False stands p p') :
    Mimics disk False (World.Alike least) Eq (ofPackage p options) (ofPackage p' options) :=
  .bind (Extract.package_mimics readable _) fun _ _ _ => finish_mimics options 1

theorem ofPackage_agrees (interchangeable : Interchangeable disk p p') (alone : u.Alone p)
    (alone' : u'.Alone p') :
    ((ofPackage p options).runOn disk u).1.toOption =
      ((ofPackage p' options).runOn disk u').1.toOption := by
  obtain ⟨lengths, ⟨_, forth⟩, ⟨_, back⟩⟩ := interchangeable
  have alike : World.Alike p.scope.length u u' := by
    refine ⟨alone.session.trans alone'.session.symm, ?_, Nat.le_of_eq alone.declared.symm⟩
    rw [alone.declared, alone'.declared, lengths]
  exact (ofPackage_mimics forth).answer_eq (ofPackage_mimics back) alike alike.symm

/-- Where interchangeable packages are formed, or none, one compiles the same. -/
theorem agree {c c' : Compile Compiled} (compiles : CompilesAlone disk c options formed)
    (compiles' : CompilesAlone disk c' options formed')
    (forth : ∀ p, formed p → ∃ p', formed' p' ∧ Interchangeable disk p p')
    (back : ∀ p', formed' p' → ∃ p, formed p) :
    (c.runOn disk {}).1.toOption = (c'.runOn disk {}).1.toOption := by
  by_cases any : ∃ p, formed p
  · obtain ⟨p, made⟩ := any
    obtain ⟨p', made', interchangeable⟩ := forth p made
    obtain ⟨u, run, alone⟩ := compiles.ok p made
    obtain ⟨u', run', alone'⟩ := compiles'.ok p' made'
    rw [run, run']
    exact ofPackage_agrees interchangeable alone alone'
  · obtain ⟨failure, u, refused⟩ := compiles.failed fun p made => any ⟨p, made⟩
    obtain ⟨failure', u', refused'⟩ := compiles'.failed fun p' made' => any (back p' made')
    rw [refused, refused']
    rfl

end Compile

end GoIdl
