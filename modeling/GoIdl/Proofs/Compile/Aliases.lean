import GoIdl.Proofs.Compile.Alone

/-!
# Aliases may be replaced

Inside the types of named fields and of parameters and results of methods, it makes no difference
whether the name of an alias stands there or what the alias stands for.
-/

namespace GoIdl

open Syntax (TypeExpr TypeName TypeSpec SourceFile Matches SameShape)

variable {α : Type} {disk : Disk} {worlds : World → World → Prop}
  {stands : TypeExpr → TypeExpr → Prop} {p p' : Package} {ctx ctx' : Context}
  {expr expr' : TypeExpr} {file file' : SourceFile}

/-- `a` is the name of an alias and `b` what the alias stands for, up to positions. -/
def Unfolds (p : Package) (a b : TypeExpr) : Prop :=
  ∃ name d, a = .named name ∧ name.qualifier = none ∧ p.lookup name.name = some d ∧
    d.spec.isAlias = true ∧ SameShape False Nothing false d.spec.type b

/-- Twin packages of one file each, in which aliases are replaced here or there. -/
structure Unfolding (stands : TypeExpr → TypeExpr → Prop) (p p' : Package) : Prop extends
    Twins False stands p p' where
  imports : ∀ file ∈ p.files, ∀ file' ∈ p'.files, file.imports = file'.imports
  unfolds : ∀ a b, stands a b → Unfolds p a b ∨ Unfolds p' b a

namespace Unfolding

theorem flip (unfolding : Unfolding stands p p') : Unfolding (flip stands) p' p where
  toTwins := unfolding.toTwins.flip
  imports file member file' member' := (unfolding.imports file' member' file member).symm
  unfolds a b stand := (unfolding.unfolds b a stand).symm

theorem contexts (unfolding : Unfolding stands p p') (package : ctx.package = p)
    (member : ctx.file ∈ p.files) (package' : ctx'.package = p') (member' : ctx'.file ∈ p'.files) :
    ContextsAlike False p p' ctx ctx' :=
  ⟨package, package', member, member', unfolding.imports _ member _ member', nofun⟩

end Unfolding

namespace Resolve

/-- A name of the package itself is looked up without loading anything. -/
theorem lookupDeclared_found {name : TypeName} {d : DeclaredType} (package : ctx.package = p)
    (plain : name.qualifier = none) (found : p.lookup name.name = some d) (u : World) :
    (lookupDeclared name ctx).runOn disk u = (.ok (some d), u) := by
  subst package
  unfold lookupDeclared lookup Loading.resolveName
  rw [plain, found]
  rfl

variable {rel : Likeness α} {visit : Visit α} (regular : Regular disk rel visit)

include regular

/-- With twice as many levels one gets through without the guard: every replaced name takes one level
more or less, and what it stands for contains no other. -/
theorem guarded_unguarded (unfolding : Unfolding stands p p') {fuel levels : Nat}
    (enough : 2 * fuel ≤ levels) (seen : List (String × String))
    (alike : ContextsAlike False p p' ctx ctx') (matched : Matches False stands true expr expr') :
    Mimics disk False worlds (rel False stands p p') (guarded visit fuel seen ctx expr)
      (unguarded visit levels ctx' expr') := by
  induction fuel generalizing levels seen ctx ctx' expr expr' with
  | zero => exact .never fun u a v run => nomatch run
  | succ fuel ih =>
    obtain ⟨levels, rfl⟩ : ∃ k, levels = k + 1 := ⟨levels - 1, by omega⟩
    have onward : ∀ {k : Nat}, 2 * fuel ≤ k → ∀ d d' : DeclaredType,
        TypesAlike False stands p p' d d' → Mimics disk False worlds (rel False stands p p')
          (if seen.contains d.key then aliasCycle d
            else guarded visit fuel (d.key :: seen) d.context d.spec.type)
          (unguarded visit k d'.context d'.spec.type) := by
      intro k enough d d' same
      split
      · exact .never fun u a v run => nomatch run
      · exact ih enough _ same.context same.type
    refine regular.mimics unfolding.toTwins (onward (by omega)) (fun _ _ => id)
      (fun a b stand => ?_) alike matched
    rcases unfolding.unfolds a b stand with
      ⟨name, d, rfl, plain, found, isAlias, same⟩ | ⟨name, d, rfl, plain, found, isAlias, same⟩
    · -- the alias is left here: what it stands for takes fewer levels here
      obtain ⟨package, member⟩ := unfolding.holds found
      have unfolded : Mimics disk False worlds (rel False stands p p')
          (if seen.contains d.key then aliasCycle d
            else guarded visit fuel (d.key :: seen) d.context d.spec.type)
          (unguarded visit (levels + 1) ctx' b) := by
        split
        · exact .never fun u a v run => nomatch run
        · exact ih (by omega) _ (unfolding.contexts package member alike.package' alike.member')
            (Matches.within (.shape (same.mono (fun _ _ => False.elim) id)))
      exact .of_runs unfolded
        (fun u => regular.atAlias (lookupDeclared_found alike.package plain found) isAlias u)
        fun _ => rfl
    · -- the alias is left there, where what it stands for takes another level
      obtain ⟨package, member⟩ := unfolding.toTwins.flip.holds found
      obtain ⟨levels, rfl⟩ : ∃ k, levels = k + 1 := ⟨levels - 1, by omega⟩
      refine .of_runs ?_ (fun _ => rfl)
        fun u => regular.atAlias (lookupDeclared_found alike.package' plain found) isAlias u
      exact regular.mimics unfolding.toTwins (onward (by omega)) (fun _ _ => False.elim)
        (fun _ _ => False.elim) (unfolding.contexts alike.package alike.member package member)
        (Matches.within (.shape same.flip))

theorem guarded_unfolded (unfolding : Unfolding stands p p')
    (alike : ContextsAlike False p p' ctx ctx') (matched : Matches False stands true expr expr') :
    Mimics disk False (World.Alike p'.scope.length) (rel False stands p p')
      (do guarded visit (← Compile.depth) [] ctx expr)
      (do guarded visit (← Compile.depth) [] ctx' expr') where
  ok := by
    intro u u' worlds a v run
    rw [Compile.depth_bind] at run
    have passes : Mimics disk False (fun w w' => w = u ∧ w' = u') (rel False stands p p')
        (guarded visit (u.loader.declared + disk.size + 2) [] ctx expr)
        (unguarded visit (2 * (u.loader.declared + disk.size + 2)) ctx' expr') :=
      guarded_unguarded regular unfolding (Nat.le_refl _) [] alike matched
    obtain ⟨b, v', run', related, rfl, rfl⟩ := passes.ok ⟨rfl, rfl⟩ run
    have enough : p'.scope.length < v'.loader.declared + disk.size + 2 := by
      have most := worlds.symm.enough
      omega
    have context : ContextsAlike False p' p' ctx' ctx' :=
      ⟨alike.package', alike.package', alike.member', alike.member', rfl, nofun⟩
    refine ⟨b, v', ?_, related, worlds⟩
    rw [Compile.depth_bind]
    exact guarded_of_unguarded regular unfolding.alone context enough run'
  failed _ counts := counts.elim

omit regular in
theorem readable_unfolded (unfolding : Unfolding stands p p') :
    Readable disk p'.scope.length False stands p p' where
  toTwins := unfolding.toTwins
  expands matched alike := by
    simp only [expandAliases, followAliases_eq]
    exact guarded_unfolded head_regular unfolding alike matched
  renders matched alike := by
    simp only [render, renderInside_eq]
    exact guarded_unfolded renderWith_regular unfolding alike matched

end Resolve

/-! ### Files -/

/-- What may stand for an alias: what the alias stands for, up to positions. -/
def InPlaceOf (spec : TypeSpec) (a b : TypeExpr) : Prop :=
  ∃ name, a = .named name ∧ name.qualifier = none ∧ name.name = spec.name ∧
    SameShape False Nothing false spec.type b

/-- Some occurrences of the name of an alias, inside the types of named fields and of parameters and
results of methods, have been replaced by what the alias stands for. Positions may differ. -/
structure Replaced (spec : TypeSpec) (file file' : SourceFile) : Prop where
  package : file.package = file'.package
  imports : file.imports = file'.imports
  types : List.Forall₂ (SpecsAlike False (InPlaceOf spec)) file.types file'.types

variable {spec : TypeSpec}

theorem Replaced.regrouped (replaced : Replaced spec file file') :
    Regrouped False (InPlaceOf spec) [file] [file'] :=
  ⟨[file'], .cons ⟨replaced.package, replaced.imports, ⟨_, .refl _, replaced.types⟩, nofun⟩ .nil,
    .refl _⟩

theorem Replaced.unfolding (replaced : Replaced spec file file') (declared : spec ∈ file.types)
    (isAlias : spec.isAlias = true) (named : spec.name ≠ "_")
    (formed : Package.ofFiles 0 [file] none none none = .ok p) :
    ∃ p', Package.ofFiles 0 [file'] none none none = .ok p' ∧ Unfolding (InPlaceOf spec) p p' ∧
      p.scope.length = p'.scope.length := by
  obtain ⟨p', formed', twins, lengths⟩ := Package.twins_of_regrouped replaced.regrouped formed
  obtain ⟨-, _, -, distinct, made⟩ := Package.ofFiles_eq_ok.mp formed
  obtain ⟨-, _, -, -, made'⟩ := Package.ofFiles_eq_ok.mp formed'
  have found : p.lookup spec.name = some ⟨p, spec, file⟩ := by
    have scope : p.scope = Package.declarations [file] := by rw [made]
    refine (Package.lookup_eq_some_iff (scope ▸ distinct)).mpr ⟨rfl, ?_⟩
    rw [scope]
    exact Package.mem_declarations_iff.mpr ⟨List.mem_singleton_self file, declared, named, rfl⟩
  refine ⟨p', formed', ⟨twins, fun f member f' member' => ?_, fun a b stand => .inl ?_⟩, lengths⟩
  · rw [made] at member
    rw [made'] at member'
    rw [List.mem_singleton.mp member, List.mem_singleton.mp member', replaced.imports]
  · obtain ⟨name, rfl, plain, same, shape⟩ := stand
    exact ⟨name, _, rfl, plain, same ▸ found, isAlias, shape⟩

namespace Compile

/-- Whether the name of an alias is written or what it stands for, there is one definition with its
statistics, or none. -/
theorem alias_transparent (declared : spec ∈ file.types) (isAlias : spec.isAlias = true)
    (named : spec.name ≠ "_") (replaced : Replaced spec file file') {name name' text text' : String}
    (read : Syntax.Source.read name text = .ok file)
    (read' : Syntax.Source.read name' text' = .ok file') (options : Options) (disk : Disk) :
    ((Compile.sources [(name, text)] options).runOn disk {}).1.toOption =
      ((Compile.sources [(name', text')] options).runOn disk {}).1.toOption := by
  have files : ∀ {name text file}, Syntax.Source.read name text = .ok file →
      ∀ files, [(name, text)].mapM (fun s => Syntax.Source.read s.1 s.2) = .ok files ↔
        files = [file] := by
    intro name text file read files
    rw [mapM_eq_ok, List.forall₂_cons_left_iff]
    simp [read, eq_comm]
  refine agree (sources_compiled disk _ options) (sources_compiled disk _ options) ?_ ?_
  · rintro p ⟨_, read₀, formed⟩
    cases (files read _).mp read₀
    obtain ⟨p', formed', unfolding, lengths⟩ :=
      replaced.unfolding declared isAlias named formed
    exact ⟨p', ⟨_, (files read' _).mpr rfl, formed'⟩, lengths,
      ⟨_, lengths ▸ Resolve.readable_unfolded unfolding⟩,
      ⟨_, Resolve.readable_unfolded unfolding.flip⟩⟩
  · rintro p' ⟨_, read₀, formed'⟩
    cases (files read' _).mp read₀
    obtain ⟨p, formed, -⟩ := Package.twins_of_regrouped replaced.regrouped.flip formed'
    exact ⟨p, _, (files read _).mpr rfl, formed⟩

/-- An alias, and a struct with one field. -/
def oneField (name behind type : String) : String :=
  s!"package a; type {name} = {behind}; type S struct\x7b F {type} \x7d"

def oneFieldFile (name : String) (behind type : TypeExpr) : SourceFile where
  path := "a.go"
  pos := ⟨1, 1⟩
  package := "a"
  imports := []
  types := [⟨⟨1, 17⟩, name, behind, true, ""⟩,
    ⟨⟨1, 31⟩, "S", .struct ⟨1, 33⟩ [⟨⟨1, 41⟩, "F", type, none, false, ""⟩], false, ""⟩]

theorem oneFieldFile_replaced (name : String) (pos : Syntax.Position) {behind type : TypeExpr}
    (same : SameShape False Nothing false behind type) :
    Replaced ⟨⟨1, 17⟩, name, behind, true, ""⟩
      (oneFieldFile name behind (.named ⟨pos, none, name⟩)) (oneFieldFile name behind type) := by
  have stands : InPlaceOf ⟨⟨1, 17⟩, name, behind, true, ""⟩ (.named ⟨pos, none, name⟩) type :=
    ⟨_, rfl, rfl, rfl, same⟩
  exact ⟨rfl, rfl, .cons (.refl _) (.cons ⟨rfl, rfl, rfl, nofun,
    .struct (.cons rfl (.inr rfl) rfl rfl nofun (.stands stands) .nil)⟩ .nil)⟩

theorem alias_transparent_slice :
    ((Compile.sources [("a.go", oneField "A" "[]S" "A")] {}).runOn ⟨[], []⟩ {}).1.toOption.isSome ∧
      ((Compile.sources [("a.go", oneField "A" "[]S" "A")] {}).runOn ⟨[], []⟩ {}).1.toOption =
        ((Compile.sources [("a.go", oneField "A" "[]S" "[]S")] {}).runOn ⟨[], []⟩ {}).1.toOption := by
  have read : Syntax.Source.read "a.go" (oneField "A" "[]S" "A") =
      .ok (oneFieldFile "A" (.slice ⟨1, 21⟩ (.named ⟨⟨1, 23⟩, none, "S"⟩))
        (.named ⟨⟨1, 43⟩, none, "A"⟩)) := rfl
  have read' : Syntax.Source.read "a.go" (oneField "A" "[]S" "[]S") =
      .ok (oneFieldFile "A" (.slice ⟨1, 21⟩ (.named ⟨⟨1, 23⟩, none, "S"⟩))
        (.slice ⟨1, 43⟩ (.named ⟨⟨1, 45⟩, none, "S"⟩))) := rfl
  have replaced := oneFieldFile_replaced "A" ⟨1, 43⟩
    (.slice (.shape (.named ⟨rfl, rfl, nofun⟩)) :
      SameShape False Nothing false (.slice ⟨1, 21⟩ (.named ⟨⟨1, 23⟩, none, "S"⟩))
        (.slice ⟨1, 43⟩ (.named ⟨⟨1, 45⟩, none, "S"⟩)))
  exact ⟨by decide +kernel,
    alias_transparent List.mem_cons_self rfl (by decide) replaced read read' {} ⟨[], []⟩⟩

/-- What the blank name is an alias for can be written, but not the blank name. -/
theorem blank_alias_not_transparent :
    (∃ file file', ∃ spec ∈ file.types, spec.isAlias = true ∧ Replaced spec file file' ∧
      Syntax.Source.read "a.go" (oneField "_" "int" "_") = .ok file ∧
      Syntax.Source.read "a.go" (oneField "_" "int" "int") = .ok file') ∧
    ((Compile.sources [("a.go", oneField "_" "int" "_")] {}).runOn ⟨[], []⟩ {}).1.toOption = none ∧
    ((Compile.sources [("a.go", oneField "_" "int" "int")] {}).runOn ⟨[], []⟩ {}).1.toOption ≠
      none := by
  refine ⟨⟨oneFieldFile "_" (.named ⟨⟨1, 21⟩, none, "int"⟩) (.named ⟨⟨1, 43⟩, none, "_"⟩),
    oneFieldFile "_" (.named ⟨⟨1, 21⟩, none, "int"⟩) (.named ⟨⟨1, 43⟩, none, "int"⟩), _,
    List.mem_cons_self, rfl, oneFieldFile_replaced "_" ⟨1, 43⟩ (.named ⟨rfl, rfl, nofun⟩),
    rfl, rfl⟩, ?_, ?_⟩
  · decide +kernel
  · decide +kernel

end Compile

end GoIdl
