import GoIdl.Proofs.Compile.Peeling
import GoIdl.Proofs.Package.Budget

/-!
# Recursion along declarations ends

Every recursion along declarations refuses a declaration that it has come through already, and all
declarations that can be met are in the budget of the loader. So recursion never goes deeper than it
may: what ends a computation that resolves is accounted for by its input.
-/

namespace GoIdl

open Syntax (TypeExpr TypeName Param FieldDecl MethodDecl SourceFile ImportSpec Location)
open Disk (Path)

variable {α β : Type} {disk : Disk} {u v w : World} {l l' : Loader} {ctx : Context} {expr : TypeExpr}
  {d : DeclaredType} {seen : List (String × String)} {fuel : Nat}

/-- A failure that the input accounts for: an error in the definitions, a character or a number that
is out of bounds, a module file that is no text, or a path that the disk refuses. -/
def Failure.OfInput : Failure → Prop
  | .definition _ | .escape _ | .literal _ _ | .tooManyDigits _ | .decoding _ | .disk _ => True
  | .template _ | .noValue _ | .tooDeep => False

/-! ### Outcomes that are read off -/

/-- If it fails, the input accounts for it. -/
structure Blames (outcome : Except Failure α) : Prop where
  ofInput : ∀ failure, outcome = .error failure → failure.OfInput

namespace Blames

theorem ok (a : α) : Blames (.ok a) := ⟨by simp⟩

theorem error {failure : Failure} (ofInput : failure.OfInput) :
    Blames (.error failure : Except Failure α) := ⟨fun _ same => Except.error.inj same ▸ ofInput⟩

theorem bind {outcome : Except Failure α} {f : α → Except Failure β} (first : Blames outcome)
    (later : ∀ a, Blames (f a)) : Blames (outcome >>= f) := by
  cases outcome with
  | error failure => exact .error (first.ofInput failure rfl)
  | ok a => exact later a

theorem mapM {f : α → Except Failure β} (xs : List α) (each : ∀ x, Blames (f x)) :
    Blames (xs.mapM f) := by
  induction xs with
  | nil => exact .ok _
  | cons x rest ih =>
    rw [List.mapM_cons]
    exact .bind (each x) fun _ => .bind ih fun _ => .ok _

end Blames

theorem Disk.leadsTo_blames (test : Disk.Node → Bool) (p : Path) : Blames (disk.leadsTo test p) := by
  unfold Disk.leadsTo Disk.passes
  split
  · exact .ok _
  · exact .error trivial
  · exact .ok _

theorem Disk.readText_blames (p : Path) : Blames (disk.readText p) := by
  unfold Disk.readText
  split
  · exact .error trivial
  · split
    · exact .ok _
    · exact .error trivial

theorem Syntax.Source.ofPath_blames (path : Path) (text : String) :
    Blames (Syntax.Source.ofPath path text) := by
  refine .bind ?_ fun parsed => .bind ?_ fun _ => .ok _
  · unfold parse
    dsimp only
    cases Parser.parse (Parser.withoutMark text.toList) with
    | error fault => exact .error trivial
    | ok parsed => exact .ok _
  · cases parsed.file with
    | error fault => cases fault <;> exact .error trivial
    | ok file => exact .ok _

namespace Loading

theorem readFile_blames (path : Path) : Blames (readFile disk path) := by
  refine .bind ?_ fun text => Syntax.Source.ofPath_blames path text
  unfold readText
  split
  · exact .error trivial
  · split
    · exact .ok _
    · exact .error trivial

theorem findModule_blames (directory : Path) : Blames (findModule disk directory) := by
  unfold findModule
  induction (disk.resolve directory).selfAndParents with
  | nil => exact .ok _
  | cons directory rest ih =>
    refine .bind (.bind (Disk.leadsTo_blames ..) fun isFile => ?_) fun found => ?_
    · split
      · refine .bind (Disk.readText_blames _) fun text => ?_
        split
        · exact .ok _
        · exact .error trivial
      · exact .ok _
    · split
      · exact .ok _
      · exact ih

end Loading

/-! ### Computations that load -/

/-- Whatever its outcome, `c` notes only what it loads, and what ends it is accounted for by the
input. -/
structure Loads (c : Compile α) : Prop where
  run : ∀ disk u, Blames (c.runOn disk u).1 ∧ ∃ more, (c.runOn disk u).2.log = u.log ++ more ∧
    ∀ entry ∈ more, entry.source = .loading

namespace Loads

variable {c : Compile α} {f : α → Compile β}

theorem of_outcome {outcome : Except Failure α} (blames : Blames outcome) :
    Loads (Compile.ofExcept outcome) := by
  cases outcome with
  | error failure => exact ⟨fun _ u => ⟨blames, [], (List.append_nil _).symm, by simp⟩⟩
  | ok a => exact ⟨fun _ u => ⟨.ok a, [], (List.append_nil _).symm, by simp⟩⟩

theorem pure (a : α) : Loads (pure a : Compile α) := of_outcome (.ok a)

theorem fail (error : DefinitionError) : Loads (Compile.fail error : Compile α) := by
  have blames : Blames (.error (.definition error) : Except Failure α) := .error trivial
  exact of_outcome blames

theorem ensure (condition : Bool) (error : DefinitionError) :
    Loads (Compile.ensure condition error) := by
  unfold Compile.ensure
  split
  · exact .pure ()
  · exact .fail _

theorem bind (first : Loads c) (later : ∀ a, Loads (f a)) : Loads (c >>= f) := by
  refine ⟨fun disk u => ?_⟩
  obtain ⟨blamed, more, noted, loading⟩ := first.run disk u
  rw [Compile.runOn_bind]
  generalize c.runOn disk u = run at blamed noted
  obtain ⟨outcome, v⟩ := run
  cases outcome with
  | error failure => exact ⟨.error (blamed.ofInput failure rfl), more, noted, loading⟩
  | ok a =>
    obtain ⟨blamed', more', noted', loading'⟩ := (later a).run disk v
    refine ⟨blamed', more ++ more', ?_, ?_⟩
    · rw [noted', show v.log = u.log ++ more from noted, List.append_assoc]
    · intro entry member
      exact (List.mem_append.mp member).elim (loading entry) (loading' entry)

theorem read_bind {f : Disk → Compile β} (later : ∀ disk, Loads (f disk)) : Loads (read >>= f) :=
  ⟨fun disk u => (later disk).run disk u⟩

theorem loader_bind {f : Loader → Compile β} (later : ∀ l, Loads (f l)) :
    Loads (Compile.loader >>= f) :=
  ⟨fun disk u => (later u.loader).run disk u⟩

theorem modifyLoader (change : Loader → Loader) : Loads (Compile.modifyLoader change) :=
  ⟨fun _ u => ⟨.ok (), [], (List.append_nil _).symm, by simp⟩⟩

theorem note (level : LogLevel) (message : String) :
    Loads (Compile.note level .loading message) :=
  ⟨fun _ u => ⟨.ok (), _, rfl, by simp⟩⟩

theorem mapM {f : α → Compile β} (xs : List α) (each : ∀ x, Loads (f x)) : Loads (xs.mapM f) := by
  induction xs with
  | nil => exact .pure _
  | cons x rest ih =>
    rw [List.mapM_cons]
    exact .bind (each x) fun _ => .bind ih fun _ => .pure _

end Loads

namespace Loading

theorem loadDirectory_loads (directory : Path) : Loads (loadDirectory directory) := by
  have formed : ∀ files path directory module, Loads (form files path directory module) := by
    intro files path directory module
    refine .loader_bind fun l => .bind ?_ fun _ => .bind (.modifyLoader _) fun _ => .pure _
    cases Package.ofFiles l.packages.length files path directory module with
    | error error => exact .fail error
    | ok package => exact .pure package
  have located : ∀ directory, Loads (moduleOf directory) := by
    intro directory
    unfold moduleOf
    split
    · exact .read_bind fun _ => .of_outcome (findModule_blames _)
    · exact .pure _
  refine .read_bind fun disk => .bind (.of_outcome (Disk.leadsTo_blames ..)) fun _ =>
    .bind (.ensure ..) fun _ => .loader_bind fun _ => ?_
  split
  · exact .pure _
  · refine .bind (.ensure ..) fun _ => .bind ?_ fun _ => .bind (.modifyLoader _) fun _ => .pure _
    exact .read_bind fun disk => .bind (.mapM _ fun _ => .of_outcome (readFile_blames _)) fun _ =>
      .bind (located _) fun _ => .bind (formed ..) fun _ => .bind (.modifyLoader _) fun _ =>
        .bind (.note ..) fun _ => .pure _

theorem loadImport_loads (importer : Package) (path : String) (location : Location) :
    Loads (loadImport importer path location) := by
  refine .read_bind fun disk => .loader_bind fun _ => ?_
  split
  · exact .pure _
  · split
    · exact .fail _
    · exact .bind (.of_outcome (Disk.leadsTo_blames ..)) fun _ => .bind (.ensure ..) fun _ =>
        .bind (loadDirectory_loads _) fun _ => .bind (.modifyLoader _) fun _ => .pure _

end Loading

theorem Asking.loads {c : Compile α} (asking : Asking c) : Loads c := by
  induction asking with
  | pure a => exact .pure a
  | fail error => exact .fail error
  | «import» importer path location => exact Loading.loadImport_loads importer path location
  | bind _ _ first later => exact .bind first later

/-! ### Computations that resolve -/

namespace Resolving

variable {c : Compile α} {a : α}

theorem notes (resolving : Resolving c) (disk : Disk) (u : World) :
    ∃ more, (c.runOn disk u).2.log = u.log ++ more ∧ ∀ entry ∈ more, entry.source = .loading := by
  induction resolving generalizing u with
  | pure a => exact ⟨[], (List.append_nil _).symm, by simp⟩
  | throw failure => exact ⟨[], (List.append_nil _).symm, by simp⟩
  | «import» importer path location => exact ((Loading.loadImport_loads importer path location).run disk u).2
  | @bind _ _ c f _ _ first later =>
    obtain ⟨more, noted, loading⟩ := first u
    rw [Compile.runOn_bind]
    generalize c.runOn disk u = run at noted
    obtain ⟨_ | a, v⟩ := run
    · exact ⟨more, noted, loading⟩
    · obtain ⟨more', noted', loading'⟩ := later a v
      refine ⟨more ++ more', ?_, ?_⟩
      · rw [noted', show v.log = u.log ++ more from noted, List.append_assoc]
      · intro entry member
        exact (List.mem_append.mp member).elim (loading entry) (loading' entry)
  | deep _ _ each =>
    rw [Compile.depth_bind]
    exact each _ u

theorem budget (resolving : Resolving c) (run : c.runOn disk u = (.ok a, v)) :
    v.loader.budget disk ≤ u.loader.budget disk := by
  induction resolving generalizing u v with
  | pure =>
    obtain ⟨_, rfl⟩ := Compile.pure_ok.mp run
    exact Nat.le_refl _
  | throw => cases run
  | «import» => exact Loading.loadImport_budget run
  | bind _ _ first later =>
    obtain ⟨_, _, here, run⟩ := Compile.bind_ok.mp run
    exact (later _ run).trans (first here)
  | deep _ _ each =>
    rw [Compile.depth_bind] at run
    exact each _ run

end Resolving

/-- From `u` on only packages have been loaded, and they were paid for. -/
structure Onward (disk : Disk) (u v : World) : Prop extends Grows u v where
  budget : v.loader.budget disk ≤ u.loader.budget disk

namespace Onward

theorem refl (sound : u.loader.Sound) : Onward disk u u := ⟨.refl sound, Nat.le_refl _⟩

theorem trans (first : Onward disk u v) (second : Onward disk v w) : Onward disk u w :=
  ⟨first.toGrows.trans second.toGrows, second.budget.trans first.budget⟩

end Onward

/-- If `c` fails in `u`, the input accounts for it. -/
def EndsAt (disk : Disk) (u : World) (c : Compile α) : Prop := Blames (c.runOn disk u).1

namespace EndsAt

variable {c : Compile α} {f : α → Compile β}

theorem pure (a : α) : EndsAt disk u (pure a : Compile α) := Blames.ok a

theorem fail (error : DefinitionError) : EndsAt disk u (Compile.fail error : Compile α) :=
  Blames.error trivial

theorem bind (first : EndsAt disk u c)
    (later : ∀ a v, c.runOn disk u = (.ok a, v) → EndsAt disk v (f a)) :
    EndsAt disk u (c >>= f) := by
  rw [EndsAt, Compile.runOn_bind]
  rw [EndsAt] at first
  generalize run : c.runOn disk u = outcome at first
  obtain ⟨_ | a, v⟩ := outcome
  · exact .error (first.ofInput _ rfl)
  · exact later a v run

/-- After a computation that resolves, its answer is settled. -/
theorem resolve (first : EndsAt disk u c) (resolving : Resolving c) (sound : u.loader.Sound)
    (later : ∀ a v, Onward disk u v → Yields disk v.loader c a → EndsAt disk v (f a)) :
    EndsAt disk u (c >>= f) :=
  first.bind fun a v run =>
    have ⟨grows, settled⟩ := resolving.ok sound run
    later a v ⟨grows, resolving.budget run⟩ settled

/-- Further on, after another computation that resolves. -/
theorem after (first : EndsAt disk v c) (resolving : Resolving c) (onward : Onward disk u v)
    (later : ∀ a v, Onward disk u v → EndsAt disk v (f a)) : EndsAt disk v (c >>= f) :=
  first.resolve resolving onward.sound fun a _ onward' _ => later a _ (onward.trans onward')

theorem deep {f : Nat → Compile α} (each : EndsAt disk u (f (u.loader.declared + disk.size + 2))) :
    EndsAt disk u (Compile.depth >>= f) := by
  rw [EndsAt, Compile.depth_bind]
  exact each

end EndsAt

theorem Asking.ends {c : Compile α} (asking : Asking c) : EndsAt disk u c :=
  (asking.loads.run disk u).1

/-! ### Declarations that have been come through -/

/-- What tells the declarations of loaded packages apart. -/
def declaredKeys (l : Loader) : List (String × String) :=
  l.packages.flatMap fun p => p.scope.map fun entry => (p.path, entry.1)

theorem length_declaredKeys (l : Loader) : (declaredKeys l).length = l.declared := by
  rw [declaredKeys, Loader.declared]
  induction l.packages with
  | nil => rfl
  | cons p rest ih => rw [List.flatMap_cons, List.length_append, List.length_map, ih, List.foldr_cons]

theorem DeclaredType.Known.key_mem (known : d.Known l) : d.key ∈ declaredKeys l := by
  obtain ⟨declaration, listed, _⟩ := Option.map_eq_some_iff.mp known.found
  exact List.mem_flatMap.mpr ⟨d.package, known.package,
    List.mem_map.mpr ⟨(d.name, declaration), Json.mem_of_find? listed, rfl⟩⟩

/-- Recursion that has come through the declarations `seen` has `fuel` levels left, which is more
than there are other declarations to come through. -/
structure Spare (disk : Disk) (l : Loader) (seen : List (String × String)) (fuel : Nat) : Prop where
  distinct : seen.Nodup
  declared : ∀ key ∈ seen, ∃ d : DeclaredType, d.Known l ∧ d.key = key
  enough : l.budget disk < fuel + seen.length

namespace Spare

theorem start (disk : Disk) (l : Loader) : Spare disk l [] (l.declared + disk.size + 2) where
  distinct := List.nodup_nil
  declared := by simp
  enough := by
    have bound := l.budget_le disk
    simp only [List.length_nil]
    omega

/-- There is a level left. -/
theorem fuel_ne_zero (spare : Spare disk l seen fuel) : fuel ≠ 0 := by
  rintro rfl
  have among : seen ⊆ declaredKeys l := by
    intro key member
    obtain ⟨d, known, rfl⟩ := spare.declared key member
    exact known.key_mem
  have few := spare.distinct.length_le_of_subset among
  have enough := spare.enough
  have budget := l.declared_le_budget disk
  rw [length_declaredKeys] at few
  omega

theorem onward (spare : Spare disk u.loader seen fuel) (onward : Onward disk u v) :
    Spare disk v.loader seen fuel where
  distinct := spare.distinct
  declared := fun key member =>
    have ⟨d, known, same⟩ := spare.declared key member
    ⟨d, known.mono onward.le, same⟩
  enough := Nat.lt_of_le_of_lt onward.budget spare.enough

/-- A declaration that is new takes a level. -/
theorem through (spare : Spare disk l seen (fuel + 1)) (known : d.Known l)
    (fresh : seen.contains d.key = false) : Spare disk l (d.key :: seen) fuel where
  distinct := List.nodup_cons.mpr ⟨by simpa using fresh, spare.distinct⟩
  declared := List.forall_mem_cons.mpr ⟨⟨d, known, rfl⟩, spare.declared⟩
  enough := by
    have enough := spare.enough
    rw [List.length_cons]
    omega

end Spare

namespace Resolve

theorem followAliases_ends (sound : u.loader.Sound) (context : ctx.package ∈ u.loader.packages)
    (spare : Spare disk u.loader seen fuel) : EndsAt disk u (followAliases fuel seen expr ctx) := by
  induction fuel generalizing u seen expr ctx with
  | zero => exact absurd rfl spare.fuel_ne_zero
  | succ fuel ih =>
    unfold followAliases
    split
    · refine (lookupDeclared_asks ..).ends.resolve (lookupDeclared_resolving ..) sound
        fun found v onward read => ?_
      split
      · exact .pure _
      · rename_i d
        have known := lookupDeclared_known onward.sound (onward.le.mem context) read
        split
        · exact .pure _
        · split
          · exact .fail _
          · rename_i fresh
            exact ih onward.sound known.package
              ((spare.onward onward).through known (by simpa using fresh))
    · exact .pure _

theorem expandAliases_ends (sound : u.loader.Sound) (context : ctx.package ∈ u.loader.packages) :
    EndsAt disk u (expandAliases expr ctx) :=
  .deep (followAliases_ends sound context (.start disk _))

theorem followNames_ends {root current : DeclaredType} (sound : u.loader.Sound)
    (known : current.Known u.loader) (spare : Spare disk u.loader seen fuel) :
    EndsAt disk u (followNames fuel seen root current) := by
  induction fuel generalizing u seen current with
  | zero => exact absurd rfl spare.fuel_ne_zero
  | succ fuel ih =>
    unfold followNames
    split
    · exact .fail _
    · rename_i fresh
      split
      · refine (lookupDeclared_asks ..).ends.resolve (lookupDeclared_resolving ..) sound
          fun found v onward read => ?_
        split
        · exact .pure _
        · have next := lookupDeclared_known onward.sound (onward.le.mem known.package) read
          exact ih onward.sound next
            ((spare.onward onward).through (known.mono onward.le) (by simpa using fresh))
      · exact .pure _

theorem underlying_ends (sound : u.loader.Sound) (known : d.Known u.loader) :
    EndsAt disk u (underlying d) :=
  .deep (followNames_ends sound known (.start disk _))

theorem structOf_ends (sound : u.loader.Sound) (known : d.Known u.loader) :
    EndsAt disk u (structOf d) := by
  refine (underlying_ends sound known).bind fun found v _ => ?_
  split <;> exact .pure _

/-! ### Taking types apart -/

theorem sliceElem_ends (sound : u.loader.Sound) (context : ctx.package ∈ u.loader.packages) :
    EndsAt disk u (sliceElem expr ctx) := by
  unfold sliceElem
  split
  · exact (expandAliases_ends sound context).bind fun _ _ _ => .pure _
  · exact .pure _

theorem pointerElem_ends (sound : u.loader.Sound) (context : ctx.package ∈ u.loader.packages) :
    EndsAt disk u (pointerElem expr ctx) := by
  unfold pointerElem
  split
  · exact (expandAliases_ends sound context).bind fun _ _ _ => .pure _
  · exact .pure _

theorem peel_ends (sound : u.loader.Sound) (context : ctx.package ∈ u.loader.packages) :
    EndsAt disk u (peel expr ctx) := by
  refine (expandAliases_ends sound context).resolve (expandAliases_resolving ..) sound
    fun (whole, wholeIn) v onward expanded => ?_
  have wholeKnown := (expandAliases_known onward.sound (onward.le.mem context) expanded).1
  refine (sliceElem_ends onward.sound wholeKnown).resolve (sliceElem_resolving ..) onward.sound
    fun (multiple, shown, shownIn) v' onward' sliced => ?_
  have shownKnown := (yields_sliceElem sliced onward'.sound).known onward'.sound
    (onward'.le.mem wholeKnown)
  exact (pointerElem_ends onward'.sound shownKnown).bind fun _ _ _ => .pure _

theorem refuseStruct_ends (p : Peeled) (location : Location) :
    EndsAt disk u (refuseStruct p location) := by
  unfold refuseStruct
  split
  · exact .fail _
  · exact .pure _

theorem structNamed_ends (sound : u.loader.Sound) (context : ctx.package ∈ u.loader.packages) :
    EndsAt disk u (structNamed expr ctx) := by
  unfold structNamed
  split
  · refine (lookupDeclared_asks ..).ends.resolve (lookupDeclared_resolving ..) sound
      fun found v onward read => ?_
    split
    · have known := lookupDeclared_known onward.sound (onward.le.mem context) read
      exact (structOf_ends onward.sound known).bind fun _ _ _ => .pure _
    · exact .pure _
  · exact .pure _

/-! ### Rendering -/

/-- What is rendered ends where its aliases do. -/
theorem Rendering.ends {c : (DeclaredType → Compile Rendered) → Compile α}
    {ofAlias : DeclaredType → Compile Rendered} (rendering : Rendering ctx c)
    (resolving : ∀ d, Resolving (ofAlias d))
    (aliases : ∀ d v, Onward disk u v → d.Known v.loader → EndsAt disk v (ofAlias d))
    (context : ctx.package ∈ u.loader.packages) (onward : Onward disk u v) :
    EndsAt disk v (c ofAlias) := by
  induction rendering generalizing v with
  | pure a => exact .pure a
  | name name =>
    refine (lookup_asks ..).ends.resolve (lookup_resolving ..) onward.sound
      fun found v' onward' read => ?_
    split
    · exact .pure _
    · exact .pure _
    · split
      · have all := onward.trans onward'
        exact aliases _ _ all (lookup_known all.sound (all.le.mem context) read)
      · exact .pure _
  | bind first _ ihFirst ihLater =>
    exact (ihFirst onward).after (first.resolving resolving) onward fun a _ onward =>
      ihLater a onward

theorem renderInside_ends (sound : u.loader.Sound) (context : ctx.package ∈ u.loader.packages)
    (spare : Spare disk u.loader seen fuel) : EndsAt disk u (renderInside fuel seen ctx expr) := by
  induction fuel generalizing u seen ctx expr with
  | zero => exact absurd rfl spare.fuel_ne_zero
  | succ fuel ih =>
    refine (renderWith_rendering ctx expr).ends (fun d => ?_) (fun d v onward known => ?_) context
      (.refl sound)
    · split
      · exact .throw _
      · exact renderInside_resolving ..
    · split
      · exact .fail _
      · rename_i fresh
        exact ih onward.sound known.package
          ((spare.onward onward).through known (by simpa using fresh))

theorem render_ends (sound : u.loader.Sound) (context : ctx.package ∈ u.loader.packages) :
    EndsAt disk u (render expr ctx) :=
  .deep (renderInside_ends sound context (.start disk _))

end Resolve

/-! ### Methods -/

namespace Extract

theorem embedded_ends {visiting : List (String × String)} {embed : TypeName}
    (sound : u.loader.Sound) (context : ctx.package ∈ u.loader.packages) :
    EndsAt disk u (embedded visiting embed ctx) := by
  refine (Resolve.lookupDeclared_asks ..).ends.resolve (Resolve.lookupDeclared_resolving ..) sound
    fun found v onward read => ?_
  split
  · exact .fail _
  · rename_i target
    have known := Resolve.lookupDeclared_known onward.sound (onward.le.mem context) read
    refine (Asking.ensure ..).ends.resolve (.ensure ..) onward.sound fun _ v' onward' _ => ?_
    refine (Resolve.underlying_ends onward'.sound (known.mono onward'.le)).bind fun _ _ _ => ?_
    split
    · exact .pure _
    · exact .fail _

theorem methodsWithin_ends {visiting : List (String × String)}
    {methods : List (MethodDecl TypeExpr)} {embeds : List TypeName} (sound : u.loader.Sound)
    (context : ctx.package ∈ u.loader.packages) (spare : Spare disk u.loader visiting fuel) :
    EndsAt disk u (methodsWithin fuel visiting methods embeds ctx) := by
  induction fuel generalizing u visiting methods embeds ctx with
  | zero => exact absurd rfl spare.fuel_ne_zero
  | succ fuel ih =>
    have gather : ∀ (embeds : List TypeName) (into : List Collected) (v : World),
        Onward disk u v → EndsAt disk v (embeds.foldlM (fun all embed => do
          let e ← embedded visiting embed ctx
          let more ← methodsWithin fuel (e.target.key :: visiting) e.methods e.embeds e.context
          return addNew all more) into) := by
      intro embeds
      induction embeds with
      | nil => exact fun into _ _ => .pure into
      | cons embed rest ihRest =>
        intro into v onward
        have here := onward.le.mem context
        refine EndsAt.after ?_ (.bind (embedded_resolving ..) fun _ =>
          .bind (methodsWithin_resolving ..) fun _ => .pure _) onward fun _ _ onward =>
            ihRest _ _ onward
        refine (embedded_ends onward.sound here).resolve (embedded_resolving ..) onward.sound
          fun e v' onward' found => ?_
        obtain ⟨inside, known, fresh⟩ :=
          embedded_known onward'.sound (onward'.le.mem here) found
        exact (ih onward'.sound inside ((spare.onward (onward.trans onward')).through known fresh)).bind
          fun _ _ _ => .pure _
    exact (gather embeds _ u (.refl sound)).bind fun _ _ _ => .pure _

theorem collectMethods_ends {methods : List (MethodDecl TypeExpr)} {embeds : List TypeName}
    (sound : u.loader.Sound) (context : ctx.package ∈ u.loader.packages) :
    EndsAt disk u (collectMethods methods embeds ctx) :=
  .deep (methodsWithin_ends sound context (.start disk _))

end Extract

end GoIdl
