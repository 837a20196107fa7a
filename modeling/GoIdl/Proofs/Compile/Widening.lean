import GoIdl.Proofs.Compile.Guarding
import GoIdl.Proofs.Compile.Unaided

/-!
# Wider packages

A package without a module is wider than another one if it declares the same, and one name more. Where
that name does not occur, names are looked up alike in both, so that what is behind declarations and
what types read as is the same. The wider package allows for deeper recursion, which makes no difference:
no recursion comes through a declaration twice.
-/

namespace GoIdl

open Syntax (TypeExpr TypeName TypeSpec Param FieldDecl MethodDecl ImportSpec Location)

/-- The name does not occur in the expression, other than behind the name of an import. -/
def Avoids (extra : String) (expr : TypeExpr) : Prop :=
  ∀ name ∈ Resolve.namesIn expr, name.qualifier = none → name.name ≠ extra

instance (extra : String) (expr : TypeExpr) : Decidable (Avoids extra expr) :=
  inferInstanceAs (Decidable (∀ name ∈ Resolve.namesIn expr, name.qualifier = none → name.name ≠ extra))

structure Kept (extra : String) (p p' : Package) (d d' : DeclaredType) : Prop where
  found : p.lookup d.name = some d
  context : ContextsAlike True p p' d.context d'.context
  spec : d.spec = d'.spec
  avoids : Avoids extra d.spec.type

/-- The second package declares what the first one does, and maybe `extra`. -/
structure Widens (extra : String) (p p' : Package) : Prop where
  module : p.module = none
  module' : p'.module = none
  name : p.name = p'.name
  path : p.path = p'.path
  names : p.names = p'.names.filter (· != extra)
  lookup : ∀ name ≠ extra, Option.Rel (Kept extra p p') (p.lookup name) (p'.lookup name)

variable {disk : Disk} {worlds : World → World → Prop} {extra : String} {p p' : Package}
  {ctx ctx' : Context} {d d' : DeclaredType} {seen : List (String × String)} {fuel : Nat}
  {expr : TypeExpr}

namespace Kept

variable (kept : Kept extra p p' d d')

include kept

theorem name : d.name = d'.name := congrArg TypeSpec.name kept.spec

theorem location : d.location = d'.location :=
  congrArg₂ Syntax.Position.inFile (kept.context.file.path trivial) (congrArg TypeSpec.pos kept.spec)

end Kept

namespace Widens

variable (widens : Widens extra p p')

include widens

theorem contextPath (alike : ContextsAlike True p p' ctx ctx') : ctx.package.path = ctx'.package.path := by
  rw [alike.package, alike.package', widens.path]

theorem packagePath (kept : Kept extra p p' d d') : d.package.path = d'.package.path :=
  widens.contextPath kept.context

theorem packageName (kept : Kept extra p p' d d') : d.package.name = d'.package.name :=
  (congrArg Package.name kept.context.package).trans
    (widens.name.trans (congrArg Package.name kept.context.package').symm)

theorem key (kept : Kept extra p p' d d') : d.key = d'.key :=
  congrArg₂ Prod.mk (widens.packagePath kept) kept.name

end Widens

/-! ### Levels of recursion -/

/-- Recursion that has come through the declarations `seen` has more levels left than there are other
declarations. -/
structure Levels (p : Package) (seen : List (String × String)) (fuel : Nat) : Prop where
  distinct : seen.Nodup
  among : seen ⊆ p.scope.map fun entry => (p.path, entry.1)
  enough : p.scope.length < fuel + seen.length

namespace Levels

theorem start (enough : p.scope.length < fuel) : Levels p [] fuel := ⟨List.nodup_nil, nofun, enough⟩

theorem fuel_ne_zero (levels : Levels p seen fuel) : fuel ≠ 0 := by
  rintro rfl
  have few := levels.distinct.length_le_of_subset levels.among
  have enough := levels.enough
  rw [List.length_map] at few
  omega

/-- A declaration that is new takes a level. -/
theorem through (levels : Levels p seen (fuel + 1)) (kept : Kept extra p p' d d')
    (fresh : ¬ seen.contains d.key = true) : Levels p (d.key :: seen) fuel where
  distinct := List.nodup_cons.mpr ⟨mt List.contains_iff_mem.mpr fresh, levels.distinct⟩
  among := by
    refine List.cons_subset.mpr ⟨?_, levels.among⟩
    obtain ⟨declaration, held, -⟩ := Option.map_eq_some_iff.mp kept.found
    have here : d.package = p := kept.context.package
    exact List.mem_map.mpr ⟨_, Json.mem_of_find? held, by rw [DeclaredType.key, here]⟩
  enough := by
    have enough := levels.enough
    rw [List.length_cons]
    omega

end Levels

/-! ### Worlds -/

/-- How many declarations have not been registered as objects. -/
def Package.unregistered (p : Package) (s : Session) : Nat :=
  p.scope.countP fun entry => (s.object? (p.path ++ "." ++ entry.1)).isNone

section

variable {s t : Session} (keeps : ∀ id, (s.object? id).isSome → (t.object? id).isSome)

include keeps

theorem countP_unregistered_le (path : String) (scope : List (String × Declaration)) :
    scope.countP (fun entry => (t.object? (path ++ "." ++ entry.1)).isNone) ≤
      scope.countP fun entry => (s.object? (path ++ "." ++ entry.1)).isNone := by
  refine List.countP_mono_left fun entry _ absent => ?_
  rw [Option.isNone_iff_eq_none, ← Option.not_isSome_iff_eq_none] at absent ⊢
  exact mt (keeps _) absent

theorem Package.unregistered_le (p : Package) : p.unregistered t ≤ p.unregistered s :=
  countP_unregistered_le keeps p.path p.scope

theorem Package.unregistered_lt {name : String} {declaration : Declaration}
    (member : (name, declaration) ∈ p.scope) (before : s.object? (p.path ++ "." ++ name) = none)
    (now : (t.object? (p.path ++ "." ++ name)).isSome) : p.unregistered t < p.unregistered s := by
  obtain ⟨first, rest, scope⟩ := List.append_of_mem member
  have firsts := countP_unregistered_le keeps p.path first
  have rests := countP_unregistered_le keeps p.path rest
  rw [unregistered, unregistered, scope, List.countP_append, List.countP_append,
    List.countP_cons_of_neg (by simp [Option.ne_none_iff_isSome.mpr now]),
    List.countP_cons_of_pos (by simp [before])]
  omega

end

/-- Worlds with one session, in which at most `left` declarations of `p` have not been registered. The
second world allows for recursion as deep as the first one, which allows for the declarations of `p`. -/
structure World.Deeper (p : Package) (left : Nat) (u v : World) : Prop where
  session : u.session = v.session
  room : p.scope.length ≤ u.loader.declared
  declared : u.loader.declared ≤ v.loader.declared
  unregistered : p.unregistered u.session ≤ left

namespace World.Deeper

variable {left : Nat}

theorem mono {fewer : Nat} {u v : World} (deeper : World.Deeper p fewer u v) (le : fewer ≤ left) :
    World.Deeper p left u v :=
  ⟨deeper.session, deeper.room, deeper.declared, deeper.unregistered.trans le⟩

theorem note (level : LogLevel) (source : LogSource) (message : String) :
    Mimics disk True (World.Deeper p left) (fun _ _ => True) (Compile.note level source message)
      (Compile.note level source message) where
  ok deeper _ _ run := by
    cases run
    exact ⟨(), _, rfl, trivial, deeper.session, deeper.room, deeper.declared, deeper.unregistered⟩
  failed _ _ _ _ run := nomatch run

/-- Only the log tells that something has been noted. -/
theorem noted (level : LogLevel) (source : LogSource) (message : String) :
    Mimics disk True (World.Deeper p left) (fun _ _ => True) (pure ())
      (Compile.note level source message) where
  ok deeper _ _ run := by
    cases run
    exact ⟨(), _, rfl, trivial, deeper.session, deeper.room, deeper.declared, deeper.unregistered⟩
  failed _ _ _ _ run := nomatch run

theorem depth :
    Mimics disk True (World.Deeper p left) (fun n m => p.scope.length + 1 < n ∧ n ≤ m) Compile.depth
      Compile.depth where
  ok deeper _ _ run := by
    cases run
    have room := deeper.room
    have declared := deeper.declared
    exact ⟨_, _, rfl, ⟨by omega, by omega⟩, deeper⟩
  failed _ _ _ _ run := nomatch run

theorem rootPath :
    Mimics disk True (World.Deeper p left) Eq Compile.rootPath Compile.rootPath where
  ok deeper _ _ run := by
    cases run
    exact ⟨_, _, rfl, congrArg Session.rootPath deeper.session, deeper⟩
  failed _ _ _ _ run := nomatch run

theorem modifySession {change : Session → Session}
    (keeps : ∀ s id, (s.object? id).isSome → ((change s).object? id).isSome) :
    Mimics disk True (World.Deeper p left) (fun _ _ => True) (Compile.modifySession change)
      (Compile.modifySession change) where
  ok deeper _ _ run := by
    cases run
    exact ⟨(), _, rfl, trivial, congrArg change deeper.session, deeper.room, deeper.declared,
      (Package.unregistered_le (keeps _) p).trans deeper.unregistered⟩
  failed _ _ _ _ run := nomatch run

end World.Deeper

/-! ### Names -/

inductive ResolvedKept (extra : String) (p p' : Package) : ResolvedType → ResolvedType → Prop where
  | declared {d d' : DeclaredType} (kept : Kept extra p p' d d') :
      ResolvedKept extra p p' (.declared d) (.declared d')
  | external (t : ExternalType) : ResolvedKept extra p p' (.external t) (.external t)

section

variable (widens : Widens extra p p')

include widens

namespace Loading

open Package (importsFromModule_of_alone)

theorem importName_widened (file file' : Syntax.SourceFile) (spec : ImportSpec) :
    Mimics disk True worlds Eq (importName p file spec) (importName p' file' spec) := by
  unfold importName
  rw [importsFromModule_of_alone widens.module, importsFromModule_of_alone widens.module']
  split <;> exact .pure rfl

theorem resolveBy_widened (file file' : Syntax.SourceFile) (location : Location)
    (qualifier name : String) (specs : List ImportSpec) :
    Mimics disk True worlds (ResolvedKept extra p p') (resolveBy p file qualifier name location specs)
      (resolveBy p' file' qualifier name location specs) := by
  induction specs with
  | nil => exact .fail fun _ => by rw [widens.path]
  | cons spec rest ih =>
    unfold resolveBy
    rw [importsFromModule_of_alone widens.module, importsFromModule_of_alone widens.module']
    split
    · exact ih
    · refine .bind (importName_widened widens file file' spec) fun _ shown same => ?_
      subst same
      split
      · exact ih
      · exact .pure (.external _)

theorem resolveDotted_widened (file file' : Syntax.SourceFile) (location : Location) (name : String)
    (specs : List ImportSpec) :
    Mimics disk True worlds (fun found found' => found = none ∧ found' = none)
      (resolveDotted p file name location specs) (resolveDotted p' file' name location specs) := by
  induction specs with
  | nil => exact .pure ⟨rfl, rfl⟩
  | cons spec rest ih =>
    unfold resolveDotted
    rw [importsFromModule_of_alone widens.module, importsFromModule_of_alone widens.module']
    simpa only [Bool.false_eq_true, and_false, if_false] using ih

theorem resolveName_widened {file file' : Syntax.SourceFile} (imports : file.imports = file'.imports)
    (location : Location) {name : String} (other : name ≠ extra) :
    Mimics disk True worlds (Option.Rel (Kept extra p p')) (resolveName p file name location)
      (resolveName p' file' name location) := by
  unfold resolveName
  have declared := widens.lookup name other
  revert declared
  generalize p.lookup name = found, p'.lookup name = found'
  intro declared
  cases declared with
  | some kept => exact .pure (.some kept)
  | none =>
    dsimp only
    rw [imports]
    refine .bind (resolveDotted_widened widens file file' location name _) fun _ _ nowhere => ?_
    obtain ⟨rfl, rfl⟩ := nowhere
    dsimp only
    split
    · exact .pure .none
    · exact .fail fun _ => by rw [widens.path]

end Loading

namespace Resolve

theorem lookup_widened (alike : ContextsAlike True p p' ctx ctx') {name : TypeName}
    (other : name.qualifier = none → name.name ≠ extra) :
    Mimics disk True worlds (Option.Rel (ResolvedKept extra p p')) (lookup name ctx)
      (lookup name ctx') := by
  have located := alike.inFile (fun _ => (rfl : name.pos = name.pos)) trivial
  unfold lookup
  dsimp only
  rw [alike.package, alike.package', ← located]
  split
  · unfold Loading.resolveQualified
    rw [← alike.file.imports]
    exact .bind (Loading.resolveBy_widened widens ..) fun _ _ found => .pure (.some found)
  · rename_i plain
    refine .bind (Loading.resolveName_widened widens alike.file.imports _ (other plain)) fun _ _ found => ?_
    cases found with
    | none => exact .pure .none
    | some kept => exact .pure (.some (.declared kept))

theorem lookupDeclared_widened (alike : ContextsAlike True p p' ctx ctx') {name : TypeName}
    (other : name.qualifier = none → name.name ≠ extra) :
    Mimics disk True worlds (Option.Rel (Kept extra p p')) (lookupDeclared name ctx)
      (lookupDeclared name ctx') := by
  refine .bind (lookup_widened widens alike other) fun _ _ found => ?_
  cases found with
  | none => exact .pure .none
  | some found =>
    cases found with
    | declared kept => exact .pure (.some kept)
    | external t => exact .pure .none

end Resolve

end

/-! ### Parts of expressions -/

namespace Resolve

theorem namesIn_subset_fields {fields : List (FieldDecl TypeExpr)} {f : FieldDecl TypeExpr}
    (member : f ∈ fields) : namesIn f.type ⊆ namesInFields fields := by
  induction fields with
  | nil => cases member
  | cons first rest ih =>
    rw [namesInFields]
    rcases List.mem_cons.mp member with rfl | later
    · exact List.subset_append_left _ _
    · exact List.subset_append_of_subset_right _ (ih later)

theorem namesIn_subset_params {params : List (Param TypeExpr)} {param : Param TypeExpr}
    (member : param ∈ params) : namesIn param.type ⊆ namesInParams params := by
  induction params with
  | nil => cases member
  | cons first rest ih =>
    rw [namesInParams]
    rcases List.mem_cons.mp member with rfl | later
    · exact List.subset_append_left _ _
    · exact List.subset_append_of_subset_right _ (ih later)

theorem namesIn_subset_methods {methods : List (MethodDecl TypeExpr)} {m : MethodDecl TypeExpr}
    (member : m ∈ methods) : namesInParams m.signature.params ⊆ namesInMethods methods ∧
      namesInParams m.signature.results ⊆ namesInMethods methods := by
  induction methods with
  | nil => cases member
  | cons first rest ih =>
    rw [namesInMethods]
    rcases List.mem_cons.mp member with rfl | later
    · exact ⟨List.subset_append_left _ _,
        List.subset_append_of_subset_right _ (List.subset_append_left _ _)⟩
    · obtain ⟨params, results⟩ := ih later
      exact ⟨List.subset_append_of_subset_right _ (List.subset_append_of_subset_right _ params),
        List.subset_append_of_subset_right _ (List.subset_append_of_subset_right _ results)⟩

end Resolve

namespace Avoids

theorem field {pos : Syntax.Position} {fields : List (FieldDecl TypeExpr)}
    (avoids : Avoids extra (.struct pos fields)) : ∀ f ∈ fields, Avoids extra f.type :=
  fun _ member name inside => avoids name (Resolve.namesIn_subset_fields member inside)

theorem param {pos : Syntax.Position} {methods : List (MethodDecl TypeExpr)} {embeds : List TypeName}
    (avoids : Avoids extra (.interface pos methods embeds)) :
    ∀ m ∈ methods, ∀ param ∈ m.signature.params ++ m.signature.results, Avoids extra param.type := by
  intro m listed param member name inside
  refine avoids name (List.mem_append_left _ ?_)
  rcases List.mem_append.mp member with given | answered
  · exact (Resolve.namesIn_subset_methods listed).1 (Resolve.namesIn_subset_params given inside)
  · exact (Resolve.namesIn_subset_methods listed).2 (Resolve.namesIn_subset_params answered inside)

theorem embed {pos : Syntax.Position} {methods : List (MethodDecl TypeExpr)} {embeds : List TypeName}
    (avoids : Avoids extra (.interface pos methods embeds)) :
    ∀ name ∈ embeds, name.qualifier = none → name.name ≠ extra :=
  fun name member => avoids name (List.mem_append_right _ member)

end Avoids

namespace Resolve

/-! ### What is behind a declaration -/

section

variable (widens : Widens extra p p')

inductive BehindKept (extra : String) (p p' : Package) :
    Option TypeExpr × DeclaredType → Option TypeExpr × DeclaredType → Prop where
  | nothing {origin origin' : DeclaredType} (origins : Kept extra p p' origin origin') :
      BehindKept extra p p' (none, origin) (none, origin')
  | expr {expr : TypeExpr} {origin origin' : DeclaredType} (avoids : Avoids extra expr)
      (origins : Kept extra p p' origin origin') :
      BehindKept extra p p' (some expr, origin) (some expr, origin')

include widens

theorem followNames_widened {m : Nat} {root root' : DeclaredType} (roots : Kept extra p p' root root')
    (kept : Kept extra p p' d d') (levels : Levels p seen fuel) (le : fuel ≤ m) :
    Mimics disk True worlds (BehindKept extra p p') (followNames fuel seen root d)
      (followNames m seen root' d') := by
  induction fuel generalizing seen d d' m with
  | zero => exact absurd rfl levels.fuel_ne_zero
  | succ fuel ih =>
    obtain ⟨m, rfl⟩ : ∃ k, m = k + 1 := ⟨m - 1, by omega⟩
    unfold followNames
    rw [← widens.key kept, ← kept.spec, ← roots.name, ← roots.location, ← widens.packagePath roots]
    split
    · exact .fail fun _ => rfl
    · rename_i fresh
      split
      · rename_i name typed
        have other := kept.avoids name (by rw [typed]; exact List.mem_singleton_self name)
        refine .bind (lookupDeclared_widened widens kept.context other) fun _ _ found => ?_
        cases found with
        | none => exact .pure (.nothing kept)
        | some next => exact ih next (levels.through kept fresh) (by omega)
      · exact .pure (.expr kept.avoids kept)

theorem underlying_widened {left : Nat} (kept : Kept extra p p' d d') :
    Mimics disk True (World.Deeper p left) (BehindKept extra p p') (underlying d) (underlying d') :=
  .bind World.Deeper.depth fun _ _ deep =>
    followNames_widened widens kept kept (.start (by omega)) deep.2

inductive StructKept (extra : String) (p p' : Package) :
    List (FieldDecl TypeExpr) × DeclaredType → List (FieldDecl TypeExpr) × DeclaredType → Prop where
  | intro {fields : List (FieldDecl TypeExpr)} {origin origin' : DeclaredType}
      (avoids : ∀ f ∈ fields, Avoids extra f.type) (origins : Kept extra p p' origin origin') :
      StructKept extra p p' (fields, origin) (fields, origin')

theorem structOf_widened {left : Nat} (kept : Kept extra p p' d d') :
    Mimics disk True (World.Deeper p left) (Option.Rel (StructKept extra p p')) (structOf d)
      (structOf d') := by
  refine .bind (underlying_widened widens kept) fun _ _ behind => ?_
  cases behind with
  | nothing _ => exact .pure .none
  | @expr expr _ _ avoids origins =>
    cases expr with
    | struct pos fields => exact .pure (.some ⟨avoids.field, origins⟩)
    | _ => exact .pure .none

end

/-! ### Ways through expressions -/

/-- A way that does the same in both packages where the same is done at aliases. -/
def Steady (disk : Disk) (extra : String) (p p' : Package) {α : Type} (rel : α → α → Prop)
    (visit : Visit α) : Prop :=
  ∀ {worlds ofAlias ofAlias' ctx ctx' expr},
    (∀ d d', Kept extra p p' d d' → Mimics disk True worlds rel (ofAlias d) (ofAlias' d')) →
    ContextsAlike True p p' ctx ctx' → Avoids extra expr →
    Mimics disk True worlds rel (visit ofAlias ctx expr) (visit ofAlias' ctx' expr)

/-- An expression with the places where it stands in both packages. -/
inductive PlacedKept (extra : String) (p p' : Package) : TypeExpr × Context → TypeExpr × Context → Prop where
  | intro {expr : TypeExpr} {ctx ctx' : Context} (avoids : Avoids extra expr)
      (alike : ContextsAlike True p p' ctx ctx') : PlacedKept extra p p' (expr, ctx) (expr, ctx')

section

variable (widens : Widens extra p p')

include widens

theorem head_steady : Steady disk extra p p' (PlacedKept extra p p') head := by
  intro worlds ofAlias ofAlias' ctx ctx' expr aliases alike avoids
  cases expr with
  | named name =>
    have other := avoids name (List.mem_singleton_self name)
    refine .bind (lookupDeclared_widened widens alike other) fun _ _ found => ?_
    cases found with
    | none => exact .pure ⟨avoids, alike⟩
    | some kept =>
      dsimp only
      rw [← kept.spec]
      split
      · exact .pure ⟨avoids, alike⟩
      · exact aliases _ _ kept
  | _ => exact .pure ⟨avoids, alike⟩

theorem guarded_widened {α : Type} {rel : α → α → Prop} {visit : Visit α} {m : Nat}
    (steady : Steady disk extra p p' rel visit) (alike : ContextsAlike True p p' ctx ctx')
    (avoids : Avoids extra expr) (levels : Levels p seen fuel) (le : fuel ≤ m) :
    Mimics disk True worlds rel (guarded visit fuel seen ctx expr) (guarded visit m seen ctx' expr) := by
  induction fuel generalizing seen ctx ctx' expr m with
  | zero => exact absurd rfl levels.fuel_ne_zero
  | succ fuel ih =>
    obtain ⟨m, rfl⟩ : ∃ k, m = k + 1 := ⟨m - 1, by omega⟩
    refine steady (fun d d' kept => ?_) alike avoids
    rw [← widens.key kept, ← kept.spec]
    split
    · exact .fail fun _ => by rw [kept.location, kept.name, widens.packagePath kept]
    · rename_i fresh
      exact ih kept.context kept.avoids (levels.through kept fresh) (by omega)

end

/-! ### Rendering -/

section

variable {strict : Prop} {ofAlias ofAlias' : DeclaredType → Compile Rendered}

/-- A name is rendered in the one place as in the other. -/
abbrev NameRendered (disk : Disk) (strict : Prop) (worlds : World → World → Prop)
    (ofAlias ofAlias' : DeclaredType → Compile Rendered) (ctx ctx' : Context) (name : TypeName) : Prop :=
  Mimics disk strict worlds Eq (renderName ofAlias ctx name) (renderName ofAlias' ctx' name)

theorem renderNames_congr {names : List TypeName}
    (each : ∀ name ∈ names, NameRendered disk strict worlds ofAlias ofAlias' ctx ctx' name) :
    Mimics disk strict worlds Eq (renderNames ofAlias ctx names) (renderNames ofAlias' ctx' names) := by
  induction names with
  | nil => exact .pure rfl
  | cons name rest ih =>
    refine .bind (each name List.mem_cons_self) fun _ _ same =>
      .bind (ih fun name member => each name (List.mem_cons_of_mem _ member)) fun _ _ others => .pure ?_
    rw [same, others]

mutual

/-- Where the names of an expression are rendered alike, so is the expression. -/
theorem renderWith_congr {expr : TypeExpr}
    (each : ∀ name ∈ namesIn expr, NameRendered disk strict worlds ofAlias ofAlias' ctx ctx' name) :
    Mimics disk strict worlds Eq (renderWith ofAlias ctx expr) (renderWith ofAlias' ctx' expr) := by
  match expr with
  | .named name => exact each name (List.mem_singleton_self name)
  | .pointer _ elem | .slice _ elem | .array _ _ elem | .chan _ elem =>
    exact .bind (@renderWith_congr elem each) fun _ _ same => .pure (by rw [same])
  | .map _ key value =>
    have ⟨keys, values⟩ := List.forall_mem_append.mp each
    exact .bind (renderWith_congr keys) fun _ _ same =>
      .bind (renderWith_congr values) fun _ _ same' => .pure (by rw [same, same'])
  | .func _ ⟨params, results⟩ =>
    have ⟨given, answered⟩ := List.forall_mem_append.mp each
    exact .bind (renderParams_congr given) fun _ _ same =>
      .bind (renderResults_congr answered) fun _ _ same' => .pure (by rw [same, same'])
  | .struct _ fields =>
    exact .bind (renderFields_congr each) fun _ _ same => .pure (by rw [same])
  | .interface _ methods embeds =>
    have ⟨own, embedded⟩ := List.forall_mem_append.mp each
    exact .bind (renderMethods_congr own) fun _ _ same =>
      .bind (renderNames_congr embedded) fun _ _ same' => .pure (by rw [same, same'])

theorem renderParams_congr {params : List (Param TypeExpr)}
    (each : ∀ name ∈ namesInParams params, NameRendered disk strict worlds ofAlias ofAlias' ctx ctx' name) :
    Mimics disk strict worlds Eq (renderParams ofAlias ctx params)
      (renderParams ofAlias' ctx' params) := by
  match params with
  | [] => exact .pure rfl
  | ⟨_, _, _, type⟩ :: rest =>
    have ⟨here, later⟩ := List.forall_mem_append.mp each
    exact .bind (renderWith_congr here) fun _ _ same =>
      .bind (renderParams_congr later) fun _ _ same' => .pure (by rw [same, same'])

theorem renderResults_congr {results : List (Param TypeExpr)}
    (each : ∀ name ∈ namesInParams results, NameRendered disk strict worlds ofAlias ofAlias' ctx ctx' name) :
    Mimics disk strict worlds Eq (renderResults ofAlias ctx results)
      (renderResults ofAlias' ctx' results) := by
  match results with
  | [] => exact .pure rfl
  | ⟨_, _, _, type⟩ :: rest =>
    have ⟨here, later⟩ := List.forall_mem_append.mp each
    exact .bind (renderWith_congr here) fun _ _ same =>
      .bind (renderResults_congr later) fun _ _ same' => .pure (by rw [same, same'])

theorem renderFields_congr {fields : List (FieldDecl TypeExpr)}
    (each : ∀ name ∈ namesInFields fields, NameRendered disk strict worlds ofAlias ofAlias' ctx ctx' name) :
    Mimics disk strict worlds Eq (renderFields ofAlias ctx fields)
      (renderFields ofAlias' ctx' fields) := by
  match fields with
  | [] => exact .pure rfl
  | ⟨_, _, type, _, _, _⟩ :: rest =>
    have ⟨here, later⟩ := List.forall_mem_append.mp each
    exact .bind (renderWith_congr here) fun _ _ same =>
      .bind (renderFields_congr later) fun _ _ same' => .pure (by rw [same, same'])

theorem renderMethods_congr {methods : List (MethodDecl TypeExpr)}
    (each : ∀ name ∈ namesInMethods methods,
      NameRendered disk strict worlds ofAlias ofAlias' ctx ctx' name) :
    Mimics disk strict worlds Eq (renderMethods ofAlias ctx methods)
      (renderMethods ofAlias' ctx' methods) := by
  match methods with
  | [] => exact .pure rfl
  | ⟨_, _, ⟨params, results⟩, _⟩ :: rest =>
    have ⟨given, others⟩ := List.forall_mem_append.mp each
    have ⟨answered, later⟩ := List.forall_mem_append.mp others
    exact .bind (renderParams_congr given) fun _ _ same =>
      .bind (renderResults_congr answered) fun _ _ same' =>
        .bind (renderMethods_congr later) fun _ _ same'' => .pure (by rw [same, same', same''])

end

end

section

variable (widens : Widens extra p p')

include widens

theorem renderWith_steady : Steady disk extra p p' Eq renderWith := by
  intro worlds ofAlias ofAlias' ctx ctx' expr aliases alike avoids
  refine renderWith_congr fun name member => ?_
  refine .bind (lookup_widened widens alike (avoids name member)) fun _ _ found => ?_
  cases found with
  | none => exact .pure rfl
  | some found =>
    cases found with
    | external t => exact .pure rfl
    | declared kept =>
      dsimp only
      rw [← kept.spec]
      split
      · exact aliases _ _ kept
      · exact .pure (by rw [kept.name, widens.packageName kept, widens.packagePath kept])

variable {left : Nat}

theorem expandAliases_widened (alike : ContextsAlike True p p' ctx ctx') (avoids : Avoids extra expr) :
    Mimics disk True (World.Deeper p left) (PlacedKept extra p p') (expandAliases expr ctx)
      (expandAliases expr ctx') := by
  refine .bind World.Deeper.depth fun n m deep => ?_
  rw [followAliases_eq, followAliases_eq]
  exact guarded_widened widens (head_steady widens) alike avoids (.start (by omega)) deep.2

theorem render_widened (alike : ContextsAlike True p p' ctx ctx') (avoids : Avoids extra expr) :
    Mimics disk True (World.Deeper p left) Eq (render expr ctx) (render expr ctx') := by
  refine .bind World.Deeper.depth fun n m deep => ?_
  rw [renderInside_eq, renderInside_eq]
  exact guarded_widened widens (renderWith_steady widens) alike avoids (.start (by omega)) deep.2

/-! ### Field types -/

/-- A type expression that has been taken apart in both packages. -/
inductive PeeledKept (extra : String) (p p' : Package) : Peeled → Peeled → Prop where
  | intro {multiple optional : Bool} {shown core : TypeExpr} {shownIn shownIn' coreIn coreIn' : Context}
      (shownKept : PlacedKept extra p p' (shown, shownIn) (shown, shownIn'))
      (coreKept : PlacedKept extra p p' (core, coreIn) (core, coreIn')) :
      PeeledKept extra p p' ⟨multiple, optional, shown, shownIn, core, coreIn⟩
        ⟨multiple, optional, shown, shownIn', core, coreIn'⟩

/-- A part of an expression, found or not, in both packages. -/
inductive PartKept (extra : String) (p p' : Package) :
    Bool × TypeExpr × Context → Bool × TypeExpr × Context → Prop where
  | intro {found : Bool} {placed placed' : TypeExpr × Context}
      (kept : PlacedKept extra p p' placed placed') : PartKept extra p p' (found, placed) (found, placed')

theorem sliceElem_widened (alike : ContextsAlike True p p' ctx ctx') (avoids : Avoids extra expr) :
    Mimics disk True (World.Deeper p left) (PartKept extra p p') (sliceElem expr ctx)
      (sliceElem expr ctx') := by
  cases expr with
  | slice pos elem =>
    exact .bind (expandAliases_widened widens alike avoids) fun _ _ placed => .pure ⟨placed⟩
  | _ => exact .pure ⟨⟨avoids, alike⟩⟩

theorem pointerElem_widened (alike : ContextsAlike True p p' ctx ctx') (avoids : Avoids extra expr) :
    Mimics disk True (World.Deeper p left) (PartKept extra p p') (pointerElem expr ctx)
      (pointerElem expr ctx') := by
  cases expr with
  | pointer pos elem =>
    exact .bind (expandAliases_widened widens alike avoids) fun _ _ placed => .pure ⟨placed⟩
  | _ => exact .pure ⟨⟨avoids, alike⟩⟩

theorem peel_widened (alike : ContextsAlike True p p' ctx ctx') (avoids : Avoids extra expr) :
    Mimics disk True (World.Deeper p left) (PeeledKept extra p p') (peel expr ctx) (peel expr ctx') := by
  refine .bind (expandAliases_widened widens alike avoids) fun _ _ whole => ?_
  obtain ⟨avoids, alike⟩ := whole
  refine .bind (sliceElem_widened widens alike avoids) fun _ _ shown => ?_
  obtain ⟨⟨avoids, alike⟩⟩ := shown
  refine .bind (pointerElem_widened widens alike avoids) fun _ _ core => ?_
  obtain ⟨⟨avoids', alike'⟩⟩ := core
  exact .pure ⟨⟨avoids, alike⟩, ⟨avoids', alike'⟩⟩

theorem refuseStruct_widened {peeled peeled' : Peeled} (location : Location)
    (kept : PeeledKept extra p p' peeled peeled') :
    Mimics disk True worlds (fun _ _ => True) (refuseStruct peeled location)
      (refuseStruct peeled' location) := by
  obtain ⟨-, ⟨-, alike⟩⟩ := kept
  unfold refuseStruct
  dsimp only
  split
  · exact .fail fun _ => by rw [widens.contextPath alike]
  · exact .pure trivial

theorem structNamed_widened (alike : ContextsAlike True p p' ctx ctx') (avoids : Avoids extra expr) :
    Mimics disk True (World.Deeper p left) (Option.Rel (Kept extra p p')) (structNamed expr ctx)
      (structNamed expr ctx') := by
  cases expr with
  | named name =>
    have other := avoids name (List.mem_singleton_self name)
    refine .bind (lookupDeclared_widened widens alike other) fun _ _ found => ?_
    cases found with
    | none => exact .pure .none
    | some kept =>
      refine .bind (structOf_widened widens kept) fun _ _ behind => .pure ?_
      cases behind with
      | none => exact .none
      | some _ => exact .some kept
  | _ => exact .pure .none

theorem fieldType_widened {extract extract' : DeclaredType → Compile Unit}
    (extracts : ∀ d d', Kept extra p p' d d' →
      Mimics disk True (World.Deeper p left) (fun _ _ => True) (extract d) (extract' d'))
    (alike : ContextsAlike True p p' ctx ctx') (avoids : Avoids extra expr) (location : Location) :
    Mimics disk True (World.Deeper p left) Eq (fieldType extract expr ctx location)
      (fieldType extract' expr ctx' location) := by
  refine .bind (peel_widened widens alike avoids) fun peeled peeled' kept => ?_
  refine .bind (refuseStruct_widened widens location kept) fun _ _ _ => ?_
  obtain ⟨⟨shownAvoids, shownIn⟩, ⟨coreAvoids, coreIn⟩⟩ := kept
  refine .bind (structNamed_widened widens coreIn coreAvoids) fun target target' found => ?_
  have extracted : Mimics disk True (World.Deeper p left) (fun _ _ => True) (target.forM extract)
      (target'.forM extract') := by
    cases found with
    | none => exact .pure trivial
    | some kept => exact extracts _ _ kept
  have isObject : target.isSome = target'.isSome := by
    cases found <;> rfl
  refine .bind extracted fun _ _ _ => .bind (render_widened widens shownIn shownAvoids) fun rendered _ same => ?_
  subst same
  refine .bind World.Deeper.rootPath fun root _ same => ?_
  subst same
  refine .bind (World.Deeper.modifySession fun s id known => ?_) fun _ _ _ => .pure (by rw [isObject])
  obtain ⟨imports, same⟩ := s.registerImports_eq (rendered.packages root)
  rw [same]
  exact known

end

end Resolve

end GoIdl
