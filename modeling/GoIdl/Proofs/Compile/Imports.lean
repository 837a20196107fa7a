import GoIdl.Proofs.Compile.Resolutions
import GoIdl.Proofs.Compile.Worlds

/-!
# The table of imports

The text of a type names types of other packages, each with its package before it. Such a name is
either that of a declaration in a package that has been loaded, or that of a type from an import that
is not of the importer's module, whose package is named after the end of the path.
-/

namespace GoIdl

open Syntax (TypeExpr TypeName Param FieldDecl MethodDecl SourceFile ImportSpec Location)
open Loading (loadImport importName exported resolveBy)

variable {α β : Type} {disk : Disk} {l l' : Loader} {ctx : Context} {expr : TypeExpr}
  {d : DeclaredType} {p : Package}

/-! ### What is answered -/

/-- A computation that resolves, and of whose answers something is known wherever all of `l` has been
loaded. -/
structure Answers (disk : Disk) (l : Loader) (c : Compile α) (holds : α → Prop) : Prop where
  resolving : Resolving c
  answer : ∀ a, Yields disk l c a → holds a

namespace Answers

variable {c : Compile α} {f : α → Compile β} {holds : α → Prop} {holds' : β → Prop}

theorem pure {a : α} (here : holds a) : Answers disk l (pure a : Compile α) holds :=
  ⟨.pure a, fun _ yields => yields_pure yields ▸ here⟩

theorem throw (failure : Failure) : Answers disk l (throw failure : Compile α) holds :=
  ⟨.throw failure, fun _ yields => (yields_throw yields).elim⟩

theorem bind (sound : l.Sound) (first : Answers disk l c holds)
    (later : ∀ a, Answers disk l (f a) fun b => holds a → holds' b) :
    Answers disk l (c >>= f) holds' where
  resolving := .bind first.resolving fun a => (later a).resolving
  answer := fun b yields => by
    obtain ⟨a, here, yields⟩ :=
      Resolving.bind_yields first.resolving (fun a => (later a).resolving) sound yields
    exact (later a).answer b yields (first.answer a here)

end Answers

/-! ### Where names come from -/

/-- What a type in a package stands for: a declaration that is known, or a type of a package outside
the module, which goes by the name that the import path ends with. -/
def ResolvedType.Sourced (l : Loader) (importer : Package) : ResolvedType → Prop
  | .declared d => d.Known l
  | .external t =>
    importer.importsFromModule t.path = false ∧ t.packageName = defaultPackageName t.path

namespace Loading

theorem resolveBy_external {file : SourceFile} {location : Location} {qualifier name : String}
    {specs : List ImportSpec} {t : ExternalType} (sound : l.Sound)
    (yields : Yields disk l (resolveBy p file qualifier name location specs) (.external t)) :
    p.importsFromModule t.path = false ∧ t.packageName = defaultPackageName t.path := by
  rcases resolveBy_cases sound yields with ⟨_, _, _, _, _, _, ⟨⟩⟩ | ⟨_, _, outside, ⟨⟩⟩
  exact ⟨outside, rfl⟩

end Loading

namespace Resolve

theorem lookup_sourced (sound : l.Sound) (context : ctx.package ∈ l.packages) (name : TypeName) :
    Answers disk l (lookup name ctx) fun found =>
      ∀ type, found = some type → type.Sourced l ctx.package := by
  refine ⟨lookup_resolving name ctx, fun found yields type same => ?_⟩
  subst same
  cases type with
  | declared d => exact lookup_known sound context yields
  | external t =>
    rcases lookup_cases sound yields with ⟨_, _, ⟨⟩, found⟩ | ⟨declared, same, _⟩
    · exact Loading.resolveBy_external sound found
    · obtain ⟨_, _, same⟩ := Option.map_eq_some_iff.mp same.symm
      cases same

/-- A name in the text of a type, with its package. -/
inductive NamedIn (l : Loader) : Part → Prop where
  | plain (text : String) : NamedIn l (.plain text)
  | declared {d : DeclaredType} (known : d.Known l) :
      NamedIn l (.typeName d.name d.package.name d.package.path)
  | external {importer : Package} {path : String} (name : String) (member : importer ∈ l.packages)
      (outside : importer.importsFromModule path = false) :
      NamedIn l (.typeName name (defaultPackageName path) path)

/-- The name stands for a package that has been loaded or is outside the module of another. -/
theorem namedIn_typeName {name package path : String}
    (named : NamedIn l (.typeName name package path)) :
    (∃ p ∈ l.packages, p.path = path ∧ p.name = package) ∨
      ∃ importer ∈ l.packages, importer.importsFromModule path = false ∧
        package = defaultPackageName path := by
  cases named with
  | declared known => exact .inl ⟨_, known.package, rfl, rfl⟩
  | external _ member outside => exact .inr ⟨_, member, outside, rfl⟩

/-- All names in a text are named in one of these ways. -/
def Rendered.AllNamed (l : Loader) (r : Rendered) : Prop := ∀ part ∈ r.parts, NamedIn l part

namespace Rendered

theorem allNamed_plain (text : String) : (plain text).AllNamed l := by
  intro part member
  cases List.mem_singleton.mp member
  exact .plain text

theorem AllNamed.append {a b : Rendered} (first : a.AllNamed l) (second : b.AllNamed l) :
    (a ++ b).AllNamed l := fun part member =>
  (List.mem_append.mp member).elim (first part) (second part)

theorem AllNamed.join {separator : String} {rs : List Rendered} (all : ∀ r ∈ rs, r.AllNamed l) :
    (join separator rs).AllNamed l := by
  have parts : ∀ rs : List Rendered, (∀ r ∈ rs, r.AllNamed l) →
      ∀ part ∈ [Part.plain separator].intercalate (rs.map Rendered.parts), NamedIn l part := by
    intro rs
    induction rs with
    | nil => simp
    | cons r rest ih =>
      intro all part member
      obtain ⟨first, others⟩ := List.forall_mem_cons.mp all
      cases rest with
      | nil => exact first part (by simpa using member)
      | cons r' rest =>
        rw [List.map_cons, List.map_cons, List.intercalate_cons_cons, List.mem_append,
          List.mem_append] at member
        rcases member with (here | between) | later
        · exact first part here
        · exact allNamed_plain separator part between
        · exact ih others part later
  exact parts rs all

theorem allNamed_signatureOf {params results : List Rendered} (taken : ∀ r ∈ params, r.AllNamed l)
    (given : ∀ r ∈ results, r.AllNamed l) : (signatureOf params results).AllNamed l := by
  have head : (plain "(" ++ .join ", " params ++ plain ")").AllNamed l :=
    ((allNamed_plain _).append (.join taken)).append (allNamed_plain _)
  unfold signatureOf
  dsimp only
  split
  · exact head
  · exact (head.append (allNamed_plain _)).append (given _ (by simp))
  · exact ((head.append (allNamed_plain _)).append (.join given)).append (allNamed_plain _)

end Rendered

/-! ### Rendering -/

section

variable {ofAlias : DeclaredType → Compile Rendered} (sound : l.Sound)

include sound

theorem renderName_named (context : ctx.package ∈ l.packages)
    (aliases : ∀ d, Answers disk l (ofAlias d) fun r => d.Known l → r.AllNamed l) (name : TypeName) :
    Answers disk l (renderName ofAlias ctx name) (Rendered.AllNamed l) := by
  refine .bind sound (lookup_sourced sound context name) fun found => ?_
  split
  · exact .pure fun _ => Rendered.allNamed_plain _
  · rename_i t
    refine .pure fun sourced part member => ?_
    obtain ⟨outside, named⟩ := sourced _ rfl
    cases List.mem_singleton.mp member
    rw [named]
    exact .external t.name context outside
  · rename_i d
    split
    · exact ⟨(aliases d).resolving, fun r yields sourced => (aliases d).answer r yields (sourced _ rfl)⟩
    · refine .pure fun sourced part member => ?_
      cases List.mem_singleton.mp member
      exact .declared (sourced _ rfl)

theorem renderNames_named
    (each : ∀ name, Answers disk l (renderName ofAlias ctx name) (Rendered.AllNamed l))
    (names : List TypeName) :
    Answers disk l (renderNames ofAlias ctx names) fun rs => ∀ r ∈ rs, r.AllNamed l := by
  induction names with
  | nil => exact .pure (by simp)
  | cons name rest ih =>
    refine .bind sound (each name) fun first => ?_
    exact .bind sound ih fun others => .pure fun all here => List.forall_mem_cons.mpr ⟨here, all⟩

mutual

theorem renderWith_named
    (each : ∀ name, Answers disk l (renderName ofAlias ctx name) (Rendered.AllNamed l))
    (expr : TypeExpr) :
    Answers disk l (renderWith ofAlias ctx expr) (Rendered.AllNamed l) := by
  have after : ∀ (before : String) (elem : TypeExpr),
      Answers disk l (renderWith ofAlias ctx elem) (Rendered.AllNamed l) →
      Answers disk l (do return .plain before ++ (← renderWith ofAlias ctx elem))
        (Rendered.AllNamed l) := fun before elem inner =>
    .bind sound inner fun r => .pure (Rendered.allNamed_plain before).append
  cases expr with
  | named name => exact each name
  | pointer pos elem => exact after "*" elem (renderWith_named each elem)
  | slice pos elem => exact after "[]" elem (renderWith_named each elem)
  | array pos length elem => exact after s!"[{length}]" elem (renderWith_named each elem)
  | map pos key value =>
    refine .bind sound (renderWith_named each key) fun k =>
      .bind sound (renderWith_named each value) fun v => ?_
    exact .pure fun ofValue ofKey =>
      (((Rendered.allNamed_plain _).append ofKey).append (Rendered.allNamed_plain _)).append ofValue
  | chan pos elem => exact after "chan " elem (renderWith_named each elem)
  | func pos signature =>
    obtain ⟨params, results⟩ := signature
    refine .bind sound (renderParams_named each params) fun ps =>
      .bind sound (renderResults_named each results) fun rs => ?_
    exact .pure fun given taken =>
      (Rendered.allNamed_plain _).append (Rendered.allNamed_signatureOf taken given)
  | struct pos fields =>
    refine .bind sound (renderFields_named each fields) fun rs => .pure fun all => ?_
    exact ((Rendered.allNamed_plain _).append (.join all)).append (Rendered.allNamed_plain _)
  | interface pos methods embeds =>
    refine .bind sound (renderMethods_named each methods) fun ms =>
      .bind sound (renderNames_named sound each embeds) fun es => .pure fun all all' => ?_
    refine ((Rendered.allNamed_plain _).append (.join fun r member => ?_)).append
      (Rendered.allNamed_plain _)
    exact (List.mem_append.mp member).elim (all' r) (all r)

theorem renderParams_named
    (each : ∀ name, Answers disk l (renderName ofAlias ctx name) (Rendered.AllNamed l))
    (params : List (Param TypeExpr)) :
    Answers disk l (renderParams ofAlias ctx params) fun rs => ∀ r ∈ rs, r.AllNamed l := by
  cases params with
  | nil => exact .pure (by simp)
  | cons param rest =>
    obtain ⟨pos, name, variadic, type⟩ := param
    refine .bind sound (renderWith_named each type) fun r =>
      .bind sound (renderParams_named each rest) fun rs => .pure fun others here => ?_
    exact List.forall_mem_cons.mpr ⟨(Rendered.allNamed_plain _).append here, others⟩

theorem renderResults_named
    (each : ∀ name, Answers disk l (renderName ofAlias ctx name) (Rendered.AllNamed l))
    (results : List (Param TypeExpr)) :
    Answers disk l (renderResults ofAlias ctx results) fun rs => ∀ r ∈ rs, r.AllNamed l := by
  cases results with
  | nil => exact .pure (by simp)
  | cons result rest =>
    obtain ⟨pos, name, variadic, type⟩ := result
    refine .bind sound (renderWith_named each type) fun r =>
      .bind sound (renderResults_named each rest) fun rs => .pure fun others here => ?_
    exact List.forall_mem_cons.mpr ⟨here, others⟩

theorem renderFields_named
    (each : ∀ name, Answers disk l (renderName ofAlias ctx name) (Rendered.AllNamed l))
    (fields : List (FieldDecl TypeExpr)) :
    Answers disk l (renderFields ofAlias ctx fields) fun rs => ∀ r ∈ rs, r.AllNamed l := by
  cases fields with
  | nil => exact .pure (by simp)
  | cons field rest =>
    obtain ⟨pos, name, type, tag, embedded, doc⟩ := field
    refine .bind sound (renderWith_named each type) fun r =>
      .bind sound (renderFields_named each rest) fun rs => .pure fun others here => ?_
    refine List.forall_mem_cons.mpr ⟨?_, others⟩
    split
    · exact here
    · exact (Rendered.allNamed_plain _).append here

theorem renderMethods_named
    (each : ∀ name, Answers disk l (renderName ofAlias ctx name) (Rendered.AllNamed l))
    (methods : List (MethodDecl TypeExpr)) :
    Answers disk l (renderMethods ofAlias ctx methods) fun rs => ∀ r ∈ rs, r.AllNamed l := by
  cases methods with
  | nil => exact .pure (by simp)
  | cons method rest =>
    obtain ⟨pos, name, ⟨params, results⟩, doc⟩ := method
    refine .bind sound (renderParams_named each params) fun ps =>
      .bind sound (renderResults_named each results) fun rs =>
        .bind sound (renderMethods_named each rest) fun ms => .pure fun others given taken => ?_
    refine List.forall_mem_cons.mpr ⟨?_, others⟩
    exact (Rendered.allNamed_plain _).append (Rendered.allNamed_signatureOf taken given)

end

end

theorem renderInside_named (sound : l.Sound) (fuel : Nat) (seen : List (String × String))
    (ctx : Context) (expr : TypeExpr) :
    Answers disk l (renderInside fuel seen ctx expr) fun r =>
      ctx.package ∈ l.packages → r.AllNamed l := by
  refine ⟨renderInside_resolving fuel seen ctx expr, fun r yields context => ?_⟩
  induction fuel generalizing seen ctx expr r with
  | zero => exact (yields_throw yields).elim
  | succ fuel ih =>
    refine (renderWith_named sound (renderName_named sound context fun d => ?_) expr).answer r yields
    split
    · exact .throw _
    · exact ⟨renderInside_resolving .., fun r yields known => ih _ _ _ _ yields known.package⟩

/-- Whatever a type prints is named after a package that has been loaded, or after an import. -/
theorem render_allNamed (sound : l.Sound) (context : ctx.package ∈ l.packages) {r : Rendered}
    (yields : Yields disk l (render expr ctx) r) : r.AllNamed l := by
  obtain ⟨fuel, yields⟩ := yields_deep (renderInside_resolving · [] ctx expr) sound yields
  exact (renderInside_named sound fuel [] ctx expr).answer r yields context

end Resolve

/-! ### What types print -/

open Resolve

namespace Resolution

variable {r r' : Resolution} {path package name : String}

/-- In the text of the type `package.name` stands for a type of the package with that path. -/
def Qualifies (r : Resolution) (path package name : String) : Prop :=
  .typeName name package path ∈ r.shape.rendered.parts ∧ path ≠ r.root

theorem mem_printed : (path, package) ∈ r.printed ↔ ∃ name, r.Qualifies path package name := by
  simp only [printed, Rendered.packages, List.mem_filterMap, Qualifies]
  constructor
  · rintro ⟨part, member, named⟩
    cases part with
    | plain text => cases named
    | typeName name package' path' =>
      by_cases other : path' = r.root
      · rw [Part.package?, if_pos other] at named
        cases named
      · rw [Part.package?, if_neg other] at named
        cases named
        exact ⟨name, member, other⟩
  · rintro ⟨name, member, other⟩
    exact ⟨_, member, if_neg other⟩

/-- The owning package is the one that is named last. -/
theorem type_package (r : Resolution) :
    r.type.package = ((r.printed.getLast?).map (·.1)).getD "" := rfl

theorem qualifies_of_package (shown : r.type.package ≠ "") :
    ∃ package name, r.Qualifies r.type.package package name := by
  rw [type_package] at shown ⊢
  cases last : r.printed.getLast? with
  | none => exact absurd (by rw [last]; rfl) shown
  | some entry =>
    obtain ⟨name, here⟩ := mem_printed.mp (List.mem_of_getLast? last)
    exact ⟨entry.2, name, here⟩

/-- No package is owning while one is named, if the last one that is named has the empty path. -/
theorem qualifies_empty (hidden : r.type.package = "") (named : r.Qualifies path package name) :
    ∃ package name, r.Qualifies "" package name := by
  have entry : (path, package) ∈ r.printed := mem_printed.mpr ⟨name, named⟩
  obtain ⟨last, found⟩ := Option.ne_none_iff_exists'.mp
    (mt List.getLast?_eq_none_iff.mp (List.ne_nil_of_mem entry))
  rw [type_package, found] at hidden
  obtain ⟨name, here⟩ := mem_printed.mp (List.mem_of_getLast? found)
  rw [show last.1 = "" from hidden] at here
  exact ⟨last.2, name, here⟩

theorem Stands.namedIn (stands : r.Stands disk l) (sound : l.Sound)
    (named : r.Qualifies path package name) : NamedIn l (.typeName name package path) :=
  render_allNamed sound (peel_known sound stands.context stands.shape.peeled).1
    stands.shape.rendered _ named.1

end Resolution

/-! ### One module -/

/-- All packages that have been loaded belong to one module, or there is one, which belongs to
none. -/
def Loader.OfOneModule (l : Loader) : Prop :=
  (∃ m, ∀ p ∈ l.packages, p.module = some m) ∨ ∃ p, l.packages = [p] ∧ p.module = none

/-- Two packages that have been loaded share a path, but not a name. -/
def Loader.Twice (l : Loader) (path package package' : String) : Prop :=
  ∃ p ∈ l.packages, ∃ p' ∈ l.packages, p.path = path ∧ p'.path = path ∧ p.name = package ∧
    p'.name = package' ∧ package ≠ package'

namespace Resolution

variable {r r' : Resolution} {path package package' name name' : String}

/-- In one module a declaration and a type from outside are never of one path. -/
theorem Stands.imports_declared (stands : r.Stands disk l) (placed : ∀ p ∈ l.packages, p.Placed)
    (one : l.OfOneModule) (loaded : p ∈ l.packages) (away : p.path ≠ r.root) {importer : Package}
    (member : importer ∈ l.packages) : importer.importsFromModule p.path = true := by
  rcases one with ⟨m, belongs⟩ | ⟨only, alone, _⟩
  · rw [Package.importsFromModule, belongs importer member, Option.any_some]
    exact placed p loaded m (belongs p loaded)
  · obtain ⟨q, known, same⟩ := stands.root
    rw [alone, List.mem_singleton] at loaded known
    exact absurd (by rw [loaded, ← known, same]) away

/-- In one module a path is named in one way, unless packages of different names have it. -/
theorem Stands.one_name (stands : r.Stands disk l) (stands' : r'.Stands disk l) (sound : l.Sound)
    (placed : ∀ p ∈ l.packages, p.Placed) (one : l.OfOneModule)
    (named : r.Qualifies path package name) (named' : r'.Qualifies path package' name') :
    package = package' ∨ l.Twice path package package' := by
  rcases namedIn_typeName (stands.namedIn sound named) with
    ⟨p, loaded, rfl, rfl⟩ | ⟨importer, member, outside, rfl⟩
  · rcases namedIn_typeName (stands'.namedIn sound named') with
      ⟨p', loaded', same, rfl⟩ | ⟨importer, member, outside, -⟩
    · by_cases equal : p.name = p'.name
      · exact .inl equal
      · exact .inr ⟨p, loaded, p', loaded', rfl, same, rfl, rfl, equal⟩
    · rw [stands.imports_declared placed one loaded named.2 member] at outside
      cases outside
  · rcases namedIn_typeName (stands'.namedIn sound named') with
      ⟨p', loaded', rfl, rfl⟩ | ⟨_, _, _, rfl⟩
    · rw [stands'.imports_declared placed one loaded' named'.2 member] at outside
      cases outside
    · exact .inl rfl

end Resolution

/-! ### Compiled definitions -/

namespace Compile

variable {v : World} {input : Input} {options : Options} {compiled : Compiled}

/-- In a definition that has been compiled from one module, the imports are the packages that the
types which have been resolved name, by path. A type names a package as the imports do, unless two
packages of one path have been loaded that go by different names. The package of a type is the last
one that its text names; it is empty only where the text names none, or one that is imported by an
empty path. -/
theorem compiled_imports (run : (compile input options).runOn disk {} = (.ok compiled, v))
    (one : v.loader.OfOneModule) :
    ∃ roots u count w resolved, input.load.runOn disk {} = (.ok roots, u) ∧
      (extract (exclusionsOf options) input).runOn disk {} = (.ok count, w) ∧
      ResolvedAll disk roots resolved w ∧
      (∀ t ∈ compiled.definition.types,
        (∃ r ∈ resolved, r.type = t) ∨ ∃ root, t = (Session.errorField root).type) ∧
      (∀ path, path ∈ Json.keys compiled.definition.imports ↔
        ∃ r ∈ resolved, ∃ package name, r.Qualifies path package name) ∧
      ∀ r ∈ resolved,
        (∀ path package name, r.Qualifies path package name →
          ∃ package', Json.find? path compiled.definition.imports = some package' ∧
            (package = package' ∨ v.loader.Twice path package package')) ∧
        (r.type.package ≠ "" → ∃ package name, r.Qualifies r.type.package package name) ∧
        (r.type.package = "" → ∀ path package name, r.Qualifies path package name →
          ∃ package name, r.Qualifies "" package name) := by
  obtain ⟨count, w, extracted, definition, loader⟩ := compile_ends run
  obtain ⟨roots, u, resolved, loaded, sound, _, all⟩ := extract_resolves extracted
  have placed := (extract_reachable extracted).consistent.placed
  have imports : compiled.definition.imports =
      (resolved.flatMap Resolution.printed).foldl (fun imports entry => Json.put entry.1 entry.2 imports) [] := by
    rw [definition]
    exact all.imports
  have entries : ∀ path package, (path, package) ∈ resolved.flatMap Resolution.printed ↔
      ∃ r ∈ resolved, ∃ name, r.Qualifies path package name := by
    intro path package
    simp only [List.mem_flatMap, Resolution.mem_printed]
  have paths : ∀ path, path ∈ Json.keys compiled.definition.imports ↔
      ∃ r ∈ resolved, ∃ package name, r.Qualifies path package name := by
    intro path
    rw [imports, Json.mem_keys_foldl_put]
    simp only [Json.keys, List.map_nil, List.not_mem_nil, false_or, entries]
    constructor
    · rintro ⟨package, r, listed, name, named⟩
      exact ⟨r, listed, package, name, named⟩
    · rintro ⟨r, listed, package, name, named⟩
      exact ⟨package, r, listed, name, named⟩
  refine ⟨roots, u, count, w, resolved, loaded, extracted, all, fun t member => ?_, paths,
    fun r listed => ⟨fun path package name named => ?_, Resolution.qualifies_of_package,
      fun hidden _ _ _ => Resolution.qualifies_empty hidden⟩⟩
  · rw [definition] at member
    rcases Session.mem_types_finalize member with held | added
    · exact .inl ((all.types t).mp held)
    · exact .inr ⟨_, added⟩
  · obtain ⟨package', found⟩ := Option.isSome_iff_exists.mp
      (Json.find?_isSome_iff.mpr ((paths path).mpr ⟨r, listed, package, name, named⟩))
    rw [imports] at found
    have entered := (Json.mem_of_find?_foldl_put found).resolve_left (by simp)
    obtain ⟨r', listed', name', named'⟩ := (entries path package').mp entered
    rw [loader] at one ⊢
    exact ⟨package', imports ▸ found, (all.stands r listed).one_name (all.stands r' listed') sound
      placed one named named'⟩

/-- A module with two packages, the second of which imports the first. -/
def moduleDisk : Disk :=
  ⟨[("go.mod", .file (Text.encode "module m".toList)),
    ("d", .dir [("a.go", .file (Text.encode "package d; type K string".toList))]),
    ("e", .dir [("a.go", .file (Text.encode
      "package e; import (\"m/d\"; \"time\"); type S struct\x7bF map[d.K][]time.Time\x7d".toList))])],
    []⟩

theorem compiled_imports_qualified :
    ∃ compiled v, (compile (.patterns ["e"]) {}).runOn moduleDisk {} = (.ok compiled, v) ∧
      v.loader.OfOneModule ∧ ∃ resolved : List Resolution,
        ∀ path, path ∈ ["m/d", "time"] ↔
          ∃ r ∈ resolved, ∃ package name, r.Qualifies path package name := by
  have shape : ((compile (.patterns ["e"]) {}).runOn moduleDisk {}).1.toOption.any (fun compiled =>
      Json.keys compiled.definition.imports == ["m/d", "time"] &&
        ((compile (.patterns ["e"]) {}).runOn moduleDisk {}).2.loader.packages.all fun p =>
          p.module == some ⟨"m", ⟨.root, []⟩⟩) = true := by
    decide +kernel
  rcases run : (compile (.patterns ["e"]) {}).runOn moduleDisk {} with ⟨_ | compiled, v⟩
  · rw [run] at shape
    cases shape
  · simp only [run, Except.toOption, Option.any_some, Bool.and_eq_true, beq_iff_eq,
      List.all_eq_true] at shape
    have one : v.loader.OfOneModule := .inl ⟨_, shape.2⟩
    obtain ⟨_, _, _, _, resolved, _, _, _, _, paths, _⟩ := compiled_imports run one
    rw [shape.1] at paths
    exact ⟨compiled, v, rfl, one, resolved, paths⟩

/-- A field of a type that is imported by an empty path. -/
def pathless : Input :=
  .sources [("a.go", "package a; import x \"\"; type S struct\x7b F x.T \x7d")]

/-- The package of a type may be empty though its text names one. -/
theorem package_hidden :
    ∃ compiled v count w roots resolved, ∃ r ∈ resolved,
      (compile pathless {}).runOn ⟨[], []⟩ {} = (.ok compiled, v) ∧ v.loader.OfOneModule ∧
      (extract [] pathless).runOn ⟨[], []⟩ {} = (.ok count, w) ∧
      ResolvedAll ⟨[], []⟩ roots resolved w ∧ r.type ∈ compiled.definition.types ∧
      r.type.package = "" ∧ ∃ path package name, r.Qualifies path package name := by
  have shape : ((compile pathless {}).runOn ⟨[], []⟩ {}).1.toOption.any (fun compiled =>
      let v := ((compile pathless {}).runOn ⟨[], []⟩ {}).2
      let w := ((extract [] pathless).runOn ⟨[], []⟩ {}).2
      v.loader.packages.map (·.module) == [none] && !w.session.imports.isEmpty &&
        compiled.definition.types == w.session.types &&
        w.session.types.all (·.package == "")) = true := by
    decide +kernel
  rcases run : (compile pathless {}).runOn ⟨[], []⟩ {} with ⟨_ | compiled, v⟩
  · rw [run] at shape
    cases shape
  · obtain ⟨count, w, extracted, _⟩ := compile_ends run
    rw [show exclusionsOf {} = [] from rfl] at extracted
    simp only [run, extracted, Except.toOption, Option.any_some, Bool.and_eq_true, beq_iff_eq,
      Bool.not_eq_true', List.all_eq_true] at shape
    obtain ⟨⟨⟨modules, imported⟩, types⟩, hidden⟩ := shape
    obtain ⟨roots, _, resolved, _, _, _, all⟩ := extract_resolves extracted
    have printed : resolved.flatMap Resolution.printed ≠ [] := by
      intro nothing
      rw [all.imports, nothing] at imported
      cases imported
    obtain ⟨⟨path, package⟩, entry⟩ := List.exists_mem_of_ne_nil _ printed
    obtain ⟨r, listed, printed⟩ := List.mem_flatMap.mp entry
    obtain ⟨name, named⟩ := Resolution.mem_printed.mp printed
    have held := (all.types r.type).mpr ⟨r, listed, rfl⟩
    obtain ⟨p, alone, module⟩ := List.map_eq_singleton_iff.mp modules
    exact ⟨compiled, v, count, w, roots, resolved, r, listed, rfl, .inr ⟨p, alone, module⟩, extracted,
      all, types ▸ held, hidden _ held, path, package, name, named⟩

end Compile

end GoIdl
