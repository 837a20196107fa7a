import GoIdl.Proofs.Compile.Mimicking
import GoIdl.Proofs.Syntax.Matching
import GoIdl.Compile.Extract

/-!
# Twin packages

Two packages without a module are twins if they have one name and one path and declare the same
names by matching types. Wherever a name is looked up in the one, the other answers alike, so that
what is behind declarations and what types read as is alike as well.
-/

namespace GoIdl

open Syntax (TypeExpr TypeName TypeSpec Param FieldDecl MethodDecl SourceFile ImportSpec Location
  Matches SameShape MatchesEmbed MatchesParams MatchesFields MatchesMethods)

/-- Nothing stands for anything else. -/
def Nothing (_ _ : TypeExpr) : Prop := False

/-- Files in which names are looked up alike. -/
structure FilesAlike (strict : Prop) (file file' : SourceFile) : Prop where
  imports : file.imports = file'.imports
  path : strict → file.path = file'.path

/-- Declarations of one name by matching types. -/
structure SpecsAlike (strict : Prop) (stands : TypeExpr → TypeExpr → Prop) (spec spec' : TypeSpec) :
    Prop where
  name : spec.name = spec'.name
  isAlias : spec.isAlias = spec'.isAlias
  doc : spec.doc = spec'.doc
  pos : strict → spec.pos = spec'.pos
  type : SameShape strict stands false spec.type spec'.type

/-- Places in the one package and in the other. -/
structure ContextsAlike (strict : Prop) (p p' : Package) (ctx ctx' : Context) : Prop where
  package : ctx.package = p
  package' : ctx'.package = p'
  member : ctx.file ∈ p.files
  member' : ctx'.file ∈ p'.files
  file : FilesAlike strict ctx.file ctx'.file

/-- Declarations that the packages hold under one name. -/
structure TypesAlike (strict : Prop) (stands : TypeExpr → TypeExpr → Prop) (p p' : Package)
    (d d' : DeclaredType) : Prop where
  found : p.lookup d.name = some d
  found' : p'.lookup d'.name = some d'
  context : ContextsAlike strict p p' d.context d'.context
  spec : SpecsAlike strict stands d.spec d'.spec

/-- Packages without a module that declare the same names alike. -/
structure Twins (strict : Prop) (stands : TypeExpr → TypeExpr → Prop) (p p' : Package) : Prop where
  module : p.module = none
  module' : p'.module = none
  name : p.name = p'.name
  path : p.path = p'.path
  names : p.names = p'.names
  lookup : ∀ name, Option.Rel (TypesAlike strict stands p p') (p.lookup name) (p'.lookup name)

inductive ResolvedAlike (strict : Prop) (stands : TypeExpr → TypeExpr → Prop) (p p' : Package) :
    ResolvedType → ResolvedType → Prop where
  | declared {d d' : DeclaredType} (alike : TypesAlike strict stands p p' d d') :
      ResolvedAlike strict stands p p' (.declared d) (.declared d')
  | external (t : ExternalType) : ResolvedAlike strict stands p p' (.external t) (.external t)

variable {disk : Disk} {least : Nat} {strict : Prop} {worlds : World → World → Prop}
  {stands : TypeExpr → TypeExpr → Prop} {p p' : Package} {ctx ctx' : Context} {d d' : DeclaredType}

namespace Twins

variable (twins : Twins strict stands p p')

include twins

theorem importsFromModule (path : String) :
    p.importsFromModule path = false ∧ p'.importsFromModule path = false := by
  rw [Package.importsFromModule, Package.importsFromModule, twins.module, twins.module']
  exact ⟨rfl, rfl⟩

theorem contextPath (alike : ContextsAlike strict p p' ctx ctx') :
    ctx.package.path = ctx'.package.path := by
  rw [alike.package, alike.package', twins.path]

theorem packagePath (alike : TypesAlike strict stands p p' d d') :
    d.package.path = d'.package.path := twins.contextPath alike.context

theorem packageName (alike : TypesAlike strict stands p p' d d') :
    d.package.name = d'.package.name :=
  (congrArg Package.name alike.context.package).trans
    (twins.name.trans (congrArg Package.name alike.context.package').symm)

theorem key (alike : TypesAlike strict stands p p' d d') : d.key = d'.key :=
  congrArg₂ Prod.mk (twins.packagePath alike) alike.spec.name

end Twins

theorem TypesAlike.name (alike : TypesAlike strict stands p p' d d') : d.name = d'.name :=
  alike.spec.name

theorem TypesAlike.type (alike : TypesAlike strict stands p p' d d') :
    Matches strict stands true d.spec.type d'.spec.type := Matches.within (.shape alike.spec.type)

theorem TypesAlike.location (alike : TypesAlike strict stands p p' d d') (counts : strict) :
    d.location = d'.location :=
  congrArg₂ Syntax.Position.inFile (alike.context.file.path counts) (alike.spec.pos counts)

theorem ContextsAlike.inFile (alike : ContextsAlike strict p p' ctx ctx') {pos pos' : Syntax.Position}
    (same : strict → pos = pos') (counts : strict) :
    pos.inFile ctx.file.path = pos'.inFile ctx'.file.path :=
  congrArg₂ Syntax.Position.inFile (alike.file.path counts) (same counts)

/-! ### The other way round, and alone -/

theorem SpecsAlike.refl (spec : TypeSpec) : SpecsAlike strict stands spec spec :=
  ⟨rfl, rfl, rfl, fun _ => rfl, .refl _ _⟩

theorem FilesAlike.symm {file file' : SourceFile} (alike : FilesAlike strict file file') :
    FilesAlike strict file' file :=
  ⟨alike.imports.symm, fun counts => (alike.path counts).symm⟩

theorem ContextsAlike.flip (alike : ContextsAlike strict p p' ctx ctx') :
    ContextsAlike strict p' p ctx' ctx :=
  ⟨alike.package', alike.package, alike.member', alike.member, alike.file.symm⟩

theorem SpecsAlike.flip {spec spec' : TypeSpec} (alike : SpecsAlike strict stands spec spec') :
    SpecsAlike strict (flip stands) spec' spec :=
  ⟨alike.name.symm, alike.isAlias.symm, alike.doc.symm, fun counts => (alike.pos counts).symm,
    alike.type.flip⟩

theorem TypesAlike.flip (alike : TypesAlike strict stands p p' d d') :
    TypesAlike strict (flip stands) p' p d' d :=
  ⟨alike.found', alike.found, alike.context.flip, alike.spec.flip⟩

theorem Twins.lookup_cases (twins : Twins strict stands p p') (name : String) :
    (p.lookup name = none ∧ p'.lookup name = none) ∨
      ∃ d d', p.lookup name = some d ∧ p'.lookup name = some d' ∧
        TypesAlike strict stands p p' d d' := by
  have declared := twins.lookup name
  generalize p.lookup name = found, p'.lookup name = found' at declared ⊢
  cases declared with
  | none => exact .inl ⟨rfl, rfl⟩
  | some alike => exact .inr ⟨_, _, rfl, rfl, alike⟩

theorem Twins.flip (twins : Twins strict stands p p') : Twins strict (flip stands) p' p where
  module := twins.module'
  module' := twins.module
  name := twins.name.symm
  path := twins.path.symm
  names := twins.names.symm
  lookup name := by
    rcases twins.lookup_cases name with ⟨unknown, unknown'⟩ | ⟨d, d', found, found', alike⟩
    · rw [unknown, unknown']
      exact .none
    · rw [found, found']
      exact .some alike.flip

/-- What a name is found to stand for is declared in the package. -/
theorem Twins.holds (twins : Twins strict stands p p') {name : String}
    (found : p.lookup name = some d) : d.context.package = p ∧ d.context.file ∈ p.files := by
  rcases twins.lookup_cases name with ⟨unknown, -⟩ | ⟨d, d', known, -, alike⟩
  · exact nomatch unknown.symm.trans found
  · cases found.symm.trans known
    exact ⟨alike.context.package, alike.context.member⟩

/-- A package is its own twin. -/
theorem Twins.alone (twins : Twins strict stands p p') : Twins False Nothing p' p' where
  module := twins.module'
  module' := twins.module'
  name := rfl
  path := rfl
  names := rfl
  lookup name := by
    rcases twins.lookup_cases name with ⟨-, unknown'⟩ | ⟨d, d', -, found', alike⟩
    · rw [unknown']
      exact .none
    · rw [found']
      have context := alike.context
      exact .some ⟨alike.found', alike.found',
        ⟨context.package', context.package', context.member', context.member', rfl, nofun⟩,
        .refl _⟩

/-! ### Names -/

namespace Loading

variable (twins : Twins strict stands p p')

include twins

theorem importName_mimics (file file' : SourceFile) (spec : ImportSpec) :
    Mimics disk strict worlds Eq (importName p file spec) (importName p' file' spec) := by
  obtain ⟨outside, outside'⟩ := twins.importsFromModule spec.path
  unfold importName
  split
  · exact .pure rfl
  · rw [outside, outside']
    exact .pure rfl

theorem resolveBy_mimics {file file' : SourceFile} {location location' : Location}
    (located : strict → location = location') (qualifier name : String) (specs : List ImportSpec) :
    Mimics disk strict worlds (ResolvedAlike strict stands p p')
      (resolveBy p file qualifier name location specs)
      (resolveBy p' file' qualifier name location' specs) := by
  induction specs with
  | nil =>
    refine .fail fun counts => ?_
    rw [located counts, twins.path]
  | cons spec rest ih =>
    obtain ⟨outside, outside'⟩ := twins.importsFromModule spec.path
    unfold resolveBy
    split
    · exact ih
    · refine .bind (importName_mimics twins file file' spec) fun _ shown same => ?_
      subst same
      rw [outside, outside']
      split
      · exact ih
      · exact .pure (.external _)

theorem resolveDotted_mimics {file file' : SourceFile} {location location' : Location} (name : String)
    (specs : List ImportSpec) :
    Mimics disk strict worlds (fun found found' => found = none ∧ found' = none)
      (resolveDotted p file name location specs) (resolveDotted p' file' name location' specs) := by
  induction specs with
  | nil => exact .pure ⟨rfl, rfl⟩
  | cons spec rest ih =>
    obtain ⟨outside, outside'⟩ := twins.importsFromModule spec.path
    unfold resolveDotted
    rw [outside, outside']
    simpa only [Bool.false_eq_true, and_false, if_false] using ih

theorem resolveName_mimics {file file' : SourceFile} {location location' : Location}
    (imports : file.imports = file'.imports) (located : strict → location = location')
    (name : String) :
    Mimics disk strict worlds (Option.Rel (TypesAlike strict stands p p'))
      (resolveName p file name location) (resolveName p' file' name location') := by
  unfold resolveName
  rcases twins.lookup_cases name with ⟨unknown, unknown'⟩ | ⟨d, d', found, found', alike⟩
  · rw [unknown, unknown', imports]
    refine .bind (resolveDotted_mimics twins name file'.imports) fun a b nowhere => ?_
    obtain ⟨rfl, rfl⟩ := nowhere
    dsimp only
    split
    · exact .pure .none
    · refine .fail fun counts => ?_
      rw [located counts, twins.path]
  · rw [found, found']
    exact .pure (.some alike)

end Loading

namespace Resolve

variable (twins : Twins strict stands p p')

include twins

theorem lookup_mimics (alike : ContextsAlike strict p p' ctx ctx') {name name' : TypeName}
    (same : name.Alike strict name') :
    Mimics disk strict worlds (Option.Rel (ResolvedAlike strict stands p p')) (lookup name ctx)
      (lookup name' ctx') := by
  have located := alike.inFile same.pos
  unfold lookup
  dsimp only
  rw [← same.qualifier, ← same.name, alike.package, alike.package']
  split
  · unfold Loading.resolveQualified
    rw [← alike.file.imports]
    exact .bind (Loading.resolveBy_mimics twins located _ _ _) fun _ _ found => .pure (.some found)
  · refine .bind (Loading.resolveName_mimics twins alike.file.imports located _) fun _ _ found => ?_
    cases found with
    | none => exact .pure .none
    | some found => exact .pure (.some (.declared found))

theorem lookupDeclared_mimics (alike : ContextsAlike strict p p' ctx ctx') {name name' : TypeName}
    (same : name.Alike strict name') :
    Mimics disk strict worlds (Option.Rel (TypesAlike strict stands p p')) (lookupDeclared name ctx)
      (lookupDeclared name' ctx') := by
  refine .bind (lookup_mimics twins alike same) fun _ _ found => ?_
  cases found with
  | none => exact .pure .none
  | some found =>
    cases found with
    | declared found => exact .pure (.some found)
    | external t => exact .pure .none

/-! ### What is behind a declaration -/

structure BehindAlike (strict : Prop) (stands : TypeExpr → TypeExpr → Prop) (p p' : Package)
    (found found' : Option TypeExpr × DeclaredType) : Prop where
  type : Option.Rel (SameShape strict stands false) found.1 found'.1
  origin : TypesAlike strict stands p p' found.2 found'.2

theorem followNames_mimics (fuel : Nat) (seen : List (String × String)) {root root' : DeclaredType}
    (roots : TypesAlike strict stands p p' root root') (alike : TypesAlike strict stands p p' d d') :
    Mimics disk strict worlds (BehindAlike strict stands p p') (followNames fuel seen root d)
      (followNames fuel seen root' d') := by
  induction fuel generalizing seen d d' with
  | zero => exact .throw fun _ => rfl
  | succ fuel ih =>
    unfold followNames
    rw [← twins.key alike]
    split
    · refine .fail fun counts => ?_
      rw [roots.location counts, twins.packagePath roots, roots.name]
    · have types := alike.spec.type
      revert types
      generalize typed : d.spec.type = type, typed' : d'.spec.type = type'
      intro types
      cases types with
      | named same =>
        refine .bind (lookupDeclared_mimics twins alike.context same) fun _ _ found => ?_
        cases found with
        | none => exact .pure ⟨.none, alike⟩
        | some next => exact ih _ next
      | _ => exact .pure ⟨.some (by constructor <;> assumption), alike⟩

theorem underlying_mimics (alike : TypesAlike strict stands p p' d d') :
    Mimics disk strict (World.Alike least) (BehindAlike strict stands p p') (underlying d) (underlying d') := by
  refine .bind .depth fun fuel _ same => ?_
  subst same
  exact followNames_mimics twins fuel [] alike alike

structure StructsAlike (strict : Prop) (stands : TypeExpr → TypeExpr → Prop) (p p' : Package)
    (found found' : List (FieldDecl TypeExpr) × DeclaredType) : Prop where
  fields : MatchesFields strict stands false found.1 found'.1
  origin : TypesAlike strict stands p p' found.2 found'.2

theorem structOf_mimics (alike : TypesAlike strict stands p p' d d') :
    Mimics disk strict (World.Alike least) (Option.Rel (StructsAlike strict stands p p')) (structOf d)
      (structOf d') := by
  refine .bind (underlying_mimics twins alike) fun found found' behind => ?_
  obtain ⟨type, origin⟩ := found
  obtain ⟨type', origin'⟩ := found'
  obtain ⟨types, origins⟩ := behind
  cases types with
  | none => exact .pure .none
  | some shape =>
    cases shape with
    | struct fields => exact .pure (.some ⟨fields, origins⟩)
    | _ => exact .pure .none

/-! ### Rendering -/

section

variable {leaf : TypeExpr → TypeExpr → Prop} {ofAlias ofAlias' : DeclaredType → Compile Rendered}

/-- Names that are alike, and expressions that stand for each other, are rendered alike. -/
structure LeavesRendered (disk : Disk) (strict : Prop) (worlds : World → World → Prop)
    (leaf : TypeExpr → TypeExpr → Prop) (ofAlias ofAlias' : DeclaredType → Compile Rendered)
    (ctx ctx' : Context) : Prop where
  names {name name' : TypeName} (same : name.Alike strict name') :
    Mimics disk strict worlds Eq (renderName ofAlias ctx name) (renderName ofAlias' ctx' name')
  standing (a b : TypeExpr) (stand : leaf a b) :
    Mimics disk strict worlds Eq (renderWith ofAlias ctx a) (renderWith ofAlias' ctx' b)

theorem renderName_mimics (aliases : ∀ d d', TypesAlike strict stands p p' d d' →
      Mimics disk strict worlds Eq (ofAlias d) (ofAlias' d'))
    (alike : ContextsAlike strict p p' ctx ctx') {name name' : TypeName} (same : name.Alike strict name') :
    Mimics disk strict worlds Eq (renderName ofAlias ctx name) (renderName ofAlias' ctx' name') := by
  refine .bind (lookup_mimics twins alike same) fun _ _ found => ?_
  cases found with
  | none => exact .pure (by rw [same.name])
  | some found =>
    cases found with
    | external t => exact .pure rfl
    | declared found =>
      dsimp only
      rw [← found.spec.isAlias]
      split
      · exact aliases _ _ found
      · refine .pure ?_
        rw [found.name, twins.packageName found, twins.packagePath found]

omit twins

theorem renderNames_mimics {inside : Bool} {names names' : List TypeName}
    (leaves : LeavesRendered disk strict worlds leaf ofAlias ofAlias' ctx ctx')
    (matched : List.Forall₂ (MatchesEmbed strict leaf inside) names names') :
    Mimics disk strict worlds Eq (renderNames ofAlias ctx names) (renderNames ofAlias' ctx' names') := by
  induction matched with
  | nil => exact .pure rfl
  | cons here _ ih =>
    have first : Mimics disk strict worlds Eq (renderName ofAlias ctx _) (renderName ofAlias' ctx' _) :=
      match here with
      | .stands _ stand => leaves.standing _ _ stand
      | .alike same => leaves.names same
    refine .bind first fun _ _ same => .bind ih fun _ _ others => .pure ?_
    rw [same, others]

mutual

theorem renderWith_mimics {inside : Bool} {expr expr' : TypeExpr}
    (leaves : LeavesRendered disk strict worlds leaf ofAlias ofAlias' ctx ctx')
    (matched : Matches strict leaf inside expr expr') :
    Mimics disk strict worlds Eq (renderWith ofAlias ctx expr) (renderWith ofAlias' ctx' expr') := by
  match matched with
  | .stands stand => exact leaves.standing _ _ stand
  | .shape shape => exact renderShape_mimics leaves shape

theorem renderShape_mimics {inside : Bool} {expr expr' : TypeExpr}
    (leaves : LeavesRendered disk strict worlds leaf ofAlias ofAlias' ctx ctx')
    (shape : SameShape strict leaf inside expr expr') :
    Mimics disk strict worlds Eq (renderWith ofAlias ctx expr) (renderWith ofAlias' ctx' expr') := by
  match shape with
  | .named same => exact leaves.names same
  | .pointer elem => exact .bind (renderWith_mimics leaves elem) fun _ _ same => .pure (by rw [same])
  | .slice elem => exact .bind (renderWith_mimics leaves elem) fun _ _ same => .pure (by rw [same])
  | .array elem => exact .bind (renderWith_mimics leaves elem) fun _ _ same => .pure (by rw [same])
  | .map key value =>
    exact .bind (renderWith_mimics leaves key) fun _ _ same =>
      .bind (renderWith_mimics leaves value) fun _ _ same' => .pure (by rw [same, same'])
  | .chan elem => exact .bind (renderWith_mimics leaves elem) fun _ _ same => .pure (by rw [same])
  | .func params results =>
    exact .bind (renderParams_mimics leaves params) fun _ _ same =>
      .bind (renderResults_mimics leaves results) fun _ _ same' => .pure (by rw [same, same'])
  | .struct fields =>
    exact .bind (renderFields_mimics leaves fields) fun _ _ same => .pure (by rw [same])
  | .interface methods embeds =>
    exact .bind (renderMethods_mimics leaves methods) fun _ _ same =>
      .bind (renderNames_mimics leaves embeds) fun _ _ same' =>
        .pure (by rw [same, same'])

theorem renderParams_mimics {inside : Bool} {params params' : List (Param TypeExpr)}
    (leaves : LeavesRendered disk strict worlds leaf ofAlias ofAlias' ctx ctx')
    (matched : MatchesParams strict leaf inside params params') :
    Mimics disk strict worlds Eq (renderParams ofAlias ctx params) (renderParams ofAlias' ctx' params') := by
  match matched with
  | .nil => exact .pure rfl
  | .cons variadic _ type rest =>
    exact .bind (renderWith_mimics leaves type) fun _ _ same =>
      .bind (renderParams_mimics leaves rest) fun _ _ same' => .pure (by rw [variadic, same, same'])

theorem renderResults_mimics {inside : Bool} {results results' : List (Param TypeExpr)}
    (leaves : LeavesRendered disk strict worlds leaf ofAlias ofAlias' ctx ctx')
    (matched : MatchesParams strict leaf inside results results') :
    Mimics disk strict worlds Eq (renderResults ofAlias ctx results)
      (renderResults ofAlias' ctx' results') := by
  match matched with
  | .nil => exact .pure rfl
  | .cons _ _ type rest =>
    exact .bind (renderWith_mimics leaves type) fun _ _ same =>
      .bind (renderResults_mimics leaves rest) fun _ _ same' => .pure (by rw [same, same'])

theorem renderFields_mimics {inside : Bool} {fields fields' : List (FieldDecl TypeExpr)}
    (leaves : LeavesRendered disk strict worlds leaf ofAlias ofAlias' ctx ctx')
    (matched : MatchesFields strict leaf inside fields fields') :
    Mimics disk strict worlds Eq (renderFields ofAlias ctx fields) (renderFields ofAlias' ctx' fields') := by
  match matched with
  | .nil => exact .pure rfl
  | .cons embedded name _ _ _ type rest =>
    refine .bind (renderWith_mimics leaves type) fun _ _ same =>
      .bind (renderFields_mimics leaves rest) fun _ _ same' => .pure ?_
    rw [same, same', ← embedded]
    split
    · rfl
    · rename_i plain
      rw [name.resolve_left fun both => plain (Bool.and_eq_true_iff.mp both).1]

theorem renderMethods_mimics {inside : Bool} {methods methods' : List (MethodDecl TypeExpr)}
    (leaves : LeavesRendered disk strict worlds leaf ofAlias ofAlias' ctx ctx')
    (matched : MatchesMethods strict leaf inside methods methods') :
    Mimics disk strict worlds Eq (renderMethods ofAlias ctx methods)
      (renderMethods ofAlias' ctx' methods') := by
  match matched with
  | .nil => exact .pure rfl
  | .cons name _ _ params results rest =>
    exact .bind (renderParams_mimics leaves params) fun _ _ same =>
      .bind (renderResults_mimics leaves results) fun _ _ same' =>
        .bind (renderMethods_mimics leaves rest) fun _ _ same'' =>
          .pure (by rw [name, same, same', same''])

end

end

/-! ### Taking types apart -/

/-- Expressions of the same form, with the places where they stand. -/
structure PlacedAlike (strict : Prop) (stands : TypeExpr → TypeExpr → Prop) (p p' : Package)
    (placed placed' : TypeExpr × Context) : Prop where
  shape : SameShape strict stands true placed.1 placed'.1
  context : ContextsAlike strict p p' placed.2 placed'.2

structure PeeledAlike (strict : Prop) (stands : TypeExpr → TypeExpr → Prop) (p p' : Package)
    (peeled peeled' : Peeled) : Prop where
  multiple : peeled.multiple = peeled'.multiple
  optional : peeled.optional = peeled'.optional
  shown : PlacedAlike strict stands p p' (peeled.shown, peeled.shownIn) (peeled'.shown, peeled'.shownIn)
  core : PlacedAlike strict stands p p' (peeled.core, peeled.coreIn) (peeled'.core, peeled'.coreIn)

/-- Aliases lead to expressions of the same form, and types read the same, wherever expressions
match. -/
structure Readable (disk : Disk) (least : Nat) (strict : Prop)
    (stands : TypeExpr → TypeExpr → Prop) (p p' : Package) : Prop extends Twins strict stands p p' where
  expands : ∀ {expr expr' ctx ctx'}, Matches strict stands true expr expr' →
    ContextsAlike strict p p' ctx ctx' →
    Mimics disk strict (World.Alike least) (PlacedAlike strict stands p p') (expandAliases expr ctx)
      (expandAliases expr' ctx')
  renders : ∀ {expr expr' ctx ctx'}, Matches strict stands true expr expr' →
    ContextsAlike strict p p' ctx ctx' →
    Mimics disk strict (World.Alike least) Eq (render expr ctx) (render expr' ctx')

omit twins

section

variable (readable : Readable disk least strict stands p p') {expr expr' : TypeExpr}

include readable

theorem sliceElem_mimics (alike : PlacedAlike strict stands p p' (expr, ctx) (expr', ctx')) :
    Mimics disk strict (World.Alike least) (fun found found' => found.1 = found'.1 ∧
        PlacedAlike strict stands p p' found.2 found'.2)
      (sliceElem expr ctx) (sliceElem expr' ctx') := by
  obtain ⟨shape, context⟩ := alike
  cases shape with
  | slice elem => exact .bind (readable.expands elem context) fun _ _ found => .pure ⟨rfl, found⟩
  | _ => exact .pure ⟨rfl, by constructor <;> assumption, context⟩

theorem pointerElem_mimics (alike : PlacedAlike strict stands p p' (expr, ctx) (expr', ctx')) :
    Mimics disk strict (World.Alike least) (fun found found' => found.1 = found'.1 ∧
        PlacedAlike strict stands p p' found.2 found'.2)
      (pointerElem expr ctx) (pointerElem expr' ctx') := by
  obtain ⟨shape, context⟩ := alike
  cases shape with
  | pointer elem => exact .bind (readable.expands elem context) fun _ _ found => .pure ⟨rfl, found⟩
  | _ => exact .pure ⟨rfl, by constructor <;> assumption, context⟩

theorem peel_mimics (matched : Matches strict stands true expr expr')
    (alike : ContextsAlike strict p p' ctx ctx') :
    Mimics disk strict (World.Alike least) (PeeledAlike strict stands p p') (peel expr ctx) (peel expr' ctx') := by
  refine .bind (readable.expands matched alike) fun _ _ whole => ?_
  refine .bind (sliceElem_mimics readable whole) fun _ _ sliced => ?_
  obtain ⟨multiple, shown⟩ := sliced
  refine .bind (pointerElem_mimics readable shown) fun _ _ pointed => ?_
  exact .pure ⟨multiple, pointed.1, shown, pointed.2⟩

theorem refuseStruct_mimics {peeled peeled' : Peeled} {location location' : Location}
    (alike : PeeledAlike strict stands p p' peeled peeled')
    (located : strict → location = location') :
    Mimics disk strict worlds (fun _ _ => True) (refuseStruct peeled location)
      (refuseStruct peeled' location') := by
  obtain ⟨multiple, optional, shown, shownIn, core, coreIn⟩ := peeled
  obtain ⟨multiple', optional', shown', shownIn', core', coreIn'⟩ := peeled'
  obtain ⟨-, -, -, shape, context⟩ := alike
  cases shape with
  | struct fields =>
    refine .fail fun counts => ?_
    rw [located counts, readable.contextPath context]
  | _ => exact .pure trivial

theorem structNamed_mimics (alike : PlacedAlike strict stands p p' (expr, ctx) (expr', ctx')) :
    Mimics disk strict (World.Alike least) (Option.Rel (TypesAlike strict stands p p')) (structNamed expr ctx)
      (structNamed expr' ctx') := by
  obtain ⟨shape, context⟩ := alike
  cases shape with
  | named same =>
    refine .bind (lookupDeclared_mimics readable.toTwins context same) fun _ _ found => ?_
    cases found with
    | none => exact .pure .none
    | some found =>
      refine .bind (structOf_mimics readable.toTwins found) fun _ _ behind => .pure ?_
      cases behind with
      | none => exact .none
      | some _ => exact .some found
  | _ => exact .pure .none

theorem fieldType_mimics {extract extract' : DeclaredType → Compile Unit}
    (extracts : ∀ d d', TypesAlike strict stands p p' d d' →
      Mimics disk strict (World.Alike least) (fun _ _ => True) (extract d) (extract' d'))
    (matched : Matches strict stands true expr expr') (alike : ContextsAlike strict p p' ctx ctx')
    {location location' : Location} (located : strict → location = location') :
    Mimics disk strict (World.Alike least) Eq (fieldType extract expr ctx location)
      (fieldType extract' expr' ctx' location') := by
  refine .bind (peel_mimics readable matched alike) fun peeled peeled' apart => ?_
  refine .bind (refuseStruct_mimics readable apart located) fun _ _ _ => ?_
  refine .bind (structNamed_mimics readable apart.core) fun target target' found => ?_
  have extracted : Mimics disk strict (World.Alike least) (fun _ _ => True) (target.forM extract)
      (target'.forM extract') := by
    cases found with
    | none => exact .pure trivial
    | some found => exact extracts _ _ found
  have isObject : target.isSome = target'.isSome := by
    cases found <;> rfl
  refine .bind extracted fun _ _ _ => ?_
  refine .bind (readable.renders (.shape apart.shown.shape) apart.shown.context)
    fun rendered _ same => ?_
  subst same
  refine .bind .rootPath fun root _ same => ?_
  subst same
  refine .bind (.modifySession fun _ => rfl) fun _ _ _ => .pure ?_
  rw [apart.multiple, apart.optional, isObject]

end

end Resolve

end GoIdl
