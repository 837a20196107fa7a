import GoIdl.Proofs.Compile.Resolving

/-!
# Known declarations

Resolving leads from known packages to known packages: whatever a name stands for is a declaration
in the scope of a package that has been loaded, and it is told apart by path and name.
-/

namespace GoIdl

open Syntax (TypeExpr TypeName Param Signature FieldDecl MethodDecl SourceFile ImportSpec Location
  IsIdentifier)

variable {α β : Type} {disk : Disk} {l l' : Loader} {ctx ctx' : Context} {expr : TypeExpr}
  {d e : DeclaredType} {name : TypeName}

/-- A declaration that its package, which has been loaded, finds under its name. -/
structure DeclaredType.Known (l : Loader) (d : DeclaredType) : Prop where
  package : d.package ∈ l.packages
  found : d.package.lookup d.name = some d

namespace DeclaredType.Known

theorem mono (known : d.Known l) (le : l.Le l') : d.Known l' := ⟨le.mem known.package, known.found⟩

theorem of_lookup {p : Package} {name : String} (sound : l.Sound) (member : p ∈ l.packages)
    (found : p.lookup name = some d) : d.Known l := by
  have same := Package.lookup_package found
  have named := ((sound.wellFormed p member).lookup_name found).1
  subst same
  subst named
  exact ⟨member, found⟩

theorem identifier (sound : l.Sound) (known : d.Known l) : IsIdentifier d.name :=
  ((sound.wellFormed _ known.package).lookup_name known.found).2

theorem eq_of_package_eq (known : d.Known l) (known' : e.Known l) (package : d.package = e.package)
    (name : d.name = e.name) : d = e := by
  have found := known.found
  rw [package, name, known'.found] at found
  exact (Option.some.inj found).symm

end DeclaredType.Known

/-! ### Identifiers of declarations -/

theorem append_cons_inj {x : α} {xs ys rest rest' : List α} (inside : x ∉ xs) (outside : x ∉ ys)
    (same : xs ++ x :: rest = ys ++ x :: rest') : xs = ys ∧ rest = rest' := by
  induction xs generalizing ys with
  | nil =>
    cases ys with
    | nil => exact ⟨rfl, (List.cons.inj same).2⟩
    | cons y ys =>
      obtain ⟨rfl, _⟩ := List.cons.inj same
      exact absurd List.mem_cons_self outside
  | cons z xs ih =>
    cases ys with
    | nil =>
      obtain ⟨rfl, _⟩ := List.cons.inj same
      exact absurd List.mem_cons_self inside
    | cons y ys =>
      obtain ⟨first, later⟩ := List.cons.inj same
      obtain ⟨others, ended⟩ := ih (fun member => inside (List.mem_cons_of_mem _ member))
        (fun member => outside (List.mem_cons_of_mem _ member)) later
      exact ⟨by rw [first, others], ended⟩

theorem append_dot_inj {path path' name name' : List Char} (dotless : '.' ∉ name)
    (dotless' : '.' ∉ name') (same : path ++ '.' :: name = path' ++ '.' :: name') :
    path = path' ∧ name = name' := by
  have reversed := congrArg List.reverse same
  simp only [List.reverse_append, List.reverse_cons, List.append_assoc, List.singleton_append]
    at reversed
  obtain ⟨names, paths⟩ :=
    append_cons_inj (by simpa using dotless) (by simpa using dotless') reversed
  exact ⟨List.reverse_injective paths, List.reverse_injective names⟩

theorem isWord_dot : Text.isWord '.' = false := by decide +kernel

theorem isWord_star : Text.isWord '*' = false := by decide +kernel

theorem qualified_inj {path path' name name' : String} (word : IsIdentifier name)
    (word' : IsIdentifier name') (same : path ++ "." ++ name = path' ++ "." ++ name') :
    path = path' ∧ name = name' := by
  have dot : ".".toList = ['.'] := rfl
  have chars := congrArg String.toList same
  simp only [String.toList_append, dot, List.append_assoc, List.singleton_append] at chars
  obtain ⟨paths, names⟩ :=
    append_dot_inj (word.not_mem isWord_dot) (word'.not_mem isWord_dot) chars
  exact ⟨String.toList_injective paths, String.toList_injective names⟩

theorem typeIdOf_inj (sound : l.Sound) (known : d.Known l) (known' : e.Known l)
    (same : Extract.typeIdOf d = Extract.typeIdOf e) : d.package.path = e.package.path ∧ d.name = e.name :=
  qualified_inj (known.identifier sound) (known'.identifier sound) same

/-- Where no two packages share a path, the identifier of an object tells its declaration. -/
theorem eq_of_typeIdOf_eq (sound : l.Sound) (paths : (l.packages.map (·.path)).Nodup)
    (known : d.Known l) (known' : e.Known l) (same : Extract.typeIdOf d = Extract.typeIdOf e) :
    d = e := by
  obtain ⟨path, name⟩ := typeIdOf_inj sound known known' same
  have package : d.package = e.package :=
    List.inj_on_of_nodup_map paths known.package known'.package path
  exact known.eq_of_package_eq known' package name

/-! ### What names stand for -/

theorem yields_deep {f : Nat → Compile α} {a : α} (each : ∀ n, Resolving (f n)) (sound : l.Sound)
    (yields : Yields disk l (Compile.depth >>= f) a) : ∃ n, Yields disk l (f n) a := by
  have run := yields { loader := l } (.refl l)
  rw [Compile.depth_bind] at run
  exact ⟨_, ((each _).ok (w := { loader := l }) sound run).2⟩

theorem yields_pure {a b : α} (yields : Yields disk l (pure a) b) : b = a :=
  (Compile.pure_ok.mp (yields { loader := l } (.refl l))).1

theorem yields_throw {failure : Failure} {a : α} (yields : Yields disk l (throw failure) a) : False :=
  nomatch yields { loader := l } (.refl l)

namespace Loading

variable {package target : Package} {file : SourceFile} {location : Location}

theorem import_known {path : String} (sound : l.Sound)
    (yields : Yields disk l (loadImport package path location) target) : target ∈ l.packages :=
  sound.byPath path target
    (loadImport_ok (w := { loader := l }) sound (yields { loader := l } (.refl l))).2

theorem exported_known {name shown : String} (sound : l.Sound) (member : target ∈ l.packages)
    (yields : Yields disk l (exported target name shown location package) d) : d.Known l := by
  obtain ⟨_, _, yields⟩ :=
    Resolving.bind_yields (.ensure ..) (fun _ => by split <;> constructor) sound yields
  split at yields
  · rename_i found
    cases yields_pure yields
    exact .of_lookup sound member found
  · exact (yields_throw yields).elim

/-- A qualified name is one that an imported package exports, or it is outside of the module. -/
theorem resolveBy_cases {qualifier name : String} {specs : List ImportSpec} {type : ResolvedType}
    (sound : l.Sound)
    (yields : Yields disk l (resolveBy package file qualifier name location specs) type) :
    (∃ spec ∈ specs, ∃ target d,
      Yields disk l (loadImport package spec.path (spec.pos.inFile file.path)) target ∧
        Yields disk l (exported target name (qualifier ++ "." ++ name) location package) d ∧
          type = .declared d) ∨
      ∃ spec ∈ specs, package.importsFromModule spec.path = false ∧
        type = .external ⟨name, defaultPackageName spec.path, spec.path⟩ := by
  induction specs with
  | nil => exact (yields_throw yields).elim
  | cons spec rest ih =>
    have further (yields : Yields disk l (resolveBy package file qualifier name location rest) type) :=
      (ih yields).imp (Exists.imp fun _ => And.imp_left (List.mem_cons_of_mem spec))
        (Exists.imp fun _ => And.imp_left (List.mem_cons_of_mem spec))
    unfold resolveBy at yields
    split at yields
    · exact further yields
    · obtain ⟨local', _, yields⟩ := Resolving.bind_yields (importName_asks ..).resolving (fun _ => by
        split
        · exact (resolveBy_asks ..).resolving
        · split
          · exact .bind (.import ..) fun _ => .bind (exported_asks ..).resolving fun _ => .pure _
          · exact .pure _) sound yields
      split at yields
      · exact further yields
      · split at yields
        · obtain ⟨target, imported, yields⟩ := Resolving.bind_yields (.import ..)
            (fun _ => .bind (exported_asks ..).resolving fun _ => .pure _) sound yields
          obtain ⟨d, found, yields⟩ :=
            Resolving.bind_yields (exported_asks ..).resolving (fun _ => .pure _) sound yields
          exact .inl ⟨spec, List.mem_cons_self, target, d, imported, found, yields_pure yields⟩
        · rename_i outside
          exact .inr ⟨spec, List.mem_cons_self, by simpa using outside, yields_pure yields⟩

theorem resolveBy_known {qualifier name : String} {specs : List ImportSpec} (sound : l.Sound)
    (yields : Yields disk l (resolveBy package file qualifier name location specs) (.declared d)) :
    d.Known l := by
  rcases resolveBy_cases sound yields with ⟨_, _, _, _, imported, found, ⟨⟩⟩ | ⟨_, _, _, ⟨⟩⟩
  exact exported_known sound (import_known sound imported) found

theorem resolveDotted_known {name : String} {specs : List ImportSpec} (sound : l.Sound)
    (yields : Yields disk l (resolveDotted package file name location specs) (some d)) :
    d.Known l := by
  induction specs with
  | nil => cases yields_pure yields
  | cons spec rest ih =>
    unfold resolveDotted at yields
    split at yields
    · obtain ⟨target, imported, yields⟩ := Resolving.bind_yields (.import ..) (fun _ => by
        split
        · exact .bind (exported_asks ..).resolving fun _ => .pure _
        · exact (resolveDotted_asks ..).resolving) sound yields
      split at yields
      · obtain ⟨e, found, yields⟩ :=
          Resolving.bind_yields (exported_asks ..).resolving (fun _ => .pure _) sound yields
        cases yields_pure yields
        exact exported_known sound (import_known sound imported) found
      · exact ih yields
    · exact ih yields

/-- A name is declared in its package, or brought in by an import, or else it is predeclared. -/
theorem resolveName_cases {name : String} {found : Option DeclaredType} (sound : l.Sound)
    (yields : Yields disk l (resolveName package file name location) found) :
    (∃ d, found = some d ∧ package.lookup name = some d) ∨
      (∃ d, found = some d ∧
        Yields disk l (resolveDotted package file name location file.imports) (some d)) ∨
      found = none ∧ name ∈ predeclaredTypes := by
  unfold resolveName at yields
  split at yields
  · rename_i d declared
    exact .inl ⟨d, yields_pure yields, declared⟩
  · obtain ⟨dotted, brought, yields⟩ := Resolving.bind_yields (resolveDotted_asks ..).resolving
      (fun _ => by
        split
        · exact .pure _
        · split <;> constructor) sound yields
    split at yields
    · rename_i d
      exact .inr (.inl ⟨d, yields_pure yields, brought⟩)
    · split at yields
      · rename_i predeclared
        exact .inr (.inr ⟨yields_pure yields, List.contains_iff_mem.mp predeclared⟩)
      · exact (yields_throw yields).elim

theorem resolveName_known {name : String} (sound : l.Sound) (member : package ∈ l.packages)
    (yields : Yields disk l (resolveName package file name location) (some d)) : d.Known l := by
  rcases resolveName_cases sound yields with ⟨_, ⟨⟩, declared⟩ | ⟨_, ⟨⟩, brought⟩ | ⟨⟨⟩, _⟩
  · exact .of_lookup sound member declared
  · exact resolveDotted_known sound brought

end Loading

namespace Resolve

/-- A name with a qualifier is one of an import, any other name one of the file's package. -/
theorem lookup_cases {found : Option ResolvedType} (sound : l.Sound)
    (yields : Yields disk l (lookup name ctx) found) :
    (∃ q type, found = some type ∧ Yields disk l (Loading.resolveQualified ctx.package ctx.file q
        name.name (name.pos.inFile ctx.file.path)) type) ∨
      ∃ declared, found = declared.map .declared ∧ Yields disk l (Loading.resolveName ctx.package
        ctx.file name.name (name.pos.inFile ctx.file.path)) declared := by
  unfold lookup at yields
  dsimp only at yields
  split at yields
  · rename_i q _
    obtain ⟨type, resolved, yields⟩ :=
      Resolving.bind_yields (Loading.resolveBy_asks ..).resolving (fun _ => .pure _) sound yields
    exact .inl ⟨q, type, yields_pure yields, resolved⟩
  · obtain ⟨declared, resolved, yields⟩ :=
      Resolving.bind_yields (Loading.resolveName_asks ..).resolving (fun _ => .pure _) sound yields
    exact .inr ⟨declared, yields_pure yields, resolved⟩

theorem lookup_known (sound : l.Sound) (context : ctx.package ∈ l.packages)
    (yields : Yields disk l (lookup name ctx) (some (.declared d))) : d.Known l := by
  rcases lookup_cases sound yields with ⟨_, _, ⟨⟩, found⟩ | ⟨declared, same, found⟩
  · exact Loading.resolveBy_known sound found
  · obtain ⟨e, rfl, same⟩ := Option.map_eq_some_iff.mp same.symm
    cases same
    exact Loading.resolveName_known sound context found

theorem yields_lookupDeclared (sound : l.Sound)
    (yields : Yields disk l (lookupDeclared name ctx) (some d)) :
    Yields disk l (lookup name ctx) (some (.declared d)) := by
  obtain ⟨type, found, yields⟩ :=
    Resolving.bind_yields (lookup_resolving ..) (fun _ => by split <;> constructor) sound yields
  split at yields
  · cases yields_pure yields
    exact found
  · cases yields_pure yields

theorem lookupDeclared_known (sound : l.Sound) (context : ctx.package ∈ l.packages)
    (yields : Yields disk l (lookupDeclared name ctx) (some d)) : d.Known l :=
  lookup_known sound context (yields_lookupDeclared sound yields)

/-! ### Aliases -/

theorem followAliases_known {fuel : Nat} {seen : List (String × String)} {expr' : TypeExpr}
    (sound : l.Sound) (context : ctx.package ∈ l.packages)
    (yields : Yields disk l (followAliases fuel seen expr ctx) (expr', ctx')) :
    ctx'.package ∈ l.packages ∧ ∀ name d, expr' = .named name →
      Yields disk l (lookupDeclared name ctx') (some d) → d.spec.isAlias = false := by
  induction fuel generalizing seen expr ctx with
  | zero => exact (yields_throw yields).elim
  | succ fuel ih =>
    unfold followAliases at yields
    split at yields
    · obtain ⟨found, read, yields⟩ := Resolving.bind_yields (lookupDeclared_resolving ..)
        (fun _ => by
          split
          · exact .pure _
          · split
            · exact .pure _
            · split
              · exact .throw _
              · exact followAliases_resolving ..) sound yields
      split at yields
      · cases yields_pure yields
        refine ⟨context, fun name d same again => ?_⟩
        cases same
        cases read.unique again
      · rename_i target
        split at yields
        · rename_i plain
          cases yields_pure yields
          refine ⟨context, fun name d same again => ?_⟩
          cases same
          cases read.unique again
          simpa using plain
        · split at yields
          · exact (yields_throw yields).elim
          · exact ih (lookupDeclared_known sound context read).package yields
    · rename_i other
      cases yields_pure yields
      exact ⟨context, fun name d same _ => absurd same (other name)⟩

theorem expandAliases_known {expr' : TypeExpr} (sound : l.Sound)
    (context : ctx.package ∈ l.packages)
    (yields : Yields disk l (expandAliases expr ctx) (expr', ctx')) :
    ctx'.package ∈ l.packages ∧ ∀ name d, expr' = .named name →
      Yields disk l (lookupDeclared name ctx') (some d) → d.spec.isAlias = false := by
  obtain ⟨fuel, yields⟩ := yields_deep (followAliases_resolving · [] expr ctx) sound yields
  exact followAliases_known sound context yields

/-- Following names leads to a known declaration; a type that is found is the type of that one. -/
theorem followNames_known {fuel : Nat} {seen : List (String × String)} {root current origin : DeclaredType}
    {found : Option TypeExpr} (sound : l.Sound) (known : current.Known l)
    (yields : Yields disk l (followNames fuel seen root current) (found, origin)) :
    origin.Known l ∧ ∀ expr, found = some expr → origin.spec.type = expr := by
  induction fuel generalizing seen current with
  | zero => exact (yields_throw yields).elim
  | succ fuel ih =>
    unfold followNames at yields
    split at yields
    · exact (yields_throw yields).elim
    · split at yields
      · obtain ⟨next, read, yields⟩ := Resolving.bind_yields (lookupDeclared_resolving ..)
          (fun _ => by
            split
            · exact .pure _
            · exact followNames_resolving ..) sound yields
        split at yields
        · cases yields_pure yields
          refine ⟨known, fun expr same => ?_⟩
          cases same
        · exact ih (lookupDeclared_known sound known.package read) yields
      · cases yields_pure yields
        exact ⟨known, fun expr same => Option.some.inj same⟩

theorem underlying_known {origin : DeclaredType} {found : Option TypeExpr} (sound : l.Sound)
    (known : d.Known l) (yields : Yields disk l (underlying d) (found, origin)) : origin.Known l := by
  obtain ⟨fuel, yields⟩ := yields_deep (followNames_resolving · [] d d) sound yields
  exact (followNames_known sound known yields).1

/-- The type behind a declaration is the type of the declaration that holds it. -/
theorem underlying_type {origin : DeclaredType} (sound : l.Sound) (known : d.Known l)
    (yields : Yields disk l (underlying d) (some expr, origin)) : origin.spec.type = expr := by
  obtain ⟨fuel, yields⟩ := yields_deep (followNames_resolving · [] d d) sound yields
  exact (followNames_known sound known yields).2 expr rfl

theorem yields_structOf {fields : List (FieldDecl TypeExpr)} {origin : DeclaredType}
    (sound : l.Sound) (yields : Yields disk l (structOf d) (some (fields, origin))) :
    ∃ pos, Yields disk l (underlying d) (some (.struct pos fields), origin) := by
  obtain ⟨⟨found, declared⟩, read, yields⟩ :=
    Resolving.bind_yields (underlying_resolving d) (fun _ => by split <;> constructor) sound yields
  split at yields
  · rename_i same
    cases same
    cases yields_pure yields
    exact ⟨_, read⟩
  · cases yields_pure yields

theorem structOf_known {origin : DeclaredType} {fields : List (FieldDecl TypeExpr)}
    (sound : l.Sound) (known : d.Known l)
    (yields : Yields disk l (structOf d) (some (fields, origin))) : origin.Known l := by
  obtain ⟨_, read⟩ := yields_structOf sound yields
  exact underlying_known sound known read

end Resolve

/-! ### Methods -/

namespace Extract

theorem mem_addNew {into more : List Collected} {c : Collected} (member : c ∈ addNew into more) :
    c ∈ into ∨ c ∈ more := by
  induction more generalizing into with
  | nil => exact Or.inl member
  | cons first rest ih =>
    rcases ih member with old | later
    · dsimp only at old
      split at old
      · exact Or.inl old
      · rcases List.mem_append.mp old with old | new
        · exact Or.inl old
        · exact Or.inr (List.mem_cons.mpr (Or.inl (List.mem_singleton.mp new)))
    · exact Or.inr (List.mem_cons_of_mem _ later)

/-- An interface that is embedded is behind what the name stands for, and none of those around it. -/
theorem embedded_yields {visiting : List (String × String)} {embed : TypeName} {i : Embedded}
    (sound : l.Sound) (yields : Yields disk l (embedded visiting embed ctx) i) :
    Yields disk l (Resolve.lookupDeclared embed ctx) (some i.target) ∧
      visiting.contains i.target.key = false ∧
      ∃ pos origin, i.context = origin.context ∧
        Yields disk l (Resolve.underlying i.target)
          (some (.interface pos i.methods i.embeds), origin) := by
  obtain ⟨found, read, yields⟩ := Resolving.bind_yields (Resolve.lookupDeclared_resolving ..)
    (fun _ => by
      split
      · exact .throw _
      · refine .bind (.ensure ..) fun _ => .bind (Resolve.underlying_resolving _) fun _ => ?_
        split <;> constructor) sound yields
  split at yields
  · exact (yields_throw yields).elim
  · obtain ⟨_, fresh, yields⟩ := Resolving.bind_yields (.ensure ..)
      (fun _ => .bind (Resolve.underlying_resolving _) fun _ => by split <;> constructor) sound yields
    obtain ⟨⟨type, origin⟩, behind, yields⟩ := Resolving.bind_yields (Resolve.underlying_resolving _)
      (fun _ => by split <;> constructor) sound yields
    have apart := (Compile.ensure_ok.mp (fresh { loader := l } (.refl l))).1
    split at yields
    · rename_i same
      cases same
      cases yields_pure yields
      exact ⟨read, by simpa using apart, _, origin, rfl, behind⟩
    · exact (yields_throw yields).elim

theorem embedded_known {visiting : List (String × String)} {embed : TypeName} {i : Embedded}
    (sound : l.Sound) (context : ctx.package ∈ l.packages)
    (yields : Yields disk l (embedded visiting embed ctx) i) :
    i.context.package ∈ l.packages ∧ i.target.Known l ∧
      visiting.contains i.target.key = false := by
  obtain ⟨read, apart, _, origin, place, behind⟩ := embedded_yields sound yields
  have known := Resolve.lookupDeclared_known sound context read
  rw [place]
  exact ⟨(Resolve.underlying_known sound known behind).package, known, apart⟩

/-- Adds the methods of an interface that is embedded. -/
def addEmbedded (fuel : Nat) (visiting : List (String × String)) (ctx : Context)
    (into : List Collected) (name : TypeName) : Compile (List Collected) := do
  let e ← embedded visiting name ctx
  let more ← methodsWithin fuel (e.target.key :: visiting) e.methods e.embeds e.context
  return addNew into more

theorem methodsWithin_succ (fuel : Nat) (visiting : List (String × String))
    (methods : List (MethodDecl TypeExpr)) (embeds : List TypeName) (ctx : Context) :
    methodsWithin (fuel + 1) visiting methods embeds ctx = do
      let all ← embeds.foldlM (addEmbedded fuel visiting ctx) (addNew [] (methods.map (⟨·, ctx⟩)))
      return sortCollected all := rfl

theorem addEmbedded_resolving (fuel : Nat) (visiting : List (String × String)) (ctx : Context)
    (into : List Collected) (name : TypeName) :
    Resolving (addEmbedded fuel visiting ctx into name) :=
  .bind (embedded_resolving ..) fun _ => .bind (methodsWithin_resolving ..) fun _ => .pure _

/-- An interface that is embedded, with the methods collected from it. -/
abbrev Part : Type := Embedded × List Collected

/-- Adds what has been collected from embedded interfaces, one after another. -/
def gather (into : List Collected) (parts : List Part) : List Collected :=
  parts.foldl (fun into part => addNew into part.2) into

/-- The methods of an interface are put together from its own and those of the interfaces that it
embeds. -/
theorem methodsWithin_parts {fuel : Nat} {visiting : List (String × String)}
    {methods : List (MethodDecl TypeExpr)} {embeds : List TypeName} {all : List Collected}
    (sound : l.Sound)
    (yields : Yields disk l (methodsWithin (fuel + 1) visiting methods embeds ctx) all) :
    ∃ parts : List Part,
      List.Forall₂ (fun name part => Yields disk l (embedded visiting name ctx) part.1 ∧
        Yields disk l (methodsWithin fuel (part.1.target.key :: visiting) part.1.methods
          part.1.embeds part.1.context) part.2) embeds parts ∧
      all = sortCollected (gather (addNew [] (methods.map (⟨·, ctx⟩))) parts) := by
  rw [methodsWithin_succ] at yields
  obtain ⟨gathered, folded, yields⟩ := Resolving.bind_yields
    (.foldlM (addEmbedded_resolving fuel visiting ctx) _ _) (fun _ => .pure _) sound yields
  cases yields_pure yields
  have each : ∀ (embeds : List TypeName) (into : List Collected),
      Yields disk l (embeds.foldlM (addEmbedded fuel visiting ctx) into) gathered →
      ∃ parts : List Part,
        List.Forall₂ (fun name part => Yields disk l (embedded visiting name ctx) part.1 ∧
          Yields disk l (methodsWithin fuel (part.1.target.key :: visiting) part.1.methods
            part.1.embeds part.1.context) part.2) embeds parts ∧
        gathered = gather into parts := by
    intro embeds
    induction embeds with
    | nil =>
      intro into yields
      exact ⟨[], .nil, yields_pure yields⟩
    | cons embed rest ih =>
      intro into yields
      obtain ⟨next, here, yields⟩ := Resolving.bind_yields (addEmbedded_resolving ..)
        (.foldlM (addEmbedded_resolving fuel visiting ctx) · _) sound yields
      obtain ⟨e, inside, here⟩ := Resolving.bind_yields (embedded_resolving ..)
        (fun _ => .bind (methodsWithin_resolving ..) fun _ => .pure _) sound here
      obtain ⟨more, brought, here⟩ := Resolving.bind_yields (methodsWithin_resolving ..)
        (fun _ => .pure _) sound here
      cases yields_pure here
      obtain ⟨parts, others, same⟩ := ih _ yields
      exact ⟨(e, more) :: parts, .cons ⟨inside, brought⟩ others, same⟩
  obtain ⟨parts, paired, rfl⟩ := each embeds _ folded
  exact ⟨parts, paired, rfl⟩

theorem mem_gather {parts : List Part} {into : List Collected} {c : Collected}
    (member : c ∈ gather into parts) : c ∈ into ∨ ∃ part ∈ parts, c ∈ part.2 := by
  induction parts generalizing into with
  | nil => exact .inl member
  | cons part rest ih =>
    rcases ih member with entered | ⟨later, listed, inside⟩
    · exact (mem_addNew entered).imp_right fun inside => ⟨part, List.mem_cons_self, inside⟩
    · exact .inr ⟨later, List.mem_cons_of_mem _ listed, inside⟩

theorem methodsWithin_known {fuel : Nat} {visiting : List (String × String)}
    {methods : List (MethodDecl TypeExpr)} {embeds : List TypeName} {all : List Collected}
    (sound : l.Sound) (context : ctx.package ∈ l.packages)
    (yields : Yields disk l (methodsWithin fuel visiting methods embeds ctx) all) :
    ∀ c ∈ all, c.context.package ∈ l.packages := by
  induction fuel generalizing visiting methods embeds ctx all with
  | zero => exact (yields_throw yields).elim
  | succ fuel ih =>
    obtain ⟨parts, each, rfl⟩ := methodsWithin_parts sound yields
    intro c member
    rcases mem_gather (mem_sortBy.mp member) with own | ⟨part, listed, inside⟩
    · obtain ⟨m, _, rfl⟩ := List.mem_map.mp ((mem_addNew own).resolve_left List.not_mem_nil)
      exact context
    · obtain ⟨name, _, found, collected⟩ := exists_left_of_forall₂ each listed
      exact ih (embedded_known sound context found).1 collected c inside

theorem collectMethods_known {methods : List (MethodDecl TypeExpr)} {embeds : List TypeName}
    {all : List Collected} (sound : l.Sound) (context : ctx.package ∈ l.packages)
    (yields : Yields disk l (collectMethods methods embeds ctx) all) :
    ∀ c ∈ all, c.context.package ∈ l.packages := by
  obtain ⟨fuel, yields⟩ :=
    yields_deep (methodsWithin_resolving · [] methods embeds ctx) sound yields
  exact methodsWithin_known sound context yields

end Extract

end GoIdl
