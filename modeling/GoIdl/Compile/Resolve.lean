import GoIdl.Package.Loading
import GoIdl.Syntax.TypeExprPrinter

/-!
# Resolving type expressions

From a type expression in its package and file to the description that a definition holds. Aliases
are replaced by what they stand for wherever they occur.
-/

namespace GoIdl

open Syntax (TypeExpr TypeName Param Signature FieldDecl MethodDecl SourceFile Location)

/-- Where an expression stands. -/
structure Context where
  package : Package
  file : SourceFile

def DeclaredType.context (d : DeclaredType) : Context := ⟨d.package, d.file⟩

namespace Resolve

/-- Looks a name up; a predeclared type resolves to nothing. -/
def lookup (name : TypeName) (ctx : Context) : Compile (Option ResolvedType) := do
  let location := name.pos.inFile ctx.file.path
  match name.qualifier with
  | some q => return some (← Loading.resolveQualified ctx.package ctx.file q name.name location)
  | none =>
    return (← Loading.resolveName ctx.package ctx.file name.name location).map .declared

def lookupDeclared (name : TypeName) (ctx : Context) : Compile (Option DeclaredType) := do
  match ← lookup name ctx with
  | some (.declared d) => return some d
  | _ => return none

/-- The error for an alias that leads back to itself. -/
def aliasCycle {α : Type} (d : DeclaredType) : Compile α :=
  Compile.fail { cause := .aliasCycle d.name, location := some d.location
                 package := some d.package.path }

/-! ### Aliases and underlying types -/

/-- Follows aliases to an expression that is none; `seen` are those followed so far. -/
def followAliases (fuel : Nat) (seen : List (String × String)) (expr : TypeExpr) (ctx : Context) :
    Compile (TypeExpr × Context) :=
  match fuel with
  | 0 => throw .tooDeep
  | fuel + 1 =>
    match expr with
    | .named name => do
      match ← lookupDeclared name ctx with
      | none => return (expr, ctx)
      | some d =>
        if !d.spec.isAlias then return (expr, ctx)
        else if seen.contains d.key then aliasCycle d
        else followAliases fuel (d.key :: seen) d.spec.type d.context
    | _ => pure (expr, ctx)

def expandAliases (expr : TypeExpr) (ctx : Context) : Compile (TypeExpr × Context) := do
  followAliases (← Compile.depth) [] expr ctx

/-- Follows named right-hand sides from `current` on; `root` is where the search began. -/
def followNames (fuel : Nat) (seen : List (String × String)) (root current : DeclaredType) :
    Compile (Option TypeExpr × DeclaredType) :=
  match fuel with
  | 0 => throw .tooDeep
  | fuel + 1 =>
    if seen.contains current.key then
      Compile.fail { cause := .typeCycle root.name, location := some root.location
                     package := some root.package.path }
    else
      match current.spec.type with
      | .named name => do
        match ← lookupDeclared name current.context with
        | none => return (none, current)
        | some next => followNames fuel (current.key :: seen) root next
      | expr => pure (some expr, current)

/-- The type expression behind a declaration and the declaration that holds it. There is none
behind predeclared and external types. -/
def underlying (d : DeclaredType) : Compile (Option TypeExpr × DeclaredType) := do
  followNames (← Compile.depth) [] d d

/-- The fields of a declaration that is a struct, with the declaration that holds them. -/
def structOf (d : DeclaredType) : Compile (Option (List (FieldDecl TypeExpr) × DeclaredType)) := do
  match ← underlying d with
  | (some (.struct _ fields), origin) => return some (fields, origin)
  | _ => return none

/-! ### Text -/

/-- A part of a rendered type: text, or the name of a type with its package. -/
inductive Part where
  | plain (text : String)
  | typeName (name packageName path : String)

namespace Part

/-- A type's name has its package before it unless that is the root package. -/
def text (rootPath : String) : Part → String
  | plain text => text
  | typeName name packageName path =>
    if path = rootPath then name else packageName ++ "." ++ name

def bare : Part → String
  | plain text => text
  | typeName name _ _ => name

/-- The package that is named, by path. -/
def package? (rootPath : String) : Part → Option (String × String)
  | plain _ => none
  | typeName _ packageName path => if path = rootPath then none else some (path, packageName)

end Part

/-- A rendered type. How it reads depends on the root package. -/
structure Rendered where
  parts : List Part

namespace Rendered

def plain (s : String) : Rendered := ⟨[.plain s]⟩

def typeName (name packageName path : String) : Rendered := ⟨[.typeName name packageName path]⟩

def append (a b : Rendered) : Rendered := ⟨a.parts ++ b.parts⟩

instance : Append Rendered := ⟨append⟩

def join (separator : String) (parts : List Rendered) : Rendered :=
  ⟨[Part.plain separator].intercalate (parts.map Rendered.parts)⟩

/-- With package names. -/
def text (rootPath : String) (r : Rendered) : String := String.join (r.parts.map (·.text rootPath))

/-- Without package names. -/
def bare (r : Rendered) : String := String.join (r.parts.map Part.bare)

/-- The packages named, by path. -/
def packages (rootPath : String) (r : Rendered) : List (String × String) :=
  r.parts.filterMap (·.package? rootPath)

end Rendered

/-- A signature from its rendered parts; a single result needs no parentheses. -/
def signatureOf (params results : List Rendered) : Rendered :=
  let head := .plain "(" ++ .join ", " params ++ .plain ")"
  match results with
  | [] => head
  | [result] => head ++ .plain " " ++ result
  | results => head ++ .plain " (" ++ .join ", " results ++ .plain ")"

section

variable (ofAlias : DeclaredType → Compile Rendered) (ctx : Context)

def renderName (name : TypeName) : Compile Rendered := do
  match ← lookup name ctx with
  | none => return .plain name.name
  | some (.external t) => return .typeName t.name t.packageName t.path
  | some (.declared d) =>
    if d.spec.isAlias then ofAlias d
    else return .typeName d.name d.package.name d.package.path

def renderNames : List TypeName → Compile (List Rendered)
  | [] => pure []
  | name :: rest => do
    let first ← renderName ofAlias ctx name
    return first :: (← renderNames rest)

mutual

/-- Renders an expression; `ofAlias` renders what an alias stands for. -/
def renderWith : TypeExpr → Compile Rendered
  | .named name => renderName ofAlias ctx name
  | .pointer _ elem => return .plain "*" ++ (← renderWith elem)
  | .slice _ elem => return .plain "[]" ++ (← renderWith elem)
  | .array _ length elem => return .plain s!"[{length}]" ++ (← renderWith elem)
  | .map _ key value => do
    let key ← renderWith key
    return .plain "map[" ++ key ++ .plain "]" ++ (← renderWith value)
  | .chan _ elem => return .plain "chan " ++ (← renderWith elem)
  | .func _ ⟨params, results⟩ => do
    let params ← renderParams params
    return .plain "func" ++ signatureOf params (← renderResults results)
  | .struct _ fields => do
    return .plain "struct\x7b" ++ .join "; " (← renderFields fields) ++ .plain "\x7d"
  | .interface _ methods embeds => do
    let methods ← renderMethods methods
    let embeds ← renderNames ofAlias ctx embeds
    return .plain "interface\x7b" ++ .join "; " (methods ++ embeds) ++ .plain "\x7d"

/-- Parameters are rendered without their names. -/
def renderParams : List (Param TypeExpr) → Compile (List Rendered)
  | [] => pure []
  | ⟨_, _, variadic, type⟩ :: rest => do
    let first ← renderWith type
    return (.plain (Syntax.ellipsisText variadic) ++ first) :: (← renderParams rest)

def renderResults : List (Param TypeExpr) → Compile (List Rendered)
  | [] => pure []
  | ⟨_, _, _, type⟩ :: rest => do
    let first ← renderWith type
    return first :: (← renderResults rest)

def renderFields : List (FieldDecl TypeExpr) → Compile (List Rendered)
  | [] => pure []
  | ⟨_, name, type, _, embedded, _⟩ :: rest => do
    let type ← renderWith type
    return (if embedded then type else .plain (name ++ " ") ++ type) :: (← renderFields rest)

def renderMethods : List (MethodDecl TypeExpr) → Compile (List Rendered)
  | [] => pure []
  | ⟨_, name, ⟨params, results⟩, _⟩ :: rest => do
    let params ← renderParams params
    let results ← renderResults results
    return (.plain name ++ signatureOf params results) :: (← renderMethods rest)

end

end

/-- Renders an expression inside the aliases `seen`. -/
def renderInside (fuel : Nat) (seen : List (String × String)) (ctx : Context) (expr : TypeExpr) :
    Compile Rendered :=
  match fuel with
  | 0 => throw .tooDeep
  | fuel + 1 =>
    renderWith (fun d =>
      if seen.contains d.key then aliasCycle d
      else renderInside fuel (d.key :: seen) d.context d.spec.type) ctx expr

def render (expr : TypeExpr) (ctx : Context) : Compile Rendered := do
  renderInside (← Compile.depth) [] ctx expr

/-! ### Field types -/

def describe (rootPath : String) (multiple optional isObject : Bool) (r : Rendered) : FieldType :=
  let clean := withoutStars (r.text rootPath)
  let package := (((r.packages rootPath).getLast?).map (·.1)).getD ""
  let owner := if package = "" then rootPath else package
  { typeId := owner ++ "." ++ withoutStars r.bare
    typeName := r.text rootPath
    objectName := r.bare
    cleanObjectName := clean
    objectNameLowerCamel := camelizeDown r.bare
    multiple, isObject, optional, package
    scalarTypes := scalarTypes clean isObject }

/-- A type expression that has been taken apart: first its slice, then its pointer. -/
structure Peeled where
  multiple : Bool
  optional : Bool
  /-- The expression inside the slice, which is the one that is shown. -/
  shown : TypeExpr
  shownIn : Context
  /-- The expression behind the pointer. -/
  core : TypeExpr
  coreIn : Context

/-- The expression inside a slice, or the expression itself. -/
def sliceElem (expr : TypeExpr) (ctx : Context) : Compile (Bool × TypeExpr × Context) := do
  match expr with
  | .slice _ elem => return (true, ← expandAliases elem ctx)
  | _ => return (false, expr, ctx)

/-- The expression behind a pointer, or the expression itself. -/
def pointerElem (expr : TypeExpr) (ctx : Context) : Compile (Bool × TypeExpr × Context) := do
  match expr with
  | .pointer _ elem => return (true, ← expandAliases elem ctx)
  | _ => return (false, expr, ctx)

/-- Takes a type expression apart, aliases being followed before, between and after. -/
def peel (expr : TypeExpr) (ctx : Context) : Compile Peeled := do
  let (expr, ctx) ← expandAliases expr ctx
  let (multiple, shown, shownIn) ← sliceElem expr ctx
  let (optional, core, coreIn) ← pointerElem shown shownIn
  return { multiple, optional, shown, shownIn, core, coreIn }

/-- The declaration that an expression names, if it is a struct. -/
def structNamed (expr : TypeExpr) (ctx : Context) : Compile (Option DeclaredType) := do
  match expr with
  | .named name =>
    match ← lookupDeclared name ctx with
    | some d => return if (← structOf d).isSome then some d else none
    | none => return none
  | _ => return none

def refuseStruct (p : Peeled) (location : Location) : Compile Unit :=
  match p.core with
  | .struct _ _ =>
    Compile.fail { cause := .nestedStruct, location := some location
                   package := some p.coreIn.package.path }
  | _ => pure ()

/-- Resolves a type expression. `extract` takes the object that the type turns out to be. -/
def fieldType (extract : DeclaredType → Compile Unit) (expr : TypeExpr) (ctx : Context)
    (location : Location) : Compile FieldType := do
  let p ← peel expr ctx
  refuseStruct p location
  let target ← structNamed p.core p.coreIn
  target.forM extract
  let rendered ← render p.shown p.shownIn
  let root ← Compile.rootPath
  Compile.modifySession (·.registerImports (rendered.packages root))
  return describe root p.multiple p.optional target.isSome rendered

/-- The type of a parameter; a variadic one is a slice. -/
def typeOf (param : Param TypeExpr) : TypeExpr :=
  if param.variadic then .slice param.pos param.type else param.type

def paramType (extract : DeclaredType → Compile Unit) (param : Param TypeExpr) (ctx : Context) :
    Compile FieldType :=
  fieldType extract (typeOf param) ctx (param.pos.inFile ctx.file.path)

end Resolve

end GoIdl
