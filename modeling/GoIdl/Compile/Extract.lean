import GoIdl.Compile.Resolve
import GoIdl.Metadata

/-!
# Extracting services and objects

Every interface of a root package becomes a service and every struct an object; structs that fields
and methods mention become objects too. Declarations are visited in alphabetical order.
-/

namespace GoIdl

open Syntax (TypeExpr TypeName FieldDecl MethodDecl Location)

namespace Extract

def noteOf : Metadata.Note → Compile Unit
  | .skipped error => Compile.note .info .resolvingMetadata s!"(skipping) {error.message}"
  | .repeated key =>
    Compile.note .debug .resolvingMetadata
      s!"metadata {Text.quoted key} repeated; keeping first value"

/-- Reads a doc and notes what it passes over, also if a later line fails. -/
def readDoc (doc : String) (location : Location) : Compile Metadata := do
  let (m, failure) := Metadata.upToFailure doc (some location)
  m.notes.forM noteOf
  match failure with
  | none => return m
  | some failure => throw failure

/-! ### Objects -/

def parseTag (tag : String) (location : Location) (ctx : Context) :
    Compile (List (String × FieldTag)) :=
  match Tag.parse tag (some location) with
  | .ok tags => pure tags
  | .error (.definition e) => Compile.fail { e with package := some ctx.package.path }
  | .error failure => throw failure

/-- The description of a field. The name in its tag is used where there is one. -/
def describeField (f : FieldDecl TypeExpr) (tags : List (String × FieldTag)) (doc : Metadata)
    (type : FieldType) : Field :=
  let jsonName := Tag.jsonName tags
  { name := f.name
    nameLowerCamel := if jsonName = "" then camelizeDown f.name else jsonName
    type
    omitEmpty := Tag.jsonOmitsEmpty tags
    comment := doc.description
    tag := f.tag.getD ""
    parsedTags := tags
    sample := (Json.find? "example" doc.values).getD .null
    metadata := doc.values }

def field (extract : DeclaredType → Compile Unit) (ctx : Context) (f : FieldDecl TypeExpr) :
    Compile Field := do
  let location := f.pos.inFile ctx.file.path
  Compile.ensure (isExported f.name)
    { cause := .fieldNotExported f.name, location := some location
      package := some ctx.package.path }
  let tags ← parseTag (f.tag.getD "") location ctx
  let doc ← readDoc f.doc location
  let type ← Resolve.fieldType extract f.type ctx location
  return describeField f tags doc type

def typeIdOf (d : DeclaredType) : String := d.package.path ++ "." ++ d.name

/-- Registers an object, unless it is registered already. -/
def reserve (d : DeclaredType) : Compile Bool := do
  let session := (← get).session
  match ← Compile.ofDefinition (session.reserve (typeIdOf d) d.name (some d.location)) with
  | none => return false
  | some session =>
    Compile.modifySession fun _ => session
    return true

/-- Fills in what an object says of itself, and its fields one by one. -/
def fillObject (extract : DeclaredType → Compile Unit) (d : DeclaredType) : Compile Unit := do
  let typeId := typeIdOf d
  let doc ← readDoc d.spec.doc d.location
  let root ← Compile.rootPath
  Compile.modifySession (·.updateObject typeId fun o =>
    { o with
      comment := doc.description, metadata := doc.values, imported := d.package.path != root })
  Compile.note .debug .extracting s!"object {d.name} ({typeId})"
  match ← Resolve.structOf d with
  | none =>
    Compile.fail { cause := .notStruct d.name, location := some d.location
                   package := some d.package.path }
  | some (fields, origin) =>
    fields.forM fun f => do
      let field ← field extract origin.context f
      Compile.modifySession (·.addField typeId field)

/-- Extracts an object and those it mentions. An object is registered before its fields are read, so
that recursive types end. -/
def objectWithin (fuel : Nat) (d : DeclaredType) : Compile Unit :=
  match fuel with
  | 0 => throw .tooDeep
  | fuel + 1 => do
    if ← reserve d then fillObject (objectWithin fuel) d

def object (d : DeclaredType) : Compile Unit := do
  objectWithin (← Compile.depth) d

/-! ### Services -/

/-- A method of an interface and the place where it is written. -/
structure Collected where
  method : MethodDecl TypeExpr
  context : Context

/-- Enters methods whose names are new. -/
def addNew (into more : List Collected) : List Collected :=
  more.foldl (fun all c =>
    if all.any (·.method.name == c.method.name) then all else all ++ [c]) into

def sortCollected (all : List Collected) : List Collected :=
  sortBy (fun a b => stringLe a.method.name b.method.name) all

/-- An interface that is embedded, with the place where it is written. -/
structure Embedded where
  target : DeclaredType
  methods : List (MethodDecl TypeExpr)
  embeds : List TypeName
  context : Context

/-- The interface that a name in an interface stands for. `visiting` are the interfaces around. -/
def embedded (visiting : List (String × String)) (embed : TypeName) (ctx : Context) :
    Compile Embedded := do
  let location := some (embed.pos.inFile ctx.file.path)
  let package := some ctx.package.path
  match ← Resolve.lookupDeclared embed ctx with
  | none => Compile.fail { cause := .foreignEmbed embed.text, location, package }
  | some target =>
    Compile.ensure (!visiting.contains target.key)
      { cause := .interfaceCycle target.name, location, package }
    match ← Resolve.underlying target with
    | (some (.interface _ methods embeds), origin) =>
      return { target, methods, embeds, context := origin.context }
    | _ => Compile.fail { cause := .embedNotInterface embed.text, location, package }

/-- The methods of an interface and of those it embeds, sorted by name. The interface's own methods
come first, then those of each embedded interface in turn. -/
def methodsWithin (fuel : Nat) (visiting : List (String × String))
    (methods : List (MethodDecl TypeExpr)) (embeds : List TypeName) (ctx : Context) :
    Compile (List Collected) :=
  match fuel with
  | 0 => throw .tooDeep
  | fuel + 1 => do
    let own := addNew [] (methods.map (⟨·, ctx⟩))
    let all ← embeds.foldlM (fun all embed => do
      let e ← embedded visiting embed ctx
      let more ← methodsWithin fuel (e.target.key :: visiting) e.methods e.embeds e.context
      return addNew all more) own
    return sortCollected all

def collectMethods (methods : List (MethodDecl TypeExpr)) (embeds : List TypeName)
    (ctx : Context) : Compile (List Collected) := do
  methodsWithin (← Compile.depth) [] methods embeds ctx

/-- Records the object that a method of a service answers with. -/
def recordOutput (service : String) (output : FieldType) : Compile Unit :=
  if output.isObject then Compile.modifySession (·.recordOutput output.typeId service) else pure ()

def method (service : String) (c : Collected) : Compile Method := do
  let m := c.method
  let location := m.pos.inFile c.context.file.path
  match m.signature.params, m.signature.results with
  | [param], [result] =>
    let doc ← readDoc m.doc location
    let input ← Resolve.paramType object param c.context
    let output ← Resolve.paramType object result c.context
    recordOutput service output
    Compile.note .debug .extracting s!"method {service}.{m.name}"
    return { name := m.name, nameLowerCamel := camelizeDown m.name, input, output
             comment := doc.description, metadata := doc.values }
  | _, _ =>
    Compile.fail { cause := .invalidSignature service m.name, location := some location
                   package := some c.context.package.path }

/-- The service that a declaration describes whose interface is written in `ctx`. -/
def service (d : DeclaredType) (methods : List (MethodDecl TypeExpr)) (embeds : List TypeName)
    (ctx : Context) : Compile Service := do
  let doc ← readDoc d.spec.doc d.location
  Compile.note .debug .extracting s!"service {d.name}"
  let collected ← collectMethods methods embeds ctx
  let methods ← collected.mapM (method d.name)
  return { name := d.name, methods, comment := doc.description, metadata := doc.values }

/-- Adds a service to those of the session, or to the excluded ones. -/
def addService (service : Service) (excluded : Bool) : Compile Unit := do
  if excluded then
    Compile.note .debug .assembling s!"service {service.name} excluded"
    Compile.modifySession (·.addService service true)
  else Compile.modifySession (·.addService service false)

/-! ### Packages -/

def declaration (exclusions : List String) (d : DeclaredType) : Compile Unit := do
  if d.spec.isAlias then Compile.note .debug .extracting s!"skipping alias {d.name}"
  else
    match ← Resolve.underlying d with
    | (some (.interface _ methods embeds), origin) =>
      let service ← service d methods embeds origin.context
      addService service (exclusions.contains d.name)
    | (some (.struct _ _), _) => object d
    | _ => Compile.note .debug .extracting s!"skipping {d.name}: neither interface nor struct"

/-- Extracts all declarations of a root package. -/
def package (exclusions : List String) (p : Package) : Compile Unit := do
  Compile.modifySession fun s => { s with rootPath := p.path, packageName := p.name }
  p.names.forM fun name => (p.lookup name).forM (declaration exclusions)

end Extract

end GoIdl
