import GoIdl.Definition.Basic
import GoIdl.Log
import GoIdl.Order
import GoIdl.Scalar

/-!
# Sessions

The state of one compilation: objects under their identifiers, services, response types and imports.
`finalize` leaves out the objects that only excluded services reach, gives every object that a
retained service answers with an `Error` field, and sorts.
-/

namespace GoIdl

open Syntax (Location)

structure Session where
  rootPath : String := ""
  packageName : String := ""
  /-- Objects by identifier, in order of registration. -/
  objects : List (String × Object) := []
  idsByName : List (String × String) := []
  services : List Service := []
  excludedServices : List Service := []
  /-- The services that answer with an object, by its identifier. -/
  responses : List (String × List String) := []
  /-- Package names by path. -/
  imports : List (String × String) := []

namespace Session

/-! ### Registration -/

def object? (s : Session) (typeId : String) : Option Object := Json.find? typeId s.objects

/-- Registers an object without fields. Nothing happens if the identifier is known; it is an error
if another identifier has the name. -/
def reserve (s : Session) (typeId name : String) (location : Option Location) :
    Except DefinitionError (Option Session) :=
  if (s.object? typeId).isSome then .ok none
  else
    match Json.find? name s.idsByName with
    | some first => .error { cause := .ambiguousObjectName name first typeId, location }
    | none => .ok (some { s with
        objects := Json.put typeId { typeId, name } s.objects
        idsByName := Json.put name typeId s.idsByName })

def updateObject (s : Session) (typeId : String) (change : Object → Object) : Session :=
  { s with objects := s.objects.map fun (id, o) => (id, if id = typeId then change o else o) }

def addField (s : Session) (typeId : String) (field : Field) : Session :=
  s.updateObject typeId fun o => { o with fields := o.fields ++ [field] }

def addService (s : Session) (service : Service) (excluded : Bool) : Session :=
  if excluded then { s with excludedServices := s.excludedServices ++ [service] }
  else { s with services := s.services ++ [service] }

def recordOutput (s : Session) (typeId service : String) : Session :=
  let known := (Json.find? typeId s.responses).getD []
  let names := if known.contains service then known else known ++ [service]
  { s with responses := Json.put typeId names s.responses }

def registerImport (s : Session) (path name : String) : Session :=
  { s with imports := Json.put path name s.imports }

/-- Registers the names of several packages in order. -/
def registerImports (s : Session) (packages : List (String × String)) : Session :=
  packages.foldl (fun s (path, name) => s.registerImport path name) s

/-! ### Reachability -/

/-- The registered identifiers that the fields of an object mention. -/
def mentions (s : Session) (typeId : String) : List String :=
  match s.object? typeId with
  | none => []
  | some o =>
    let types := o.fields.map (·.type)
    (types.filter fun t => t.isObject && (s.object? t.typeId).isSome).map (·.typeId)

/-- Works off `pending` identifiers. Every mention is pending at most once for each object that
makes it, so the number of fields and roots is enough `fuel`. -/
def reachFrom (s : Session) (fuel : Nat) (pending reached : List String) : List String :=
  match fuel, pending with
  | 0, _ => reached
  | _, [] => reached
  | fuel + 1, typeId :: pending =>
    if reached.contains typeId then reachFrom s fuel pending reached
    else reachFrom s fuel (s.mentions typeId ++ pending) (typeId :: reached)

def fieldCount (s : Session) : Nat := s.objects.foldr (fun (_, o) n => o.fields.length + n) 0

/-- The registered identifiers that lead from the roots along the fields of objects. -/
def reachable (s : Session) (roots : List String) : List String :=
  let roots := roots.filter fun typeId => (s.object? typeId).isSome
  s.reachFrom (roots.length + s.fieldCount + s.objects.length + 1) roots []

/-- The identifiers of the objects that services take and answer with. -/
def ioTypeIds (services : List Service) : List String :=
  services.flatMap fun service => service.methods.flatMap fun m =>
    ([m.input, m.output].filter (·.isObject)).map (·.typeId)

/-- The objects that are reached from excluded services only. -/
def excludedIds (s : Session) : List String :=
  let retained := s.reachable (ioTypeIds s.services)
  (s.reachable (ioTypeIds s.excludedServices)).filter fun typeId => !retained.contains typeId

/-! ### The definition -/

def errorFieldName : String := "Error"

/-- The field that tells what went wrong. -/
def errorField (rootPath : String) : Field :=
  { name := errorFieldName
    nameLowerCamel := "error"
    type := {
      typeId := rootPath ++ ".string", typeName := "string", objectName := "string"
      cleanObjectName := "string", objectNameLowerCamel := "string"
      scalarTypes := scalarTypes "string" false }
    omitEmpty := true
    comment := "Error is string explaining what went wrong. Empty if everything was fine."
    sample := .str "something went wrong" }

def declaresError (o : Object) : Bool := o.fields.any (·.name == errorFieldName)

/-- Puts the error field last, in the place of fields of that name. -/
def withErrorField (rootPath : String) (o : Object) : Object :=
  { o with fields := o.fields.filter (·.name != errorFieldName) ++ [errorField rootPath] }

/-- The kept objects that some retained service answers with. -/
def answered (s : Session) (removed : List String) : List String :=
  let retained := s.services.map (·.name)
  (s.responses.filter fun (typeId, services) =>
    services.any retained.contains && (s.object? typeId).isSome && !removed.contains typeId).map
      (·.1)

def removalNote (typeId : String) : LogEntry :=
  ⟨.debug, .assembling, s!"object {typeId} removed by exclusion"⟩

/-- Objects that declare the error field themselves. -/
def replacementNotes (s : Session) (answered : List String) : List LogEntry :=
  (answered.filterMap s.object?).filterMap fun o =>
    if declaresError o then
      some ⟨.warning, .assembling,
        s!"{o.name} declares its own {errorFieldName} field; replacing it"⟩
    else none

structure Finalized where
  definition : Definition
  /-- The session after its objects have taken their error fields. -/
  session : Session
  notes : List LogEntry

def finalize (s : Session) (packageName : Option String) (params : List (String × Json)) :
    Finalized :=
  let removed := s.excludedIds
  let answered := s.answered removed
  let after := { s with
    objects := s.objects.map fun (id, o) =>
      (id, if answered.contains id then withErrorField s.rootPath o else o) }
  let kept := (after.objects.filter fun (id, _) => !removed.contains id).map (·.2)
  { definition := {
      packageName := match packageName with
        | some name => if name = "" then s.packageName else name
        | none => s.packageName
      services := sortBy (fun a b => stringLe a.name b.name) s.services
      objects := sortBy (fun a b => stringLe a.name b.name) kept
      imports := s.imports
      params }
    session := after
    notes := (sortStrings removed).map removalNote ++ s.replacementNotes answered }

/-- A definition with its objects as they are now: a definition shares its objects with the session
that made it. -/
def refresh (s : Session) (d : Definition) : Definition :=
  { d with objects := d.objects.map fun o => (s.object? o.typeId).getD o }

end Session

end GoIdl
