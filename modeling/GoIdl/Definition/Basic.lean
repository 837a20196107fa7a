import GoIdl.Tag

/-!
# Definitions

What a compilation yields: services with their methods, and objects with their fields. Types refer
to objects by name and identifier only.
-/

namespace GoIdl

open Syntax (Location)

structure FieldType where
  /-- The path of the owning package, a dot and the name. -/
  typeId : String := ""
  /-- The type's text, with package names where it leaves the root package. -/
  typeName : String := ""
  /-- The type's text without package names. -/
  objectName : String := ""
  cleanObjectName : String := ""
  objectNameLowerCamel : String := ""
  multiple : Bool := false
  isObject : Bool := false
  optional : Bool := false
  /-- The path of the owning package; empty for the root package. -/
  package : String := ""
  scalarTypes : List (String × String) := []

def withoutStars (s : String) : String := String.ofList (s.toList.dropWhile (· == '*'))

def FieldType.bareObjectName (t : FieldType) : String := withoutStars t.objectName

structure Field where
  name : String
  nameLowerCamel : String
  type : FieldType
  omitEmpty : Bool := false
  comment : String := ""
  tag : String := ""
  parsedTags : List (String × FieldTag) := []
  sample : Json := .null
  metadata : List (String × Json) := []

structure Object where
  typeId : String
  name : String
  imported : Bool := false
  fields : List Field := []
  comment : String := ""
  metadata : List (String × Json) := []

structure Method where
  name : String
  nameLowerCamel : String
  input : FieldType
  output : FieldType
  comment : String := ""
  metadata : List (String × Json) := []

structure Service where
  name : String
  methods : List Method := []
  comment : String := ""
  metadata : List (String × Json) := []

structure Definition where
  packageName : String := ""
  services : List Service := []
  objects : List Object := []
  imports : List (String × String) := []
  params : List (String × Json) := []

namespace Definition

def methods (d : Definition) : List Method := d.services.flatMap Service.methods

def object? (d : Definition) (name : String) : Option Object := d.objects.find? (·.name == name)

/-- The object with a name; it is an error to ask for one that is not there. -/
def object (d : Definition) (name : String) : Except Failure Object :=
  match d.object? name with
  | some o => .ok o
  | none => .error (.definition { cause := .objectNotFound name })

def objectIsInput (d : Definition) (name : String) : Bool :=
  d.methods.any (·.input.bareObjectName == name)

def objectIsOutput (d : Definition) (name : String) : Bool :=
  d.methods.any (·.output.bareObjectName == name)

end Definition

end GoIdl
