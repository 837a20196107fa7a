import GoIdl.Definition.Basic
import GoIdl.Json.Writer

/-!
# Definitions as JSON

The tree that templates and other programs see.
-/

namespace GoIdl

namespace Json

def ofStrings (xs : List String) : Json := .arr (xs.map .str)

def ofStringMap (m : List (String × String)) : Json := .obj (m.map fun (k, v) => (k, .str v))

end Json

def FieldTag.tree (t : FieldTag) : Json :=
  .obj [("value", .str t.value), ("options", .ofStrings t.options)]

/-- The spellings appear once more on their own, each under its target's name. -/
def FieldType.tree (t : FieldType) : Json :=
  .obj ([("typeID", .str t.typeId), ("typeName", .str t.typeName),
    ("objectName", .str t.objectName), ("cleanObjectName", .str t.cleanObjectName),
    ("objectNameLowerCamel", .str t.objectNameLowerCamel), ("multiple", .bool t.multiple),
    ("isObject", .bool t.isObject), ("isOptional", .bool t.optional), ("package", .str t.package),
    ("scalarTypes", .ofStringMap t.scalarTypes)] ++
    t.scalarTypes.map fun (target, spelling) => (target ++ "Type", .str spelling))

def Field.tree (f : Field) : Json :=
  .obj [("name", .str f.name), ("nameLowerCamel", .str f.nameLowerCamel), ("type", f.type.tree),
    ("omitEmpty", .bool f.omitEmpty), ("comment", .str f.comment), ("tag", .str f.tag),
    ("parsedTags", .obj (f.parsedTags.map fun (k, t) => (k, t.tree))), ("example", f.sample),
    ("metadata", .obj f.metadata)]

def Object.tree (o : Object) : Json :=
  .obj [("typeID", .str o.typeId), ("name", .str o.name), ("imported", .bool o.imported),
    ("fields", .arr (o.fields.map Field.tree)), ("comment", .str o.comment),
    ("metadata", .obj o.metadata)]

def Method.tree (m : Method) : Json :=
  .obj [("name", .str m.name), ("nameLowerCamel", .str m.nameLowerCamel),
    ("inputObject", m.input.tree), ("outputObject", m.output.tree), ("comment", .str m.comment),
    ("metadata", .obj m.metadata)]

def Service.tree (s : Service) : Json :=
  .obj [("name", .str s.name), ("methods", .arr (s.methods.map Method.tree)),
    ("comment", .str s.comment), ("metadata", .obj s.metadata)]

def Definition.tree (d : Definition) : Json :=
  .obj [("packageName", .str d.packageName), ("services", .arr (d.services.map Service.tree)),
    ("objects", .arr (d.objects.map Object.tree)), ("imports", .ofStringMap d.imports),
    ("params", .obj d.params)]

def Definition.text (d : Definition) (layout : Json.Layout) : String := Json.write layout d.tree

/-- The layout used where none is asked for: two blanks per level. -/
def Definition.defaultLayout : Json.Layout := .indented [' ', ' ']

end GoIdl
