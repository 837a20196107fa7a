import GoIdl.Definition.Tree
import GoIdl.Failure

/-!
# Values in templates

JSON values, the entities of a definition, what can be called, the state of a loop, and what is not
there. A value that is not there prints as nothing and is false; to use it further is a fault.
-/

namespace GoIdl.Template

open Decimal (Binary64)

/-- The functions that templates can call. -/
inductive Helper where
  | camelizeDown | camelizeUp | json
  | commentLine | commentText | commentHtml
  | formatTags | beginFile | endFile
  | contains | hasPrefix | hasSuffix
  deriving DecidableEq, Repr

/-- The entities of a definition. -/
inductive Entity where
  | definition | service | method | object | field | fieldType | fieldTag
  deriving DecidableEq, Repr

def Entity.label : Entity → String
  | definition => "Definition"
  | service => "Service"
  | method => "Method"
  | object => "Object"
  | field => "Field"
  | fieldType => "FieldType"
  | fieldTag => "FieldTag"

inductive Value where
  /-- Nothing, with what a message says of it. -/
  | undefined (message : String)
  | none
  | bool (b : Bool)
  | int (n : Int)
  | float (x : Binary64)
  | str (s : String)
  | list (items : List Value)
  | dict (members : List (String × Value))
  /-- An entity: its attributes, what follows from them, and its tree. -/
  | entity (kind : Entity) (attributes others : List (String × Value)) (tree : Json)
  | helper (h : Helper)
  | method (owner : Value) (name : String)
  | type (name : String)
  /-- The state of a loop: the index of the item at hand, the items, and the failure that waits
  behind them. -/
  | loop (index : Nat) (items : List Value) (pending : Option Failure)

namespace Value

/-! ### Making values -/

mutual

def ofJson : Json → Value
  | .null => .none
  | .bool b => .bool b
  | .int n => .int n
  | .float x => .float x
  | .str s => .str s
  | .arr items => .list (ofItems items)
  | .obj members => .dict (ofMembers members)

def ofItems : List Json → List Value
  | [] => []
  | j :: rest => ofJson j :: ofItems rest

def ofMembers : List (String × Json) → List (String × Value)
  | [] => []
  | (key, j) :: rest => (key, ofJson j) :: ofMembers rest

end

def strings (xs : List String) : Value := .list (xs.map .str)

def stringMap (m : List (String × String)) : Value := .dict (m.map fun (k, v) => (k, .str v))

def ofFieldTag (t : FieldTag) : Value :=
  .entity .fieldTag [("value", .str t.value), ("options", strings t.options)] [] t.tree

def ofFieldType (t : FieldType) : Value :=
  .entity .fieldType
    [("type_id", .str t.typeId), ("type_name", .str t.typeName),
      ("object_name", .str t.objectName), ("clean_object_name", .str t.cleanObjectName),
      ("object_name_lower_camel", .str t.objectNameLowerCamel), ("multiple", .bool t.multiple),
      ("is_object", .bool t.isObject), ("optional", .bool t.optional), ("package", .str t.package),
      ("scalar_types", stringMap t.scalarTypes)]
    [("bare_object_name", .str t.bareObjectName)] t.tree

def ofField (f : Field) : Value :=
  .entity .field
    [("name", .str f.name), ("name_lower_camel", .str f.nameLowerCamel),
      ("type", ofFieldType f.type), ("omit_empty", .bool f.omitEmpty), ("comment", .str f.comment),
      ("tag", .str f.tag),
      ("parsed_tags", .dict (f.parsedTags.map fun (k, t) => (k, ofFieldTag t))),
      ("example", ofJson f.sample), ("metadata", .dict (ofMembers f.metadata))] [] f.tree

def ofObject (o : Object) : Value :=
  .entity .object
    [("type_id", .str o.typeId), ("name", .str o.name), ("imported", .bool o.imported),
      ("fields", .list (o.fields.map ofField)), ("comment", .str o.comment),
      ("metadata", .dict (ofMembers o.metadata))] [] o.tree

def ofMethod (m : Method) : Value :=
  .entity .method
    [("name", .str m.name), ("name_lower_camel", .str m.nameLowerCamel),
      ("input_object", ofFieldType m.input), ("output_object", ofFieldType m.output),
      ("comment", .str m.comment), ("metadata", .dict (ofMembers m.metadata))] [] m.tree

def ofService (s : Service) : Value :=
  .entity .service
    [("name", .str s.name), ("methods", .list (s.methods.map ofMethod)),
      ("comment", .str s.comment), ("metadata", .dict (ofMembers s.metadata))] [] s.tree

def ofDefinition (d : Definition) : Value :=
  .entity .definition
    [("package_name", .str d.packageName), ("services", .list (d.services.map ofService)),
      ("objects", .list (d.objects.map ofObject)), ("imports", stringMap d.imports),
      ("params", .dict (ofMembers d.params))] [] d.tree

/-! ### Text -/

def typeName : Value → String
  | undefined _ => "Undefined"
  | none => "NoneType"
  | bool _ => "bool"
  | int _ => "int"
  | float _ => "float"
  | str _ => "str"
  | list _ => "list"
  | dict _ => "dict"
  | entity kind _ _ _ => kind.label
  | helper _ => "function"
  | method (entity _ _ _ _) _ | method (loop _ _ _) _ => "method"
  | method _ _ => "builtin_function_or_method"
  | type _ => "type"
  | loop _ _ _ => "LoopContext"

/-- The name of a value's type with what it belongs to. -/
def qualifiedType : Value → String
  | v@(entity _ _ _ _) => s!"gorpc.ast.definition.{v.typeName}"
  | v@(loop _ _ _) | v@(undefined _) => s!"jinja2.runtime.{v.typeName}"
  | v => v.typeName

/-- How a message names the thing that lacks something. -/
def ownerName : Value → String
  | none => "None"
  | v => s!"{v.qualifiedType} object"

def intText (n : Int) : String := String.ofList (Json.writeInt n)

def floatText : Binary64 → String
  | .nan => "nan"
  | .infinity false => "inf"
  | .infinity true => "-inf"
  | x => String.ofList x.text

mutual

/-- The text of a value inside another one. -/
def shown : Value → String
  | undefined _ => "Undefined"
  | none => "None"
  | bool true => "True"
  | bool false => "False"
  | int n => intText n
  | float x => floatText x
  | str s => Text.quoted s
  | list items => "[" ++ ", ".intercalate (shownItems items) ++ "]"
  | dict members => "\x7b" ++ ", ".intercalate (shownMembers members) ++ "\x7d"
  | entity kind attributes _ _ =>
    kind.label ++ "(" ++ ", ".intercalate (shownAttributes attributes) ++ ")"
  | helper _ => "<function>"
  | v@(method owner name) =>
    if v.typeName = "method" then
      s!"<bound method {owner.typeName}.{name} of {owner.shown}>"
    else s!"<built-in method {name} of {owner.typeName} object>"
  | type name => s!"<class {Text.quoted name}>"
  | loop index items _ => s!"<LoopContext {index + 1}/{items.length}>"

def shownItems : List Value → List String
  | [] => []
  | v :: rest => v.shown :: shownItems rest

def shownMembers : List (String × Value) → List String
  | [] => []
  | (key, v) :: rest => (Text.quoted key ++ ": " ++ v.shown) :: shownMembers rest

def shownAttributes : List (String × Value) → List String
  | [] => []
  | (name, v) :: rest => (name ++ "=" ++ v.shown) :: shownAttributes rest

end

/-- The text that a value prints as. -/
def text : Value → String
  | undefined _ => ""
  | str s => s
  | v => v.shown

/-! ### Truth and equality -/

def truth : Value → Bool
  | undefined _ | none => false
  | bool b => b
  | int n => n != 0
  | float (.finite _ mantissa _) => mantissa != 0
  | float _ => true
  | str s => s != ""
  | list items => !items.isEmpty
  | dict members => !members.isEmpty
  | entity _ _ _ _ | helper _ | method _ _ | type _ | loop _ _ _ => true

/-- The integer that a value is; `true` is one and `false` is zero. -/
def whole? : Value → Option Int
  | bool b => some (if b then 1 else 0)
  | int n => some n
  | _ => Option.none

/-- Equality of numbers by their exact values. -/
def sameNumber (v w : Value) : Bool :=
  match v.whole?, w.whole?, v, w with
  | some m, some n, _, _ => m == n
  | some n, _, _, float x | _, some n, float x, _ => x.isInt n
  | _, _, float x, float y => x.sameNumber y
  | _, _, _, _ => false

mutual

/-- Equality: numbers by value, dictionaries whatever their order. Inside other values, where
`inside` holds, the number `nan` equals itself. -/
def same (inside : Bool) : Value → Value → Bool
  | undefined _, undefined _ => true
  | none, none => true
  | str s, str t => s == t
  | float .nan, float .nan => inside
  | list xs, list ys => sameItems xs ys
  | dict ms, dict ns => ms.length == ns.length && sameMembers ms ns
  | entity k as _ _, entity l bs _ _ => k == l && sameMembers as bs
  | helper g, helper h => g == h
  | method v m, method w n => m == n && v.same true w
  | type m, type n => m == n
  | loop i _ _, loop j _ _ => i == j
  | v, w => v.sameNumber w

def sameItems : List Value → List Value → Bool
  | [], [] => true
  | x :: xs, y :: ys => x.same true y && sameItems xs ys
  | _, _ => false

/-- Whether all members of the first list are in the second. -/
def sameMembers : List (String × Value) → List (String × Value) → Bool
  | [], _ => true
  | (key, v) :: rest, ns =>
    (match Json.find? key ns with
      | some w => v.same true w
      | Option.none => false) && sameMembers rest ns

end

/-! ### Parts of values -/

def undefinedMessage (message : String) : Failure := .template (.undefinedValue message)

def badType (message : String) : Failure := .template (.unsupportedValue message)

/-- What a loop over a value goes through. -/
def items (v : Value) : Except Failure (List Value) :=
  match v with
  | undefined _ => .ok []
  | list items => .ok items
  | dict members => .ok (members.map fun (key, _) => .str key)
  | str s => .ok (s.toList.map fun c => .str c.toString)
  | v => .error (badType s!"{Text.quoted v.typeName} object is not iterable")

/-- Whether a value can never be a key. -/
def isNoKey : Value → Bool
  | list _ | dict _ | entity _ _ _ _ => true
  | _ => false

/-- Whether a value is in another one. -/
def isIn (part whole : Value) : Except Failure Bool :=
  match whole, part with
  | str s, str t => .ok (Text.contains t.toList s.toList)
  | str _, part =>
    .error (badType ("'in <string>' requires string as left operand, not " ++ part.typeName))
  | undefined _, _ => .ok false
  | list items, part => .ok (items.any (part.same true))
  | dict members, part =>
    if part.isNoKey then .error (badType s!"unhashable type: {Text.quoted part.typeName}")
    else .ok (members.any fun (key, _) => part.same true (.str key))
  | whole, _ => .error (badType s!"argument of type {Text.quoted whole.typeName} is not iterable")

mutual

def json : Value → Except Failure Json
  | undefined message => .error (undefinedMessage message)
  | none => .ok .null
  | bool b => .ok (.bool b)
  | int n => .ok (.int n)
  | float x => .ok (.float x)
  | str s => .ok (.str s)
  | list items => (jsonItems items).map .arr
  | dict members => (jsonMembers members).map .obj
  | entity _ _ _ tree => .ok tree
  | v@(helper _) | v@(method _ _) | v@(type _) | v@(loop _ _ _) =>
    .error (badType s!"Object of type {v.typeName} is not JSON serializable")

def jsonItems : List Value → Except Failure (List Json)
  | [] => .ok []
  | v :: rest => do
    let first ← v.json
    return first :: (← jsonItems rest)

def jsonMembers : List (String × Value) → Except Failure (List (String × Json))
  | [] => .ok []
  | (key, v) :: rest => do
    let first ← v.json
    return (key, first) :: (← jsonMembers rest)

end

end Value

end GoIdl.Template
