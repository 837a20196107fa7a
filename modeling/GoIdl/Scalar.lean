/-!
# Spellings of types in the target languages
-/

namespace GoIdl

inductive ScalarKind where
  | string | bool | number | any | map
  deriving DecidableEq, Repr

inductive Target where
  | js | ts | swift | php | py
  deriving DecidableEq, Repr

def ScalarKind.label : ScalarKind → String
  | string => "string"
  | bool => "bool"
  | number => "number"
  | any => "any"
  | map => "map"

def Target.label : Target → String
  | js => "js"
  | ts => "ts"
  | swift => "swift"
  | php => "php"
  | py => "py"

def Target.all : List Target := [.js, .ts, .swift, .php, .py]

namespace ScalarKind

def numbers : List String :=
  ["int", "int8", "int16", "int32", "int64", "uint", "uint8", "uint16", "uint32", "uint64",
   "float32", "float64", "byte", "rune"]

/-- The kind of a type by its text. -/
def ofTypeName? (name : String) : Option ScalarKind :=
  if name = "string" then some .string
  else if name = "bool" then some .bool
  else if name = "interface\x7b\x7d" ∨ name = "any" then some .any
  else if name = "map[string]interface\x7b\x7d" ∨ name = "map[string]any" then some .map
  else if numbers.contains name then some .number
  else none

def spelling : ScalarKind → Target → String
  | string, .js | string, .ts | string, .php => "string"
  | string, .swift => "String"
  | string, .py => "str"
  | bool, .js | bool, .ts => "boolean"
  | bool, .swift => "Bool"
  | bool, .php | bool, .py => "bool"
  | number, .js | number, .ts => "number"
  | number, .swift => "Double"
  | number, .php | number, .py => "float"
  | any, .js => "any"
  | any, .ts => "object"
  | any, .swift | any, .py => "Any"
  | any, .php => "mixed"
  | map, .js | map, .ts => "object"
  | map, .swift => "Any"
  | map, .php => "array"
  | map, .py => "dict"

end ScalarKind

/-- The spelling of a type in a target language. An object is called so in scripts and goes by its
name elsewhere, and so does every type that is not known. -/
def spellingOf (typeName : String) (isObject : Bool) (target : Target) : String :=
  if isObject then if target = .js then "object" else typeName
  else
    match ScalarKind.ofTypeName? typeName with
    | some kind => kind.spelling target
    | none => typeName

/-- The spellings by target. -/
def scalarTypes (typeName : String) (isObject : Bool) : List (String × String) :=
  Target.all.map fun target => (target.label, spellingOf typeName isObject target)

end GoIdl
