import GoIdl.Naming
import GoIdl.Output.CommentText
import GoIdl.Output.Segment
import GoIdl.Tag
import GoIdl.Template.Member

/-!
# Helpers

What the functions, filters and methods of templates answer, and what they refuse.
-/

namespace GoIdl.Template

namespace Helper

/-- The names that templates use for functions. -/
def named : List (String × Helper) :=
  [("camelize_down", .camelizeDown), ("camelize_up", .camelizeUp), ("json", .json),
   ("format_comment_line", .commentLine), ("format_comment_text", .commentText),
   ("format_comment_html", .commentHtml), ("format_tags", .formatTags),
   ("begin_file", .beginFile), ("end_file", .endFile), ("contains", .contains),
   ("has_prefix", .hasPrefix), ("has_suffix", .hasSuffix), ("hasPrefix", .hasPrefix),
   ("hasSuffix", .hasSuffix)]

/-- All that templates can call by a name: the functions, and two methods of the definition. -/
def callable? (d : Definition) (name : String) : Option Value :=
  match named.lookup name, name with
  | some h, _ => some (.helper h)
  | none, "is_input" => some (.method (.ofDefinition d) "object_is_input")
  | none, "is_output" => some (.method (.ofDefinition d) "object_is_output")
  | none, _ => none

/-! ### Parameters -/

/-- The name that messages use, the parameters, and whether the owner is bound as one more. -/
structure Shape where
  name : String
  params : List String
  bound : Bool := false

/-- The shape of a helper; some take any number of arguments. -/
def shape? : Helper → Option Shape
  | camelizeDown => some { name := "camelize_down", params := ["name"] }
  | camelizeUp => some { name := "camelize_up", params := ["name"] }
  | json => some { name := "to_json", params := ["value"] }
  | commentLine => some { name := "format_comment_line", params := ["text"] }
  | commentText => some { name := "format_comment_text", params := ["text"] }
  | commentHtml => some { name := "format_comment_html", params := ["text"] }
  | contains => some { name := "contains", params := ["text", "sub"] }
  | hasPrefix => some { name := "has_prefix", params := ["text", "prefix"] }
  | hasSuffix => some { name := "has_suffix", params := ["text", "suffix"] }
  | formatTags | beginFile | endFile => none

def plural (n : Nat) : String := if n = 1 then "" else "s"

/-- The message for `given` arguments where there are fewer or more parameters. -/
def arityMessage (shape : Shape) (given : Nat) : String :=
  let wanted := shape.params.length
  if given < wanted then
    let missing := (shape.params.drop given).map Text.quoted
    s!"{shape.name}() missing {missing.length} required positional argument" ++
      s!"{plural missing.length}: " ++ " and ".intercalate missing
  else
    let own := if shape.bound then 1 else 0
    s!"{shape.name}() takes {wanted + own} positional argument{plural (wanted + own)} " ++
      s!"but {given + own} were given"

def checkArity (shape? : Option Shape) (given : Nat) : Except Failure Unit :=
  match shape? with
  | some shape =>
    if given = shape.params.length then .ok ()
    else .error (Value.badType (arityMessage shape given))
  | none => .ok ()

/-! ### Arguments -/

/-- A method lacks what the function behind it lacks. -/
def lacks {α : Type} (v : Value) (member : String) : Except Failure α :=
  match v with
  | .undefined message => .error (Value.undefinedMessage message)
  | v =>
    let owner := if v.typeName = "method" then "function" else v.typeName
    .error (.template (.missingMember
      s!"{Text.quoted owner} object has no attribute {Text.quoted member}"))

/-- A text, where `member` is what is asked of other values. -/
def textOf (member : String) : Value → Except Failure String
  | .str s => .ok s
  | v => lacks v member

/-- The number of texts in capitals that a list starts with; what follows them is a text. -/
def leadingCapitals : List Value → Except Failure Nat
  | [] => .ok 0
  | .str s :: rest =>
    if Text.isUpperText s.toList then (leadingCapitals rest).map (· + 1) else .ok 0
  | v :: _ => lacks v "isupper"

def lower : Value → Except Failure Value
  | .str s => .ok (.str (GoIdl.camelizeDown s))
  | .undefined message => .ok (.undefined message)
  | .list items => do
    match ← leadingCapitals items with
    | 0 => return .list items
    | _ => lacks (.list items) "lower"
  | .dict [] => .ok (.dict [])
  | .dict _ => .error (.template (.missingKey "0"))
  | v@(.loop _ _ _) =>
    .error (Value.badType s!"{Text.quoted v.typeName} object is not subscriptable")
  | v => .error (Value.badType s!"object of type {Text.quoted v.typeName} has no len()")

def upper : Value → Except Failure Value
  | .str s => .ok (.str (GoIdl.camelizeUp s))
  | .undefined message => .error (Value.undefinedMessage message)
  | .list items => lacks (.list items) "upper"
  | .dict _ => .error (Value.badType "unhashable type: 'slice'")
  | v => .error (Value.badType s!"{Text.quoted v.typeName} object is not subscriptable")

/-- The tag of an argument; a value that is false counts as an empty one. -/
def tagOf (v : Value) : Except Failure String :=
  if v.truth then textOf "lstrip" v else .ok ""

/-- The pairs of the tags; a fault in one comes before what is wrong with a later one. -/
def mergeTags (tags : List Value) : Except Failure (List (String × FieldTag)) :=
  tags.foldlM (fun into v => do return Tag.enter into (← Tag.split (← tagOf v) none)) []

/-- The parts of a file's name, from the argument with number `index` on. -/
def nameParts (index : Nat) : List Value → Except Failure (List String)
  | [] => .ok []
  | .str s :: rest => (nameParts (index + 1) rest).map (s :: ·)
  | v :: _ =>
    .error (Value.badType
      s!"sequence item {index}: expected str instance, {v.typeName} found")

/-- Compares the start or the end of a text with another one. -/
def affix (member : String) (holds : List Char → List Char → Bool) (v w : Value) :
    Except Failure Value := do
  let text ← textOf member v
  match w with
  | .str s => return .bool (holds s.toList text.toList)
  | w =>
    throw (Value.badType
      s!"{member} first arg must be str or a tuple of str, not {w.typeName}")

/-- The name that a value stands for, if it is one. -/
def nameOf? : Value → Option String
  | .str s => some s
  | _ => none

def tabbed : Json.Layout := .indented ['\t']

/-! ### Answers -/

def comment (layout : List Char → List Char) (v : Value) : Except Failure Value := do
  return .str (Text.onString layout (← textOf "strip" v))

/-- What a function answers. -/
def answer (h : Helper) (args : List Value) : Except Failure Value := do
  checkArity h.shape? args.length
  match h, args with
  | camelizeDown, [v] => lower v
  | camelizeUp, [v] => upper v
  | json, [v] => return .str (Json.write tabbed (← v.json))
  | commentLine, [v] => comment Output.CommentText.line v
  | commentText, [v] => comment Output.CommentText.text v
  | commentHtml, [v] => comment Output.CommentText.html v
  | formatTags, args => return .str (Tag.literal (← mergeTags args))
  | beginFile, args => return .str (Output.beginFile (← nameParts 0 args))
  | endFile, args => return .str (Output.endFile (← nameParts 0 args))
  | contains, [v, w] => return .bool (← w.isIn v)
  | hasPrefix, [v, w] => affix "startswith" List.isPrefixOf v w
  | hasSuffix, [v, w] => affix "endswith" List.isSuffixOf v w
  | _, _ => return .none

end Helper

/-! ### Methods -/

namespace Value

open Helper (Shape)

/-- The shape of an entity's method. -/
def methodShape (owner : Value) (name : String) : Shape :=
  { name := s!"{owner.typeName}.{name}", params := if name = "to_dict" then [] else ["name"],
    bound := true }

/-- The object of a definition that a value names. -/
def object (d : Definition) (v : Value) : Except Failure Value :=
  match v with
  | str name => (d.object name).map ofObject
  | v =>
    let name := (v.json.toOption).getD (.str v.text)
    .error (.definition { cause := .stated (.objectNotFound name) s!"object {v.text} not found" })

/-- The first of the entities whose name a value is. -/
def entityNamed (entities : List Value) (v : Value) : Value :=
  let hasName (e : Value) : Bool :=
    match e with
    | entity _ attributes _ _ => (Json.find? "name" attributes).any (v.same false)
    | _ => false
  (entities.find? hasName).getD none

/-- What a method answers. Methods that templates have no use for are refused. -/
def callMethod (d : Definition) (owner : Value) (name : String) (args : List Value) :
    Except Failure Value := do
  match owner with
  | entity kind attributes _ tree =>
    Helper.checkArity (some (owner.methodShape name)) args.length
    match kind, name, args with
    | .definition, "object", [v] => object d v
    | .definition, "object_is_input", [v] => return bool ((Helper.nameOf? v).any d.objectIsInput)
    | .definition, "object_is_output", [v] => return bool ((Helper.nameOf? v).any d.objectIsOutput)
    | .object, "field", [v] =>
      match Json.find? "fields" attributes with
      | some (list fields) => return entityNamed fields v
      | _ => return none
    | _, _, _ => return ofJson tree
  | loop index _ _ =>
    if name = "cycle" then
      match args[index % args.length]? with
      | some v => return v
      | Option.none => throw (badType "no items for cycling given")
    else throw (badType s!"method {Text.quoted name} of a loop cannot be called")
  | owner => throw (badType s!"method {Text.quoted name} of {owner.typeName} cannot be called")

def call (d : Definition) (f : Value) (args : List Value) : Except Failure Value :=
  match f with
  | helper h => h.answer args
  | method owner name => callMethod d owner name args
  | undefined message => .error (undefinedMessage message)
  | f => .error (badType s!"{Text.quoted f.typeName} object is not callable")

end Value

end GoIdl.Template
