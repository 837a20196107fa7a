import GoIdl.Template.Value

/-!
# Members and items of values

`v.name` asks for an attribute first and for an item after that, `v[key]` the other way round. What
is neither is undefined, and a message says what was asked of what.
-/

namespace GoIdl.Template.Value

/-! ### Attributes -/

def textMethods : List String :=
  ["capitalize", "casefold", "center", "count", "encode", "endswith", "expandtabs", "find",
   "format", "format_map", "index", "isalnum", "isalpha", "isascii", "isdecimal", "isdigit",
   "isidentifier", "islower", "isnumeric", "isprintable", "isspace", "istitle", "isupper", "join",
   "ljust", "lower", "lstrip", "maketrans", "partition", "removeprefix", "removesuffix", "replace",
   "rfind", "rindex", "rjust", "rpartition", "rsplit", "rstrip", "split", "splitlines",
   "startswith", "strip", "swapcase", "title", "translate", "upper", "zfill"]

def listMethods : List String :=
  ["append", "clear", "copy", "count", "extend", "index", "insert", "pop", "remove", "reverse",
   "sort"]

def dictMethods : List String :=
  ["clear", "copy", "fromkeys", "get", "items", "keys", "pop", "popitem", "setdefault", "update",
   "values"]

def intMethods : List String :=
  ["as_integer_ratio", "bit_count", "bit_length", "conjugate", "from_bytes", "to_bytes"]

def floatMethods : List String :=
  ["as_integer_ratio", "conjugate", "fromhex", "hex", "is_integer"]

def loopMethods : List String := ["changed", "cycle"]

def entityMethods : Entity → List String
  | .definition => ["object", "object_is_input", "object_is_output", "to_dict"]
  | .object => ["field", "to_dict"]
  | _ => ["to_dict"]

def methods : Value → List String
  | str _ => textMethods
  | list _ => listMethods
  | dict _ => dictMethods
  | bool _ | int _ => intMethods
  | float _ => floatMethods
  | entity kind _ _ _ => entityMethods kind
  | loop _ _ _ => loopMethods
  | _ => []

/-- The parts of a number. -/
def intPart? (n : Int) : String → Option Value
  | "real" | "numerator" => some (.int n)
  | "imag" => some (.int 0)
  | "denominator" => some (.int 1)
  | _ => Option.none

def floatPart? (x : Decimal.Binary64) : String → Option Value
  | "real" => some (.float x)
  | "imag" => some (.float (.zero false))
  | _ => Option.none

/-- What a loop that has a failure before it says of its end. -/
def unlessPending (pending : Option Failure) (v : Value) : Except Failure Value :=
  match pending with
  | some failure => .error failure
  | Option.none => .ok v

/-- The state of a loop. The end of the loop is known once all its items are. -/
def loopPart? (index : Nat) (items : List Value) (pending : Option Failure) (name : String) :
    Except Failure (Option Value) :=
  let next? := items[index + 1]?
  let atEnd (v : Nat → Value) : Except Failure (Option Value) :=
    (unlessPending pending (v items.length)).map some
  match name with
  | "index" => .ok (some (.int (index + 1)))
  | "index0" => .ok (some (.int index))
  | "depth" => .ok (some (.int 1))
  | "depth0" => .ok (some (.int 0))
  | "first" => .ok (some (.bool (index == 0)))
  | "last" => if next?.isSome then .ok (some (.bool false)) else atEnd fun _ => .bool true
  | "length" => atEnd fun count => .int count
  | "revindex" => atEnd fun count => .int (count - index)
  | "revindex0" => atEnd fun count => .int (count - index - 1)
  | "previtem" =>
    match index with
    | 0 => .ok (some (.undefined "there is no previous item"))
    | before + 1 => .ok items[before]?
  | "nextitem" =>
    match next? with
    | some v => .ok (some v)
    | Option.none => atEnd fun _ => .undefined "there is no next item"
  | _ => .ok Option.none

/-- The attribute of a value that is no method. -/
def part? (v : Value) (name : String) : Except Failure (Option Value) :=
  match v with
  | undefined message => .error (undefinedMessage message)
  | bool b => .ok (intPart? (if b then 1 else 0) name)
  | int n => .ok (intPart? n name)
  | float x => .ok (floatPart? x name)
  | entity _ attributes derived _ => .ok (Json.find? name (attributes ++ derived))
  | loop index items pending => loopPart? index items pending name
  | type qualified =>
    .ok (if name = "__name__" then ((Text.splitString '.' qualified).getLast?).map .str
      else Option.none)
  | _ => .ok Option.none

def attribute? (v : Value) (name : String) : Except Failure (Option Value) := do
  if name = "__class__" then return some (.type v.qualifiedType)
  match ← v.part? name with
  | some w => return some w
  | Option.none => return if v.methods.contains name then some (.method v name) else Option.none

/-! ### Items -/

/-- The item at an index; a negative one counts from the end. -/
def at? {α : Type} (items : List α) (index : Int) : Option α :=
  if 0 ≤ index then items[index.toNat]?
  else if index.natAbs ≤ items.length then items[items.length - index.natAbs]?
  else Option.none

def item? (v key : Value) : Option Value :=
  match v, key, key.whole? with
  | dict members, str name, _ => Json.find? name members
  | list items, _, some index => at? items index
  | str s, _, some index => (at? s.toList index).map fun c => .str c.toString
  | _, _, _ => Option.none

/-! ### Access -/

/-- What is not there: a member by its name, or an element by any other key. -/
def lacking (v key : Value) : Value :=
  match key with
  | str name => .undefined s!"{Text.quoted v.ownerName} has no attribute {Text.quoted name}"
  | key => .undefined s!"{v.ownerName} has no element {key.shown}"

/-- `v.name`. -/
def member (v : Value) (name : String) : Except Failure Value := do
  match ← v.attribute? name with
  | some w => return w
  | Option.none => return (v.item? (.str name)).getD (v.lacking (.str name))

/-- `v[key]`. -/
def item (v key : Value) : Except Failure Value :=
  match v, v.item? key, key with
  | undefined message, _, _ => .error (undefinedMessage message)
  | _, some w, _ => .ok w
  | v, Option.none, str name => do return (← v.attribute? name).getD (v.lacking (.str name))
  | v, Option.none, key => .ok (v.lacking key)

end GoIdl.Template.Value
