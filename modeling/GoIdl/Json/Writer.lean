import GoIdl.Json.Basic
import GoIdl.Decimal.Shortest
import GoIdl.Text.Hex

/-!
# Writing JSON

A layout is either compact or puts every item on a line of its own behind one `unit` of
indentation per level. Characters outside ASCII are written as they are.
-/

namespace GoIdl.Json

inductive Layout where
  | compact
  | indented (unit : List Char)

def writeChar (c : Char) : List Char :=
  if c = '"' then ['\\', '"']
  else if c = '\\' then ['\\', '\\']
  else if c = '\n' then ['\\', 'n']
  else if c = '\r' then ['\\', 'r']
  else if c = '\t' then ['\\', 't']
  else if c = '\x08' then ['\\', 'b']
  else if c = '\x0c' then ['\\', 'f']
  else if c.toNat < 0x20 then '\\' :: 'u' :: Text.hex 4 c.toNat
  else [c]

def writeString (s : String) : List Char := '"' :: s.toList.flatMap writeChar ++ ['"']

def writeInt (n : Int) : List Char :=
  if n < 0 then '-' :: Nat.toDigits 10 n.natAbs else Nat.toDigits 10 n.natAbs

/-- What stands between the brackets and the items at a nesting level. -/
def Layout.lineBreak (layout : Layout) (level : Nat) : List Char :=
  match layout with
  | .compact => []
  | .indented unit => '\n' :: (List.replicate level unit).flatten

def Layout.itemBreak (layout : Layout) (level : Nat) : List Char :=
  match layout with
  | .compact => [',', ' ']
  | .indented _ => ',' :: layout.lineBreak level

mutual

def writeAt (layout : Layout) (level : Nat) : Json → List Char
  | .null => "null".toList
  | .bool true => "true".toList
  | .bool false => "false".toList
  | .int n => writeInt n
  | .float x => x.text
  | .str s => writeString s
  | .arr [] => "[]".toList
  | .arr (item :: items) =>
    '[' :: layout.lineBreak (level + 1) ++ writeAt layout (level + 1) item ++
      writeItems layout (level + 1) items ++ layout.lineBreak level ++ [']']
  | .obj [] => "\x7b\x7d".toList
  | .obj ((key, value) :: members) =>
    '{' :: layout.lineBreak (level + 1) ++ writeString key ++ [':', ' '] ++
      writeAt layout (level + 1) value ++ writeMembers layout (level + 1) members ++
      layout.lineBreak level ++ ['}']

/-- The items after the first, each behind a separator. -/
def writeItems (layout : Layout) (level : Nat) : List Json → List Char
  | [] => []
  | item :: items =>
    layout.itemBreak level ++ writeAt layout level item ++ writeItems layout level items

/-- The members after the first, each behind a separator. -/
def writeMembers (layout : Layout) (level : Nat) : List (String × Json) → List Char
  | [] => []
  | (key, value) :: members =>
    layout.itemBreak level ++ writeString key ++ [':', ' '] ++ writeAt layout level value ++
      writeMembers layout level members

end

def write (layout : Layout) (value : Json) : String := String.ofList (writeAt layout 0 value)

end GoIdl.Json
