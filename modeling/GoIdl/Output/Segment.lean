import GoIdl.Text.Lines

/-!
# Output in several files

A text may hold the contents of several files, each between a line that begins it and a line that
ends it, both with its name.
-/

namespace GoIdl.Output

structure Segment where
  name : String
  content : String
  deriving DecidableEq, Repr

def beginMark : List Char := ">>>BEGIN ".toList

def endMark : List Char := "<<<END ".toList

def beginFile (name : List String) : String :=
  String.ofList beginMark ++ String.join name ++ "\n"

def endFile (name : List String) : String := String.ofList endMark ++ String.join name ++ "\n"

def isNameChar (c : Char) : Bool := c.isAlphanum || c == '.'

/-- The name in a marker at the start of `s`, and the text after its line. -/
def marker? (mark s : List Char) : Option (List Char × List Char) :=
  if mark.isPrefixOf s then
    match (s.drop mark.length).span isNameChar with
    | (first :: name, '\n' :: rest) => some (first :: name, rest)
    | _ => none
  else none

/-- The text before the nearest end marker, its name, and the text after it. -/
def toEnd? : List Char → Option (List Char × List Char × List Char)
  | [] => none
  | c :: rest =>
    match marker? endMark (c :: rest) with
    | some (name, rest) => some ([], name, rest)
    | none => (toEnd? rest).map fun (body, name, rest) => (c :: body, name, rest)

/-- One line break at the end belongs to the marker. -/
def withoutLastBreak (body : List Char) : List Char :=
  if body.getLast? = some '\n' then body.dropLast else body

/-- The segments of a text. A begin marker reaches to the nearest end marker, and what stands
between two names that differ is dropped. Every step takes a character, so the length of the text
is enough `fuel`. -/
def segmentsOf (fuel : Nat) (s : List Char) : List Segment :=
  match fuel, s with
  | 0, _ => []
  | _, [] => []
  | fuel + 1, c :: rest =>
    match marker? beginMark (c :: rest) with
    | none => segmentsOf fuel rest
    | some (name, body) =>
      match toEnd? body with
      | none => segmentsOf fuel rest
      | some (body, endName, after) =>
        if name = endName then
          ⟨String.ofList name, String.ofList (withoutLastBreak body)⟩ :: segmentsOf fuel after
        else segmentsOf fuel after

def split (content : String) : List Segment :=
  segmentsOf content.toList.length content.toList

end GoIdl.Output
