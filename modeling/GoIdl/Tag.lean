import GoIdl.Failure

/-!
# Field tags

A tag is a sequence of pairs `key:"value"`, set apart by any number of spaces. A value is a name and
options, separated by commas.
-/

namespace GoIdl

open Syntax (Location EscapeFault)

structure FieldTag where
  value : String
  options : List String
  deriving DecidableEq, Repr

namespace Tag

inductive Fault where
  | malformed (fault : TagFault)
  | escape (fault : EscapeFault)
  deriving DecidableEq, Repr

def isKeyChar (c : Char) : Bool :=
  decide (' ' < c) && c != ':' && c != '"' && c != '\x7f'

/-- The inside of a value and the text after its closing quote. -/
def valueBody : List Char → Option (List Char × List Char)
  | [] => none
  | '"' :: rest => some ([], rest)
  | ['\\'] => none
  | '\\' :: c :: rest => (valueBody rest).map fun (body, rest) => ('\\' :: c :: body, rest)
  | c :: rest => (valueBody rest).map fun (body, rest) => (c :: body, rest)

def fieldTag (value : List Char) : FieldTag :=
  match Text.splitOn ',' value with
  | [] => ⟨"", []⟩
  | name :: options => ⟨String.ofList name, options.map String.ofList⟩

/-- The first pair of a text that starts with a key. -/
def firstPair (s : List Char) : Except Fault ((String × FieldTag) × List Char) :=
  let (key, rest) := s.span isKeyChar
  if key.isEmpty then .error (.malformed .key)
  else
    match rest with
    | ':' :: '"' :: rest =>
      match valueBody rest with
      | none => .error (.malformed .value)
      | some (body, rest) =>
        match Syntax.resolveEscapes 0 body with
        | .ok value => .ok ((String.ofList key, fieldTag value), rest)
        | .error fault => .error (.escape fault)
    | ':' :: _ :: _ => .error (.malformed .value)
    | _ => .error (.malformed .pair)

/-- The pairs of a text. Every pair takes a character, so the length of the text is enough
`fuel`. -/
def pairs (fuel : Nat) (s : List Char) : Except Fault (List (String × FieldTag)) :=
  match s.dropWhile (· == ' ') with
  | [] => .ok []
  | s =>
    match fuel with
    | 0 => .ok []
    | fuel + 1 => do
      let (pair, rest) ← firstPair s
      return pair :: (← pairs fuel rest)

def split? (tag : String) : Except Fault (List (String × FieldTag)) :=
  pairs tag.toList.length tag.toList

/-- The pairs of a tag in order. -/
def split (tag : String) (location : Option Location) :
    Except Failure (List (String × FieldTag)) :=
  match split? tag with
  | .ok pairs => .ok pairs
  | .error (.malformed fault) => .error (.definition { cause := .malformedTag tag fault, location })
  | .error (.escape fault) => .error (.escape fault)

/-- Enters pairs in order: a known key keeps its place and takes the new value. -/
def enter (into pairs : List (String × FieldTag)) : List (String × FieldTag) :=
  pairs.foldl (fun tags (key, value) => Json.put key value tags) into

def parse (tag : String) (location : Option Location) :
    Except Failure (List (String × FieldTag)) :=
  (split tag location).map (enter [])

/-- The pairs of several tags, a repeated key replacing the value before. -/
def merge (tags : List String) : Except Failure (List (String × FieldTag)) :=
  tags.foldlM (fun into tag => (split tag none).map (enter into)) []

def pairText : String × FieldTag → String
  | (key, tag) => key ++ ":\"" ++ ",".intercalate (tag.value :: tag.options) ++ "\""

/-- The tag that a list of pairs is written as. -/
def text (pairs : List (String × FieldTag)) : String := " ".intercalate (pairs.map pairText)

/-- The literal of a tag; nothing if there are no pairs. -/
def literal (pairs : List (String × FieldTag)) : String :=
  match text pairs with
  | "" => ""
  | s => "`" ++ s ++ "`"

/-- Several tags merged into one literal. -/
def format (tags : List String) : Except Failure String := (merge tags).map literal

/-- The name that the `json` key gives a field. -/
def jsonName (tags : List (String × FieldTag)) : String :=
  ((Json.find? "json" tags).map FieldTag.value).getD ""

def jsonOmitsEmpty (tags : List (String × FieldTag)) : Bool :=
  (Json.find? "json" tags).any fun tag => tag.options.contains "omitempty"

end Tag

end GoIdl
