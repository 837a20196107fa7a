import GoIdl.Text.LetterCase
import GoIdl.Text.Lines

/-!
# Names

Changing the case of a name's start, and the name a package is presumed to have.
-/

namespace GoIdl

/-- Lower camel case: the capitals at the start become small, all but the last if a small letter
follows, since that one starts the next word. -/
def camelizeDownChars (name : List Char) : List Char :=
  let (capitals, rest) := name.span Text.isUpper
  match capitals.reverse, rest with
  | last :: _ :: _, next :: _ =>
    if Text.isLower next then Text.toLower capitals.dropLast ++ last :: rest
    else Text.toLower capitals ++ rest
  | _, _ => Text.toLower capitals ++ rest

def camelizeDown (name : String) : String := String.ofList (camelizeDownChars name.toList)

def camelizeUpChars : List Char → List Char
  | [] => []
  | c :: rest => Text.toUpper [c] ++ rest

def camelizeUp (name : String) : String := String.ofList (camelizeUpChars name.toList)

def isExported (name : String) : Bool := name.toList.head?.any Text.isUpper

/-- A major version as the last part of an import path. A line break at its end is overlooked. -/
def isMajorVersion : List Char → Bool
  | 'v' :: digits =>
    let digits := if digits.getLast? = some '\n' then digits.dropLast else digits
    !digits.isEmpty && digits.all Char.isDigit
  | _ => false

/-- The part of an import path that names the package: the last, or the one before a version. -/
def namingPart (parts : List (List Char)) : List Char :=
  match parts.reverse with
  | last :: before :: _ => if isMajorVersion last then before else last
  | [last] => last
  | [] => []

/-- Drops a version after the last `.v`. -/
def withoutVersion (name : List Char) : List Char :=
  match Text.splitLast ['.', 'v'] name with
  | some (base, version) =>
    if !version.isEmpty && version.all Text.hasDigitValue then base else name
  | none => name

/-- The presumed name of the package with an import path. -/
def defaultPackageName (path : String) : String :=
  let name := withoutVersion (namingPart (Text.splitOn '/' path.toList))
  String.ofList (name.map fun c => if c = '-' then '_' else c)

end GoIdl
