import GoIdl.Failure
import GoIdl.Text.Blank

/-!
# Arguments of an invocation

Parameters for templates and services to exclude, both separated by commas.
-/

namespace GoIdl

def readParam (pair : List Char) : Except Failure (String × String) :=
  let pair := Text.trim pair
  match Text.splitOn ':' pair with
  | [key, value] => .ok (String.ofList (Text.trim key), String.ofList (Text.trim value))
  | _ => .error (.definition { cause := .malformedParameters (String.ofList pair) })

/-- Parameters written `key:value,key:value`; of a repeated key the last value counts. -/
def parseParams (text : String) : Except Failure (List (String × String)) :=
  if text = "" then .ok []
  else (Text.splitOn ',' text.toList).foldlM (fun params pair => do
    let (key, value) ← readParam pair
    return Json.put key value params) []

def parseExclusions (text : Option String) : List String :=
  let names := (Text.splitOn ',' (text.getD "").toList).map Text.trim
  (names.filter fun name => !name.isEmpty).map String.ofList

end GoIdl
