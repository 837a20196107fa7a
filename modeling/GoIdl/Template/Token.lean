import GoIdl.Failure

/-!
# Tokens of templates

A template is text with tags in it. Inside a tag stand names, literals and signs.
-/

namespace GoIdl.Template

open Decimal (Binary64)

inductive Token where
  | text (s : List Char)
  | tagBegin
  | tagEnd
  | printBegin
  | printEnd
  | name (s : String)
  | str (s : String)
  | int (n : Int)
  | float (x : Binary64)
  | sign (s : List Char)
  /-- The place from which on the template cannot be read. -/
  | fault (fault : TemplateFault)
  deriving DecidableEq, Repr

def endDescription : String := "end of template"

def Token.description : Token → String
  | text _ => "template data / text"
  | tagBegin => "begin of statement block"
  | tagEnd => "end of statement block"
  | printBegin => "begin of print statement"
  | printEnd => "end of print statement"
  | name s => s
  | str _ => "string"
  | int _ => "integer"
  | float _ => "float"
  | sign s => String.ofList s
  | fault f => f.message

/-- The signs, longer ones first. -/
def signs : List (List Char) :=
  ["//".toList, "**".toList, "==".toList, "!=".toList, ">=".toList, "<=".toList] ++
    "+-/*%~[](){}><=.:|,;".toList.map fun c => [c]

end GoIdl.Template
