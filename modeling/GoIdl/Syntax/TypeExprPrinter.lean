import GoIdl.Syntax.TypeExpr

/-!
# Writing type expressions on one line
-/

namespace GoIdl.Syntax

def TypeName.text (n : TypeName) : String :=
  match n.qualifier with
  | some q => q ++ "." ++ n.name
  | none => n.name

def ellipsisText (variadic : Bool) : String := if variadic then "..." else ""

/-- A parameter whose type reads `type`. -/
def paramText (name : Option String) (variadic : Bool) (type : String) : String :=
  match name with
  | some n => n ++ " " ++ ellipsisText variadic ++ type
  | none => ellipsisText variadic ++ type

/-- A signature whose parameters and results read as given. A single result without a name needs
no parentheses. -/
def signatureText (params : List String) (results : List String) (bare : Bool) : String :=
  let head := "(" ++ ", ".intercalate params ++ ")"
  match results with
  | [] => head
  | [result] => if bare then head ++ " " ++ result else head ++ " (" ++ result ++ ")"
  | _ => head ++ " (" ++ ", ".intercalate results ++ ")"

def isBare (results : List (Param TypeExpr)) : Bool :=
  match results with
  | [r] => r.name.isNone
  | _ => false

mutual

def TypeExpr.text : TypeExpr → String
  | .named name => name.text
  | .pointer _ elem => "*" ++ elem.text
  | .slice _ elem => "[]" ++ elem.text
  | .array _ length elem => "[" ++ length ++ "]" ++ elem.text
  | .map _ key value => "map[" ++ key.text ++ "]" ++ value.text
  | .chan _ elem => "chan " ++ elem.text
  | .func _ ⟨params, results⟩ =>
    "func" ++ signatureText (paramTexts params) (paramTexts results) (isBare results)
  | .struct _ fields => "struct\x7b" ++ "; ".intercalate (fieldTexts fields) ++ "\x7d"
  | .interface _ methods embeds =>
    "interface\x7b" ++ "; ".intercalate (methodTexts methods ++ embeds.map TypeName.text) ++ "\x7d"

def paramTexts : List (Param TypeExpr) → List String
  | [] => []
  | ⟨_, name, variadic, type⟩ :: rest => paramText name variadic type.text :: paramTexts rest

def fieldTexts : List (FieldDecl TypeExpr) → List String
  | [] => []
  | ⟨_, name, type, _, embedded, _⟩ :: rest =>
    (if embedded then type.text else name ++ " " ++ type.text) :: fieldTexts rest

def methodTexts : List (MethodDecl TypeExpr) → List String
  | [] => []
  | ⟨_, name, ⟨params, results⟩, _⟩ :: rest =>
    (name ++ signatureText (paramTexts params) (paramTexts results) (isBare results)) ::
      methodTexts rest

end

def MethodDecl.text (m : MethodDecl TypeExpr) : String :=
  m.name ++ signatureText (paramTexts m.signature.params) (paramTexts m.signature.results)
    (isBare m.signature.results)

end GoIdl.Syntax
