import GoIdl.Syntax.Token

/-!
# Automatic semicolons

A line break or the end of the input after a token that can end a statement becomes a semicolon;
every other line break is dropped.
-/

namespace GoIdl.Syntax

/-- The last two characters of an operator. -/
def endsInStep (text : String) : Bool :=
  match text.toList.reverse with
  | '+' :: '+' :: _ => true
  | '-' :: '-' :: _ => true
  | _ => false

def Token.endsStatement (t : Token) : Bool :=
  match t.terminal with
  | .name | .number | .string | .rawString | .rune => true
  | .rightParen | .rightBracket | .rightBrace => true
  | .operator => endsInStep t.text
  | _ => false

def semicolonAt (pos : Position) : Token := ⟨.semicolon, ";", pos⟩

/-- The token that stands for `t` after the token `last`. -/
def afterToken (last : Option Token) (t : Token) : Option Token :=
  if t.terminal = .newline then
    if last.any Token.endsStatement then some (semicolonAt t.pos) else none
  else some t

/-- The token that the end of the input adds. -/
def atEnd (last : Option Token) : Option Token :=
  (last.filter Token.endsStatement).map fun t => semicolonAt t.pos

def insertSemicolons (last : Option Token) : List Token → List Token
  | [] => (atEnd last).toList
  | t :: rest =>
    match afterToken last t with
    | some t => t :: insertSemicolons (some t) rest
    | none => insertSemicolons last rest

end GoIdl.Syntax
