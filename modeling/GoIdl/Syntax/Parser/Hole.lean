import GoIdl.Syntax.TypeExpr
import GoIdl.Syntax.Token

/-!
# What surrounds the place of reading

A hole is everything read so far around a construct that is still open, from the inside out. Each
kind of construct has its own holes, so that what is read always fits where it is put.
-/

namespace GoIdl.Syntax.Parser

/-- A name as it stands in the source. -/
structure Ident where
  name : String
  pos : Position

def Ident.ofToken (t : Token) : Ident := ⟨t.text, t.pos⟩

/-- Around an import. -/
inductive ImportHole where
  | single (file : SourceFile)
  | group (file : SourceFile)

/-- Around a type declaration. -/
inductive SpecHole where
  | single (file : SourceFile)
  /-- In parentheses, after `specs`; `doc` documents the whole declaration. -/
  | group (doc : String) (specs : List TypeSpec) (file : SourceFile)

mutual

/-- Around a type expression. -/
inductive TypeHole where
  | spec (name : Ident) (doc : String) (isAlias : Bool) (outer : SpecHole)
  | pointer (pos : Position) (outer : TypeHole)
  | slice (pos : Position) (outer : TypeHole)
  | array (pos : Position) (length : String) (outer : TypeHole)
  | mapKey (pos : Position) (outer : TypeHole)
  | mapValue (pos : Position) (key : TypeExpr) (outer : TypeHole)
  | chan (pos : Position) (outer : TypeHole)
  | field (names : List Ident) (doc : String) (outer : StructHole)
  | param (pos : Position) (name : Option String) (variadic : Bool) (outer : ParamsHole)
  /-- The only result, without parentheses. -/
  | result (params : List (Param TypeExpr)) (outer : SignatureHole)

/-- Around a signature. -/
inductive SignatureHole where
  | func (pos : Position) (outer : TypeHole)
  | method (name : Ident) (doc : String) (outer : InterfaceHole)

/-- Inside the parentheses of parameters or results, after `entries`. -/
inductive ParamsHole where
  | params (pos : Position) (entries : List (Param TypeExpr)) (outer : SignatureHole)
  | results (pos : Position) (entries : List (Param TypeExpr)) (params : List (Param TypeExpr))
      (outer : SignatureHole)

/-- Inside a struct type, after `fields`. -/
inductive StructHole where
  | fields (pos : Position) (fields : List (FieldDecl TypeExpr)) (outer : TypeHole)

/-- Inside an interface type, after `methods` and `embeds`. -/
inductive InterfaceHole where
  | elems (pos : Position) (methods : List (MethodDecl TypeExpr)) (embeds : List TypeName)
      (outer : TypeHole)

end

/-- Around the name of a type. -/
inductive NameHole where
  | type (outer : TypeHole)
  /-- An embedded field that starts at `pos`. -/
  | field (pos : Position) (doc : String) (isPointer : Bool) (outer : StructHole)
  | embed (outer : InterfaceHole)

/-- A bracket that is open in a skipped declaration. -/
inductive Bracket where
  | paren | square | brace
  deriving DecidableEq, Repr

def Bracket.closer : Bracket → Terminal
  | paren => .rightParen
  | square => .rightBracket
  | brace => .rightBrace

def Bracket.opened? : Terminal → Option Bracket
  | .leftParen => some paren
  | .leftBracket => some square
  | .leftBrace => some brace
  | _ => none

end GoIdl.Syntax.Parser
