import GoIdl.Syntax.Position

/-!
# Type expressions
-/

namespace GoIdl.Syntax

/-- A type's name, with the name of its package if it is qualified. -/
structure TypeName where
  pos : Position
  qualifier : Option String
  name : String
  deriving DecidableEq, Repr

structure Param (α : Type) where
  pos : Position
  name : Option String
  variadic : Bool
  type : α

structure Signature (α : Type) where
  params : List (Param α)
  results : List (Param α)

/-- A struct field. An embedded field goes by the name of its type. -/
structure FieldDecl (α : Type) where
  pos : Position
  name : String
  type : α
  tag : Option String
  embedded : Bool
  doc : String

structure MethodDecl (α : Type) where
  pos : Position
  name : String
  signature : Signature α
  doc : String

inductive TypeExpr where
  | named (name : TypeName)
  | pointer (pos : Position) (elem : TypeExpr)
  | slice (pos : Position) (elem : TypeExpr)
  | array (pos : Position) (length : String) (elem : TypeExpr)
  | map (pos : Position) (key value : TypeExpr)
  | chan (pos : Position) (elem : TypeExpr)
  | func (pos : Position) (signature : Signature TypeExpr)
  | struct (pos : Position) (fields : List (FieldDecl TypeExpr))
  | interface (pos : Position) (methods : List (MethodDecl TypeExpr)) (embeds : List TypeName)

def TypeExpr.pos : TypeExpr → Position
  | named name => name.pos
  | pointer pos _ | slice pos _ | array pos _ _ | map pos _ _ | chan pos _ => pos
  | func pos _ | struct pos _ | interface pos _ _ => pos

structure TypeSpec where
  pos : Position
  name : String
  type : TypeExpr
  isAlias : Bool
  doc : String

/-- An import; a dot or an underscore as its local name is kept as such. -/
structure ImportSpec where
  pos : Position
  path : String
  localName : Option String
  deriving DecidableEq, Repr

/-- A source file. `pos` is the place of its package clause. -/
structure SourceFile where
  path : String
  pos : Position
  package : String
  imports : List ImportSpec
  types : List TypeSpec

end GoIdl.Syntax
