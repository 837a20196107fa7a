import GoIdl.Syntax.Parser.Hole

/-!
# Places of reading

A mode says what has just been read. It decides which terminals are accepted next, and so what the
scanner tells apart: the list may hold terminals that only some surroundings allow, and these are
refused once the construct that ends there has been put into its hole.
-/

namespace GoIdl.Syntax.Parser

inductive Mode where
  /-- At the start of the file. -/
  | start
  | packageName (pos : Position)
  | packageEnd (file : SourceFile)
  /-- Where an import or a declaration may start. -/
  | imports (file : SourceFile)
  | decls (file : SourceFile)
  /-- After the keyword of an import. -/
  | importStart (file : SourceFile)
  | importPath (pos : Position) (localName : String) (hole : ImportHole)
  | importItem (file : SourceFile)
  | importRead (spec : ImportSpec) (hole : ImportHole)
  | importEnd (file : SourceFile)
  /-- After the keyword of a type declaration. -/
  | typeStart (doc : String) (file : SourceFile)
  | specItem (doc : String) (specs : List TypeSpec) (file : SourceFile)
  | specName (name : Ident) (doc : String) (hole : SpecHole)
  | typeEnd (file : SourceFile)
  /-- Before a type expression. -/
  | type (hole : TypeHole)
  | typeName (name : Ident) (hole : NameHole)
  | qualifier (name : Ident) (hole : NameHole)
  | qualified (name : TypeName) (hole : NameHole)
  /-- After a type expression that ends with a brace. -/
  | closed (type : TypeExpr) (hole : TypeHole)
  | bracket (pos : Position) (hole : TypeHole)
  | arrayLength (pos : Position) (length : String) (hole : TypeHole)
  | mapKeyword (pos : Position) (hole : TypeHole)
  | structKeyword (pos : Position) (hole : TypeHole)
  | interfaceKeyword (pos : Position) (hole : TypeHole)
  | funcKeyword (hole : SignatureHole)
  /-- Before an entry of a parameter list, or its end. -/
  | param (hole : ParamsHole)
  | paramName (name : Ident) (hole : ParamsHole)
  | params (params : List (Param TypeExpr)) (hole : SignatureHole)
  | results (params results : List (Param TypeExpr)) (hole : SignatureHole)
  /-- Before a field of a struct, or its end. -/
  | field (hole : StructHole)
  | fieldName (name : Ident) (doc : String) (hole : StructHole)
  | fieldComma (names : List Ident) (doc : String) (hole : StructHole)
  | fieldNames (names : List Ident) (doc : String) (hole : StructHole)
  | fieldStar (pos : Position) (doc : String) (hole : StructHole)
  /-- After the tag of a field, which closes it. -/
  | tag (hole : StructHole)
  /-- Before an element of an interface, or its end. -/
  | elem (hole : InterfaceHole)
  | elemName (name : Ident) (doc : String) (hole : InterfaceHole)
  /-- After the keyword of a skipped declaration. -/
  | skipStart (file : SourceFile)
  /-- After a bracket of a skipped declaration has been opened inside `outer`. -/
  | skipOpen (bracket : Bracket) (outer : List Bracket) (file : SourceFile)
  | skip (brackets : List Bracket) (file : SourceFile)
  | done (file : SourceFile)

/-- The terminals that start a type expression. -/
def typeFirst : List Terminal :=
  [.chanKeyword, .funcKeyword, .interfaceKeyword, .leftBracket, .mapKeyword, .name, .star,
   .structKeyword]

/-- The terminals that may follow a type expression somewhere. -/
def typeFollow : List Terminal :=
  [.comma, .rawString, .rightBrace, .rightParen, .rightBracket, .string, .semicolon]

/-- What may follow a field without its tag. -/
def fieldFollow : List Terminal := [.rawString, .rightBrace, .string, .semicolon]

def declFirst : List Terminal := [.constKeyword, .funcKeyword, .typeKeyword, .varKeyword]

/-- The terminals that start a part of a skipped declaration. -/
def skipFirst : List Terminal :=
  [.leftBrace, .leftParen, .leftBracket, .name, .number, .operator, .rawString, .rune, .string]

def Mode.expects : Mode → List Terminal
  | start => [.packageKeyword]
  | packageName _ => [.name]
  | packageEnd _ => [.semicolon]
  | imports _ => .endOfInput :: .importKeyword :: declFirst
  | decls _ => .endOfInput :: declFirst
  | importStart _ => [.dot, .leftParen, .name, .rawString, .string]
  | importPath _ _ _ => [.rawString, .string]
  | importItem _ => [.dot, .name, .rawString, .rightParen, .string]
  | importRead _ _ => [.rightParen, .semicolon]
  | importEnd _ => [.semicolon]
  | typeStart _ _ => [.leftParen, .name]
  | specItem _ _ _ => [.name, .rightParen]
  | specName _ _ _ => .equal :: typeFirst
  | typeEnd _ => [.semicolon]
  | type _ => typeFirst
  | typeName _ _ => .dot :: typeFollow
  | qualifier _ _ => [.name]
  | qualified _ _ => typeFollow
  | closed _ _ => typeFollow
  | bracket _ _ => [.name, .number, .rightBracket]
  | arrayLength _ _ _ => [.rightBracket]
  | mapKeyword _ _ => [.leftBracket]
  | structKeyword _ _ => [.leftBrace]
  | interfaceKeyword _ _ => [.leftBrace]
  | funcKeyword _ => [.leftParen]
  | param _ => .ellipsis :: .rightParen :: typeFirst
  | paramName _ _ => .comma :: .dot :: .ellipsis :: .rightParen :: typeFirst
  | params _ _ => .leftParen :: (typeFirst ++ typeFollow)
  | results _ _ _ => .leftParen :: (typeFirst ++ typeFollow)
  | field _ => [.name, .rightBrace, .star]
  | fieldName _ _ _ => .comma :: .dot :: (typeFirst ++ fieldFollow)
  | fieldComma _ _ _ => [.name]
  | fieldNames _ _ _ => .comma :: typeFirst
  | fieldStar _ _ _ => [.name]
  | tag _ => [.rightBrace, .semicolon]
  | elem _ => [.name, .rightBrace]
  | elemName _ _ _ => [.dot, .leftParen, .rightBrace, .semicolon]
  | skipStart _ => skipFirst
  | skipOpen b _ _ => b.closer :: .semicolon :: skipFirst
  | skip _ _ => .rightBrace :: .rightParen :: .rightBracket :: .semicolon :: skipFirst
  | done _ => []

end GoIdl.Syntax.Parser
