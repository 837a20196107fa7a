import GoIdl.Syntax.Parser.Mode
import GoIdl.Syntax.ParamGroup
import GoIdl.Syntax.Literal

/-!
# Reading a token

`advance` takes a token at a place of reading. A refused token is answered with the terminals that
were possible there. Escapes that name no character and parameter lists that mix named and unnamed
entries are faults of the content: reading goes on, and the first of them counts once the whole
text has been read.
-/

namespace GoIdl.Syntax.Parser

/-- Where a literal with a bad escape stands. -/
inductive LiteralSite where
  | tag | importPath | dotImportPath
  deriving DecidableEq, Repr

inductive ContentFault where
  | escape (site : LiteralSite) (fault : EscapeFault)
  | mixedParams (pos : Position)
  deriving DecidableEq, Repr

structure Step where
  mode : Mode
  fault : Option ContentFault := none

/-- The step after a token, or what was possible in its place. -/
abbrev Outcome := Except (List Terminal) Step

def goto (mode : Mode) : Outcome := .ok { mode }

/-! ### Putting constructs into their holes -/

/-- Puts an import in its place, before the token that follows it. -/
def importRead (spec : ImportSpec) (hole : ImportHole) (next : Terminal) : Outcome :=
  match hole, next with
  | .single file, .semicolon => goto (.imports { file with imports := file.imports ++ [spec] })
  | .single _, _ => .error [.semicolon]
  | .group file, .semicolon => goto (.importItem { file with imports := file.imports ++ [spec] })
  | .group file, _ => goto (.importEnd { file with imports := file.imports ++ [spec] })

/-- The specs of a declaration in parentheses. A single one without a doc takes the doc of the
declaration. -/
def closeGroup (doc : String) (specs : List TypeSpec) : List TypeSpec :=
  match specs with
  | [spec] => if spec.doc = "" then [{ spec with doc }] else [spec]
  | specs => specs

def specRead (spec : TypeSpec) (hole : SpecHole) (next : Terminal) : Outcome :=
  match hole, next with
  | .single file, .semicolon => goto (.decls { file with types := file.types ++ [spec] })
  | .single _, .rightParen => .error [.semicolon]
  | .group doc specs file, .semicolon => goto (.specItem doc (specs ++ [spec]) file)
  | .group doc specs file, .rightParen =>
    goto (.typeEnd { file with types := file.types ++ closeGroup doc (specs ++ [spec]) })
  | _, _ => .error [.rightParen, .semicolon]

/-- Puts a finished field in its place; `rightBrace` closes the struct. -/
def fieldClosed (hole : StructHole) (next : Terminal) : Outcome :=
  match hole, next with
  | hole, .semicolon => goto (.field hole)
  | .fields pos fields outer, .rightBrace => goto (.closed (.struct pos fields) outer)
  | _, _ => .error [.rightBrace, .semicolon]

/-- Reads a tag, which may be a literal with a bad escape. -/
def readTag (t : Token) : Option String × Option ContentFault :=
  match unquote t.text with
  | .ok tag => (some tag, none)
  | .error fault => (none, some (.escape .tag fault))

/-- Puts the fields of a declaration in their place; `declare` makes them from the tag. -/
def fieldRead (declare : Option String → List (FieldDecl TypeExpr)) (hole : StructHole)
    (next : Token) : Outcome :=
  let .fields pos fields outer := hole
  match next.terminal with
  | .string | .rawString =>
    let (tag, fault) := readTag next
    .ok { mode := .tag (.fields pos (fields ++ declare tag) outer), fault }
  | .semicolon | .rightBrace =>
    fieldClosed (.fields pos (fields ++ declare none) outer) next.terminal
  | _ => .error fieldFollow

def namedFields (names : List Ident) (doc : String) (type : TypeExpr) (tag : Option String) :
    List (FieldDecl TypeExpr) :=
  names.map fun id => { pos := id.pos, name := id.name, type, tag, embedded := false, doc }

def embeddedField (pos : Position) (doc : String) (isPointer : Bool) (name : TypeName)
    (tag : Option String) : List (FieldDecl TypeExpr) :=
  [{ pos, name := name.name, tag, embedded := true, doc,
     type := if isPointer then .pointer pos (.named name) else .named name }]

/-- Puts an element in its place; `rightBrace` closes the interface. -/
def elemRead (hole : InterfaceHole) (next : Terminal) : Outcome :=
  match hole, next with
  | hole, .semicolon => goto (.elem hole)
  | .elems pos methods embeds outer, .rightBrace =>
    goto (.closed (.interface pos methods embeds) outer)
  | _, _ => .error [.rightBrace, .semicolon]

def ParamsHole.add (entry : Param TypeExpr) : ParamsHole → ParamsHole
  | .params pos entries outer => .params pos (entries ++ [entry]) outer
  | .results pos entries inputs outer => .results pos (entries ++ [entry]) inputs outer

/-- Groups the entries of a list; a list that cannot be grouped counts as empty. -/
def grouped (pos : Position) (entries : List (Param TypeExpr)) :
    List (Param TypeExpr) × Option ContentFault :=
  match groupParams pos entries with
  | .ok params => (params, none)
  | .error pos => ([], some (.mixedParams pos))

def ParamsHole.close : ParamsHole → Step
  | .params pos entries outer =>
    let (list, fault) := grouped pos entries
    { mode := .params list outer, fault }
  | .results pos entries inputs outer =>
    let (list, fault) := grouped pos entries
    { mode := .results inputs list outer, fault }

def paramRead (entry : Param TypeExpr) (hole : ParamsHole) (next : Terminal) : Outcome :=
  match next with
  | .comma => goto (.param (hole.add entry))
  | .rightParen => .ok (hole.add entry).close
  | _ => .error [.comma, .rightParen]

def addMethod (name : Ident) (doc : String) (signature : Signature TypeExpr) :
    InterfaceHole → InterfaceHole
  | .elems pos methods embeds outer =>
    .elems pos (methods ++ [{ pos := name.pos, name := name.name, signature, doc }]) embeds outer

mutual

/-- Puts a type expression in its place, before a token that may follow one. -/
def typeRead (type : TypeExpr) (hole : TypeHole) (next : Token) : Outcome :=
  match hole with
  | .spec name doc isAlias outer =>
    specRead { pos := name.pos, name := name.name, type, isAlias, doc } outer next.terminal
  | .pointer pos outer => typeRead (.pointer pos type) outer next
  | .slice pos outer => typeRead (.slice pos type) outer next
  | .array pos length outer => typeRead (.array pos length type) outer next
  | .mapKey pos outer =>
    if next.terminal = .rightBracket then goto (.type (.mapValue pos type outer))
    else .error [.rightBracket]
  | .mapValue pos key outer => typeRead (.map pos key type) outer next
  | .chan pos outer => typeRead (.chan pos type) outer next
  | .field names doc outer => fieldRead (namedFields names doc type) outer next
  | .param pos name variadic outer => paramRead { pos, name, variadic, type } outer next.terminal
  | .result params outer =>
    signatureRead
      { params, results := [{ pos := type.pos, name := none, variadic := false, type }] } outer next

/-- Puts a signature in its place, before a token that may follow a type expression. -/
def signatureRead (signature : Signature TypeExpr) (hole : SignatureHole) (next : Token) :
    Outcome :=
  match hole with
  | .func pos outer => typeRead (.func pos signature) outer next
  | .method name doc outer => elemRead (addMethod name doc signature outer) next.terminal

end

def nameRead (name : TypeName) (hole : NameHole) (next : Token) : Outcome :=
  match hole with
  | .type outer => typeRead (.named name) outer next
  | .field pos doc isPointer outer => fieldRead (embeddedField pos doc isPointer name) outer next
  | .embed (.elems pos methods embeds outer) =>
    elemRead (.elems pos methods (embeds ++ [name]) outer) next.terminal

/-! ### Starting constructs -/

/-- The mode after the first token of a type expression. -/
def typeBegun (hole : TypeHole) (t : Token) : Outcome :=
  match t.terminal with
  | .name => goto (.typeName (.ofToken t) (.type hole))
  | .star => goto (.type (.pointer t.pos hole))
  | .leftBracket => goto (.bracket t.pos hole)
  | .mapKeyword => goto (.mapKeyword t.pos hole)
  | .chanKeyword => goto (.type (.chan t.pos hole))
  | .structKeyword => goto (.structKeyword t.pos hole)
  | .interfaceKeyword => goto (.interfaceKeyword t.pos hole)
  | .funcKeyword => goto (.funcKeyword (.func t.pos hole))
  | _ => .error typeFirst

def importPathRead (pos : Position) (localName : Option String) (hole : ImportHole) (t : Token) :
    Step :=
  match unquote t.text with
  | .ok path => { mode := .importRead { pos, path, localName } hole }
  | .error fault =>
    let site := if localName = some "." then .dotImportPath else .importPath
    { mode := .importRead { pos, path := "", localName } hole, fault := some (.escape site fault) }

def importBegun (hole : ImportHole) (t : Token) : Outcome :=
  match t.terminal with
  | .dot => goto (.importPath t.pos "." hole)
  | .name => goto (.importPath t.pos t.text hole)
  | _ => .ok (importPathRead t.pos none hole t)

def declBegun (docs : Nat → String) (file : SourceFile) (t : Token) : Outcome :=
  match t.terminal with
  | .endOfInput => goto (.done file)
  | .importKeyword => goto (.importStart file)
  | .typeKeyword => goto (.typeStart (docs t.pos.line) file)
  | _ => goto (.skipStart file)

/-- A part of a skipped declaration inside `brackets`. -/
def skipPart (brackets : List Bracket) (file : SourceFile) (t : Token) : Outcome :=
  match Bracket.opened? t.terminal with
  | some b => goto (.skipOpen b brackets file)
  | none => goto (.skip brackets file)

def skipAfter (brackets : List Bracket) (file : SourceFile) (t : Token) : Outcome :=
  match brackets with
  | [] =>
    if t.terminal = .semicolon then goto (.decls file)
    else if skipFirst.contains t.terminal then skipPart [] file t
    else .error (.semicolon :: skipFirst)
  | b :: outer =>
    if t.terminal = b.closer then goto (.skip outer file)
    else if t.terminal = .semicolon then goto (.skip (b :: outer) file)
    else if skipFirst.contains t.terminal then skipPart (b :: outer) file t
    else .error (b.closer :: .semicolon :: skipFirst)

/-! ### Reading a token -/

/-- A token among those that the mode expects. -/
def accept (docs : Nat → String) (t : Token) : Mode → Outcome
  | .start => goto (.packageName t.pos)
  | .packageName pos =>
    goto (.packageEnd { path := "", pos, package := t.text, imports := [], types := [] })
  | .packageEnd file => goto (.imports file)
  | .imports file => declBegun docs file t
  | .decls file => declBegun docs file t
  | .importStart file =>
    if t.terminal = .leftParen then goto (.importItem file) else importBegun (.single file) t
  | .importPath pos localName hole => .ok (importPathRead pos (some localName) hole t)
  | .importItem file =>
    if t.terminal = .rightParen then goto (.importEnd file) else importBegun (.group file) t
  | .importRead spec hole => importRead spec hole t.terminal
  | .importEnd file => goto (.imports file)
  | .typeStart doc file =>
    if t.terminal = .leftParen then goto (.specItem doc [] file)
    else goto (.specName (.ofToken t) (docs t.pos.line) (.single file))
  | .specItem doc specs file =>
    if t.terminal = .rightParen then
      goto (.typeEnd { file with types := file.types ++ closeGroup doc specs })
    else goto (.specName (.ofToken t) (docs t.pos.line) (.group doc specs file))
  | .specName name doc hole =>
    if t.terminal = .equal then goto (.type (.spec name doc true hole))
    else typeBegun (.spec name doc false hole) t
  | .typeEnd file => goto (.decls file)
  | .type hole => typeBegun hole t
  | .typeName name hole =>
    if t.terminal = .dot then goto (.qualifier name hole)
    else nameRead ⟨name.pos, none, name.name⟩ hole t
  | .qualifier name hole => goto (.qualified ⟨name.pos, some name.name, t.text⟩ hole)
  | .qualified name hole => nameRead name hole t
  | .closed type hole => typeRead type hole t
  | .bracket pos hole =>
    if t.terminal = .rightBracket then goto (.type (.slice pos hole))
    else goto (.arrayLength pos t.text hole)
  | .arrayLength pos length hole => goto (.type (.array pos length hole))
  | .mapKeyword pos hole => goto (.type (.mapKey pos hole))
  | .structKeyword pos hole => goto (.field (.fields pos [] hole))
  | .interfaceKeyword pos hole => goto (.elem (.elems pos [] [] hole))
  | .funcKeyword hole => goto (.param (.params t.pos [] hole))
  | .param hole =>
    if t.terminal = .rightParen then .ok hole.close
    else if t.terminal = .ellipsis then goto (.type (.param t.pos none true hole))
    else if t.terminal = .name then goto (.paramName (.ofToken t) hole)
    else typeBegun (.param t.pos none false hole) t
  | .paramName name hole =>
    if t.terminal = .dot then goto (.qualifier name (.type (.param name.pos none false hole)))
    else if t.terminal = .ellipsis then
      goto (.type (.param name.pos (some name.name) true hole))
    else if t.terminal = .comma ∨ t.terminal = .rightParen then
      typeRead (.named ⟨name.pos, none, name.name⟩) (.param name.pos none false hole) t
    else typeBegun (.param name.pos (some name.name) false hole) t
  | .params params hole =>
    if t.terminal = .leftParen then goto (.param (.results t.pos [] params hole))
    else if typeFirst.contains t.terminal then typeBegun (.result params hole) t
    else signatureRead { params, results := [] } hole t
  | .results params results hole =>
    if typeFollow.contains t.terminal then signatureRead { params, results } hole t
    else .error typeFollow
  | .field hole =>
    if t.terminal = .rightBrace then fieldClosed hole .rightBrace
    else if t.terminal = .star then goto (.fieldStar t.pos (docs t.pos.line) hole)
    else goto (.fieldName (.ofToken t) (docs t.pos.line) hole)
  | .fieldName name doc hole =>
    if t.terminal = .comma then goto (.fieldComma [name] doc hole)
    else if t.terminal = .dot then goto (.qualifier name (.field name.pos doc false hole))
    else if typeFirst.contains t.terminal then typeBegun (.field [name] doc hole) t
    else nameRead ⟨name.pos, none, name.name⟩ (.field name.pos doc false hole) t
  | .fieldComma names doc hole => goto (.fieldNames (names ++ [.ofToken t]) doc hole)
  | .fieldNames names doc hole =>
    if t.terminal = .comma then goto (.fieldComma names doc hole)
    else typeBegun (.field names doc hole) t
  | .fieldStar pos doc hole => goto (.typeName (.ofToken t) (.field pos doc true hole))
  | .tag hole => fieldClosed hole t.terminal
  | .elem hole =>
    if t.terminal = .rightBrace then elemRead hole .rightBrace
    else goto (.elemName (.ofToken t) (docs t.pos.line) hole)
  | .elemName name doc hole =>
    if t.terminal = .dot then goto (.qualifier name (.embed hole))
    else if t.terminal = .leftParen then goto (.param (.params t.pos [] (.method name doc hole)))
    else nameRead ⟨name.pos, none, name.name⟩ (.embed hole) t
  | .skipStart file => skipPart [] file t
  | .skipOpen b outer file =>
    if t.terminal = b.closer then goto (.skip outer file)
    else if t.terminal = .semicolon then goto (.skip (b :: outer) file)
    else skipPart (b :: outer) file t
  | .skip brackets file => skipAfter brackets file t
  | .done file => goto (.done file)

/-- Reads a token. `docs` gives the doc of a declaration by its line. -/
def advance (docs : Nat → String) (mode : Mode) (t : Token) : Outcome :=
  if mode.expects.contains t.terminal then accept docs t mode else .error mode.expects

end GoIdl.Syntax.Parser
