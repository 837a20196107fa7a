import GoIdl.Order
import GoIdl.Syntax.Parser.Reading
import GoIdl.Text.EditDistance
import GoIdl.Text.LetterCase
import GoIdl.Text.Quoted

/-!
# Explaining syntax errors

A message shows the line of the error and looks for the mistakes that are common in definition
files: a misspelt keyword, type parameters, a missing package clause and channel directions.
-/

namespace GoIdl.Syntax.Diagnosis

open GoIdl.Syntax.Parser (SyntaxFault)

/-! ### The lines around an error -/

/-- The line with a number counted from one; empty if there is none. -/
def lineAt (source : List Char) (line : Int) : List Char :=
  if 1 ≤ line then ((Text.lines source)[(line - 1).toNat]?).getD [] else []

/-- The items from `start` on and before `stop`; a negative `stop` counts from the end. -/
def slice {α : Type} (xs : List α) (start stop : Int) : List α :=
  let stop := if stop < 0 then stop + xs.length else stop
  (xs.take stop.toNat).drop start.toNat

/-- The line of an error with `around` lines on either side. -/
def context (source : List Char) (line : Int) (around : Int) : List (List Char) :=
  let all := Text.lines source
  let index := line - 1
  slice all (max 0 (index - around)) (min all.length (index + around + 1))

/-! ### Common mistakes -/

def isAsciiLetter (c : Char) : Bool := c.isAlpha || c == '_'

def isTypeArgument (c : Char) : Bool := Text.isWord c || "[]*.|~".toList.contains c

/-- A name, a bracket, and two words inside it. -/
def startsGeneric (s : List Char) : Bool :=
  match s with
  | first :: rest =>
    isAsciiLetter first &&
      match (rest.dropWhile Text.isWord).dropWhile Text.isBlank with
      | '[' :: rest =>
        match rest.dropWhile Text.isBlank with
        | first :: rest =>
          let after := rest.dropWhile Text.isWord
          isAsciiLetter first && (after.head?.any Text.isBlank) &&
            ((after.dropWhile Text.isBlank).head?.any isTypeArgument)
        | [] => false
      | _ => false
  | [] => false

/-- Whether a line declares a type with type parameters; the keyword may be there or not. -/
def isGeneric (line : List Char) : Bool :=
  let line := line.dropWhile Text.isBlank
  startsGeneric line ||
    match line with
    | 't' :: 'y' :: 'p' :: 'e' :: c :: rest =>
      Text.isBlank c && startsGeneric (rest.dropWhile Text.isBlank)
    | _ => false

def hasDirection (line : List Char) : Bool := Text.contains ['<', '-'] line

/-- The blanks, the word and the rest of a line that starts with a word of ASCII letters, digits
and underscores. -/
def leadingWord? (line : List Char) : Option (List Char × List Char × List Char) :=
  let (blanks, rest) := line.span Text.isBlank
  let (word, rest) := rest.span fun c => c.isAlphanum || c == '_'
  match word with
  | first :: _ =>
    if isAsciiLetter first && !(rest.head?.any Text.isWord) then some (blanks, word, rest) else none
  | [] => none

/-- The nearest of the keywords, the first one if several are as near. -/
def nearest (word : List Char) : List String → String × Nat
  | [] => ("", 0)
  | [k] => (k, Text.editDistance word k.toList)
  | k :: ks =>
    let distance := Text.editDistance word k.toList
    let (best, least) := nearest word ks
    if distance ≤ least then (k, distance) else (best, least)

def keywords : List String := Terminal.keywords.map (·.1)

/-- The keyword that a name at the start of the line may have been meant for. -/
def suggestion? (line : List Char) (t : Token) : Option String :=
  match t.terminal, leadingWord? line with
  | .name, some (_, word, _) =>
    let (best, distance) := nearest word keywords
    if t.text.toList = word ∧ !keywords.contains t.text ∧ distance ≤ 2 then some best else none
  | _, _ => none

/-! ### Messages -/

/-- What a terminal is called in messages. -/
def friendly (label : String) : String :=
  let names : List (String × String) :=
    [("NAME", "identificador"), ("STRING", "texto entre aspas"),
     ("RAW_STRING", "texto entre crases"), ("NUMBER", "numero"), ("_SEMI", "fim de linha"),
     ("LPAR", "'('"), ("RPAR", "')'"), ("LSQB", "'['"), ("RSQB", "']'"), ("LBRACE", "'\x7b'"),
     ("RBRACE", "'\x7d'"), ("STAR", "'*'"), ("DOT", "'.'"), ("COMMA", "','"), ("EQUAL", "'='")]
  match names.lookup label with
  | some name => name
  | none =>
    let lower := String.ofList (Text.toLower label.toList)
    if keywords.contains lower then lower else label

def isHidden (label : String) : Bool :=
  label == "COMMENT" || label == "NEWLINE" || "__".toList.isPrefixOf label.toList

def humanize (labels : List String) : List String :=
  ((sortStrings labels).filter fun label => !isHidden label).map friendly

def trimmed (line : List Char) : String := String.ofList (Text.trim line)

/-- A caret under a column. -/
def marker (column : Nat) : String := String.ofList (List.replicate (column - 1) ' ') ++ "^"

def misspelt (line : List Char) (word best : String) : String :=
  let corrected :=
    match leadingWord? line with
    | some (blanks, _, rest) => blanks ++ best.toList ++ rest
    | none => line
  s!"Palavra-chave desconhecida '{word}'.\n    {trimmed line}\n" ++
    s!"\nVoce quis dizer '{best}'?\n    {trimmed corrected}"

def generic (line : List Char) (column : Nat) : String :=
  "Parametros de tipo (generics) nao sao suportados em definicoes.\n" ++
    s!"    {String.ofList line}\n    {marker column}\n" ++
    "\nDeclare um tipo concreto para cada uso:\n    type UserPage struct \x7b\n" ++
    "        Items []User\n    \x7d"

def missingPackage (line : List Char) : String :=
  "Arquivo de definicao deve comecar com a clausula package.\n" ++
    s!"    {trimmed line}\n\nExemplo:\n    package definitions"

def direction (line : List Char) (column : Nat) : String :=
  "Canais direcionais (<-chan, chan<-) nao sao aceitos em definicoes.\n" ++
    s!"    {String.ofList line}\n    {marker column}\n" ++
    "\nUse tipos de dados simples nos campos de objetos."

def contextText (lines : List (List Char)) : String :=
  match lines with
  | [] => ""
  | first :: rest =>
    let row (mark : String) (line : List Char) := s!"{mark} {String.ofList line}\n"
    row "  " first ++
      match rest with
      | [] => ""
      | second :: rest => row ">>>" second ++ String.join (rest.map (row "  "))

def expectedText (labels : List String) : String :=
  if labels.isEmpty then ""
  else
    let names := humanize labels
    "\nEsperado: " ++ ", ".intercalate (names.take 5) ++
      if 5 < names.length then s!" (e {names.length - 5} outros)" else ""

def unexpected (t : Token) (labels : List String) (source : List Char) : String :=
  let shown := if t.terminal = .endOfInput then "<EOF>" else Text.quoted t.text
  let lines := context source t.pos.line 1
  let body :=
    if 3 ≤ lines.length then "\nContexto:\n" ++ contextText lines
    else s!"    {String.ofList (lineAt source t.pos.line)}\n"
  Text.onString (Text.dropEndWhile (· == '\n'))
    (s!"Token inesperado {shown}\n" ++ body ++ expectedText labels)

def strange (c : Char) (pos : Position) (source : List Char) : String :=
  s!"Caractere inesperado {Text.quoted (String.singleton c)}\n" ++
    s!"    {String.ofList (lineAt source pos.line)}\n    {marker pos.column} aqui\n" ++
    "\nVerifique:\n  - Aspas ou crases abertas mas nao fechadas\n" ++
    "  - Caracteres que nao existem na sintaxe de Go"

def labels (expected : List Terminal) : List String := sortStrings (expected.map Terminal.label)

/-- The message of a fault in `source`. -/
def message (source : List Char) : SyntaxFault → String
  | .unexpectedCharacter c pos => strange c pos source
  | .unexpectedToken t expected =>
    let line := lineAt source t.pos.line
    match suggestion? line t with
    | some best => misspelt line t.text best
    | none =>
      if isGeneric line then generic line t.pos.column
      else if expected.contains .packageKeyword then missingPackage line
      else if hasDirection line then direction line t.pos.column
      else unexpected t (labels expected) source

end Diagnosis

namespace Parser.SyntaxFault

def pos : SyntaxFault → Position
  | .unexpectedToken t _ => t.pos
  | .unexpectedCharacter _ pos => pos

/-- The names of the terminals that were possible, if that is known. -/
def expected? : SyntaxFault → Option (List String)
  | .unexpectedToken _ expected => some (Diagnosis.labels expected)
  | .unexpectedCharacter _ _ => none

end Parser.SyntaxFault

end GoIdl.Syntax
