import GoIdl.Syntax.Token
import GoIdl.Text.Class
import GoIdl.Text.Lines

/-!
# Lexemes

`scan` reads one lexeme at the start of a text, among the terminals that are accepted there. A
keyword is told from a name only where both are accepted; where no name is accepted, a keyword is
read as soon as its letters are there. Signs and operators behave in the same way.
-/

namespace GoIdl.Syntax

/-! ### Patterns -/

def comment? : List Char → Option (List Char × List Char)
  | '/' :: '/' :: rest =>
    let (body, rest) := rest.span (· != '\n')
    some ('/' :: '/' :: body, rest)
  | '/' :: '*' :: rest =>
    (Text.splitFirst ['*', '/'] rest).map fun (body, rest) =>
      ('/' :: '*' :: body ++ ['*', '/'], rest)
  | _ => none

def isOperatorSign (c : Char) : Bool := "-+*%&|^<>=!:.,~".toList.contains c

/-- The longest run of operator signs; a slash counts unless it opens a comment. -/
def operatorRun : List Char → List Char × List Char
  | [] => ([], [])
  | '/' :: '/' :: rest => ([], '/' :: '/' :: rest)
  | '/' :: '*' :: rest => ([], '/' :: '*' :: rest)
  | c :: rest =>
    if c = '/' ∨ isOperatorSign c then
      let (run, rest) := operatorRun rest
      (c :: run, rest)
    else ([], c :: rest)

/-- The inside of a literal between two `mark`s on one line, where a backslash takes the next
character along. -/
def quotedBody (mark : Char) : List Char → List Char × List Char
  | '\\' :: c :: rest =>
    if c = '\n' then ([], '\\' :: c :: rest)
    else
      let (body, rest) := quotedBody mark rest
      ('\\' :: c :: body, rest)
  | c :: rest =>
    if c = mark ∨ c = '\\' ∨ c = '\n' then ([], c :: rest)
    else
      let (body, rest) := quotedBody mark rest
      (c :: body, rest)
  | [] => ([], [])

def quotedLiteral? (mark : Char) (s : List Char) : Option (List Char × List Char) :=
  match s with
  | c :: rest =>
    if c = mark then
      match quotedBody mark rest with
      | (body, close :: rest) =>
        if close = mark then some (mark :: body ++ [mark], rest) else none
      | _ => none
    else none
  | [] => none

def rawLiteral? : List Char → Option (List Char × List Char)
  | '`' :: rest =>
    (Text.splitFirst ['`'] rest).map fun (body, rest) => ('`' :: body ++ ['`'], rest)
  | _ => none

def isNumberRest (c : Char) : Bool := c.isAlphanum || c == '_' || c == '.'

/-- A first character and all that follow of a kind. -/
def run? (first more : Char → Bool) : List Char → Option (List Char × List Char)
  | c :: rest =>
    if first c then
      let (body, rest) := rest.span more
      some (c :: body, rest)
    else none
  | [] => none

/-- The longest text of a terminal's pattern. Signs and keywords have none. -/
def pattern? (t : Terminal) (s : List Char) : Option (List Char × List Char) :=
  match t with
  | .operator =>
    match operatorRun s with
    | ([], _) => none
    | found => some found
  | .number => run? Text.isDecimal isNumberRest s
  | .rune => (quotedLiteral? '\'' s).filter fun (text, _) => 2 < text.length
  | .string => quotedLiteral? '"' s
  | .name => run? Text.isWordStart Text.isWord s
  | .rawString => rawLiteral? s
  | _ => none

def patterned : List Terminal := [.operator, .number, .rune, .string, .name, .rawString]

/-! ### Scanning -/

def isLayout (c : Char) : Bool := c == ' ' || c == '\t' || c == '\x0c' || c == '\r'

inductive Lexeme where
  | comment (text : List Char)
  | layout (text : List Char)
  | token (terminal : Terminal) (text : List Char)

/-- A keyword or sign that is accepted and reads exactly as `text`. -/
def reading (spellings : List (String × Terminal)) (accepted : List Terminal) (text : List Char)
    (otherwise : Terminal) : Terminal :=
  match spellings.find? fun (word, t) => word.toList == text && accepted.contains t with
  | some (_, t) => t
  | none => otherwise

def classify (accepted : List Terminal) (t : Terminal) (text : List Char) : Terminal :=
  match t with
  | .name => reading Terminal.keywords accepted text .name
  | .operator => reading Terminal.signs accepted text .operator
  | t => t

/-- The fixed spellings that are read letter by letter. -/
def spelled (accepted : List Terminal) : List (String × Terminal) :=
  ((if accepted.contains .name then [] else Terminal.keywords) ++
    (if accepted.contains .operator then [] else Terminal.signs) ++
    Terminal.brackets).filter fun (_, t) => accepted.contains t

/-- The first lexeme of `s` and the text after it. -/
def scan (accepted : List Terminal) (s : List Char) : Option (Lexeme × List Char) :=
  match comment? s with
  | some (text, rest) => some (.comment text, rest)
  | none =>
    match (patterned.filter accepted.contains).findSome? fun t => (pattern? t s).map (t, ·) with
    | some (t, text, rest) => some (.token (classify accepted t text) text, rest)
    | none =>
      match run? isLayout isLayout s with
      | some (text, rest) => some (.layout text, rest)
      | none =>
        match s with
        | '\n' :: rest => some (.token .newline ['\n'], rest)
        | _ =>
          (spelled accepted).findSome? fun (word, t) =>
            if word.toList.isPrefixOf s then
              some (.token t word.toList, s.drop word.toList.length)
            else none

/-- What scanning can tell apart where `accepted` is accepted. -/
def scannable (accepted : List Terminal) : List Terminal :=
  .newline :: (patterned.filter accepted.contains ++ (spelled accepted).map (·.2))

/-- Every terminal that has a spelling. -/
def allTerminals : List Terminal :=
  patterned ++ (Terminal.keywords ++ Terminal.signs ++ Terminal.brackets).map (·.2)

/-- The position after a text. -/
def Position.after (pos : Position) (text : List Char) : Position :=
  text.foldl (fun pos c =>
    if c = '\n' then ⟨pos.line + 1, 1⟩ else ⟨pos.line, pos.column + 1⟩) pos

end GoIdl.Syntax
