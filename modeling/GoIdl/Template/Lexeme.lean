import GoIdl.Template.Literal
import GoIdl.Template.Token
import GoIdl.Text.Blank
import GoIdl.Text.Identifier
import GoIdl.Text.Quoted

/-!
# Cutting templates into tokens

A `-` inside the marks of a tag takes the white space next to the tag away. Comments vanish, and
raw parts are text whatever they hold.
-/

namespace GoIdl.Template

/-! ### Marks -/

/-- What a mark in the text opens. -/
inductive Opening where
  | tag | print | comment | raw
  deriving DecidableEq, Repr

/-- A word at the start of a text, and the text after it. -/
def after? (word s : List Char) : Option (List Char) :=
  if word.isPrefixOf s then some (s.drop word.length) else none

/-- Whether a mark trims, and the text after its trim sign. -/
def trimSign : List Char → Bool × List Char
  | '-' :: rest => (true, rest)
  | '+' :: rest => (false, rest)
  | rest => (false, rest)

/-- The text after the end mark of a tag. Inside a tag of kind `plus`, a `+` may stand before it. -/
def closing? (mark : List Char) (plus : Bool) (s : List Char) : Option (List Char) :=
  match s with
  | '-' :: rest => (after? mark rest).map Text.trimStart
  | '+' :: rest => if plus then after? mark rest else none
  | rest => after? mark rest

def tagOpen : List Char := ['{', '%']
def tagClose : List Char := ['%', '}']
def printOpen : List Char := ['{', '{']
def printClose : List Char := ['}', '}']
def commentOpen : List Char := ['{', '#']
def commentClose : List Char := ['#', '}']

/-- The text after a tag that holds one word only. -/
def wordTag? (word : List Char) (plus : Bool) (s : List Char) : Option (List Char) := do
  let rest ← after? word (Text.trimStart s)
  closing? tagClose plus (Text.trimStart rest)

/-- The mark at the start of a text: whether it trims, and the text after it. -/
def opening? (s : List Char) : Option (Opening × Bool × List Char) :=
  match after? tagOpen s, after? printOpen s, after? commentOpen s with
  | some rest, _, _ =>
    let (trims, rest) := trimSign rest
    match wordTag? "raw".toList false rest with
    | some rest => some (.raw, trims, rest)
    | none => some (.tag, trims, rest)
  | _, some rest, _ => some (.print, trimSign rest)
  | _, _, some rest => some (.comment, trimSign rest)
  | _, _, _ => none

/-- The text before the first place where `found?` answers, and its answer there. -/
def search {α : Type} (found? : List Char → Option α) : List Char → List Char × Option α
  | [] => ([], none)
  | c :: rest =>
    match found? (c :: rest) with
    | some a => ([], some a)
    | none =>
      let (before, answer) := search found? rest
      (c :: before, answer)

/-- The tag that ends a raw part: whether it trims, and the text after it. -/
def rawEnd? (s : List Char) : Option (Bool × List Char) := do
  let (trims, rest) := trimSign (← after? tagOpen s)
  return (trims, ← wordTag? "endraw".toList true rest)

/-- The token of a text before a mark; none if nothing is left of it. -/
def textToken (trims : Bool) (s : List Char) : List Token :=
  match if trims then Text.trimEnd s else s with
  | [] => []
  | s => [.text s]

/-! ### Lexemes inside tags -/

/-- The inside of a string behind its opening quote, and the text after its closing one. -/
def stringBody (quote : Char) : List Char → Option (List Char × List Char)
  | [] => none
  | ['\\'] => none
  | '\\' :: c :: rest =>
    (stringBody quote rest).map fun (body, rest) => ('\\' :: c :: body, rest)
  | c :: rest =>
    if c = quote then some ([], rest)
    else (stringBody quote rest).map fun (body, rest) => (c :: body, rest)

def string? : List Char → Option (Token × List Char)
  | [] => none
  | c :: rest =>
    if c = '\'' || c = '"' then
      (stringBody c rest).map fun (body, rest) =>
        match stringValue body with
        | .ok s => (.str (String.ofList s), rest)
        | .error e => (.fault (.badSyntax e.message), rest)
    else none

def sign? (s : List Char) : Option (List Char × List Char) :=
  (signs.find? (·.isPrefixOf s)).map fun word => (word, s.drop word.length)

/-- The brackets open after a sign, or what is wrong with it. -/
def brackets (sign : List Char) (opened : List Char) : Except String (List Char) :=
  match sign with
  | ['{'] => .ok ('}' :: opened)
  | ['('] => .ok (')' :: opened)
  | ['['] => .ok (']' :: opened)
  | [c] =>
    if c = '}' || c = ')' || c = ']' then
      match opened with
      | [] => .error s!"unexpected {Text.quoted c.toString}"
      | expected :: opened =>
        if expected = c then .ok opened
        else
          .error
            s!"unexpected {Text.quoted c.toString}, expected {Text.quoted expected.toString}"
    else .ok opened
  | _ => .ok opened

/-! ### Tokens -/

/-- Where the reading stands: in the text, or in a tag with the closing brackets that are due. -/
inductive Place where
  | text
  | tag (due : List Char)
  | print (due : List Char)

def Place.due : Place → List Char
  | text => []
  | tag due | print due => due

def Place.withDue (due : List Char) : Place → Place
  | text => text
  | tag _ => tag due
  | print _ => print due

/-- The end of the tag at hand. Within brackets there is none. -/
def end? (place : Place) (s : List Char) : Option (Token × List Char) :=
  match place with
  | .tag [] => (closing? tagClose true s).map (.tagEnd, ·)
  | .print [] => (closing? printClose false s).map (.printEnd, ·)
  | _ => none

/-- The name at the start of a text. A run of characters that is no identifier is a fault. -/
def name? (s : List Char) : Option (Token × List Char) :=
  match s.takeWhile fun c => Text.isWord c || Text.isIdentifierMark c with
  | [] => none
  | word =>
    let token :=
      if Text.isIdentifier word then .name (String.ofList word)
      else .fault (.badSyntax "Invalid character in identifier")
    some (token, s.drop word.length)

/-- The number at the start of a text. Right behind a point it has no fraction of its own. -/
def number? (afterPoint : Bool) (s : List Char) : Option (Token × List Char) :=
  let float? := if afterPoint then none else float? s
  (float?.map fun (x, rest) => (.float x, rest)) <|>
    (integer? s).map fun (n, rest) =>
      match n with
      | .ok n => (.int n, rest)
      | .error count => (.fault (.tooManyDigits count), rest)

/-- One lexeme inside a tag: its token, the brackets due and the text after it. -/
def lexeme (afterPoint : Bool) (due s : List Char) : Option (Token × List Char × List Char) :=
  match number? afterPoint s <|> name? s <|> string? s with
  | some (token, rest) => some (token, due, rest)
  | none =>
    (sign? s).map fun (word, rest) =>
      match brackets word due with
      | .ok due => (.sign word, due, rest)
      | .error message => (.fault (.badSyntax message), due, rest)

/-- The tokens of a text of `total` characters from `s` on; `afterPoint` says whether a point
stands right before it. Every step takes a character, so the length of the text is enough
`fuel`. -/
def tokensFrom (total fuel : Nat) (place : Place) (afterPoint : Bool) (s : List Char) :
    List Token :=
  match fuel with
  | 0 => []
  | fuel + 1 =>
    match s with
    | [] => []
    | c :: rest =>
      match place with
      | .text =>
        match search opening? s with
        | (text, none) => textToken false text
        | (text, some (.tag, trims, rest)) =>
          textToken trims text ++ .tagBegin :: tokensFrom total fuel (.tag []) false rest
        | (text, some (.print, trims, rest)) =>
          textToken trims text ++ .printBegin :: tokensFrom total fuel (.print []) false rest
        | (text, some (.comment, trims, rest)) =>
          textToken trims text ++
            match search (closing? commentClose true) rest with
            | (_, some rest) => tokensFrom total fuel .text false rest
            | ([], none) => []
            | (_, none) => [.fault (.badSyntax "Missing end of comment tag")]
        | (text, some (.raw, trims, rest)) =>
          textToken trims text ++
            match search rawEnd? rest with
            | (raw, some (trims, rest)) =>
              textToken trims raw ++ tokensFrom total fuel .text false rest
            | ([], none) => []
            | (_, none) => [.fault (.badSyntax "Missing end of raw directive")]
      | place =>
        match end? place s with
        | some (token, rest) => token :: tokensFrom total fuel .text false rest
        | none =>
          if Text.isBlank c then tokensFrom total fuel place false rest
          else
            match lexeme afterPoint place.due s with
            | some (token, due, rest) =>
              let afterPoint := token == .sign ['.']
              token :: tokensFrom total fuel (place.withDue due) afterPoint rest
            | none =>
              let message := s!"unexpected char {Text.quoted c.toString} at {total - s.length}"
              [.fault (.badSyntax message)]

def tokens (s : List Char) : List Token := tokensFrom s.length s.length .text false s

end GoIdl.Template
