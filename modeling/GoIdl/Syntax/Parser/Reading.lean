import GoIdl.Syntax.Parser.Advance
import GoIdl.Syntax.Lexeme
import GoIdl.Syntax.Semicolon
import GoIdl.Syntax.Comment

/-!
# Reading a source text

Scanning and reading go hand in hand: the mode reached by the last token decides how the next
lexeme is scanned. `parse` reads a whole text.
-/

namespace GoIdl.Syntax.Parser

inductive SyntaxFault where
  | unexpectedToken (token : Token) (expected : List Terminal)
  | unexpectedCharacter (c : Char) (pos : Position)
  deriving DecidableEq, Repr

structure Reading where
  rest : List Char
  pos : Position
  /-- Whether the line up to here is blank. -/
  lineBlank : Bool
  comments : List Comment
  last : Option Token
  mode : Mode
  fault : Option ContentFault

namespace Reading

def start (source : List Char) : Reading :=
  { rest := source, pos := ⟨1, 1⟩, lineBlank := true, comments := [], last := none,
    mode := .start, fault := none }

/-- Moves behind `text`, which `rest` follows. -/
def move (r : Reading) (text rest : List Char) : Reading :=
  { r with
    rest
    pos := r.pos.after text
    lineBlank := text.foldl (fun blank c => c == '\n' || (blank && Text.isBlank c)) r.lineBlank }

def feed (r : Reading) (t : Token) : Except SyntaxFault Reading :=
  match advance (Comment.above r.comments) r.mode t with
  | .ok step => .ok { r with mode := step.mode, fault := r.fault <|> step.fault, last := some t }
  | .error expected => .error (.unexpectedToken t expected)

/-- Feeds what stands for a token: line breaks become semicolons or vanish. -/
def emit (r : Reading) (t : Token) : Except SyntaxFault Reading :=
  match afterToken r.last t with
  | some t => r.feed t
  | none => .ok r

def commentAt (r : Reading) (text : List Char) : Comment :=
  { text := String.ofList text, pos := r.pos, endLine := r.pos.line + text.count '\n',
    standalone := r.lineBlank }

/-- The fault of a text that the mode cannot scan: a token that belongs elsewhere, or a character
that belongs nowhere. -/
def stray (r : Reading) (c : Char) : SyntaxFault :=
  match scan allTerminals r.rest with
  | some (.token t text, _) =>
    .unexpectedToken ⟨t, String.ofList text, r.pos⟩ (scannable r.mode.expects)
  | _ => .unexpectedCharacter c r.pos

def step (r : Reading) : Except SyntaxFault Reading :=
  match scan r.mode.expects r.rest with
  | some (.comment text, rest) =>
    .ok ({ r with comments := r.comments ++ [r.commentAt text] }.move text rest)
  | some (.layout text, rest) => .ok (r.move text rest)
  | some (.token t text, rest) => do
    let after ← r.emit ⟨t, String.ofList text, r.pos⟩
    return after.move text rest
  | none =>
    match r.rest with
    | [] => .ok r
    | c :: _ => .error (r.stray c)

/-- Reads to the end of the text. Every step consumes a character, so the length of the text is
enough `fuel`. -/
def run (fuel : Nat) (r : Reading) : Except SyntaxFault Reading :=
  match fuel with
  | 0 => .ok r
  | fuel + 1 => if r.rest.isEmpty then .ok r else r.step.bind (run fuel)

def endToken (r : Reading) : Token :=
  ⟨.endOfInput, "", (r.last.map (·.pos)).getD ⟨1, 1⟩⟩

/-- Feeds the end of the input, after the semicolon that it may stand for. -/
def finish (r : Reading) : Except SyntaxFault Reading := do
  let r ← match atEnd r.last with
    | some t => r.feed t
    | none => .ok r
  r.feed r.endToken

end Reading

/-- A text that has been read. The file does not know its path. -/
structure Parsed where
  comments : List Comment
  file : Except ContentFault SourceFile

/-- A byte order mark at the start of a text is no part of it. -/
def withoutMark : List Char → List Char
  | '\ufeff' :: rest => rest
  | source => source

def parse (source : List Char) : Except SyntaxFault Parsed := do
  let r ← (Reading.start source).run source.length
  let r ← r.finish
  match r.fault, r.mode with
  | some fault, _ => return { comments := r.comments, file := .error fault }
  | none, .done file => return { comments := r.comments, file := .ok file }
  | none, mode => throw (.unexpectedToken r.endToken mode.expects)

end GoIdl.Syntax.Parser
