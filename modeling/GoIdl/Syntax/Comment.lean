import GoIdl.Syntax.Position
import GoIdl.Text.Blank
import GoIdl.Text.Lines

/-!
# Comments

Comments that stand alone on their lines form groups of adjacent lines. A group documents the
declaration on the line below it.
-/

namespace GoIdl.Syntax

structure Comment where
  text : String
  pos : Position
  /-- The line on which the comment ends. -/
  endLine : Nat
  /-- Whether nothing but blanks precedes the comment on its line. -/
  standalone : Bool
  deriving DecidableEq, Repr

namespace Comment

/-! ### Cleaning -/

def isDirectiveWord (c : Char) : Bool := c.isLower || c.isDigit

/-- A tool's directive: `line`, `extern` or `export`, or a word, a colon and a word. -/
def isDirective (body : List Char) : Bool :=
  ["line ", "extern ", "export "].any (·.toList.isPrefixOf body) ||
    match body.span isDirectiveWord with
    | (_ :: _, ':' :: c :: _) => isDirectiveWord c
    | _ => false

/-- The lines of a comment without its markers; none for a directive. -/
def body : List Char → List (List Char)
  | '/' :: '/' :: ' ' :: rest => Text.splitOn '\n' rest
  | '/' :: '/' :: rest => if isDirective rest then [] else Text.splitOn '\n' rest
  | text => Text.splitOn '\n' ((text.drop 2).dropLast.dropLast)

/-- Drops empty lines at the start and after another empty line. -/
def squeeze (afterEmpty : Bool) : List (List Char) → List (List Char)
  | [] => []
  | line :: rest =>
    if line.isEmpty && afterEmpty then squeeze true rest else line :: squeeze line.isEmpty rest

/-- The text of a group of comments: markers, directives and blanks at line ends removed, runs of
empty lines made one. -/
def clean (texts : List String) : String :=
  let trimmed := (texts.flatMap fun text => body text.toList).map Text.trimEnd
  String.ofList (Text.trim (Text.joinWith ['\n'] (squeeze true trimmed)))

/-! ### Groups -/

/-- The groups of a list of comments; `group` is the one being gathered, its last comment first. -/
def groupsFrom (group : List Comment) : List Comment → List (List Comment)
  | [] => if group.isEmpty then [] else [group.reverse]
  | c :: rest =>
    let closed := if group.isEmpty then [] else [group.reverse]
    if !c.standalone then closed ++ groupsFrom [] rest
    else if group.head?.any fun last => decide (last.endLine + 1 < c.pos.line) then
      closed ++ groupsFrom [c] rest
    else groupsFrom (c :: group) rest

def groups (comments : List Comment) : List (List Comment) := groupsFrom [] comments

def lastLine (group : List Comment) : Nat := (group.getLast?.map endLine).getD 0

/-- Every group's last line with its text. -/
def documentation (comments : List Comment) : List (Nat × String) :=
  (groups comments).map fun group => (lastLine group, clean (group.map text))

/-- The text of the group that ends on the line above. -/
def above (comments : List Comment) (line : Nat) : String :=
  match (groups comments).reverse.find? fun group => lastLine group + 1 == line with
  | some group => clean (group.map text)
  | none => ""

end Comment

end GoIdl.Syntax
