import GoIdl.Text.Blank
import GoIdl.Text.Lines

/-!
# Filling paragraphs

`fill` breaks a paragraph into lines of limited width, greedily and only at blanks. `dedent` removes
the indentation that all lines share.
-/

namespace GoIdl.Text

/-- Replaces tabs by blanks up to the next multiple of eight columns. -/
def expandTabs (column : Nat) : List Char → List Char
  | [] => []
  | c :: rest =>
    if c = '\t' then
      let width := 8 - column % 8
      List.replicate width ' ' ++ expandTabs (column + width) rest
    else if c = '\n' ∨ c = '\r' then c :: expandTabs 0 rest
    else c :: expandTabs (column + 1) rest

/-- Cuts a text into words and the blanks between them. -/
def chunks : List Char → List (List Char)
  | [] => []
  | c :: rest =>
    match chunks rest with
    | (d :: chunk) :: more =>
      if isAsciiBlank c == isAsciiBlank d then (c :: d :: chunk) :: more
      else [c] :: (d :: chunk) :: more
    | more => [c] :: more

/-- Drops a blank chunk at the end of a line. -/
def withoutBlankEnd (line : List (List Char)) : List (List Char) :=
  match line.getLast? with
  | some last => if isBlankText last then line.dropLast else line
  | none => line

/-- The chunks that fit into a line after `used` columns, and the others. -/
def takeFitting (width used : Nat) : List (List Char) → List (List Char) × List (List Char)
  | [] => ([], [])
  | chunk :: rest =>
    if used + chunk.length ≤ width then
      let (line, rest) := takeFitting width (used + chunk.length) rest
      (chunk :: line, rest)
    else ([], chunk :: rest)

/-- The chunks of one line; a chunk that is too wide has a line of its own. -/
def takeLine (width : Nat) (chunks : List (List Char)) : List (List Char) × List (List Char) :=
  match takeFitting width 0 chunks with
  | ([], chunk :: rest) => ([chunk], rest)
  | taken => taken

/-- The lines of the chunks. A blank chunk does not start a line after the first. Every line takes
a chunk, so the number of chunks is enough `fuel`. -/
def fillLines (width fuel : Nat) (first : Bool) (chunks : List (List Char)) : List (List Char) :=
  match fuel, chunks with
  | 0, _ => []
  | _, [] => []
  | fuel + 1, chunk :: rest =>
    let chunks := if !first && isBlankText chunk then rest else chunk :: rest
    let (line, rest) := takeLine width chunks
    match withoutBlankEnd line with
    | [] => fillLines width fuel first rest
    | line => line.flatten :: fillLines width fuel false rest

def fill (width : Nat) (paragraph : List Char) : List (List Char) :=
  let plain := (expandTabs 0 paragraph).map fun c => if isAsciiBlank c then ' ' else c
  let words := chunks plain
  fillLines width words.length true words

/-! ### Indentation -/

def isIndent (c : Char) : Bool := c == ' ' || c == '\t'

/-- The indentation that all lines share. -/
def margin : List (List Char) → List Char
  | [] => []
  | [line] => line.takeWhile isIndent
  | line :: rest => commonStart (line.takeWhile isIndent) (margin rest)

def dedent (lines : List (List Char)) : List (List Char) :=
  lines.map (·.drop (margin lines).length)

end GoIdl.Text
