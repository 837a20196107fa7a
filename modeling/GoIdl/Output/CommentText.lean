import GoIdl.Text.Paragraph

/-!
# Comments in generated code

A text is laid out block by block, blocks being separated by blank lines. A block of indented lines
is kept line by line, every other block is filled as a paragraph.
-/

namespace GoIdl.Output.CommentText

structure Block where
  preformatted : Bool
  /-- Lines without blanks at their ends; none is blank. -/
  lines : List (List Char)

def isIndented (line : List Char) : Bool := line.head?.any Text.isIndent

def blockOf (lines : List (List Char)) : Block := ⟨lines.all isIndented, lines⟩

/-- The blocks of lines; `gathered` are the lines of the block at hand. -/
def blocksFrom (gathered : List (List Char)) : List (List Char) → List Block
  | [] => if gathered.isEmpty then [] else [blockOf gathered]
  | line :: rest =>
    if Text.isBlankText line then
      (if gathered.isEmpty then [] else [blockOf gathered]) ++ blocksFrom [] rest
    else blocksFrom (gathered ++ [Text.trimEnd line]) rest

def isBreak (c : Char) : Bool := c == '\n'

def blocks (text : List Char) : List Block :=
  blocksFrom [] (Text.lines (Text.dropEndWhile isBreak (text.dropWhile isBreak)))

/-- The lines of a block at a width. -/
def Block.filled (width : Nat) (b : Block) : List (List Char) :=
  if b.preformatted then Text.dedent b.lines
  else Text.fill width (Text.joinWith [' '] (b.lines.map Text.trim))

def layout (start : List Char) (width : Nat) (text : List Char) : List Char :=
  let laid := (blocks text).map fun b => (b.filled width).map (start ++ ·)
  let lines := (laid.intersperse [Text.trimEnd start]).flatten
  lines.flatMap (· ++ ['\n'])

/-- One line for every paragraph, without blanks around the whole. -/
def line (text : List Char) : List Char := Text.trim (layout [] 2000 text)

/-- Line comments of 80 columns behind their start. -/
def text (text : List Char) : List Char := layout ['/', '/', ' '] 80 text

def escapeChar (c : Char) : List Char :=
  if c = '&' then "&amp;".toList
  else if c = '<' then "&lt;".toList
  else if c = '>' then "&gt;".toList
  else if c = '\'' then "&#39;".toList
  else if c = '"' then "&#34;".toList
  else [c]

def escape (s : List Char) : List Char := s.flatMap escapeChar

def element (start body finish : List Char) : List Char := start ++ escape body ++ finish

def Block.html (b : Block) : List Char :=
  if b.preformatted then
    element "<pre>".toList (Text.joinWith ['\n'] (Text.dedent b.lines)) "\n</pre>\n".toList
  else
    element "<p>\n".toList (Text.joinWith ['\n'] (b.lines.map Text.trim)) "\n</p>\n".toList

def html (text : List Char) : List Char := (blocks text).flatMap Block.html

end GoIdl.Output.CommentText
