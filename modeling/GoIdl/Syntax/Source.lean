import GoIdl.Failure

/-!
# Reading source files

From a text with the name of its file to a syntax tree, or to the failure that a caller sees.
-/

namespace GoIdl.Syntax.Source

open GoIdl.Syntax.Parser (SyntaxFault ContentFault Parsed)

def syntaxFailure (path : String) (source : List Char) (fault : SyntaxFault) : Failure :=
  .definition { cause := .badSyntax fault source, location := some (fault.pos.inFile path) }

def contentFailure (path : String) : ContentFault → Failure
  | .escape site fault => .literal site fault
  | .mixedParams pos => .definition { cause := .mixedParams, location := some (pos.inFile path) }

/-- Reads a text without the mark it may start with. -/
def parse (path : Disk.Path) (text : String) : Except Failure Parsed :=
  let source := Parser.withoutMark text.toList
  (Parser.parse source).mapError (syntaxFailure path.text source)

def ofPath (path : Disk.Path) (text : String) : Except Failure SourceFile := do
  let parsed ← parse path text
  let file ← parsed.file.mapError (contentFailure path.text)
  return { file with path := path.text }

def read (name text : String) : Except Failure SourceFile := ofPath (.ofString name) text

def comments (name text : String) : Except Failure (List Comment) :=
  (parse (.ofString name) text).map (·.comments)

end GoIdl.Syntax.Source
