/-!
# Places in a source text
-/

namespace GoIdl.Syntax

/-- A line and a column, both counted from one; columns count characters. -/
structure Position where
  line : Nat
  column : Nat
  deriving DecidableEq, Repr, Inhabited

/-- A position in a file. -/
structure Location where
  file : String
  line : Nat
  column : Nat
  deriving DecidableEq, Repr

def Position.inFile (file : String) (pos : Position) : Location := ⟨file, pos.line, pos.column⟩

def Location.text (loc : Location) : String := s!"{loc.file}:{loc.line}:{loc.column}"

end GoIdl.Syntax
