import GoIdl.Text.Class
import GoIdl.Text.IdentifierTable

/-!
# Identifiers

An identifier starts with a letter or an underscore and goes on with letters, digits and marks.
Numerals that are no digits are left out of it.
-/

namespace GoIdl.Text

def isIdentifierMark (c : Char) : Bool := inRanges identifierMarkRanges c

def continuesIdentifier (c : Char) : Bool :=
  (isWord c && !inRanges nonIdentifierRanges c) || isIdentifierMark c

def startsIdentifier (c : Char) : Bool :=
  if isIdentifierMark c then inRanges startingMarkRanges c
  else continuesIdentifier c && !isDecimal c && !inRanges inwardRanges c

def isIdentifier : List Char → Bool
  | [] => false
  | c :: rest => startsIdentifier c && rest.all continuesIdentifier

end GoIdl.Text
