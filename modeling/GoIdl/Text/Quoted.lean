import GoIdl.Text.Class
import GoIdl.Text.Hex

/-!
# Quoted text for messages

A text is quoted with apostrophes, or with quotation marks when it holds an apostrophe and no
quotation mark. Characters that cannot be shown are written by number.
-/

namespace GoIdl.Text

def quoteMark (s : List Char) : Char :=
  if s.contains '\'' && !s.contains '"' then '"' else '\''

def quoteChar (mark c : Char) : List Char :=
  if c = mark || c = '\\' then ['\\', c]
  else if c = '\t' then ['\\', 't']
  else if c = '\n' then ['\\', 'n']
  else if c = '\r' then ['\\', 'r']
  else if isPrintable c then [c]
  else if c.toNat < 0x100 then '\\' :: 'x' :: hex 2 c.toNat
  else if c.toNat < 0x10000 then '\\' :: 'u' :: hex 4 c.toNat
  else '\\' :: 'U' :: hex 8 c.toNat

def quote (s : List Char) : List Char :=
  let mark := quoteMark s
  mark :: s.flatMap (quoteChar mark) ++ [mark]

def quoted (s : String) : String := String.ofList (quote s.toList)

end GoIdl.Text
