import GoIdl.Syntax.Position

/-!
# Terminals and tokens
-/

namespace GoIdl.Syntax

inductive Terminal where
  | operator | number | rune | string | name | rawString
  | newline | semicolon
  | packageKeyword | importKeyword | typeKeyword | funcKeyword | constKeyword | varKeyword
  | structKeyword | interfaceKeyword | mapKeyword | chanKeyword
  | leftParen | rightParen | leftBracket | rightBracket | leftBrace | rightBrace
  | dot | comma | equal | star | ellipsis
  | endOfInput
  deriving DecidableEq, Repr

namespace Terminal

/-- The name under which a terminal is listed in errors. -/
def label : Terminal → String
  | operator => "OPERATOR"
  | number => "NUMBER"
  | rune => "RUNE"
  | string => "STRING"
  | name => "NAME"
  | rawString => "RAW_STRING"
  | newline => "NEWLINE"
  | semicolon => "_SEMI"
  | packageKeyword => "PACKAGE"
  | importKeyword => "IMPORT"
  | typeKeyword => "TYPE"
  | funcKeyword => "FUNC"
  | constKeyword => "CONST"
  | varKeyword => "VAR"
  | structKeyword => "STRUCT"
  | interfaceKeyword => "INTERFACE"
  | mapKeyword => "MAP"
  | chanKeyword => "CHAN"
  | leftParen => "LPAR"
  | rightParen => "RPAR"
  | leftBracket => "LSQB"
  | rightBracket => "RSQB"
  | leftBrace => "LBRACE"
  | rightBrace => "RBRACE"
  | dot => "DOT"
  | comma => "COMMA"
  | equal => "EQUAL"
  | star => "STAR"
  | ellipsis => "__ANON_0"
  | endOfInput => "$END"

/-- The keywords, in the order in which they are suggested for misspelt words. -/
def keywords : List (String × Terminal) :=
  [("package", packageKeyword), ("import", importKeyword), ("type", typeKeyword),
   ("func", funcKeyword), ("const", constKeyword), ("var", varKeyword), ("struct", structKeyword),
   ("interface", interfaceKeyword), ("map", mapKeyword), ("chan", chanKeyword)]

/-- Signs that are also operators, the longest first. -/
def signs : List (String × Terminal) :=
  [("...", ellipsis), (".", dot), (",", comma), ("=", equal), ("*", star)]

/-- Signs that are nothing else. -/
def brackets : List (String × Terminal) :=
  [(";", semicolon), ("(", leftParen), (")", rightParen), ("[", leftBracket), ("]", rightBracket),
   ("\x7b", leftBrace), ("\x7d", rightBrace)]

end Terminal

structure Token where
  terminal : Terminal
  text : String
  pos : Position
  deriving DecidableEq, Repr

end GoIdl.Syntax
