import GoIdl.Decimal.Binary64

/-!
# Templates

Expressions and the parts of a template, as they are written.
-/

namespace GoIdl.Template

open Decimal (Binary64)

inductive Comparison where
  | equal | differs | isIn | isNotIn
  deriving DecidableEq, Repr

inductive Expr where
  | name (s : String)
  | str (s : String)
  | int (n : Int)
  | float (x : Binary64)
  | bool (b : Bool)
  | none
  | negated (e : Expr)
  /-- `e.name` -/
  | member (e : Expr) (name : String)
  /-- `e[key]` -/
  | item (e key : Expr)
  | call (f : Expr) (args : List Expr)
  /-- `e | name(args)` -/
  | filtered (e : Expr) (name : String) (args : List Expr)
  | joined (first : Expr) (rest : List Expr)
  | compared (first : Expr) (rest : List (Comparison × Expr))
  | not (e : Expr)
  | and (a b : Expr)
  | or (a b : Expr)
  deriving Repr

/-- What messages call an expression. -/
def Expr.label : Expr → String
  | name _ => "name"
  | str _ | int _ | float _ | bool _ | none => "const"
  | negated _ => "neg"
  | member _ _ => "getattr"
  | item _ _ => "getitem"
  | call _ _ => "call"
  | filtered _ _ _ => "filter"
  | joined _ _ => "concat"
  | compared _ _ => "compare"
  | not _ => "not"
  | and _ _ => "and"
  | or _ _ => "or"

/-- What an assignment sets. -/
inductive Target where
  | name (s : String)
  /-- A member of the value of a variable. -/
  | member (owner member : String)
  deriving DecidableEq, Repr

inductive Node where
  | text (s : String)
  | print (e : Expr)
  | assign (target : Target) (e : Expr)
  /-- An assignment of what its parts write. -/
  | capture (target : Target) (body : List Node)
  | loop (name : String) (items : Expr) (test : Option Expr) (body otherwise : List Node)
  | branch (test : Expr) (yes no : List Node)
  deriving Repr

end GoIdl.Template
