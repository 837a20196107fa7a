import GoIdl.Template.Helper
import GoIdl.Template.Tree

/-!
# The values of expressions

An expression has a value once the names in it have. Without names some expressions still have one:
they are constant.
-/

namespace GoIdl.Template

def negate : Value → Except Failure Value
  | .undefined message => .error (Value.undefinedMessage message)
  | .float x => .ok (.float x.negated)
  | v =>
    match v.whole? with
    | some n => .ok (.int (-n))
    | none => .error (Value.badType s!"bad operand type for unary -: {Text.quoted v.typeName}")

def compare (comparison : Comparison) (v w : Value) : Except Failure Bool :=
  match comparison with
  | .equal => .ok (v.same false w)
  | .differs => .ok (!v.same false w)
  | .isIn => v.isIn w
  | .isNotIn => (v.isIn w).map (!·)

section

-- `names` gives the names their values, where they have any
variable (names : Option (String → Value)) (d : Definition)

mutual

def eval : Expr → Except Failure Value
  | .name s =>
    match names with
    | some value => .ok (value s)
    | none => .error (.template (.undefinedValue s))
  | .str s => .ok (.str s)
  | .int n => .ok (.int n)
  | .float x => .ok (.float x)
  | .bool b => .ok (.bool b)
  | .none => .ok .none
  | .negated e => do negate (← eval e)
  | .member e name => do (← eval e).member name
  | .item e key => do
    let v ← eval e
    v.item (← eval key)
  | .call f args => do
    let f ← eval f
    let args ← evalList args
    if names.isSome then f.call d args else throw (Value.badType "not constant")
  | .filtered e name args => do
    let v ← eval e
    let args ← evalList args
    match Helper.callable? d name with
    | some f => f.call d (v :: args)
    | none => throw (.template (.unknownFilterUsed name))
  | .joined first rest => do
    let first ← eval first
    let rest ← evalList rest
    return .str (String.join ((first :: rest).map Value.text))
  | .compared first rest => do
    let first ← eval first
    return .bool (← evalCompared first rest)
  | .not e => do return .bool (!(← eval e).truth)
  | .and a b => do
    let v ← eval a
    if v.truth then eval b else return v
  | .or a b => do
    let v ← eval a
    if v.truth then return v else eval b

def evalList : List Expr → Except Failure (List Value)
  | [] => .ok []
  | e :: rest => do
    let v ← eval e
    return v :: (← evalList rest)

/-- A chain of comparisons, each between neighbours; it stops at the first that fails. -/
def evalCompared (v : Value) : List (Comparison × Expr) → Except Failure Bool
  | [] => .ok true
  | (comparison, e) :: rest => do
    let w ← eval e
    if ← compare comparison v w then evalCompared w rest else return false

end

end

/-- The value of an expression that needs no names, and no calls. -/
def Expr.constant? (d : Definition) (e : Expr) : Option Value := (eval Option.none d e).toOption

end GoIdl.Template
