import GoIdl.Template.Evaluation

/-!
# Checks before rendering

A template is checked as a whole before any of it is rendered. A filter has to have a meaning
wherever it stands outside a branch and is not part of a constant; a loop inside a branch stands
outside it again. No loop may set the variable that holds its own state.
-/

namespace GoIdl.Template

/-- The name of the variable that holds the state of a loop. -/
def loopState : String := "loop"

/-! ### Filters -/

/-- A constant that is written out for its expression. -/
def Value.isPlain : Value → Bool
  | .none | .bool _ | .int _ | .float _ | .str _ | .list _ | .dict _ => true
  | _ => false

section

variable (d : Definition)

def isFolded (e : Expr) : Bool := (e.constant? d).any Value.isPlain

mutual

/-- Refuses the first filter without a meaning in an expression, the outer one before those in its
operand. -/
def Expr.checkFilters (e : Expr) : Except TemplateFault Unit :=
  if isFolded d e then .ok ()
  else
    match e with
    | .filtered e name args => do
      if (Helper.callable? d name).isNone then throw (.unknownFilter name)
      e.checkFilters
      checkFiltersOf args
    | .negated e | .member e _ | .not e => e.checkFilters
    | .item a b | .and a b | .or a b => do
      a.checkFilters
      b.checkFilters
    | .call e args | .joined e args => do
      e.checkFilters
      checkFiltersOf args
    | .compared e rest => do
      e.checkFilters
      checkFiltersOfCompared rest
    | .name _ | .str _ | .int _ | .float _ | .bool _ | .none => .ok ()

def checkFiltersOf : List Expr → Except TemplateFault Unit
  | [] => .ok ()
  | e :: rest => do
    e.checkFilters
    checkFiltersOf rest

def checkFiltersOfCompared : List (Comparison × Expr) → Except TemplateFault Unit
  | [] => .ok ()
  | (_, e) :: rest => do
    e.checkFilters
    checkFiltersOfCompared rest

end

/-- Checks an expression where `strict` says that it stands outside a branch. -/
def Expr.check (strict : Bool) (e : Expr) : Except TemplateFault Unit :=
  if strict then e.checkFilters d else .ok ()

/-! ### Variables that are set -/

def Target.sets (name : String) : Target → Bool
  | .name s => s == name
  | .member _ _ => false

mutual

/-- Whether a part sets a variable, in any frame inside it. -/
def Node.sets (name : String) : Node → Bool
  | .text _ | .print _ => false
  | .assign target _ => target.sets name
  | .capture target body => target.sets name || anySets name body
  | .loop item _ _ body otherwise =>
    item == name || anySets name body || anySets name otherwise
  | .branch _ yes no => anySets name yes || anySets name no

def anySets (name : String) : List Node → Bool
  | [] => false
  | node :: rest => node.sets name || anySets name rest

end

/-! ### Parts -/

mutual

/-- Checks a part, `strict` where it stands outside a branch. -/
def Node.check (strict : Bool) (node : Node) : Except TemplateFault Unit :=
  match node with
  | .text _ => .ok ()
  | .print e => if (e.constant? d).isSome then .ok () else e.check d strict
  | .assign _ e => e.check d strict
  | .capture _ body => checkAll true body
  | .loop _ items test body otherwise => do
    match test with
    | some test => test.check d true
    | none => pure ()
    if node.sets loopState then throw .loopStateSet
    items.check d strict
    checkAll true body
    checkAll true otherwise
  | .branch test yes no => do
    test.check d false
    checkAll false yes
    checkAll false no

def checkAll (strict : Bool) : List Node → Except TemplateFault Unit
  | [] => .ok ()
  | node :: rest => do
    node.check strict
    checkAll strict rest

end

end

end GoIdl.Template
