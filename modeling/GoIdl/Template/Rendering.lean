import GoIdl.Disk.Reading
import GoIdl.Template.Checking
import GoIdl.Template.Reading
import GoIdl.Template.Scope

/-!
# Rendering templates

The parts of a template are rendered in order, and what they write is joined. A loop with a test
meets a failure of its test when it has gone through the items before.
-/

namespace GoIdl.Template

/-! ### Loops -/

/-- The items that pass the test of a loop up to the first on which the test fails, and that
failure. -/
def passing (test : Value → Except Failure Value) : List Value → List Value × Option Failure
  | [] => ([], none)
  | v :: rest =>
    match test v with
    | .error failure => ([], some failure)
    | .ok answer =>
      let (items, failure) := passing test rest
      (if answer.truth then v :: items else items, failure)

/-- The items that a loop goes through, and the failure that it meets behind them. -/
def loopItems (d : Definition) (scope : Scope) (name : String) (items : Expr)
    (test : Option Expr) : Except Failure (List Value × Option Failure) := do
  let items ← (← scope.eval d items).items
  match test with
  | none => return (items, none)
  | some test =>
    return passing (fun v => (scope.enter [(name, v)] test.mentions).eval d test) items

/-! ### Parts -/

/-- What is written so far, and the scope behind it. -/
structure Written where
  text : List String
  scope : Scope

def assign (scope : Scope) (target : Target) (value : Except Failure Value) :
    Except Failure Written :=
  match target with
  | .name name => value.map fun v => ⟨[], scope.set name v⟩
  | .member _ _ => .error (.template .memberSet)

section

variable (d : Definition)

mutual

def render (scope : Scope) : Node → Except Failure Written
  | .text s => .ok ⟨[s], scope⟩
  | .print e => do return ⟨[(← scope.eval d e).text], scope⟩
  | .assign target e => assign scope target (scope.eval d e)
  | .capture target body =>
    let written := renderAll (scope.enter [] (mentionsOf .set body)) body
    assign scope target (written.map fun written => .str (String.join written.text))
  | .branch test yes no => do
    if (← scope.eval d test).truth then renderAll scope yes else renderAll scope no
  | .loop name items test body otherwise => do
    match ← loopItems d scope name items test with
    | ([], none) =>
      return ⟨(← renderAll (scope.enter [] (mentionsOf .set otherwise)) otherwise).text, scope⟩
    | (items, pending) =>
      let mentions := mentionsOf .set body
      let texts ← items.zipIdx.mapM fun (v, index) => do
        let given := [(name, v), (loopState, .loop index items pending)]
        return (← renderAll (scope.enter given mentions) body).text
      match pending with
      | some failure => throw failure
      | none => return ⟨texts.flatten, scope⟩

def renderAll (scope : Scope) : List Node → Except Failure Written
  | [] => .ok ⟨[], scope⟩
  | node :: rest => do
    let first ← render scope node
    let last ← renderAll first.scope rest
    return ⟨first.text ++ last.text, last.scope⟩

end

def renderText (s : List Char) : Except Failure String := do
  let nodes ← (parse s).mapError .template
  (checkAll d true nodes).mapError .template
  let scope := (Scope.ofDefinition d).enter [] (mentionsOf .set nodes)
  return String.join (← renderAll d scope nodes).text

end

def renderFile (disk : Disk) (d : Definition) (p : Disk.Path) : Except Failure String := do
  renderText d (Text.unifyBreaks (← disk.readText p))

end GoIdl.Template
