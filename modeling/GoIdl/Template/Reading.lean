import GoIdl.Failure
import GoIdl.Template.Lexeme
import GoIdl.Template.Tree

/-!
# Reading templates

A recursive descent over the tokens. Nesting is bounded by the number of tokens.
-/

namespace GoIdl.Template

abbrev Reading := StateT (List Token) (Except TemplateFault)

namespace Reading

def refuse {α : Type} (message : String) : Reading α := throw (.badSyntax message)

/-- Makes sure that the token at hand can be read. -/
def check : Reading Unit := do
  match ← get with
  | .fault fault :: _ => throw fault
  | _ => pure ()

def advance : Reading Unit := do
  modify List.tail
  check

def current : Reading (Option Token) := return (← get).head?

def describe (token : Option Token) : String := (token.map Token.description).getD endDescription

/-- Takes the token at hand if it is the one. -/
def skip? (token : Token) : Reading Bool := do
  if (← current) = some token then
    advance
    return true
  else return false

/-- The error where `wanted` was due. -/
def unexpected {α : Type} (wanted : String) : Reading α := do
  match ← current with
  | none => refuse s!"unexpected end of template, expected {Text.quoted wanted}."
  | token => refuse s!"expected token {Text.quoted wanted}, got {Text.quoted (describe token)}"

def expect (token : Token) : Reading Unit := do
  if !(← skip? token) then unexpected token.description

def expectName : Reading String := do
  match ← current with
  | some (.name s) =>
    advance
    return s
  | _ => unexpected "name"

def sign (s : String) : Token := .sign s.toList

def noExpression (token : Option Token) : String :=
  s!"Expected an expression, got {Text.quoted (describe token)}"

/-- As many steps as there are tokens. -/
def budget : Reading Nat := return (← get).length + 1

/-! ### Expressions -/

section

variable (inner : Reading Expr)

/-- The arguments of a call after its first one; a comma may stand behind the last. -/
def moreArguments : Nat → Reading (List Expr)
  | 0 => refuse "too many arguments"
  | steps + 1 => do
    if ← skip? (sign ")") then return []
    expect (sign ",")
    if ← skip? (sign ")") then return []
    let next ← inner
    return next :: (← moreArguments steps)

/-- The arguments of a call from behind its opening bracket on. -/
def arguments : Reading (List Expr) := do
  if ← skip? (sign ")") then return []
  let first ← inner
  return first :: (← moreArguments inner (← budget))

/-- String literals side by side are one string. -/
def moreStrings (s : String) : Nat → Reading String
  | 0 => pure s
  | steps + 1 => do
    match ← current with
    | some (.str more) =>
      advance
      moreStrings (s ++ more) steps
    | _ => return s

def constant? : String → Option Expr
  | "true" | "True" => some (.bool true)
  | "false" | "False" => some (.bool false)
  | "none" | "None" => some .none
  | _ => none

def primary : Reading Expr := do
  match ← current with
  | some (.name s) =>
    advance
    return (constant? s).getD (.name s)
  | some (.str s) =>
    advance
    return .str (← moreStrings s (← budget))
  | some (.int n) =>
    advance
    return .int n
  | some (.float x) =>
    advance
    return .float x
  | token =>
    if token = some (sign "(") then
      advance
      if (← current) = some (sign ")") then
        refuse (noExpression (some (sign ")")))
      let e ← inner
      expect (sign ")")
      return e
    else refuse s!"unexpected {Text.quoted (describe token)}"

/-- The member of `e` behind a point. What follows it must be readable in any case. -/
def member (e : Expr) : Reading Expr := do
  let token ← current
  advance
  match token with
  | some (.name s) => return .member e s
  | some (.int n) => return .item e (.int n)
  | _ => refuse "expected name or number"

/-- Members, items and calls behind an expression. -/
def postfixes (e : Expr) : Nat → Reading Expr
  | 0 => pure e
  | steps + 1 => do
    if ← skip? (sign ".") then postfixes (← member e) steps
    else if ← skip? (sign "[") then
      let key ← inner
      if !(← skip? (sign "]")) then
        expect (sign ",")
        unexpected "]"
      postfixes (.item e key) steps
    else if ← skip? (sign "(") then
      postfixes (.call e (← arguments inner)) steps
    else return e

/-- The rest of a filter's name, each part behind a point. -/
def moreName (name : String) : Nat → Reading String
  | 0 => pure name
  | steps + 1 => do
    if ← skip? (sign ".") then
      let part ← expectName
      moreName (name ++ "." ++ part) steps
    else return name

/-- The filters behind an expression. -/
def filters (e : Expr) : Nat → Reading Expr
  | 0 => pure e
  | steps + 1 => do
    if ← skip? (sign "|") then
      let name ← moreName (← expectName) (← budget)
      let args ← if ← skip? (sign "(") then arguments inner else pure []
      filters (.filtered e name args) steps
    else if ← skip? (sign "(") then
      filters (.call e (← arguments inner)) steps
    else return e

/-- An operand without its filters: a minus binds looser than a member. -/
def signed : Nat → Reading Expr
  | 0 => primary inner
  | steps + 1 => do
    if ← skip? (sign "-") then return .negated (← signed steps)
    else
      let e ← primary inner
      postfixes inner e (← budget)

def operand : Reading Expr := do
  let e ← signed inner (← budget)
  filters inner e (← budget)

def moreOperands : Nat → Reading (List Expr)
  | 0 => pure []
  | steps + 1 => do
    if ← skip? (sign "~") then
      let e ← operand inner
      return e :: (← moreOperands steps)
    else return []

def joined : Reading Expr := do
  let first ← operand inner
  match ← moreOperands inner (← budget) with
  | [] => return first
  | rest => return .joined first rest

/-- Takes a comparison sign if one is at hand. -/
def comparison? : Reading (Option Comparison) := do
  if ← skip? (sign "==") then return some .equal
  else if ← skip? (sign "!=") then return some .differs
  else if ← skip? (.name "in") then return some .isIn
  else
    match ← get with
    | .name "not" :: .name "in" :: _ =>
      advance
      advance
      return some .isNotIn
    | .name "not" :: .fault fault :: _ => throw fault
    | _ => return none

def moreCompared : Nat → Reading (List (Comparison × Expr))
  | 0 => pure []
  | steps + 1 => do
    match ← comparison? with
    | none => return []
    | some comparison =>
      let e ← joined inner
      return (comparison, e) :: (← moreCompared steps)

def compared : Reading Expr := do
  let first ← joined inner
  match ← moreCompared inner (← budget) with
  | [] => return first
  | rest => return .compared first rest

def negation : Nat → Reading Expr
  | 0 => compared inner
  | steps + 1 => do
    if ← skip? (.name "not") then return .not (← negation steps)
    else compared inner

def moreAnd (e : Expr) : Nat → Reading Expr
  | 0 => pure e
  | steps + 1 => do
    if ← skip? (.name "and") then
      let right ← negation inner (← budget)
      moreAnd (.and e right) steps
    else return e

def conjunction : Reading Expr := do
  let first ← negation inner (← budget)
  moreAnd inner first (← budget)

def moreOr (e : Expr) : Nat → Reading Expr
  | 0 => pure e
  | steps + 1 => do
    if ← skip? (.name "or") then
      let right ← conjunction inner
      moreOr (.or e right) steps
    else return e

end

/-- An expression with at most `depth` expressions inside each other. -/
def exprWithin : Nat → Reading Expr
  | 0 => refuse "expression too deep"
  | depth + 1 => do
    let inner := exprWithin depth
    let first ← conjunction inner
    moreOr inner first (← budget)

/-- Makes sure that an expression can start here; a name in `ends` would end it. -/
def checkStart (ends : List String) : Reading Unit := do
  let token ← current
  let closes := token = some .printEnd ∨ token = some .tagEnd ∨ token = some (sign ")")
  if closes ∨ ends.any fun s => token = some (.name s) then refuse (noExpression token)

/-- An expression that a tag holds. -/
def expr (ends : List String) : Reading Expr := do
  checkStart ends
  exprWithin (← budget)

/-! ### Parts -/

/-- The tags that are open around a place, the innermost first: each with its name and the tags
that may follow inside it. -/
abbrev Around := List (String × List String)

def following (tags : List String) : String := " or ".intercalate (tags.map Text.quoted)

def innermost : Around → List String
  | [] => []
  | (tag, _) :: _ =>
    [s!"The innermost block that needs to be closed is {Text.quoted tag}."]

/-- The message for a template that ends inside a tag. -/
def endedEarly (around : Around) : String :=
  let looking := match around with
    | [] => []
    | (_, tags) :: _ => [s!"Jinja was looking for the following tags: {following tags}."]
  " ".intercalate ("Unexpected end of template." :: looking ++ innermost around)

/-- The message for a tag that means nothing at its place. -/
def unknownTag (name : String) (around : Around) : String :=
  let looking := match around with
    | [] => []
    | (_, tags) :: outer =>
      if ((tags :: outer.map (·.2)).flatten).contains name then
        [s!"You probably made a nesting mistake. Jinja is expecting this tag, but currently " ++
          s!"looking for {following tags}."]
      else [s!"Jinja was looking for the following tags: {following tags}."]
  " ".intercalate (s!"Encountered unknown tag {Text.quoted name}." :: looking ++ innermost around)

/-- The variable that a tag sets; a name in `ends` would end it. -/
def variableName (ends : List String) : Reading String := do
  checkStart ends
  match ← primary (exprWithin (← budget)) with
  | .name s => return s
  | e => refuse s!"can't assign to {Text.quoted e.label}"

/-- The variable that an assignment sets, or the member of one. -/
def target : Reading Target := do
  match ← get with
  | .name s :: .sign ['.'] :: _ =>
    if (constant? s).isSome then return .name (← variableName [])
    else
      advance
      advance
      return .member s (← expectName)
  | _ => return .name (← variableName [])

section

-- `parts around` reads the parts up to a tag that may follow, and leaves its name at hand
variable (parts : Around → Reading (List Node))

/-- The parts inside a tag, and the name of the tag that ends them. -/
def body (tag : String) (tags : List String) (around : Around) : Reading (List Node × String) := do
  let _ ← skip? (sign ":")
  expect .tagEnd
  let around := (tag, tags) :: around
  let nodes ← parts around
  match ← current with
  | some (.name s) =>
    advance
    return (nodes, s)
  | _ => refuse (endedEarly around)

def loop (around : Around) : Reading Node := do
  let name ← variableName ["in"]
  expect (.name "in")
  let items ← expr ["recursive"]
  let test ← if ← skip? (.name "if") then pure (some (← exprWithin (← budget))) else pure none
  let _ ← skip? (.name "recursive")
  let (nodes, last) ← body parts "for" ["endfor", "else"] around
  if last = "else" then
    let (otherwise, _) ← body parts "for" ["endfor"] around
    return .loop name items test nodes otherwise
  else return .loop name items test nodes []

def assignment (around : Around) : Reading Node := do
  let target ← target
  if ← skip? (sign "=") then return .assign target (← expr [])
  else
    let (nodes, _) ← body parts "set" ["endset"] around
    return .capture target nodes

/-- A branch from its condition on; a further condition starts a branch inside. -/
def branch (around : Around) : Nat → Reading Node
  | 0 => refuse "too many branches"
  | steps + 1 => do
    let test ← expr []
    let (yes, last) ← body parts "if" ["elif", "else", "endif"] around
    if last = "elif" then return .branch test yes [← branch around steps]
    else if last = "else" then
      let (no, _) ← body parts "if" ["endif"] around
      return .branch test yes no
    else return .branch test yes []

def statement (name : String) (around : Around) : Reading Node :=
  match name with
  | "for" => loop parts around
  | "if" => do branch parts around (← budget)
  | "set" => assignment parts around
  | name => refuse (unknownTag name around)

/-- The part at hand; none at the end of the template or at a tag that may follow. -/
def part? (around : Around) : Reading (Option Node) := do
  match ← current with
  | some (.text s) =>
    advance
    return some (.text (String.ofList s))
  | some .printBegin =>
    advance
    let e ← expr []
    expect .printEnd
    return some (.print e)
  | some .tagBegin =>
    advance
    match ← current with
    | some (.name s) =>
      if around.head?.any (·.2.contains s) then return none
      let known := s = "for" ∨ s = "if" ∨ s = "set"
      if known then advance
      let node ← statement parts s around
      expect .tagEnd
      return some node
    | _ => refuse "tag name expected"
  | _ => return none

def moreParts (around : Around) : Nat → Reading (List Node)
  | 0 => pure []
  | steps + 1 => do
    match ← part? parts around with
    | none => return []
    | some node => return node :: (← moreParts around steps)

end

/-- The parts of a template with at most `depth` tags inside each other. -/
def partsWithin : Nat → Around → Reading (List Node)
  | 0, _ => refuse "tags too deep"
  | depth + 1, around => do moreParts (partsWithin depth) around (← budget)

def template : Reading (List Node) := do
  check
  partsWithin (← budget) []

end Reading

def parse (s : List Char) : Except TemplateFault (List Node) :=
  (Reading.template.run (tokens s)).map (·.1)

end GoIdl.Template
