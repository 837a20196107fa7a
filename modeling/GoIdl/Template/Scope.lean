import GoIdl.Template.Evaluation

/-!
# Variables in templates

The template as a whole, the body of a loop, its test, its other part and a captured text have a
frame of variables each; a branch has none. A frame knows its variables before anything in it runs:
those it sets, and those it reads that no frame around it has. A variable starts with the value that
the frames around it give it, or with that of the context. Only one that the frame is sure to set
before it reads it starts without any.
-/

namespace GoIdl.Template

/-! ### Mentions -/

/-- How a part mentions a variable. -/
inductive Use where
  | read
  /-- It is set if the part is reached. -/
  | setMaybe
  | set
  deriving DecidableEq, Repr

abbrev Mention := String × Use

mutual

def Expr.reads : Expr → List String
  | .name s => [s]
  | .negated e | .member e _ | .not e => e.reads
  | .item a b | .and a b | .or a b => a.reads ++ b.reads
  | .call e args | .filtered e _ args | .joined e args => e.reads ++ readsOf args
  | .compared e rest => e.reads ++ readsOfCompared rest
  | .str _ | .int _ | .float _ | .bool _ | .none => []

def readsOf : List Expr → List String
  | [] => []
  | e :: rest => e.reads ++ readsOf rest

def readsOfCompared : List (Comparison × Expr) → List String
  | [] => []
  | (_, e) :: rest => e.reads ++ readsOfCompared rest

end

def Expr.mentions (e : Expr) : List Mention := e.reads.map (·, .read)

/-- To set a member, the owner is read. -/
def Target.mention (use : Use) : Target → Mention
  | name s => (s, use)
  | member owner _ => (owner, .read)

mutual

/-- The variables that a part mentions in its own frame; what it sets, it sets with `use`. -/
def Node.mentions (use : Use) : Node → List Mention
  | .text _ => []
  | .print e => e.mentions
  | .assign target e => e.mentions ++ [target.mention use]
  | .capture target _ => [target.mention use]
  | .loop _ items _ _ _ => items.mentions
  | .branch test yes no => test.mentions ++ mentionsOf .setMaybe yes ++ mentionsOf .setMaybe no

def mentionsOf (use : Use) : List Node → List Mention
  | [] => []
  | node :: rest => node.mentions use ++ mentionsOf use rest

end

/-! ### Frames -/

/-- The variables of a frame with their values, as far as they have any. -/
abbrev Frame := List (String × Option Value)

/-- What the names in a part stand for: what is there from the start, and the frames around the
part, the innermost first. -/
structure Scope where
  context : String → Option Value
  frames : List Frame

namespace Scope

/-- The value of a variable in the innermost frame that has it. -/
def find? (scope : Scope) (name : String) : Option (Option Value) :=
  scope.frames.findSome? (·.lookup name)

/-- The value of a variable, undefined if it has none. -/
def get (scope : Scope) (name : String) : Value :=
  (((scope.find? name).getD (scope.context name))).getD
    (.undefined s!"{Text.quoted name} is undefined")

/-- The value that a variable of a new frame starts with; none if the frame does not have it. -/
def start? (scope : Scope) (mentions : List Mention) (name : String) :
    Option (Option Value) :=
  match scope.find? name with
  | some outer =>
    if mentions.any fun (other, use) => other == name && use != .read then some outer else none
  | none =>
    if mentions.lookup name = some .set then some none else some (scope.context name)

/-- Opens a frame with given variables for parts with the mentions. -/
def enter (scope : Scope) (given : List (String × Value)) (mentions : List Mention) : Scope :=
  let names := ((mentions.map (·.1)).filter fun name => (given.lookup name).isNone).eraseDups
  let started := names.filterMap fun name => (scope.start? mentions name).map (name, ·)
  { scope with frames := (given.map (fun (name, v) => (name, some v)) ++ started) :: scope.frames }

/-- Sets a variable of the innermost frame. -/
def set (scope : Scope) (name : String) (v : Value) : Scope :=
  match scope.frames with
  | [] => { scope with frames := [[(name, some v)]] }
  | frame :: outer => { scope with frames := ((name, some v) :: frame) :: outer }

/-- The scope around a template, which sees the definition itself, the members of its tree and all
that can be called. -/
def ofDefinition (d : Definition) : Scope :=
  let members := match Value.ofJson d.tree with
    | .dict members => members
    | _ => []
  let known := ("definition", .ofDefinition d) :: members
  { context := fun name => known.lookup name <|> Helper.callable? d name, frames := [] }

def eval (scope : Scope) (d : Definition) (e : Expr) : Except Failure Value :=
  Template.eval (some scope.get) d e

end Scope

end GoIdl.Template
