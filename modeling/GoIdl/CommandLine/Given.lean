import GoIdl.CommandLine.Usage

/-!
# Reading a command line

Options may stand in front of, between and behind the arguments of a command; before the command
itself they have to come first. `--` ends the options.
-/

namespace GoIdl.CommandLine

/-- What is given: options in order, flags with an empty value, and arguments. -/
structure Given where
  options : List (Key × String) := []
  arguments : List String := []

namespace Given

def has (g : Given) (key : Key) : Bool := g.options.any (·.1 == key)

/-- The value of an option; of several the last. -/
def value? (g : Given) (key : Key) : Option String := g.options.reverse.lookup key

def withOptions (options : List (Key × String)) (g : Given) : Given :=
  { g with options := options ++ g.options }

def withArgument (argument : String) (g : Given) : Given :=
  { g with arguments := argument :: g.arguments }

end Given

/-- The options in one word, and whether the word after it was taken as a value. -/
abbrev Taken := Except Fault (List (Key × String) × Bool)

section

variable (choices : List Choice)

/-- Whether one pair of a similarity and a name comes before another: the more similar one, then the
later name. -/
def precedes (a b : (Nat × Nat) × String) : Bool :=
  let x := a.1.1 * b.1.2
  let y := b.1.1 * a.1.2
  decide (y < x) || (decide (x = y) && stringLe b.2 a.2)

/-- At most three options that are similar to a word, the most similar ones. -/
def similarOptions (word : String) : List String :=
  let near := (choices.map (·.long)).filter fun name => Text.similar name word
  ((sortBy precedes (near.map fun name => (Text.similarity name word, name))).take 3).map (·.2)

def takeValue (c : Choice) (name : String) (next : Option String) : Taken :=
  match next with
  | some value => .ok ([(c.key, value)], true)
  | none => .error (.valueMissing name)

def takeLong (c : Choice) (value next : Option String) : Taken :=
  match c.value, value with
  | some _, some value => .ok ([(c.key, value)], false)
  | some _, none => takeValue c c.long next
  | none, some _ => .error (.valueUnwanted c.long)
  | none, none => .ok ([(c.key, "")], false)

/-- The short options in a word, of which only the last can have a value. -/
def takeShort (next : Option String) : List Char → Taken
  | [] => .ok ([], false)
  | ch :: rest =>
    let name := String.ofList ['-', ch]
    match choices.find? (·.short == some ch) with
    | none => .error (.noSuchOption name [])
    | some c =>
      match c.value, rest with
      | none, rest => do
        let (options, taken) ← takeShort next rest
        return ((c.key, "") :: options, taken)
      | some _, [] => takeValue c name next
      | some _, rest => .ok ([(c.key, String.ofList rest)], false)

/-- A word cut at its first equals sign. -/
def cutValue (word : String) : String × Option String :=
  match Text.splitFirst ['='] word.toList with
  | some (name, value) => (String.ofList name, some (String.ofList value))
  | none => (word, none)

/-- The options in a word that starts with a minus. -/
def takeOption (word : String) (next : Option String) : Taken :=
  let (name, value) := cutValue word
  match choices.find? (·.long == name) with
  | some c => takeLong c value next
  | none =>
    match word.toList with
    | '-' :: '-' :: _ => .error (.noSuchOption name (similarOptions choices name))
    | word => takeShort choices next (word.drop 1)

def isOption (word : String) : Bool :=
  match word.toList with
  | '-' :: _ :: _ => true
  | _ => false

/-- Reads words. Unless options are `mixed` with arguments, the first argument ends them. -/
def read (mixed : Bool) : List String → Except Fault Given
  | [] => .ok {}
  | [word] =>
    if word = "--" then .ok {}
    else if isOption word then do
      let (options, _) ← takeOption choices word none
      return { options }
    else .ok { arguments := [word] }
  | word :: next :: rest =>
    if word = "--" then .ok { arguments := next :: rest }
    else if isOption word then do
      let (options, taken) ← takeOption choices word (some next)
      let given ← if taken then read mixed rest else read mixed (next :: rest)
      return given.withOptions options
    else if mixed then (read mixed (next :: rest)).map (·.withArgument word)
    else .ok { arguments := word :: next :: rest }

end

end GoIdl.CommandLine
