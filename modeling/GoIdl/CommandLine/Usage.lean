import GoIdl.Order
import GoIdl.Text.Lines
import GoIdl.Text.Quoted
import GoIdl.Text.Similarity

/-!
# Commands and options

What can be asked for on the command line, the help on it, and the messages for what cannot.
-/

namespace GoIdl.CommandLine

def program : String := "gorpc"

def version : String := "0.1.0"

/-- What an option sets. -/
inductive Key where
  | version | verbose | help | template | output | package | ignore | parameters | json
  deriving DecidableEq, Repr

structure Choice where
  key : Key
  long : String
  short : Option Char := none
  /-- What the help calls the value; a flag has none. -/
  value : Option String := none
  help : String := ""
  required : Bool := false

def Choice.names (c : Choice) : List String :=
  c.long :: c.short.toList.map fun ch => String.ofList ['-', ch]

inductive Command where
  | check | definition | generate
  deriving DecidableEq, Repr

namespace Command

def all : List Command := [check, definition, generate]

def name : Command → String
  | check => "check"
  | definition => "definition"
  | generate => "generate"

def ofName? (s : String) : Option Command := all.find? (·.name == s)

def help : Command → String
  | check => "Validate the syntax of a single definition file."
  | definition => "Compile definitions and print them as JSON."
  | generate => "Compile definitions and render a template."

/-- What the help calls the arguments. -/
def argument : Command → String
  | check => "FILE"
  | definition | generate => "DEFINITIONS..."

end Command

def helpChoice : Choice := { key := .help, long := "--help", help := "Show this message and exit." }

def ignoreChoice : Choice :=
  { key := .ignore, long := "--ignore", short := some 'i', value := some "TEXT"
    help := "Comma separated services to exclude" }

def parametersChoice : Choice :=
  { key := .parameters, long := "--parameters", value := some "TEXT"
    help := "Template parameters as key:value,key:value" }

/-- The options before a command. -/
def generalChoices : List Choice :=
  [{ key := .version, long := "--version", help := "Show version and exit" },
   { key := .verbose, long := "--verbose", short := some 'v'
     help := "Log every compilation step" },
   helpChoice]

def Command.choices : Command → List Choice
  | check => [helpChoice]
  | definition =>
    [{ key := .json, long := "--json", value := some "PATH"
       help := "Write the definition to this file" },
     ignoreChoice, parametersChoice, helpChoice]
  | generate =>
    [{ key := .template, long := "--template", short := some 't', value := some "FILE"
       required := true },
     { key := .output, long := "--output", short := some 'o', value := some "PATH"
       help := "Output file or existing directory" },
     { key := .package, long := "--package", short := some 'p', value := some "TEXT"
       help := "Override the package name" },
     ignoreChoice, parametersChoice, helpChoice]

/-! ### Help -/

def usageOf : Option Command → String
  | none => s!"Usage: {program} [OPTIONS] COMMAND [ARGS]..."
  | some c => s!"Usage: {program} {c.name} [OPTIONS] {c.argument}"

/-- How the help lists an option: short name, long name and value. -/
def Choice.entry (c : Choice) : String :=
  ", ".intercalate c.names.reverse ++ (c.value.map (" " ++ ·)).getD ""

def Choice.description (c : Choice) : String :=
  if c.help = "" then if c.required then "[required]" else "" else c.help

/-- Rows in two columns, two blanks apart. -/
def table (rows : List (String × String)) : String :=
  let width := (rows.map (·.1.length)).foldl max 0
  String.join (rows.map fun (entry, description) =>
    let gap := String.ofList (List.replicate (width + 2 - entry.length) ' ')
    s!"  {entry}{gap}{description}\n")

def choiceTable (choices : List Choice) : String :=
  "Options:\n" ++ table (choices.map fun c => (c.entry, c.description))

def examplesText : String :=
  "  Examples: gorpc generate ./definitions -t client.ts.jinja -o client.gen.ts\n" ++
  "  gorpc generate ./definitions/... -t server.go.jinja -o out/ -p api gorpc\n" ++
  "  definition ./definitions --json definition.json gorpc check\n" ++
  "  ./definitions/greeter.go\n"

def helpText : Option Command → String
  | none =>
    s!"{usageOf none}\n\n  gorpc - Compiler for Go RPC definitions\n\n" ++
      choiceTable generalChoices ++ "\nCommands:\n" ++
      table (Command.all.map fun c => (c.name, c.help)) ++ "\n" ++ examplesText
  | some c => s!"{usageOf (some c)}\n\n  {c.help}\n\n" ++ choiceTable c.choices

/-! ### Faults -/

/-- What is wrong with a command line. -/
inductive Fault where
  | noSuchCommand (name : String)
  | noSuchOption (name : String) (similar : List String)
  | valueMissing (name : String)
  | valueUnwanted (name : String)
  | argumentMissing (argument : String)
  | optionMissing (names : List String)
  | noSuchFile (names : List String) (path : String)
  | isDirectory (names : List String) (path : String)
  | tooManyArguments (extra : List String)
  deriving DecidableEq, Repr

def hint (names : List String) : String :=
  " / ".intercalate (names.map fun name => "'" ++ name ++ "'")

def suggestion : List String → String
  | [] => ""
  | [name] => s!" Did you mean {name}?"
  | names => " (Possible options: " ++ ", ".intercalate (sortStrings names) ++ ")"

def Fault.message : Fault → String
  | noSuchCommand name => s!"No such command {Text.quoted name}."
  | noSuchOption name similar => s!"No such option: {name}" ++ suggestion similar
  | valueMissing name => s!"Option {Text.quoted name} requires an argument."
  | valueUnwanted name => s!"Option {Text.quoted name} does not take a value."
  | argumentMissing argument => s!"Missing argument {hint [argument]}."
  | optionMissing names => s!"Missing option {hint names}."
  | noSuchFile names path =>
    s!"Invalid value for {hint names}: File {Text.quoted path} does not exist."
  | isDirectory names path =>
    s!"Invalid value for {hint names}: File {Text.quoted path} is a directory."
  | tooManyArguments extra =>
    let arguments := if extra.length = 1 then "argument" else "arguments"
    s!"Got unexpected extra {arguments} (" ++ " ".intercalate extra ++ ")"

/-- The command whose help a message points to. -/
def commandPath : Option Command → String
  | none => program
  | some c => s!"{program} {c.name}"

def faultText (command : Option Command) (fault : Fault) : String :=
  s!"{usageOf command}\nTry '" ++ commandPath command ++ s!" --help' for help.\n\n" ++
    s!"Error: {fault.message}\n"

end GoIdl.CommandLine
