import GoIdl.Arguments
import GoIdl.CommandLine.Given
import GoIdl.Compile.Run
import GoIdl.Definition.Export
import GoIdl.Output.Delivery
import GoIdl.Template.Rendering

/-!
# Running commands

A run reads a disk and leaves one, with what it prints and its exit code. A failure that no message
is made for ends the run as it is.
-/

namespace GoIdl.CommandLine

structure Report where
  exit : Nat
  out : String := ""
  err : String := ""
  disk : Disk
  /-- What ended the run without a message. -/
  crash : Option Failure := none

/-- The entries that are shown: all of them, or those that warn. -/
def logText (verbose : Bool) (log : List LogEntry) : String :=
  let shown := log.filter fun e => verbose || decide (LogLevel.warning.rank ≤ e.level.rank)
  String.join (shown.map fun e => e.text ++ "\n")

/-! ### Ends of a run -/

def success (disk : Disk) (err out : String) : Report := { exit := 0, out, err, disk }

def failed (disk : Disk) (err message : String) : Report :=
  { exit := 1, err := err ++ message ++ "\n", disk }

def crashed (disk : Disk) (err : String) (failure : Failure) : Report :=
  { exit := 1, err, disk, crash := some failure }

def misused (disk : Disk) (command : Option Command) (fault : Fault) : Report :=
  { exit := 2, err := faultText command fault, disk }

def outputFault (fault : DiskFault) : String := s!"erro: cannot write output: {fault.message}"

/-- The message for a fault of a template; a value that cannot be used as it is has none. -/
def templateMessage? (path : String) (fault : TemplateFault) : Option String :=
  match fault with
  | .tooManyDigits _ | .unsupportedValue _ | .missingMember _ | .missingKey _ => none
  | fault => some s!"erro: template {path}: {fault.message}"

/-- Ends a run that compiles; `disk` is what it leaves, and `template` what it renders. -/
def failedWith (disk : Disk) (err : String) (template : Option String) (failure : Failure) :
    Report :=
  match failure, template with
  | .definition e, _ => failed disk err e.diagnostic
  | .disk fault, some _ => failed disk err (outputFault fault)
  | .template fault, some path =>
    match templateMessage? path fault with
    | some message => failed disk err message
    | none => crashed disk err failure
  | failure, _ => crashed disk err failure

/-! ### Files on the command line -/

/-- Whether a path as it was written asks for a directory. -/
def asksForDir (path : String) : Bool :=
  match (Text.splitString '/' path).getLast? with
  | some name => name == "" || name == "."
  | none => true

/-- Checks that a path leads to a file of any kind. -/
def checkFile (disk : Disk) (names : List String) (path : String) : Except Fault Unit :=
  if path = "" then .error (.noSuchFile names path)
  else
    match disk.find (.ofString path) with
    | .ok (.dir _) => .error (.isDirectory names path)
    | .ok _ => if asksForDir path then .error (.noSuchFile names path) else .ok ()
    | .error _ => .error (.noSuchFile names path)

def checkOption (disk : Disk) (given : Given) (c : Choice) : Except Fault Unit :=
  match c.key, given.value? c.key with
  | .template, some path => checkFile disk c.names path
  | _, _ => .ok ()

/-- Checks the arguments: there has to be one, and for `check` it is a file. -/
def checkArguments (disk : Disk) (command : Command) (given : Given) : Except Fault Unit :=
  match given.arguments, command with
  | [], command => .error (.argumentMissing command.argument)
  | path :: _, .check => checkFile disk [command.argument] path
  | _, _ => .ok ()

def checkRequired (given : Given) (c : Choice) : Except Fault Unit :=
  if c.required && !given.has c.key then .error (.optionMissing c.names) else .ok ()

def checkSurplus (command : Command) (given : Given) : Except Fault Unit :=
  match command, given.arguments with
  | .check, _ :: extra =>
    if extra.isEmpty then .ok () else .error (.tooManyArguments extra)
  | _, _ => .ok ()

/-- Checks what is given for a command: options, arguments, what is missing, what is too much. -/
def validate (disk : Disk) (command : Command) (given : Given) : Except Fault Unit := do
  command.choices.forM (checkOption disk given)
  checkArguments disk command given
  command.choices.forM (checkRequired given)
  checkSurplus command given

/-! ### Commands -/

def optionsOf (given : Given) : Except Failure Options := do
  let params ← parseParams ((given.value? .parameters).getD "")
  return {
    exclusions := parseExclusions (given.value? .ignore)
    params := params.map fun (key, value) => (key, .str value)
    packageName := given.value? .package }

def compile (disk : Disk) (given : Given) : Except Failure Compiled × List LogEntry :=
  match optionsOf given with
  | .error failure => (.error failure, [])
  | .ok options =>
    let (outcome, world) := (Compile.patterns given.arguments options).runOn disk {}
    (outcome, world.log)

def runCheck (disk : Disk) (given : Given) : Report :=
  match Loading.readFile disk (.ofString (given.arguments.headD "")) with
  | .error failure => failedWith disk "" none failure
  | .ok _ => success disk "" "OK\n"

/-- A path that is not empty. -/
def pathOf? (given : Given) (key : Key) : Option Disk.Path :=
  ((given.value? key).filter (· != "")).map .ofString

def runDefinition (disk : Disk) (verbose : Bool) (given : Given) : Report :=
  let (outcome, log) := compile disk given
  let err := logText verbose log
  match outcome with
  | .error failure => failedWith disk err none failure
  | .ok compiled =>
    match pathOf? given .json with
    | none => success disk err (compiled.definition.text Definition.defaultLayout ++ "\n")
    | some target =>
      match compiled.definition.exportTo disk target with
      | .ok disk => success disk err ""
      | .error (.disk fault) => failed disk err (outputFault fault)
      | .error failure => crashed disk err failure

def runGenerate (disk : Disk) (verbose : Bool) (given : Given) : Report :=
  let template := (given.value? .template).getD ""
  let (outcome, log) := compile disk given
  let err := logText verbose log
  match outcome.bind fun c => Template.renderFile disk c.definition (.ofString template) with
  | .error failure => failedWith disk err (some template) failure
  | .ok text =>
    let d := Output.deliver disk text (pathOf? given .output)
    let err := err ++ logText verbose d.log
    match d.outcome with
    | .error failure => failedWith d.disk err (some template) failure
    | .ok _ => success d.disk err d.printed

def runCommand (disk : Disk) (verbose : Bool) (command : Command) (words : List String) : Report :=
  match read command.choices true words with
  | .error fault => misused disk (some command) fault
  | .ok given =>
    if given.has .help then success disk "" (helpText (some command))
    else
      match validate disk command given with
      | .error fault => misused disk (some command) fault
      | .ok () =>
        match command with
        | .check => runCheck disk given
        | .definition => runDefinition disk verbose given
        | .generate => runGenerate disk verbose given

/-- The report on a command that does not exist. A word that looks like an option is read as one
first. -/
def unknownCommand (disk : Disk) (name : String) (words : List String) : Report :=
  let unknown := misused disk none (.noSuchCommand name)
  if name.toList.head? = some '-' then
    match read generalChoices false words with
    | .error fault => misused disk none fault
    | .ok given => if given.has .help then success disk "" (helpText none) else unknown
  else unknown

/-- Runs the words of a command line. -/
def run (disk : Disk) (words : List String) : Report :=
  match read generalChoices false words with
  | .error fault => misused disk none fault
  | .ok given =>
    if given.has .help then success disk "" (helpText none)
    else
      let versionText := s!"{program} v{version}\n"
      match given.arguments with
      | [] => success disk "" (if given.has .version then versionText else helpText none)
      | name :: words =>
        match Command.ofName? name with
        | none => unknownCommand disk name (name :: words)
        | some command =>
          if given.has .version then success disk "" versionText
          else runCommand disk (given.has .verbose) command words

/-! ### What a run reads -/

/-- The paths that a command line names: definitions, and other files. -/
structure Named where
  definitions : List String := []
  files : List String := []

def Named.ofGiven (command : Command) (given : Given) : Named :=
  let files := [Key.template, .output, .json].filterMap given.value?
  match command with
  | .check => { files := given.arguments ++ files }
  | .definition | .generate => { definitions := given.arguments, files }

def named (words : List String) : Named :=
  match read generalChoices false words with
  | .ok { arguments := name :: words, .. } =>
    match Command.ofName? name with
    | some command =>
      match read command.choices true words with
      | .ok given => .ofGiven command given
      | .error _ => {}
    | none => {}
  | _ => {}

end GoIdl.CommandLine
