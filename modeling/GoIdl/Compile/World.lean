import GoIdl.Definition.Session
import GoIdl.Disk.Write
import GoIdl.Package.Basic

/-!
# The state of a compilation

A compilation reads a disk that does not change. It keeps the packages loaded so far, the session
and the log; what has been kept when it fails stays there.
-/

namespace GoIdl

/-- The packages loaded so far, with those that are known by resolved directory and by import
path. -/
structure Loader where
  byDirectory : List (Disk.Path × Package) := []
  byPath : List (String × Package) := []
  /-- All packages formed so far, in order. -/
  packages : List Package := []

/-- How many declarations the packages hold together. -/
def Loader.declared (l : Loader) : Nat := l.packages.foldr (fun p n => p.scope.length + n) 0

structure World where
  loader : Loader := {}
  session : Session := {}
  log : List LogEntry := []

abbrev Compile (α : Type) : Type := ReaderT Disk (ExceptT Failure (StateM World)) α

namespace Compile

def note (level : LogLevel) (source : LogSource) (message : String) : Compile Unit :=
  modify fun w => { w with log := w.log ++ [⟨level, source, message⟩] }

def fail {α : Type} (error : DefinitionError) : Compile α := throw (.definition error)

/-- Goes on only if a condition holds. -/
def ensure (condition : Bool) (error : DefinitionError) : Compile Unit :=
  if condition then pure () else fail error

def ofExcept {α : Type} (outcome : Except Failure α) : Compile α :=
  match outcome with
  | .ok a => pure a
  | .error failure => throw failure

def ofDefinition {α : Type} (outcome : Except DefinitionError α) : Compile α :=
  match outcome with
  | .ok a => pure a
  | .error error => fail error

def modifySession (f : Session → Session) : Compile Unit :=
  modify fun w => { w with session := f w.session }

def modifyLoader (f : Loader → Loader) : Compile Unit :=
  modify fun w => { w with loader := f w.loader }

def loader : Compile Loader := return (← get).loader

/-- The path of the package whose declarations are being extracted. -/
def rootPath : Compile String := return (← get).session.rootPath

/-- More than all declarations that can ever be met: those formed so far, and one for each byte on
the disk. Recursion along declarations does not go deeper. -/
def depth : Compile Nat := do
  let disk ← read
  return (← loader).declared + disk.size + 2

/-- Runs a compilation, which ends with an outcome and the state it leaves. -/
def runOn {α : Type} (c : Compile α) (disk : Disk) (w : World) : Except Failure α × World :=
  (c.run disk).run w

end Compile

end GoIdl
