import GoIdl.Failure
import GoIdl.Text.Blank

/-!
# Descriptions and annotations

A line of a doc is an annotation if it holds a colon and a space: a key before them and a JSON value
after them. Every other line is prose. A value that is no JSON is skipped, and of a repeated key the
first value counts.
-/

namespace GoIdl

open Syntax (Location)

namespace Metadata

/-- What was passed over in a doc. -/
inductive Note where
  | skipped (error : DefinitionError)
  | repeated (key : String)

end Metadata

structure Metadata where
  description : String
  values : List (String × Json)
  notes : List Metadata.Note

namespace Metadata

def separator : List Char := [':', ' ']

def decode (key value : String) (location : Option Location) :
    Except Failure (Except DefinitionError Json) :=
  match Json.read value with
  | .ok json => .ok (.ok json)
  | .error (.tooManyDigits count) => .error (.tooManyDigits count)
  | .error fault =>
    .ok (.error { cause := .malformedMetadata key value fault.message, location })

structure Gathered where
  prose : List (List Char) := []
  values : List (String × Json) := []
  notes : List Note := []

/-- Adds a trimmed line that is not empty. -/
def addLine (location : Option Location) (g : Gathered) (line : List Char) :
    Except Failure Gathered :=
  match Text.splitFirst separator line with
  | none => .ok { g with prose := g.prose ++ [line] }
  | some (key, value) => do
    let key := String.ofList key
    match ← decode key (String.ofList (Text.trim value)) location with
    | .error error => return { g with notes := g.notes ++ [.skipped error] }
    | .ok json =>
      if (Json.find? key g.values).isSome then
        return { g with notes := g.notes ++ [.repeated key] }
      else return { g with values := g.values ++ [(key, json)] }

/-- Adds lines up to the first that fails. What has been gathered before it stands. -/
def addLines (location : Option Location) (g : Gathered) :
    List (List Char) → Gathered × Option Failure
  | [] => (g, none)
  | line :: rest =>
    match addLine location g line with
    | .ok g => addLines location g rest
    | .error failure => (g, some failure)

def linesOf (doc : String) : List (List Char) :=
  ((Text.lines doc.toList).map Text.trim).filter fun line => !line.isEmpty

def ofGathered (g : Gathered) : Metadata where
  description := String.ofList (Text.joinWith ['\n'] g.prose)
  values := g.values
  notes := g.notes

/-- Reads a doc, or the part of it before the line that fails. -/
def upToFailure (doc : String) (location : Option Location) : Metadata × Option Failure :=
  let (g, failure) := addLines location {} (linesOf doc)
  (ofGathered g, failure)

def ofDoc (doc : String) (location : Option Location) : Except Failure Metadata :=
  match upToFailure doc location with
  | (m, none) => .ok m
  | (_, some failure) => .error failure

def skipped (m : Metadata) : List DefinitionError :=
  m.notes.filterMap fun
    | .skipped error => some error
    | .repeated _ => none

end Metadata

end GoIdl
