import GoIdl.Disk.Write
import GoIdl.Log
import GoIdl.Output.Segment

/-!
# Delivering a text

A text goes to the standard output, into a file, or into a directory that exists: then every segment
of it becomes a file there. A delivery that fails midway keeps what it has written before.
-/

namespace GoIdl.Output

open Disk (Links Path)

structure Delivery where
  /-- The files written, in order. -/
  outcome : Except Failure (List Path)
  disk : Disk
  /-- The text for the standard output. -/
  printed : String := ""
  log : List LogEntry := []

def wroteNote (p : Path) : LogEntry := ⟨.info, .writing, s!"wrote {p.text}"⟩

def skippedNote (name : String) : LogEntry :=
  ⟨.warning, .writing, s!"skipping invalid output file name {Text.quoted name}"⟩

/-- The names that every directory has for itself and for the one above it. -/
def isReserved (name : String) : Bool := name == "." || name == ".."

namespace Delivery

/-- A delivery before which a file has been written. -/
def after (p : Path) (d : Delivery) : Delivery :=
  { d with outcome := d.outcome.map (p :: ·), log := wroteNote p :: d.log }

end Delivery

def deliverSegments (links : Links) (disk : Disk) (directory : Path) : List Segment → Delivery
  | [] => { outcome := .ok [], disk }
  | s :: rest =>
    if isReserved s.name then
      let d := deliverSegments links disk directory rest
      { d with log := skippedNote s.name :: d.log }
    else
      let target := directory.append ⟨.relative, [s.name]⟩
      match disk.writeText target s.content links with
      | .error failure => { outcome := .error failure, disk }
      | .ok disk => (deliverSegments links disk directory rest).after target

def deliverFile (links : Links) (disk : Disk) (target : Path) (text : String) : Delivery :=
  match disk.writeInto target text links with
  | .error failure => { outcome := .error failure, disk }
  | .ok disk => { outcome := .ok [target], disk, log := [wroteNote target] }

def deliver (disk : Disk) (text : String) (target : Option Path) (links : Links := {}) : Delivery :=
  match target with
  | none => { outcome := .ok [], disk, printed := text }
  | some target =>
    match links.isDir disk target with
    | .error failure => { outcome := .error failure, disk }
    | .ok true => deliverSegments links disk target (split text)
    | .ok false => deliverFile links disk target text

end GoIdl.Output
