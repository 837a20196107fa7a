import GoIdl.CommandLine.Run

/-!
# The program

Reads the part of the disk that a command line names, runs it and writes what has changed.
-/

namespace GoIdl.CommandLine

def systemPath (place : List String) : String := "/" ++ "/".intercalate place

/-- What a place holds, whatever link leads there. -/
def kindAt (place : List String) : IO (Option IO.FS.FileType) := do
  try
    let path ← IO.FS.realPath (systemPath place)
    return some (← path.metadata).type
  catch _ => return none

/-- Contents that no text has, in the place of contents that are not asked for. -/
def unread : Disk.Node := .file [0xff]

/-- A special file that is not read. One that is named on the command line counts as missing, so that
what is written goes to it. -/
def unreadSpecial : Disk.Node := .special (.error "Not read")

def isNeeded (files : List (List String)) (place : List String) : Bool :=
  files.contains place || match place.getLast? with
    | some name => name == Loading.moduleFile || Loading.isSourceName name
    | none => false

/-- Reads a place with `levels` levels of directories below it; no number stands for all. -/
partial def readPlace (files : List (List String)) (levels : Option Nat) (place : List String) :
    IO (Option Disk.Node) := do
  match ← kindAt place with
  | some .dir =>
    if levels = some 0 then return some (.dir [])
    let path ← IO.FS.realPath (systemPath place)
    let mut entries := []
    for entry in ← path.readDir do
      let inside := levels.map (· - 1)
      if let some node ← readPlace files inside (place ++ [entry.fileName]) then
        entries := (entry.fileName, node) :: entries
    return some (.dir entries)
  | some .file =>
    if isNeeded files place then
      return some (.file (← IO.FS.readBinFile (systemPath place)).toList)
    else return some unread
  | some .other => return if files.contains place then none else some unreadSpecial
  | _ => return none

/-- The nearest directory at or above a place. -/
partial def directoryAbove (place : List String) : IO (List String) := do
  if (← kindAt place) == some .dir || place.isEmpty then return place
  else directoryAbove place.dropLast

/-- The nearest directory with a module file at or above a place, or the place itself. -/
partial def moduleAbove (start place : List String) : IO (List String) := do
  if (← kindAt (place ++ [Loading.moduleFile])) == some .file then return place
  else if place.isEmpty then return start
  else moduleAbove start place.dropLast

/-- A place to read, and how deep. -/
structure Demand where
  place : List String
  levels : Option Nat

/-- What a command line demands: the modules of its definitions, and the directories of its files.
Outer places come first. -/
def demands (home : Disk) (named : Named) : IO (List Demand) := do
  let placeOf (path : String) := (home.resolve (.ofString path)).names
  let mut all := []
  for path in named.files do
    all := ⟨← directoryAbove (placeOf path), some 1⟩ :: all
  for path in named.definitions do
    let directory ← directoryAbove (placeOf path)
    all := ⟨← moduleAbove directory directory, none⟩ :: all
  return sortBy (fun a b => a.place.length ≤ b.place.length) all

/-- Whether a directory has been read with its entries. -/
def isKnown (disk : Disk) (place : List String) : Bool :=
  match disk.node? place with
  | some (.dir entries) => !entries.isEmpty
  | _ => false

def readDisk (words : List String) : IO Disk := do
  let home := (Disk.Path.ofString (← IO.currentDir).toString).names
  let empty : Disk := { entries := [], home }
  let named := named words
  let files := (named.definitions ++ named.files).map fun path =>
    (empty.resolve (.ofString path)).names
  let mut disk := empty
  for demand in ← demands empty named do
    if demand.levels.isNone || !isKnown disk demand.place then
      if let some node ← readPlace files demand.levels demand.place then
        disk := disk.put demand.place node
  return if (disk.node? home).isSome then disk else disk.put home (.dir [])

def writeChanges (before after : Disk) : IO Unit := do
  for (place, bytes) in Disk.changesBelow [] before after do
    IO.FS.createDirAll (systemPath place.dropLast)
    IO.FS.writeBinFile (systemPath place) ⟨bytes.toArray⟩

end GoIdl.CommandLine

open GoIdl.CommandLine in
def main (words : List String) : IO UInt32 := do
  let disk ← readDisk words
  let report := run disk words
  writeChanges disk report.disk
  IO.print report.out
  IO.eprint report.err
  if let some failure := report.crash then IO.eprintln failure.message
  return report.exit.toUInt32
