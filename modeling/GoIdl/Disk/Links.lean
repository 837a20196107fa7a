import GoIdl.Disk.Basic

/-!
# Links

A tree may have links besides its entries. A symbolic link is a name that stands for a path, and the
hard links to a file are its names, under each of which it stands in the tree. A path leads through
symbolic links, but not through any number of them.
-/

namespace GoIdl.Disk

structure Links where
  /-- The places of symbolic links, and their paths. No entry of the tree stands there. -/
  symbolic : List (List String × Path) := []
  /-- The places of each file that has several. -/
  hard : List (List (List String)) := []

/-- A path may lead through this many symbolic links. -/
def linkLimit : Nat := 40

/-- Where names lead up to the first symbolic link. -/
inductive Stretch where
  | arrives (place : List String)
  /-- A link in the directory `here` stands for a path; `rest` are the names behind it. -/
  | turns (here : List String) (path : Path) (rest : List String)

/-- Fails unless there is a directory at a place. -/
def checkDir (disk : Disk) (here : List String) : Except PathFault Unit :=
  match disk.node? here with
  | some (.dir _) => .ok ()
  | some _ => .error .notADirectory
  | none => .error .missing

namespace Links

/-- Follows names from the place `here` up to a symbolic link. There need not be anything at the
last name. -/
def stretch (links : Links) (disk : Disk) (here : List String) :
    List String → Except PathFault Stretch
  | [] => do
    disk.checkDir here
    return .arrives here
  | name :: rest => do
    disk.checkDir here
    if name = ".." then links.stretch disk here.dropLast rest
    else if isTooLong name then throw .nameTooLong
    else
      match links.symbolic.lookup (here ++ [name]) with
      | some path => return .turns here path rest
      | none =>
        if rest.isEmpty then return .arrives (here ++ [name])
        else links.stretch disk (here ++ [name]) rest

/-- Follows names through symbolic links, of which `left` may still come. -/
def follow (links : Links) (disk : Disk) (left : Nat) (here names : List String) :
    Except PathFault (List String) :=
  match links.stretch disk here names with
  | .error fault => .error fault
  | .ok (.arrives place) => .ok place
  | .ok (.turns here path rest) =>
    match left with
    | 0 => .error .tooManyLinks
    | left + 1 => links.follow disk left (if path.isAbsolute then [] else here) (path.names ++ rest)

/-- The place that a path leads to. There may be nothing there yet, but its directory exists. -/
def locate (links : Links) (disk : Disk) (p : Path) : Except PathFault (List String) :=
  links.follow disk linkLimit (disk.start p) p.names

def find (links : Links) (disk : Disk) (p : Path) : Except PathFault Node := do
  match disk.node? (← links.locate disk p) with
  | some node => .ok node
  | none => .error .missing

/-- The places of the file at a place. -/
def placesOf (links : Links) (place : List String) : List (List String) :=
  place :: (links.hard.filter (·.contains place)).flatten

end Links

end GoIdl.Disk
