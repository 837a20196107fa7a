import GoIdl.Disk.Path
import GoIdl.Text.Utf8

/-!
# Directory trees

A disk is a tree of directories and files with a working directory. Relative paths start there, and
`..` leads to the directory above, provided that what stands before it exists. A file is a regular
one, or a special one such as a pipe or a device.
-/

namespace GoIdl

inductive Disk.Node where
  | file (bytes : List UInt8)
  /-- A pipe, a socket or a device, with what reading it gives: bytes, or the reason why not. -/
  | special (reading : Except String (List UInt8))
  | dir (entries : List (String × Disk.Node))

structure Disk where
  entries : List (String × Disk.Node)
  /-- The names of the working directory, from the root on. -/
  home : List String

namespace Disk

namespace Node

def isDir : Node → Bool
  | .dir _ => true
  | .file _ | .special _ => false

def isRegular : Node → Bool
  | .file _ => true
  | .special _ | .dir _ => false

/-- The bytes that reading gives. -/
def reading : Node → Except String (List UInt8)
  | .file bytes => .ok bytes
  | .special reading => reading
  | .dir _ => .error "Is a directory"

end Node

/-- Why a path leads nowhere. -/
inductive PathFault where
  | missing
  | notADirectory
  | nameTooLong
  | tooManyLinks
  deriving DecidableEq, Repr

def PathFault.reason : PathFault → String
  | missing => "No such file or directory"
  | notADirectory => "Not a directory"
  | nameTooLong => "File name too long"
  | tooManyLinks => "Too many levels of symbolic links"

/-- A name may have this many bytes. -/
def nameLimit : Nat := 255

def isTooLong (name : String) : Bool := decide (nameLimit < (Text.encode name.toList).length)

def nodeFrom (node : Node) : List String → Option Node
  | [] => some node
  | name :: names =>
    match node with
    | .dir entries => (entries.lookup name).bind (nodeFrom · names)
    | .file _ | .special _ => none

def node? (disk : Disk) (names : List String) : Option Node := nodeFrom (.dir disk.entries) names

/-- Goes from the place `here` to the entry `name`. -/
def enter (disk : Disk) (here : List String) (name : String) : Except PathFault (List String) :=
  match disk.node? here with
  | some (.dir entries) =>
    if name = ".." then .ok here.dropLast
    else if isTooLong name then .error .nameTooLong
    else if (entries.lookup name).isSome then .ok (here ++ [name])
    else .error .missing
  | some _ => .error .notADirectory
  | none => .error .missing

def start (disk : Disk) (p : Path) : List String := if p.isAbsolute then [] else disk.home

def locate (disk : Disk) (p : Path) : Except PathFault (List String) :=
  p.names.foldlM disk.enter (disk.start p)

def find (disk : Disk) (p : Path) : Except PathFault Node := do
  match disk.node? (← disk.locate p) with
  | some node => .ok node
  | none => .error .missing

/-- The absolute path without `..`, with one slash before it. -/
def resolve (disk : Disk) (p : Path) : Path := ⟨.root, p.names.foldl Path.follow (disk.start p)⟩

/-- The entries of a directory; none if there is no directory. -/
def list (disk : Disk) (p : Path) : List (String × Node) :=
  match disk.find p with
  | .ok (.dir entries) => entries
  | _ => []

def readBytes (disk : Disk) (p : Path) : Except String (List UInt8) :=
  match disk.find p with
  | .ok node => node.reading
  | .error fault => .error fault.reason

mutual

/-- The number of entries and bytes in a tree. -/
def Node.size : Node → Nat
  | .file bytes | .special (.ok bytes) => bytes.length + 1
  | .special (.error _) => 1
  | .dir entries => sizeOfEntries entries + 1

def sizeOfEntries : List (String × Node) → Nat
  | [] => 0
  | (_, node) :: rest => node.size + sizeOfEntries rest

end

def size (disk : Disk) : Nat := sizeOfEntries disk.entries

/-! ### Changing the tree -/

/-- Enters a node under a name, in the place of the one before or at the end. -/
def putEntry (name : String) (node : Node) : List (String × Node) → List (String × Node)
  | [] => [(name, node)]
  | (n, old) :: rest => if n = name then (n, node) :: rest else (n, old) :: putEntry name node rest

/-- Enters a node at a place; directories on the way are made if they are missing. -/
def putAt (node : Node) (entries : List (String × Node)) : List String → List (String × Node)
  | [] => entries
  | [name] => putEntry name node entries
  | name :: names =>
    let inside := match entries.lookup name with
      | some (.dir entries) => entries
      | _ => []
    putEntry name (.dir (putAt node inside names)) entries

def put (disk : Disk) (names : List String) (node : Node) : Disk :=
  { disk with entries := putAt node disk.entries names }

/-! ### Comparing trees -/

mutual

/-- All regular files below a place with their names from there on. -/
def filesOf (inside : List String) : Node → List (List String × List UInt8)
  | .file bytes => [(inside, bytes)]
  | .special _ => []
  | .dir entries => filesOfEntries inside entries

def filesOfEntries (inside : List String) :
    List (String × Node) → List (List String × List UInt8)
  | [] => []
  | (name, node) :: rest => filesOf (inside ++ [name]) node ++ filesOfEntries inside rest

end

def filesBelow (disk : Disk) (place : List String) : List (List String × List UInt8) :=
  match disk.node? place with
  | some node => filesOf [] node
  | none => []

/-- The files of `after` below a place that `before` lacks or holds differently. -/
def changesBelow (place : List String) (before after : Disk) :
    List (List String × List UInt8) :=
  let old := before.filesBelow place
  (after.filesBelow place).filter fun (names, bytes) => old.lookup names != some bytes

/-- The changed files below the working directory. -/
def changes (before after : Disk) : List (List String × List UInt8) :=
  changesBelow before.home before after

end Disk

end GoIdl
