import GoIdl.Disk.Links
import GoIdl.Failure

/-!
# Writing to the disk

Questions and changes that fail as the operating system reports it, with the path as it was given.
What is written goes through links: a text goes to the place where symbolic links lead, and it is
then the text of all names of the file there.
-/

namespace GoIdl.Disk

def PathFault.at (fault : PathFault) (p : Path) : DiskFault :=
  match fault with
  | missing => .missing p.text
  | notADirectory => .notADirectory p.text
  | nameTooLong => .nameTooLong (.ofBytes p.text)
  | tooManyLinks => .nameTooLong (.ofLinks p.text)

/-- Whether what has been found satisfies `test`. Only a name of too many bytes is a fault. -/
def passes (test : Node → Bool) (p : Path) : Except PathFault Node → Except Failure Bool
  | .ok node => .ok (test node)
  | .error .nameTooLong => .error (.disk (PathFault.nameTooLong.at p))
  | .error _ => .ok false

/-- Whether a path leads to a node that satisfies `test`. -/
def leadsTo (disk : Disk) (test : Node → Bool) (p : Path) : Except Failure Bool :=
  passes test p (disk.find p)

def isDir (disk : Disk) (p : Path) : Except Failure Bool := disk.leadsTo Node.isDir p

def isFile (disk : Disk) (p : Path) : Except Failure Bool := disk.leadsTo Node.isRegular p

/-- Whether a path leads to a directory, through links if need be. -/
def Links.isDir (links : Links) (disk : Disk) (p : Path) : Except Failure Bool :=
  passes Node.isDir p (links.find disk p)

/-! ### Directories -/

/-- Makes a directory. A symbolic link in its place is not followed. -/
def makeDir (disk : Disk) (p : Path) (links : Links := {}) : Except DiskFault Disk :=
  match p.names.getLast? with
  | none => .error (.fileExists p.text)
  | some name =>
    match links.locate disk p.parent >>= (links.stretch disk · [name]) with
    | .error fault => .error (fault.at p)
    | .ok (.turns ..) => .error (.fileExists p.text)
    | .ok (.arrives place) =>
      if (disk.node? place).isSome then .error (.fileExists p.text)
      else .ok (disk.put place (.dir []))

/-- A fault does not matter where the directory is there already. -/
def unlessDir (disk : Disk) (p : Path) (links : Links) (fault : DiskFault) :
    Except Failure Disk := do
  if ← links.isDir disk p then return disk else throw (.disk fault)

/-- Makes a directory and those above it as far as they are missing. The number of names in the
path bounds the climb. -/
def makeDirsWithin (depth : Nat) (disk : Disk) (p : Path) (links : Links) :
    Except Failure Disk :=
  match disk.makeDir p links with
  | .ok disk => .ok disk
  | .error (.missing path) =>
    match depth with
    | 0 => .error (.disk (.missing path))
    | depth + 1 => do
      let disk ← makeDirsWithin depth disk p.parent links
      match disk.makeDir p links with
      | .ok disk => return disk
      | .error (.missing path) => throw (.disk (.missing path))
      | .error fault => disk.unlessDir p links fault
  | .error fault => disk.unlessDir p links fault

def makeDirs (disk : Disk) (p : Path) (links : Links := {}) : Except Failure Disk :=
  makeDirsWithin p.names.length disk p links

/-! ### Texts -/

/-- Gives the regular files at some places other bytes. -/
def overwrite (disk : Disk) (bytes : List UInt8) (places : List (List String)) : Disk :=
  places.foldl (fun disk place =>
    if (disk.node? place).any Node.isRegular then disk.put place (.file bytes) else disk) disk

/-- Writes a text: in the place of the text before if there is a file, which all its names stand
for. A special file takes the text and stays as it is. -/
def writeText (disk : Disk) (p : Path) (text : String) (links : Links := {}) :
    Except Failure Disk :=
  let bytes := Text.encode text.toList
  match links.locate disk p with
  | .error fault => .error (.disk (fault.at p))
  | .ok place =>
    match disk.node? place with
    | none => .ok (disk.put place (.file bytes))
    | some (.file _) => .ok (disk.overwrite bytes (links.placesOf place))
    | some (.special _) => .ok disk
    | some (.dir _) => .error (.disk (.isADirectory p.text))

/-- Writes a text, making the directories above it first. -/
def writeInto (disk : Disk) (p : Path) (text : String) (links : Links := {}) :
    Except Failure Disk := do
  (← disk.makeDirs p.parent links).writeText p text links

end GoIdl.Disk
