import GoIdl.Disk.Basic
import GoIdl.Failure

/-!
# Reading texts from the disk
-/

namespace GoIdl.Disk

/-- The text of a file, which has to be UTF-8 throughout. -/
def readText (disk : Disk) (p : Path) : Except Failure (List Char) :=
  match disk.readBytes p with
  | .error reason => .error (.definition { cause := .unreadable p.text reason })
  | .ok bytes =>
    match Text.decode bytes with
    | .ok text => .ok text
    | .error (fault, start, covered) =>
      .error (.decoding { start, bytes := covered, reason := fault.message })

end GoIdl.Disk
