import GoIdl.Definition.Tree
import GoIdl.Disk.Write

/-!
# Exporting definitions
-/

namespace GoIdl.Definition

/-- Writes a definition as JSON into a file, with a line break at its end. -/
def exportTo (d : Definition) (disk : Disk) (target : Disk.Path) : Except Failure Disk :=
  disk.writeInto target (d.text defaultLayout ++ "\n")

end GoIdl.Definition
