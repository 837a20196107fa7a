import GoIdl.Text.Lines

/-!
# Paths

A path is an anchor and a list of names. Empty names and `.` vanish when a path is read; `..` stays
until the path is resolved against a directory.
-/

namespace GoIdl.Disk

inductive Anchor where
  | relative
  | root
  /-- Two leading slashes, which are kept apart from one. -/
  | doubleRoot
  deriving DecidableEq, Repr

def Anchor.text : Anchor → String
  | .relative => ""
  | .root => "/"
  | .doubleRoot => "//"

structure Path where
  anchor : Anchor
  names : List String
  deriving DecidableEq, Repr

namespace Path

def current : Path := ⟨.relative, []⟩

def anchorOf (s : List Char) : Anchor :=
  match (s.takeWhile (· == '/')).length with
  | 0 => .relative
  | 2 => .doubleRoot
  | _ => .root

def ofString (s : String) : Path :=
  ⟨anchorOf s.toList, (Text.splitString '/' s).filter fun name => name != "" && name != "."⟩

def text (p : Path) : String :=
  if p.anchor = .relative ∧ p.names = [] then "."
  else p.anchor.text ++ "/".intercalate p.names

def isAbsolute (p : Path) : Bool := p.anchor != .relative

/-- `q` seen from `p`. -/
def append (p q : Path) : Path :=
  if q.isAbsolute then q else ⟨p.anchor, p.names ++ q.names⟩

def child (p : Path) (name : String) : Path := p.append (ofString name)

def parent (p : Path) : Path := ⟨p.anchor, p.names.dropLast⟩

/-- The last name; empty if there is none. -/
def name (p : Path) : String := p.names.getLastD ""

/-- The path and all that contain it, the nearest first. -/
def selfAndParents (p : Path) : List Path :=
  (List.range (p.names.length + 1)).reverse.map fun n => ⟨p.anchor, p.names.take n⟩

/-- The place that a name leads to from another place; `..` leads back. -/
def follow (place : List String) (name : String) : List String :=
  if name = ".." then place.dropLast else place ++ [name]

/-- The names of `p` below `base`. -/
def below? (base p : Path) : Option (List String) :=
  if base.anchor = p.anchor ∧ base.names.isPrefixOf p.names then
    some (p.names.drop base.names.length)
  else none

end Path

end GoIdl.Disk
