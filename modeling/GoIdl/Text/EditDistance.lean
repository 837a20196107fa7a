/-!
# Edit distance

The least number of insertions, deletions and substitutions of single characters that turn one
text into another, computed a row at a time: the row of a prefix of the longer text holds its
distances to all prefixes of the shorter one.
-/

namespace GoIdl.Text

/-- The rest of the row for one more character `c`. `left` is the entry just computed, `diagonal`
and the list hold the entries of the row above. -/
def extendRow (c : Char) (left diagonal : Nat) : List Char → List Nat → List Nat
  | d :: rest, above :: row =>
    let entry := min (min (above + 1) (left + 1)) (diagonal + if c = d then 0 else 1)
    entry :: extendRow c entry above rest row
  | _, _ => []

def nextRow (target : List Char) (row : List Nat) (c : Char) : List Nat :=
  match row with
  | [] => []
  | first :: rest => (first + 1) :: extendRow c (first + 1) first target rest

/-- The last entry of the row of all of `source`. -/
def lastEntry (source target : List Char) : Nat :=
  (source.foldl (nextRow target) (List.range (target.length + 1))).getLastD 0

/-- The rows run along the shorter of the two texts. -/
def editDistance (source target : List Char) : Nat :=
  let (long, short) :=
    if source.length < target.length then (target, source) else (source, target)
  if short.isEmpty then long.length else lastEntry long short

end GoIdl.Text
