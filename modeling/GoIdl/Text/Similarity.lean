import GoIdl.Text.Lines

/-!
# Similar words

Two words are similar if much of them is the same: their longest common part, and what the words
share before it and after it.
-/

namespace GoIdl.Text

/-- A part that two words share: where it starts in each of them, and its length. -/
structure Shared where
  left : Nat
  right : Nat
  length : Nat

def longestShared (s t : List Char) : Shared :=
  let starts := (List.range s.length).flatMap fun i => (List.range t.length).map fun j => (i, j)
  starts.foldl (fun best (i, j) =>
    let n := (commonStart (s.drop i) (t.drop j)).length
    if best.length < n then ⟨i, j, n⟩ else best) ⟨0, 0, 0⟩

/-- How many characters two words share. Every step takes characters from both, so their length is
enough `fuel`. -/
def sharedCount (fuel : Nat) (s t : List Char) : Nat :=
  match fuel with
  | 0 => 0
  | fuel + 1 =>
    let p := longestShared s t
    if p.length = 0 then 0
    else
      sharedCount fuel (s.take p.left) (t.take p.right) + p.length +
        sharedCount fuel (s.drop (p.left + p.length)) (t.drop (p.right + p.length))

/-- The shared characters counted in both words, and the characters of both. -/
def similarity (s t : String) : Nat × Nat :=
  let a := s.toList
  let b := t.toList
  (2 * sharedCount (a.length + 1) a b, a.length + b.length)

/-- Whether three fifths of two words are the same. -/
def similar (s t : String) : Bool :=
  let (shared, total) := similarity s t
  decide (3 * total ≤ 5 * shared)

end GoIdl.Text
