/-!
# Sorting

Insertion sort by a key. Entries with equal keys keep their order.
-/

namespace GoIdl

def insertBy {α : Type} (le : α → α → Bool) (x : α) : List α → List α
  | [] => [x]
  | y :: ys => if le x y then x :: y :: ys else y :: insertBy le x ys

def sortBy {α : Type} (le : α → α → Bool) : List α → List α
  | [] => []
  | x :: xs => insertBy le x (sortBy le xs)

/-- Strings in the order of their characters' code points. -/
def stringLe (a b : String) : Bool := decide (a ≤ b)

def sortStrings : List String → List String := sortBy stringLe

/-- The first occurrence of every element. -/
def distinct {α : Type} [BEq α] (xs : List α) : List α :=
  xs.foldl (fun seen x => if seen.contains x then seen else seen ++ [x]) []

end GoIdl
