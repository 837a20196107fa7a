import GoIdl.Order
import Mathlib.Data.List.Sort

/-!
# Sorting

Sorting by a name arranges the entries in ascending order and keeps the order of entries with equal
names, so leaving entries out and sorting can change places.
-/

namespace GoIdl

variable {α : Type} {le : α → α → Bool}

theorem insertBy_eq_orderedInsert (x : α) (xs : List α) :
    insertBy le x xs = xs.orderedInsert (fun a b => le a b = true) x := by
  induction xs with
  | nil => rfl
  | cons y ys ih => rw [insertBy, List.orderedInsert_cons, ih]

theorem sortBy_eq_insertionSort (xs : List α) :
    sortBy le xs = xs.insertionSort fun a b => le a b = true := by
  induction xs with
  | nil => rfl
  | cons x xs ih => rw [sortBy, List.insertionSort_cons, ih, insertBy_eq_orderedInsert]

theorem sortBy_perm (xs : List α) : (sortBy le xs).Perm xs := by
  rw [sortBy_eq_insertionSort]
  exact List.perm_insertionSort _ xs

@[simp] theorem mem_sortBy {x : α} {xs : List α} : x ∈ sortBy le xs ↔ x ∈ xs :=
  (sortBy_perm xs).mem_iff

theorem insertBy_of_le_all {x : α} {xs : List α} (below : ∀ y ∈ xs, le x y) :
    insertBy le x xs = x :: xs := by
  cases xs with
  | nil => rfl
  | cons y ys => rw [insertBy, if_pos (below y List.mem_cons_self)]

section

variable (total : ∀ a b, le a b ∨ le b a) (trans : ∀ a b c, le a b → le b c → le a c)

include total trans

theorem sortBy_sorted (xs : List α) : (sortBy le xs).Pairwise fun a b => le a b = true := by
  rw [sortBy_eq_insertionSort]
  have : Std.Total fun a b => le a b = true := ⟨total⟩
  have : IsTrans α fun a b => le a b = true := ⟨trans⟩
  exact List.pairwise_insertionSort _ xs

omit total in
theorem filter_insertBy (keep : α → Bool) (x : α) {xs : List α}
    (sorted : xs.Pairwise fun a b => le a b = true) :
    (insertBy le x xs).filter keep =
      if keep x then insertBy le x (xs.filter keep) else xs.filter keep := by
  induction xs with
  | nil => by_cases kept : keep x <;> simp [insertBy, kept]
  | cons y ys ih =>
    obtain ⟨first, sorted⟩ := List.pairwise_cons.mp sorted
    by_cases before : le x y
    · have below : ∀ z ∈ (y :: ys).filter keep, le x z := by
        intro z member
        rcases List.mem_cons.mp (List.mem_filter.mp member).1 with rfl | later
        · exact before
        · exact trans x y z before (first z later)
      rw [insertBy, if_pos before, insertBy_of_le_all below, List.filter_cons]
    · rw [insertBy, if_neg before, List.filter_cons, ih sorted, List.filter_cons]
      by_cases kept : keep y <;> by_cases added : keep x <;> simp [kept, added, insertBy, before]

theorem filter_sortBy (keep : α → Bool) (xs : List α) :
    (sortBy le xs).filter keep = sortBy le (xs.filter keep) := by
  induction xs with
  | nil => rfl
  | cons x xs ih =>
    rw [sortBy, filter_insertBy trans keep x (sortBy_sorted total trans xs), ih, List.filter_cons]
    by_cases kept : keep x <;> simp [kept, sortBy]

end

/-! ### Names -/

theorem stringLe_total (a b : String) : stringLe a b ∨ stringLe b a := by
  simpa [stringLe] using String.le_total a b

theorem stringLe_trans (a b c : String) (first : stringLe a b) (second : stringLe b c) :
    stringLe a c := by
  simp only [stringLe, decide_eq_true_eq] at *
  exact String.le_trans first second

theorem lt_of_stringLe_of_ne {a b : String} (le : stringLe a b) (ne : a ≠ b) : a < b := by
  have le : a ≤ b := of_decide_eq_true le
  apply String.not_le.mp
  intro back
  exact ne (String.le_antisymm le back)

theorem filter_sortBy_name (name : α → String) (keep : α → Bool) (xs : List α) :
    (sortBy (fun a b => stringLe (name a) (name b)) xs).filter keep =
      sortBy (fun a b => stringLe (name a) (name b)) (xs.filter keep) :=
  filter_sortBy (fun a b => stringLe_total (name a) (name b))
    (fun a b c => stringLe_trans (name a) (name b) (name c)) keep xs

/-- Entries in order of their names ascend strictly exactly if no two of them share a name. -/
theorem sortBy_name_strict_iff (name : α → String) (xs : List α) :
    (sortBy (fun a b => stringLe (name a) (name b)) xs).Pairwise (fun a b => name a < name b) ↔
      (xs.map name).Nodup := by
  have same : ((sortBy (fun a b => stringLe (name a) (name b)) xs).map name).Nodup ↔
      (xs.map name).Nodup := ((sortBy_perm xs).map name).nodup_iff
  have sorted := sortBy_sorted (fun a b => stringLe_total (name a) (name b))
    (fun a b c => stringLe_trans (name a) (name b) (name c)) xs
  rw [← same, List.nodup_iff_pairwise_ne, List.pairwise_map]
  constructor
  · exact List.Pairwise.imp String.ne_of_lt
  · intro distinct
    refine (sorted.and distinct).imp ?_
    rintro a b ⟨le, ne⟩
    exact lt_of_stringLe_of_ne le ne

/-! ### Lists that agree entry by entry -/

section

variable {β : Type} {le' : β → β → Bool} {rel : α → β → Prop}
  (agree : ∀ a b, rel a b → ∀ a' b', rel a' b' → le a a' = le' b b')

include agree

theorem insertBy_forall₂ {x : α} {y : β} {xs : List α} {ys : List β} (here : rel x y)
    (paired : List.Forall₂ rel xs ys) : List.Forall₂ rel (insertBy le x xs) (insertBy le' y ys) := by
  induction paired with
  | nil => exact .cons here .nil
  | cons first rest ih =>
    rw [insertBy, insertBy, agree _ _ here _ _ first]
    split
    · exact .cons here (.cons first rest)
    · exact .cons first ih

theorem sortBy_forall₂ {xs : List α} {ys : List β} (paired : List.Forall₂ rel xs ys) :
    List.Forall₂ rel (sortBy le xs) (sortBy le' ys) := by
  induction paired with
  | nil => exact .nil
  | cons here _ ih => exact insertBy_forall₂ agree here ih

end

theorem sortStrings_perm {xs ys : List String} (perm : xs.Perm ys) :
    sortStrings xs = sortStrings ys := by
  have perm : (sortStrings xs).Perm (sortStrings ys) :=
    (sortBy_perm xs).trans (perm.trans (sortBy_perm ys).symm)
  refine perm.eq_of_pairwise ?_ (sortBy_sorted stringLe_total stringLe_trans xs)
    (sortBy_sorted stringLe_total stringLe_trans ys)
  intro a b _ _ first second
  exact String.le_antisymm (of_decide_eq_true first) (of_decide_eq_true second)

end GoIdl
