import Mathlib.Data.List.TakeDrop
import Mathlib.Data.List.TakeWhile

/-!
# Spans

A scanner takes what a list starts with as long as a test holds. It cuts the list into two parts: all of
the first one passes, and the second one is empty or starts with an element that fails.
-/

namespace GoIdl

variable {α : Type} {test : α → Bool} {s taken left : List α}

theorem span_eq_iff : s.span test = (taken, left) ↔
    s = taken ++ left ∧ (∀ c ∈ taken, test c = true) ∧ ∀ c ∈ left.head?, test c = false := by
  rw [List.span_eq_takeWhile_dropWhile]
  constructor
  · intro cut
    cases cut
    refine ⟨List.takeWhile_append_dropWhile.symm, fun c => List.mem_takeWhile_imp, fun c first => ?_⟩
    have stops := List.head?_dropWhile_not test s
    rwa [Option.mem_def.mp first] at stops
  · rintro ⟨rfl, passes, stops⟩
    rw [List.takeWhile_append_of_pos passes, List.dropWhile_append_of_pos passes]
    cases left with
    | nil => simp
    | cons c left => simp [stops c rfl]

theorem span_of_append (passes : ∀ c ∈ taken, test c = true) (stops : ∀ c ∈ left.head?, test c = false) :
    (taken ++ left).span test = (taken, left) :=
  span_eq_iff.mpr ⟨rfl, passes, stops⟩

theorem span_append (test : α → Bool) (s : List α) : (s.span test).1 ++ (s.span test).2 = s :=
  (span_eq_iff.mp (Prod.eta _)).1.symm

theorem span_passes (test : α → Bool) (s : List α) : ∀ c ∈ (s.span test).1, test c = true :=
  (span_eq_iff.mp (Prod.eta _)).2.1

theorem span_stops (test : α → Bool) (s : List α) : ∀ c ∈ (s.span test).2.head?, test c = false :=
  (span_eq_iff.mp (Prod.eta _)).2.2

end GoIdl
