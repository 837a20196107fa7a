import GoIdl.Json.Basic
import Mathlib.Data.List.Nodup

/-!
# Lists of members

Entering and looking up the members of a list with keys, and the lists whose keys are distinct.
-/

namespace GoIdl.Json

variable {α β : Type} {key other : String} {value : α} {members : List (String × α)}

def keys (members : List (String × α)) : List String := members.map (·.1)

@[simp] theorem find?_nil : find? key ([] : List (String × α)) = none := rfl

theorem find?_cons (k : String) (v : α) :
    find? key ((k, v) :: members) = if key = k then some v else find? key members := by
  unfold find?
  by_cases same : key = k
  · simp [same]
  · have different : (key == k) = false := beq_eq_false_iff_ne.mpr same
    simp [List.lookup_cons, different, same]

theorem find?_append (more : List (String × α)) :
    find? key (members ++ more) = (find? key members).or (find? key more) :=
  List.lookup_append

theorem find?_eq_none_iff : find? key members = none ↔ key ∉ keys members := by
  induction members with
  | nil => simp [keys]
  | cons entry rest ih =>
    obtain ⟨k, v⟩ := entry
    rw [find?_cons]
    by_cases same : key = k <;> simp_all [keys]

theorem find?_append_new (fresh : key ∉ keys members) {v : α} :
    find? other (members ++ [(key, v)]) = some value ↔
      find? other members = some value ∨ other = key ∧ v = value := by
  have absent := find?_eq_none_iff.mpr fresh
  rw [find?_append, find?_cons, find?_nil]
  by_cases same : other = key
  · subst same
    simp [absent]
  · simp [same]

theorem find?_isSome_iff : (find? key members).isSome ↔ key ∈ keys members := by
  rw [← not_iff_not, ← find?_eq_none_iff, Option.not_isSome_iff_eq_none]

theorem mem_of_find? (found : find? key members = some value) : (key, value) ∈ members := by
  obtain ⟨before, after, rfl, _⟩ := List.lookup_eq_some_iff.mp found
  simp

theorem find?_eq_some_iff (distinct : (keys members).Nodup) :
    find? key members = some value ↔ (key, value) ∈ members := by
  refine ⟨mem_of_find?, fun member => ?_⟩
  induction members with
  | nil => cases member
  | cons entry rest ih =>
    obtain ⟨k, v⟩ := entry
    obtain ⟨fresh, distinct⟩ := List.nodup_cons.mp distinct
    rw [find?_cons]
    rcases List.mem_cons.mp member with same | later
    · cases same
      simp
    · have different : key ≠ k := by
        rintro rfl
        exact fresh (List.mem_map.mpr ⟨_, later, rfl⟩)
      rw [if_neg different]
      exact ih distinct later

theorem find?_put (members : List (String × α)) :
    find? other (put key value members) = if other = key then some value else find? other members := by
  induction members with
  | nil => simp [put, find?_cons]
  | cons entry rest ih =>
    obtain ⟨k, v⟩ := entry
    unfold put
    split
    · rename_i same
      subst same
      simp only [find?_cons]
      split <;> rfl
    · rename_i different
      simp only [find?_cons, ih]
      by_cases first : other = k
      · subst first
        simp [different]
      · simp [first]

theorem put_of_not_mem (fresh : key ∉ keys members) :
    put key value members = members ++ [(key, value)] := by
  induction members with
  | nil => rfl
  | cons entry rest ih =>
    obtain ⟨k, v⟩ := entry
    simp only [keys, List.map_cons, List.mem_cons, not_or] at fresh
    rw [put, if_neg (Ne.symm fresh.1), ih fresh.2, List.cons_append]

theorem keys_put (members : List (String × α)) :
    keys (put key value members) =
      if key ∈ keys members then keys members else keys members ++ [key] := by
  induction members with
  | nil => rfl
  | cons entry rest ih =>
    obtain ⟨k, v⟩ := entry
    unfold put
    by_cases same : k = key
    · simp [same, keys]
    · have swapped : ¬ key = k := fun h => same h.symm
      have tail : List.map (·.1) (put key value rest) =
          if key ∈ keys rest then keys rest else keys rest ++ [key] := ih
      simp only [same, if_false, keys, List.map_cons, List.mem_cons, swapped, false_or]
      rw [tail]
      split <;> simp_all [keys]

theorem keys_put_nodup (key : String) (value : α) (distinct : (keys members).Nodup) :
    (keys (put key value members)).Nodup := by
  rw [keys_put]
  split
  · exact distinct
  · rename_i fresh
    rw [List.nodup_append]
    refine ⟨distinct, List.nodup_singleton _, ?_⟩
    intro k member k' last
    rw [List.mem_singleton] at last
    subst last
    rintro rfl
    exact fresh member

/-- What is entered comes in, and nothing else. -/
theorem mem_put {entry : String × α} (member : entry ∈ put key value members) :
    entry = (key, value) ∨ entry ∈ members := by
  induction members with
  | nil => exact .inl (List.mem_singleton.mp member)
  | cons first rest ih =>
    obtain ⟨k, v⟩ := first
    unfold put at member
    split at member
    · rename_i same
      subst same
      rcases List.mem_cons.mp member with rfl | later
      · exact .inl rfl
      · exact .inr (List.mem_cons_of_mem _ later)
    · rcases List.mem_cons.mp member with rfl | later
      · exact .inr List.mem_cons_self
      · exact (ih later).imp id (List.mem_cons_of_mem _)

/-! ### Entering several members -/

section

variable {entries : List (String × α)}

theorem mem_keys_foldl_put :
    key ∈ keys (entries.foldl (fun members entry => put entry.1 entry.2 members) members) ↔
      key ∈ keys members ∨ ∃ value, (key, value) ∈ entries := by
  induction entries generalizing members with
  | nil => simp
  | cons entry rest ih =>
    have first : key ∈ keys (put entry.1 entry.2 members) ↔ key ∈ keys members ∨ key = entry.1 := by
      rw [keys_put]
      split
      · rename_i known
        exact ⟨.inl, fun either => either.elim id fun same => same ▸ known⟩
      · simp
    rw [List.foldl_cons, ih, first, or_assoc]
    simp only [List.mem_cons, Prod.ext_iff, exists_or, exists_and_left, exists_eq, and_true]

theorem mem_of_find?_foldl_put
    (found : find? key (entries.foldl (fun members entry => put entry.1 entry.2 members) members) =
      some value) : find? key members = some value ∨ (key, value) ∈ entries := by
  induction entries generalizing members with
  | nil => exact .inl found
  | cons entry rest ih =>
    rcases ih found with before | later
    · rw [find?_put] at before
      split at before
      · rename_i same
        cases before
        exact .inr (same ▸ List.mem_cons_self)
      · exact .inl before
    · exact .inr (List.mem_cons_of_mem _ later)

end

/-! ### Changing the values -/

theorem keys_map (change : String → α → β) :
    keys (members.map fun (k, v) => (k, change k v)) = keys members := by
  simp [keys, Function.comp_def]

theorem find?_map (members : List (String × α)) (change : String → α → β) :
    find? key (members.map fun (k, v) => (k, change k v)) = (find? key members).map (change key) := by
  induction members with
  | nil => rfl
  | cons entry rest ih =>
    obtain ⟨k, v⟩ := entry
    simp only [List.map_cons, find?_cons, ih]
    split
    · rename_i same
      simp [same]
    · rfl

end GoIdl.Json
