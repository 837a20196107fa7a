import GoIdl.Text.EditDistance
import Mathlib.Order.Bounds.Basic

/-!
# Edit scripts

A script turns a text into another one character at a time. The rows compute the length of a shortest
script: every entry is the distance of two prefixes, which no script is shorter than and some script is
as long as. Being the length of shortest scripts, the distance is a metric.
-/

namespace GoIdl.Text

/-! ### Scripts -/

/-- One character is inserted, deleted or replaced. -/
inductive Edit : List Char → List Char → Prop where
  | insert (before after : List Char) (c : Char) : Edit (before ++ after) (before ++ c :: after)
  | delete (before after : List Char) (c : Char) : Edit (before ++ c :: after) (before ++ after)
  | replace (before after : List Char) (c d : Char) :
      Edit (before ++ c :: after) (before ++ d :: after)

/-- So many edits, one after the other, turn one text into another. -/
inductive Edits : Nat → List Char → List Char → Prop where
  | none (s : List Char) : Edits 0 s s
  | step {n : Nat} {s t u : List Char} (first : Edit s t) (rest : Edits n t u) : Edits (n + 1) s u

variable {s t u : List Char} {c d : Char} {n m : Nat}

namespace Edit

theorem symm (edit : Edit s t) : Edit t s := by
  cases edit with
  | insert before after c => exact .delete before after c
  | delete before after c => exact .insert before after c
  | replace before after c d => exact .replace before after d c

theorem cons (edit : Edit s t) (c : Char) : Edit (c :: s) (c :: t) := by
  cases edit with
  | insert before after d => exact .insert (c :: before) after d
  | delete before after d => exact .delete (c :: before) after d
  | replace before after d e => exact .replace (c :: before) after d e

theorem reverse (edit : Edit s t) : Edit s.reverse t.reverse := by
  cases edit with
  | insert before after c => simpa using Edit.insert after.reverse before.reverse c
  | delete before after c => simpa using Edit.delete after.reverse before.reverse c
  | replace before after c d => simpa using Edit.replace after.reverse before.reverse c d

end Edit

namespace Edits

theorem single (edit : Edit s t) : Edits 1 s t := .step edit (.none t)

theorem trans (first : Edits n s t) (second : Edits m t u) : Edits (n + m) s u := by
  induction first with
  | none => rwa [Nat.zero_add]
  | step edit _ ih =>
    rw [Nat.succ_add]
    exact .step edit (ih second)

theorem symm (edits : Edits n s t) : Edits n t s := by
  induction edits with
  | none s => exact .none s
  | step edit _ ih => exact ih.trans (single edit.symm)

theorem map (change : List Char → List Char) (kept : ∀ {s t}, Edit s t → Edit (change s) (change t))
    (edits : Edits n s t) : Edits n (change s) (change t) := by
  induction edits with
  | none s => exact .none _
  | step edit _ ih => exact .step (kept edit) ih

theorem cons (edits : Edits n s t) (c : Char) : Edits n (c :: s) (c :: t) :=
  edits.map (c :: ·) (·.cons c)

theorem reverse_iff : Edits n s.reverse t.reverse ↔ Edits n s t := by
  constructor
  · intro edits
    simpa using edits.map List.reverse Edit.reverse
  · exact map List.reverse Edit.reverse

theorem either (first : Edits n s t) (second : Edits m s t) : Edits (min n m) s t := by
  rw [Nat.min_def]
  split
  · exact first
  · exact second

theorem symm_iff : Edits n t s ↔ Edits n s t := ⟨symm, symm⟩

theorem eq_of_zero (edits : Edits 0 s t) : s = t := by
  cases edits
  rfl

end Edits

/-! ### Distances -/

/-- The distance of two texts by their first characters. -/
def distance : List Char → List Char → Nat
  | [], t => t.length
  | s, [] => s.length
  | c :: s, d :: t =>
    min (min (distance s (d :: t) + 1) (distance (c :: s) t + 1))
      (distance s t + if c = d then 0 else 1)
termination_by s t => s.length + t.length

@[simp] theorem distance_nil_left (t : List Char) : distance [] t = t.length := by
  rw [distance]

@[simp] theorem distance_nil_right (s : List Char) : distance s [] = s.length := by
  cases s <;> simp [distance]

theorem distance_cons_cons (c d : Char) (s t : List Char) : distance (c :: s) (d :: t) =
    min (min (distance s (d :: t) + 1) (distance (c :: s) t + 1))
      (distance s t + if c = d then 0 else 1) := by
  rw [distance]

theorem distance_self (s : List Char) : distance s s = 0 := by
  induction s with
  | nil => rw [distance_nil_left, List.length_nil]
  | cons c s ih => simp [distance_cons_cons, ih]

theorem edits_length (t : List Char) : Edits t.length [] t := by
  induction t with
  | nil => exact .none []
  | cons d t ih => exact .step (.insert [] [] d) (ih.cons d)

theorem edits_distance (s t : List Char) : Edits (distance s t) s t := by
  fun_induction distance s t with
  | case1 t => exact edits_length t
  | case2 s some => exact (edits_length s).symm
  | case3 c s d t deleted inserted both =>
    have delete : Edits (distance s (d :: t) + 1) (c :: s) (d :: t) := .step (.delete [] s c) deleted
    have insert : Edits (distance (c :: s) t + 1) (c :: s) (d :: t) :=
      inserted.trans (.single (.insert [] t d))
    have align : Edits (distance s t + if c = d then 0 else 1) (c :: s) (d :: t) := by
      split
      · rename_i same
        exact same ▸ both.cons c
      · exact .step (.replace [] s c d) (both.cons d)
    exact (delete.either insert).either align

/-- One edit before what is common changes the distance by one at most. -/
theorem distance_cons_le (near : ∀ u, distance s u ≤ distance t u + 1) (c : Char) (u : List Char) :
    distance (c :: s) u ≤ distance (c :: t) u + 1 := by
  induction u with
  | nil => simpa using near []
  | cons d u ih =>
    have whole := near (d :: u)
    have part := near u
    rw [distance_cons_cons, distance_cons_cons]
    omega

theorem distance_le_cons_right (s u : List Char) (d : Char) : distance s (d :: u) ≤ distance s u + 1 := by
  cases s with
  | nil => simp
  | cons c s =>
    rw [distance_cons_cons]
    omega

theorem distance_le_cons_left (c : Char) (s u : List Char) : distance (c :: s) u ≤ distance s u + 1 := by
  cases u with
  | nil => simp
  | cons d u =>
    rw [distance_cons_cons]
    omega

theorem distance_le_of_cons (c : Char) (s u : List Char) : distance s u ≤ distance (c :: s) u + 1 := by
  induction u with
  | nil =>
    rw [distance_nil_right, distance_nil_right, List.length_cons]
    omega
  | cons d u ih =>
    have longer := distance_le_cons_right s u d
    rw [distance_cons_cons]
    omega

theorem distance_replace_le (c d : Char) (s u : List Char) :
    distance (c :: s) u ≤ distance (d :: s) u + 1 := by
  induction u with
  | nil => simp
  | cons e u ih =>
    rw [distance_cons_cons, distance_cons_cons]
    split <;> split <;> omega

theorem distance_append_le (before : List Char) (near : ∀ u, distance s u ≤ distance t u + 1) :
    ∀ u, distance (before ++ s) u ≤ distance (before ++ t) u + 1 := by
  induction before with
  | nil => exact near
  | cons c before ih => exact distance_cons_le ih c

theorem distance_le_of_edit (edit : Edit s t) : ∀ u, distance s u ≤ distance t u + 1 := by
  cases edit with
  | insert before after c => exact distance_append_le before (distance_le_of_cons c after)
  | delete before after c => exact distance_append_le before (distance_le_cons_left c after)
  | replace before after c d => exact distance_append_le before (distance_replace_le c d after)

theorem distance_le_of_edits (edits : Edits n s t) : distance s t ≤ n := by
  induction edits with
  | none s => exact (distance_self s).le
  | step edit _ ih => exact (distance_le_of_edit edit _).trans (Nat.succ_le_succ ih)

theorem distance_isLeast (s t : List Char) : IsLeast {n | Edits n s t} (distance s t) :=
  ⟨edits_distance s t, fun _ => distance_le_of_edits⟩

/-! ### Rows -/

/-- The distance by the last characters, as the rows compute it. -/
def endDistance (s t : List Char) : Nat := distance s.reverse t.reverse

theorem endDistance_concat (s t : List Char) (c d : Char) : endDistance (s ++ [c]) (t ++ [d]) =
    min (min (endDistance s (t ++ [d]) + 1) (endDistance (s ++ [c]) t + 1))
      (endDistance s t + if c = d then 0 else 1) := by
  simp only [endDistance, List.reverse_append, List.reverse_singleton, List.singleton_append]
  exact distance_cons_cons c d s.reverse t.reverse

/-- The distances of `s` to a text that is continued one character at a time. -/
def rowFrom (s done : List Char) : List Char → List Nat
  | [] => []
  | d :: rest => endDistance s (done ++ [d]) :: rowFrom s (done ++ [d]) rest

/-- The distances of `s` to all prefixes of a text, the empty one first. -/
def row (s target : List Char) : List Nat := endDistance s [] :: rowFrom s [] target

theorem extendRow_eq (s done rest : List Char) (c : Char) :
    extendRow c (endDistance (s ++ [c]) done) (endDistance s done) rest (rowFrom s done rest) =
      rowFrom (s ++ [c]) done rest := by
  induction rest generalizing done with
  | nil => rfl
  | cons d rest ih =>
    rw [rowFrom, extendRow, ← endDistance_concat, ih, rowFrom]

theorem nextRow_row (s target : List Char) (c : Char) :
    nextRow target (row s target) c = row (s ++ [c]) target := by
  have first : endDistance s [] + 1 = endDistance (s ++ [c]) [] := by simp [endDistance]
  rw [row, nextRow, first, extendRow_eq, row]

theorem foldl_nextRow (before s target : List Char) :
    s.foldl (nextRow target) (row before target) = row (before ++ s) target := by
  induction s generalizing before with
  | nil => rw [List.foldl_nil, List.append_nil]
  | cons c s ih => rw [List.foldl_cons, nextRow_row, ih, List.append_assoc, List.singleton_append]

theorem endDistance_nil_left (t : List Char) : endDistance [] t = t.length := by
  simp [endDistance]

theorem rowFrom_nil (done rest : List Char) :
    rowFrom [] done rest = List.range' (done.length + 1) rest.length := by
  induction rest generalizing done with
  | nil => rfl
  | cons d rest ih =>
    rw [rowFrom, ih, endDistance_nil_left, List.length_append, List.length_singleton, List.length_cons,
      List.range'_succ]

theorem row_nil (target : List Char) : row [] target = List.range (target.length + 1) := by
  rw [row, rowFrom_nil, endDistance_nil_left, List.range_eq_range', List.range'_succ, List.length_nil]

theorem getLastD_rowFrom (s done rest : List Char) :
    (rowFrom s done rest).getLastD (endDistance s done) = endDistance s (done ++ rest) := by
  induction rest generalizing done with
  | nil => rw [rowFrom, List.getLastD_nil, List.append_nil]
  | cons d rest ih => rw [rowFrom, List.getLastD_cons, ih, List.append_assoc, List.singleton_append]

theorem getLastD_row (s target : List Char) : (row s target).getLastD 0 = endDistance s target := by
  rw [row, List.getLastD_cons, getLastD_rowFrom, List.nil_append]

theorem lastEntry_eq (s t : List Char) : lastEntry s t = endDistance s t := by
  rw [lastEntry, ← row_nil, foldl_nextRow, getLastD_row, List.nil_append]

theorem endDistance_isLeast (s t : List Char) : IsLeast {n | Edits n s t} (endDistance s t) := by
  have least := distance_isLeast s.reverse t.reverse
  simp only [Edits.reverse_iff] at least
  exact least

/-! ### The edit distance -/

/-- No script is shorter than the edit distance, and some script is as long. -/
theorem editDistance_isLeast (s t : List Char) : IsLeast {n | Edits n s t} (editDistance s t) := by
  have both : ∀ long short : List Char, IsLeast {n | Edits n long short}
      (if short.isEmpty then long.length else lastEntry long short) := by
    intro long short
    split
    · rename_i empty
      rw [List.isEmpty_iff.mp empty, ← distance_nil_right]
      exact distance_isLeast long []
    · rw [lastEntry_eq]
      exact endDistance_isLeast long short
  unfold editDistance
  split
  · rename_i long short exchanged
    split at exchanged
    · cases exchanged
      simpa only [Edits.symm_iff] using both t s
    · cases exchanged
      exact both s t

example : editDistance "tpye".toList "type".toList = 2 := by decide

theorem editDistance_le_iff : editDistance s t ≤ n ↔ ∃ m ≤ n, Edits m s t := by
  obtain ⟨script, least⟩ := editDistance_isLeast s t
  constructor
  · intro few
    exact ⟨_, few, script⟩
  · rintro ⟨m, few, edits⟩
    exact (least edits).trans few

theorem editDistance_comm (s t : List Char) : editDistance s t = editDistance t s := by
  refine (editDistance_isLeast s t).unique ?_
  simpa only [Edits.symm_iff] using editDistance_isLeast t s

theorem editDistance_eq_zero_iff : editDistance s t = 0 ↔ s = t := by
  constructor
  · intro zero
    have script := (editDistance_isLeast s t).1
    rw [zero] at script
    exact script.eq_of_zero
  · rintro rfl
    exact Nat.le_zero.mp ((editDistance_isLeast s s).2 (.none s))

theorem editDistance_triangle (s t u : List Char) :
    editDistance s u ≤ editDistance s t + editDistance t u :=
  (editDistance_isLeast s u).2 ((editDistance_isLeast s t).1.trans (editDistance_isLeast t u).1)

end GoIdl.Text
