import GoIdl.Proofs.Text.Lines

/-!
# Trimmed texts

A text is trimmed at an end exactly if no blank stands there. Trimming joined lines at the start is
trimming the first line that is not blank, and a line feed at the end is trimmed off.
-/

namespace GoIdl.Text

variable {s t : List Char} {lines : List (List Char)}

theorem trimStart_eq_self_iff : trimStart s = s ↔ ∀ c ∈ s.head?, isBlank c = false := by
  cases s <;> simp [trimStart]

theorem trimEnd_eq_rdropWhile (s : List Char) : trimEnd s = s.rdropWhile isBlank :=
  dropEndWhile_eq_rdropWhile isBlank s

theorem trimEnd_eq_self_iff : trimEnd s = s ↔ ∀ c ∈ s.getLast?, isBlank c = false := by
  rw [trimEnd_eq_rdropWhile, List.rdropWhile_eq_self_iff]
  rcases List.eq_nil_or_concat s with rfl | ⟨before, last, rfl⟩ <;> simp

theorem trimEnd_trimEnd (s : List Char) : trimEnd (trimEnd s) = trimEnd s := by
  rw [trimEnd_eq_rdropWhile, trimEnd_eq_rdropWhile, List.rdropWhile_idempotent]

theorem isBlank_getLast?_trimEnd (s : List Char) : ∀ c ∈ (trimEnd s).getLast?, isBlank c = false :=
  trimEnd_eq_self_iff.mp (trimEnd_trimEnd s)

theorem isBlank_head?_trimStart (s : List Char) : ∀ c ∈ (trimStart s).head?, isBlank c = false := by
  intro c first
  have not := List.head?_dropWhile_not isBlank s
  rwa [show (s.dropWhile isBlank).head? = some c from first] at not

theorem trimStart_ne_nil (some : s ≠ []) (ends : ∀ c ∈ s.getLast?, isBlank c = false) :
    trimStart s ≠ [] := by
  intro none
  have blanks : ∀ c ∈ s, isBlank c = true := List.dropWhile_eq_nil_iff.mp none
  have last := List.getLast?_eq_some_getLast some
  have seen := ends _ last
  rw [blanks _ (List.getLast_mem some)] at seen
  cases seen

theorem trimStart_append (some : trimStart s ≠ []) (t : List Char) :
    trimStart (s ++ t) = trimStart s ++ t := by
  unfold trimStart at some ⊢
  rw [List.dropWhile_append, if_neg (List.isEmpty_iff.not.mpr some)]

theorem getLast?_trimStart (some : trimStart s ≠ []) : (trimStart s).getLast? = s.getLast? := by
  obtain ⟨before, whole⟩ : s.dropWhile isBlank <:+ s := List.dropWhile_suffix isBlank
  conv_rhs => rw [← whole]
  exact (List.getLast?_append_of_ne_nil before some).symm

theorem trim_append_blanks {blanks : List Char} (only : ∀ c ∈ blanks, isBlank c = true) :
    trim (s ++ blanks) = trim s := by
  have ended : trimEnd (s ++ blanks) = trimEnd s := dropEndWhile_append s only
  rw [← trim_trimEnd, ended, trim_trimEnd]

/-! ### Joined lines -/

theorem joinWith_singleton (separator s : List Char) : joinWith separator [s] = s := by
  simp [joinWith]

theorem joinWith_cons (separator first : List Char) (rest : List (List Char)) :
    joinWith separator (first :: rest) = first ++ rest.flatMap (separator ++ ·) := by
  induction rest generalizing first with
  | nil => simp [joinWith]
  | cons next rest ih =>
    have split := joinWith_append separator (List.cons_ne_nil first []) (List.cons_ne_nil next rest)
    rw [List.singleton_append, ih next] at split
    rw [split]
    simp [joinWith]

theorem trimStart_joinWith (separator : List Char) (seen : ∀ line ∈ lines.head?, trimStart line ≠ []) :
    trimStart (joinWith separator lines) = joinWith separator (lines.modifyHead trimStart) := by
  cases lines with
  | nil => rfl
  | cons line rest =>
    rw [List.modifyHead_cons, joinWith_cons, joinWith_cons, trimStart_append (seen line rfl)]

/-- Lines end as the last of them does, unless it is empty. -/
theorem getLast?_joinWith (separator : List Char) (filled : lines.getLast? ≠ some []) :
    (joinWith separator lines).getLast? = lines.getLast?.bind List.getLast? := by
  rcases List.eq_nil_or_concat lines with rfl | ⟨before, last, rfl⟩
  · rfl
  · have some : last ≠ [] := by simpa using filled
    rw [List.concat_eq_append, List.getLast?_concat, Option.bind_some]
    by_cases single : before = []
    · rw [single, List.nil_append, joinWith_singleton]
    · rw [joinWith_append separator single (List.cons_ne_nil last []), joinWith_singleton,
        List.getLast?_append_of_ne_nil _ some]

theorem trim_joinWith_empty (lines : List (List Char)) :
    trim (joinWith ['\n'] (lines ++ [[]])) = trim (joinWith ['\n'] lines) := by
  by_cases none : lines = []
  · rw [none]
    rfl
  · rw [joinWith_append ['\n'] none (List.cons_ne_nil [] []), joinWith_singleton, List.append_nil,
      trim_append_blanks (List.forall_mem_singleton.mpr rfl)]

theorem splitOn_eq_singleton {separator : Char} (apart : separator ∉ s) : splitOn separator s = [s] := by
  conv_lhs => rw [← joinWith_singleton [separator] s]
  exact splitOn_joinWith (List.cons_ne_nil s []) (by simpa using apart)

end GoIdl.Text
