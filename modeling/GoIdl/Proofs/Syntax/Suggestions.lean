import GoIdl.Proofs.Spans
import GoIdl.Proofs.Text.EditScripts
import GoIdl.Syntax.Diagnosis

/-!
# Suggested keywords

A name that starts a line may be a misspelt keyword: it is taken for one if at most two edits make it a
keyword. The one that is suggested is the first of those that the fewest edits lead to.
-/

namespace GoIdl.Syntax.Diagnosis

variable {line blanks word rest : List Char} {k : String} {ks : List String}

/-! ### The word that a line starts with -/

/-- After blanks a line has a word of ASCII letters, digits and underscores, of which no digit is the
first, and no letter or digit of any script follows. -/
structure LeadsWith (line blanks word rest : List Char) : Prop where
  whole : line = blanks ++ (word ++ rest)
  blank : ∀ c ∈ blanks, Text.isBlank c = true
  first : ∃ c ∈ word.head?, isAsciiLetter c = true
  plain : ∀ c ∈ word, (c.isAlphanum || c == '_') = true
  ends : ∀ c ∈ rest.head?, Text.isWord c = false

theorem toNat_of_plain {c : Char} (plain : (c.isAlphanum || c == '_') = true) :
    48 ≤ c.toNat ∧ c.toNat ≤ 122 := by
  delta Char.isAlphanum Char.isAlpha Char.isUpper Char.isLower Char.isDigit at plain
  simp only [Bool.or_eq_true, Bool.and_eq_true, decide_eq_true_eq, beq_iff_eq, UInt32.le_iff_toNat_le,
    ge_iff_le] at plain
  rcases plain with plain | rfl
  · have value : c.toNat = c.val.toNat := rfl
    have digits : '0'.val.toNat = 48 ∧ '9'.val.toNat = 57 := by decide
    have upper : 'A'.val.toNat = 65 ∧ 'Z'.val.toNat = 90 := by decide
    have lower : 'a'.val.toNat = 97 ∧ 'z'.val.toNat = 122 := by decide
    omega
  · decide

theorem not_isBlank_of_isAsciiLetter {c : Char} (letter : isAsciiLetter c = true) :
    Text.isBlank c = false := by
  have range : 48 ≤ c.toNat ∧ c.toNat ≤ 122 := by
    refine toNat_of_plain ?_
    rw [isAsciiLetter, Bool.or_eq_true] at letter
    simp only [Char.isAlphanum, Bool.or_eq_true]
    exact letter.imp_left .inl
  simp only [Text.isBlank, decide_eq_false_iff_not]
  omega

theorem isWord_of_plain {c : Char} (plain : (c.isAlphanum || c == '_') = true) :
    Text.isWord c = true := by
  have ascii : Text.isAscii c = true := by
    have range := toNat_of_plain plain
    simp only [Text.isAscii, decide_eq_true_eq]
    omega
  rw [Text.isWord, Text.isAlphanumeric, ascii, if_pos rfl, Bool.or_comm]
  exact plain

theorem leadingWord?_eq_some_iff :
    leadingWord? line = some (blanks, word, rest) ↔ LeadsWith line blanks word rest := by
  constructor
  · intro found
    unfold leadingWord? at found
    split at found
    rename_i blanks' after first
    split at found
    rename_i word' rest' second
    obtain ⟨whole, blank, -⟩ := span_eq_iff.mp first
    obtain ⟨cut, plain, -⟩ := span_eq_iff.mp second
    split at found
    · rename_i c more
      split at found
      · rename_i leads
        cases found
        rw [Bool.and_eq_true, Bool.not_eq_true'] at leads
        refine ⟨cut ▸ whole, blank, ⟨c, rfl, leads.1⟩, plain, fun d next => ?_⟩
        simpa [Option.any, show rest.head? = some d from next] using leads.2
      · cases found
    · cases found
  · rintro ⟨whole, blank, ⟨c, first, letter⟩, plain, ends⟩
    obtain ⟨more, rfl⟩ := List.head?_eq_some_iff.mp first
    have before : line.span Text.isBlank = (blanks, c :: more ++ rest) :=
      span_eq_iff.mpr ⟨whole, blank, by simpa using not_isBlank_of_isAsciiLetter letter⟩
    have through : (c :: more ++ rest).span (fun c => c.isAlphanum || c == '_') = (c :: more, rest) := by
      refine span_of_append plain fun d next => Bool.eq_false_iff.mpr fun part => ?_
      exact Bool.false_ne_true ((ends d next).symm.trans (isWord_of_plain part))
    have closed : rest.head?.any Text.isWord = false := by
      cases rest with
      | nil => rfl
      | cons d rest => exact ends d rfl
    rw [leadingWord?, before]
    simp only [through, letter, closed]
    rfl

/-! ### The nearest keyword -/

/-- No keyword is nearer to the word, and none before it is as near. -/
def FirstNearest (word : List Char) (k : String) (ks : List String) : Prop :=
  ∃ before after, ks = before ++ k :: after ∧
    (∀ other ∈ before, Text.editDistance word k.toList < Text.editDistance word other.toList) ∧
    ∀ other ∈ after, Text.editDistance word k.toList ≤ Text.editDistance word other.toList

theorem FirstNearest.mem (nearest : FirstNearest word k ks) : k ∈ ks := by
  obtain ⟨before, after, rfl, -⟩ := nearest
  simp

theorem FirstNearest.le (nearest : FirstNearest word k ks) :
    ∀ other ∈ ks, Text.editDistance word k.toList ≤ Text.editDistance word other.toList := by
  obtain ⟨before, after, rfl, earlier, later⟩ := nearest
  intro other member
  rcases List.mem_append.mp member with member | member
  · exact (earlier other member).le
  · rcases List.mem_cons.mp member with rfl | member
    · exact le_rfl
    · exact later other member

theorem nearest_cons (word : List Char) (k : String) (some : ks ≠ []) : nearest word (k :: ks) =
    if Text.editDistance word k.toList ≤ (nearest word ks).2 then (k, Text.editDistance word k.toList)
    else nearest word ks := by
  cases ks with
  | nil => exact absurd rfl some
  | cons next ks => rfl

theorem exists_nearest (word : List Char) (some : ks ≠ []) :
    ∃ k, nearest word ks = (k, Text.editDistance word k.toList) ∧ FirstNearest word k ks := by
  induction ks with
  | nil => exact absurd rfl some
  | cons first ks ih =>
    by_cases single : ks = []
    · subst single
      exact ⟨first, rfl, [], [], rfl, nofun, nofun⟩
    · obtain ⟨k, found, nearest⟩ := ih single
      rw [nearest_cons word first single, found]
      split
      · rename_i near
        exact ⟨first, rfl, [], ks, rfl, nofun, fun other member => near.trans (nearest.le other member)⟩
      · rename_i far
        obtain ⟨before, after, rfl, earlier, later⟩ := nearest
        refine ⟨k, rfl, first :: before, after, rfl, ?_, later⟩
        exact List.forall_mem_cons.mpr ⟨not_le.mp far, earlier⟩

theorem FirstNearest.nearest_eq (first : FirstNearest word k ks) :
    nearest word ks = (k, Text.editDistance word k.toList) := by
  obtain ⟨before, after, rfl, earlier, later⟩ := first
  induction before with
  | nil =>
    by_cases single : after = []
    · rw [single]
      rfl
    · obtain ⟨other, found, nearest⟩ := exists_nearest word single
      rw [List.nil_append, nearest_cons word k single, found, if_pos (later other nearest.mem)]
  | cons other before ih =>
    obtain ⟨far, earlier⟩ := List.forall_mem_cons.mp earlier
    rw [List.cons_append, nearest_cons word other (by simp), ih earlier, if_neg (not_le.mpr far)]

/-! ### Suggestions -/

/-- A line starts with a word. -/
def LeadingWord (line word : List Char) : Prop := ∃ blanks rest, LeadsWith line blanks word rest

theorem keywords_ne_nil : keywords ≠ [] := by decide

theorem suggestion?_eq_some_iff {t : Token} : suggestion? line t = some k ↔
    t.terminal = .name ∧ LeadingWord line t.text.toList ∧ t.text ∉ keywords ∧
      Text.editDistance t.text.toList k.toList ≤ 2 ∧ FirstNearest t.text.toList k keywords := by
  unfold suggestion?
  split
  · rename_i blanks word rest named found
    obtain ⟨best, shown, first⟩ := exists_nearest word keywords_ne_nil
    rw [shown]
    constructor
    · intro suggested
      simp only [Option.ite_none_right_eq_some, Option.some.injEq] at suggested
      obtain ⟨⟨rfl, other, near⟩, rfl⟩ := suggested
      exact ⟨named, ⟨blanks, rest, leadingWord?_eq_some_iff.mp found⟩, by simpa using other, near, first⟩
    · rintro ⟨-, ⟨blanks', rest', leads⟩, other, near, first'⟩
      cases found.symm.trans (leadingWord?_eq_some_iff.mpr leads)
      cases shown.symm.trans first'.nearest_eq
      exact if_pos ⟨rfl, by simpa using other, near⟩
  · rename_i without
    refine iff_of_false nofun ?_
    rintro ⟨named, ⟨blanks, rest, leads⟩, -⟩
    exact without blanks _ rest named (leadingWord?_eq_some_iff.mpr leads)

/-- The edit distance is the length of a shortest script that makes one text of the other, and so a
metric. A keyword is suggested for a name that its line starts with and that is no keyword, exactly if at
most two edits make it a keyword; it is the first of the nearest ones. -/
theorem suggested_keyword_nearest :
    (∀ s t, IsLeast {n | Text.Edits n s t} (Text.editDistance s t)) ∧
    (∀ s t, Text.editDistance s t = Text.editDistance t s) ∧
    (∀ s t, Text.editDistance s t = 0 ↔ s = t) ∧
    (∀ s t u, Text.editDistance s u ≤ Text.editDistance s t + Text.editDistance t u) ∧
    ∀ line (t : Token) k, suggestion? line t = some k ↔
      t.terminal = .name ∧ LeadingWord line t.text.toList ∧ t.text ∉ keywords ∧
        (∃ other ∈ keywords, ∃ n ≤ 2, Text.Edits n t.text.toList other.toList) ∧
        FirstNearest t.text.toList k keywords := by
  refine ⟨Text.editDistance_isLeast, Text.editDistance_comm, fun _ _ => Text.editDistance_eq_zero_iff,
    Text.editDistance_triangle, fun line t k => ?_⟩
  rw [suggestion?_eq_some_iff]
  refine and_congr_right fun _ => and_congr_right fun _ => and_congr_right fun _ =>
    and_congr_left fun nearest => ?_
  rw [Text.editDistance_le_iff]
  constructor
  · exact fun near => ⟨k, nearest.mem, near⟩
  · rintro ⟨other, member, near⟩
    rw [← Text.editDistance_le_iff] at near ⊢
    exact (nearest.le other member).trans near

end GoIdl.Syntax.Diagnosis
