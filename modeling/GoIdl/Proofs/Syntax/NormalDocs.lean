import GoIdl.Proofs.Text.Trimming
import GoIdl.Syntax.Comment
import Mathlib.Data.List.Chain

/-!
# Docs in normal form

The text of a group of comments is in normal form: no line ends with a blank, the first one starts
with none, and every empty line stands alone between two lines that are not empty. A text is in normal
form exactly if it is its own text again when each of its lines is made a comment.
-/

namespace GoIdl.Syntax.Comment

variable {lines rest : List (List Char)} {line : List Char} {afterEmpty : Bool}

/-! ### Squeezing -/

theorem mem_of_mem_squeeze (member : line ∈ squeeze afterEmpty lines) : line ∈ lines := by
  induction lines generalizing afterEmpty with
  | nil => exact member
  | cons first rest ih =>
    unfold squeeze at member
    split at member
    · exact List.mem_cons_of_mem _ (ih member)
    · rcases List.mem_cons.mp member with rfl | later
      · exact List.mem_cons_self
      · exact List.mem_cons_of_mem _ (ih later)

/-- No empty line is left after another, nor at the start of lines that stand after one. -/
theorem squeeze_apart (afterEmpty : Bool) (lines : List (List Char)) :
    (squeeze afterEmpty lines).IsChain (fun a b => a ≠ [] ∨ b ≠ []) ∧
      (afterEmpty = true → (squeeze afterEmpty lines).head? ≠ some []) := by
  induction lines generalizing afterEmpty with
  | nil => exact ⟨.nil, fun _ => nofun⟩
  | cons first rest ih =>
    unfold squeeze
    split
    · rename_i dropped
      rw [Bool.and_eq_true] at dropped
      exact ⟨(ih true).1, fun _ => (ih true).2 rfl⟩
    · rename_i kept
      obtain ⟨apart, start⟩ := ih first.isEmpty
      refine ⟨List.isChain_cons.mpr ⟨fun next second => ?_, apart⟩, ?_⟩
      · rw [or_iff_not_imp_left, not_not]
        rintro rfl rfl
        exact start rfl second
      · rintro rfl same
        rw [List.head?_cons, Option.some.injEq] at same
        exact kept (by simp [same])

theorem filled_squeeze (afterEmpty : Bool) (lines : List (List Char)) :
    (squeeze afterEmpty lines).filter (· ≠ []) = lines.filter (· ≠ []) := by
  induction lines generalizing afterEmpty with
  | nil => rfl
  | cons first rest ih =>
    unfold squeeze
    split
    · rename_i dropped
      have empty : first = [] := List.isEmpty_iff.mp (Bool.and_eq_true_iff.mp dropped).1
      rw [ih, List.filter_cons_of_neg (by simp [empty])]
    · rw [List.filter_cons, List.filter_cons, ih]

theorem squeeze_eq_self (apart : lines.IsChain fun a b => a ≠ [] ∨ b ≠ [])
    (start : afterEmpty = true → lines.head? ≠ some []) : squeeze afterEmpty lines = lines := by
  induction lines generalizing afterEmpty with
  | nil => rfl
  | cons first rest ih =>
    obtain ⟨next, apart⟩ := List.isChain_cons.mp apart
    unfold squeeze
    rw [if_neg, ih apart]
    · rintro empty second
      exact (next [] second).elim (· (List.isEmpty_iff.mp empty)) (· rfl)
    · rw [Bool.and_eq_true, List.isEmpty_iff]
      rintro ⟨rfl, after⟩
      exact start after rfl

/-! ### Normal form -/

/-- Lines of which none ends with a blank, and no two empty ones stand together or one at an end. A line
of blanks is an empty one then. -/
structure Spaced (lines : List (List Char)) : Prop where
  ends : ∀ line ∈ lines, ∀ c ∈ line.getLast?, Text.isBlank c = false
  apart : lines.IsChain fun a b => a ≠ [] ∨ b ≠ []
  first : lines.head? ≠ some []
  last : lines.getLast? ≠ some []

/-- The first line is not indented, either. -/
structure Normal (lines : List (List Char)) : Prop extends Spaced lines where
  flush : ∀ line ∈ lines.head?, ∀ c ∈ line.head?, Text.isBlank c = false

/-- The lines of a doc, between its line feeds. The empty doc has none. -/
def docLines (doc : String) : List (List Char) :=
  if doc = "" then [] else Text.splitOn '\n' doc.toList

/-- A line as a comment of its own. -/
def lineComment (line : List Char) : String := String.ofList ('/' :: '/' :: ' ' :: line)

/-- The lines of comments, without blanks at their ends. -/
def contents (texts : List String) : List (List Char) :=
  (texts.flatMap fun text => body text.toList).map Text.trimEnd

namespace Spaced

theorem first_seen (spaced : Spaced lines) : ∀ line ∈ lines.head?, Text.trimStart line ≠ [] := by
  intro line first
  refine Text.trimStart_ne_nil (fun none => spaced.first (none ▸ first)) ?_
  exact spaced.ends line (List.mem_of_mem_head? first)

/-- Without its indentation the first line is in order, too. -/
theorem normal (spaced : Spaced lines) : Normal (lines.modifyHead Text.trimStart) := by
  cases lines with
  | nil => exact ⟨spaced, nofun⟩
  | cons line rest =>
    have seen : Text.trimStart line ≠ [] := spaced.first_seen line rfl
    obtain ⟨-, apart⟩ := List.isChain_cons.mp spaced.apart
    refine ⟨⟨?_, List.isChain_cons.mpr ⟨fun _ _ => .inl seen, apart⟩, by simpa using seen, ?_⟩, ?_⟩
    · rw [List.modifyHead_cons, List.forall_mem_cons, Text.getLast?_trimStart seen]
      exact List.forall_mem_cons.mp spaced.ends
    · cases rest with
      | nil => simpa using seen
      | cons next rest => simpa using spaced.last
    · simpa using Text.isBlank_head?_trimStart line

theorem trimEnd_joinWith (spaced : Spaced lines) (separator : List Char) :
    Text.trimEnd (Text.joinWith separator lines) = Text.joinWith separator lines := by
  rw [Text.trimEnd_eq_self_iff, Text.getLast?_joinWith separator spaced.last]
  intro c last
  obtain ⟨line, listed, ended⟩ := Option.bind_eq_some_iff.mp last
  exact spaced.ends line (List.mem_of_mem_getLast? listed) c ended

/-- Trimming takes the indentation of the first line, and nothing else. -/
theorem trim_joinWith (spaced : Spaced lines) (separator : List Char) :
    Text.trim (Text.joinWith separator lines) =
      Text.joinWith separator (lines.modifyHead Text.trimStart) := by
  rw [Text.trim, Text.trimStart_joinWith separator spaced.first_seen,
    spaced.normal.trimEnd_joinWith separator]

theorem filled_modifyHead (spaced : Spaced lines) :
    (lines.modifyHead Text.trimStart).filter (· ≠ []) =
      (lines.filter (· ≠ [])).modifyHead Text.trimStart := by
  cases lines with
  | nil => rfl
  | cons line rest =>
    have seen : Text.trimStart line ≠ [] := spaced.first_seen line rfl
    have some : line ≠ [] := fun none => seen (by rw [none]; rfl)
    rw [List.modifyHead_cons, List.filter_cons_of_pos (by simpa using seen),
      List.filter_cons_of_pos (by simpa using some), List.modifyHead_cons]

end Spaced

theorem exists_spaced (ends : ∀ line ∈ lines, ∀ c ∈ line.getLast?, Text.isBlank c = false) :
    ∃ kept, Spaced kept ∧ (squeeze true lines = kept ∨ squeeze true lines = kept ++ [[]]) := by
  obtain ⟨apart, start⟩ := squeeze_apart true lines
  have ends : ∀ line ∈ squeeze true lines, ∀ c ∈ line.getLast?, Text.isBlank c = false :=
    fun line member => ends line (mem_of_mem_squeeze member)
  by_cases closed : (squeeze true lines).getLast? = some []
  · obtain ⟨kept, squeezed⟩ := List.getLast?_eq_some_iff.mp closed
    rw [squeezed] at apart start ends
    obtain ⟨before, -, last⟩ := List.isChain_append.mp apart
    refine ⟨kept, ⟨fun line member => ends line (List.mem_append_left _ member), before, ?_, ?_⟩,
      .inr squeezed⟩
    · intro first
      exact start rfl (by rw [List.head?_append, first, Option.some_or])
    · intro final
      exact (last [] final [] rfl).elim (· rfl) (· rfl)
  · exact ⟨_, ⟨ends, apart, start rfl, closed⟩, .inl rfl⟩

/-! ### Cleaning -/

theorem not_mem_of_mem_body {text : List Char} (member : line ∈ body text) : '\n' ∉ line := by
  unfold body at member
  split at member
  · exact Text.not_mem_of_mem_splitOn member
  · split at member
    · cases member
    · exact Text.not_mem_of_mem_splitOn member
  · exact Text.not_mem_of_mem_splitOn member

theorem clean_eq (texts : List String) :
    clean texts = String.ofList (Text.trim (Text.joinWith ['\n'] (squeeze true (contents texts)))) := rfl

theorem ends_contents (texts : List String) :
    ∀ line ∈ contents texts, ∀ c ∈ line.getLast?, Text.isBlank c = false := by
  rw [contents, List.forall_mem_map]
  exact fun line _ => Text.isBlank_getLast?_trimEnd line

theorem not_mem_of_mem_contents {texts : List String} (member : line ∈ contents texts) : '\n' ∉ line := by
  obtain ⟨whole, listed, rfl⟩ := List.mem_map.mp member
  obtain ⟨text, -, inside⟩ := List.mem_flatMap.mp listed
  exact fun feed => not_mem_of_mem_body inside ((Text.prefix_dropEndWhile _ whole).subset feed)

theorem exists_clean (texts : List String) : ∃ lines, Normal lines ∧ (∀ line ∈ lines, '\n' ∉ line) ∧
    clean texts = String.ofList (Text.joinWith ['\n'] lines) ∧
    lines.filter (· ≠ []) = ((contents texts).filter (· ≠ [])).modifyHead Text.trimStart := by
  obtain ⟨kept, spaced, squeezed⟩ := exists_spaced (ends_contents texts)
  have within : ∀ line ∈ kept, '\n' ∉ line := by
    intro line member
    have listed : line ∈ squeeze true (contents texts) := by
      rcases squeezed with same | same <;> simp [same, member]
    exact not_mem_of_mem_contents (mem_of_mem_squeeze listed)
  have filled : kept.filter (· ≠ []) = (contents texts).filter (· ≠ []) := by
    rw [← filled_squeeze true (contents texts)]
    rcases squeezed with same | same <;> simp [same]
  have trimmed : clean texts = String.ofList (Text.trim (Text.joinWith ['\n'] kept)) := by
    rw [clean_eq]
    rcases squeezed with same | same
    · rw [same]
    · rw [same, Text.trim_joinWith_empty]
  refine ⟨_, spaced.normal, ?_, trimmed.trans (congrArg _ (spaced.trim_joinWith _)), ?_⟩
  · cases kept with
    | nil => nofun
    | cons line rest =>
      obtain ⟨first, others⟩ := List.forall_mem_cons.mp within
      exact List.forall_mem_cons.mpr
        ⟨fun feed => first ((List.dropWhile_suffix _).subset feed), others⟩
  · rw [spaced.filled_modifyHead, filled]

theorem docLines_joined (normal : Normal lines) (single : ∀ line ∈ lines, '\n' ∉ line) :
    docLines (String.ofList (Text.joinWith ['\n'] lines)) = lines := by
  unfold docLines
  cases lines with
  | nil => rfl
  | cons line rest =>
    have some : line ≠ [] := fun none => normal.first (by rw [none]; rfl)
    rw [if_neg, String.toList_ofList, Text.splitOn_joinWith (List.cons_ne_nil line rest) single]
    rw [← String.toList_inj, String.toList_ofList, Text.joinWith_cons]
    simp [some]

theorem clean_lineComments (normal : Normal lines) (single : ∀ line ∈ lines, '\n' ∉ line) :
    clean (lines.map lineComment) = String.ofList (Text.joinWith ['\n'] lines) := by
  have read : contents (lines.map lineComment) = lines := by
    have bodies : ∀ line ∈ lines, body (lineComment line).toList = [line] := fun line member => by
      rw [lineComment, String.toList_ofList, body, Text.splitOn_eq_singleton (single line member)]
    rw [contents, List.flatMap_map, List.flatMap_congr bodies, List.flatMap_singleton']
    refine (List.map_congr_left fun line member => ?_).trans (List.map_id lines)
    exact Text.trimEnd_eq_self_iff.mpr (normal.ends line member)
  have flush : lines.modifyHead Text.trimStart = lines := by
    cases lines with
    | nil => rfl
    | cons line rest =>
      rw [List.modifyHead_cons, Text.trimStart_eq_self_iff.mpr (normal.flush line rfl)]
  rw [clean_eq, read, squeeze_eq_self normal.apart fun _ => normal.first, normal.trim_joinWith, flush]

theorem normal_clean (texts : List String) : Normal (docLines (clean texts)) := by
  obtain ⟨lines, normal, single, cleaned, -⟩ := exists_clean texts
  rw [cleaned, docLines_joined normal single]
  exact normal

theorem filled_clean (texts : List String) : (docLines (clean texts)).filter (· ≠ []) =
    ((contents texts).filter (· ≠ [])).modifyHead Text.trimStart := by
  obtain ⟨lines, normal, single, cleaned, filled⟩ := exists_clean texts
  rw [cleaned, docLines_joined normal single]
  exact filled

/-- The docs that are read back from comments line by line are those in normal form. -/
theorem clean_docLines_iff (doc : String) :
    clean ((docLines doc).map lineComment) = doc ↔ Normal (docLines doc) := by
  constructor
  · intro same
    exact same ▸ normal_clean _
  · intro normal
    have single : ∀ line ∈ docLines doc, '\n' ∉ line := by
      unfold docLines
      split
      · nofun
      · exact fun line member => Text.not_mem_of_mem_splitOn member
    rw [clean_lineComments normal single]
    unfold docLines
    split
    · rename_i none
      rw [none]
      rfl
    · rw [Text.joinWith_splitOn, String.ofList_toList]

/-- The text of a group of comments is in normal form. It is read back when each of its lines is made a
comment of its own, and the lines that are not empty are those of the comments, in order, without
blanks at their ends and the first one without its indentation. -/
theorem cleaned_reread (texts : List String) :
    Normal (docLines (clean texts)) ∧
      clean ((docLines (clean texts)).map lineComment) = clean texts ∧
      (docLines (clean texts)).filter (· ≠ []) =
        ((contents texts).filter (· ≠ [])).modifyHead Text.trimStart :=
  ⟨normal_clean texts, (clean_docLines_iff _).mpr (normal_clean texts), filled_clean texts⟩

end GoIdl.Syntax.Comment
