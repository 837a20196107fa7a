import GoIdl.Proofs.Output.Blocks
import Mathlib.Data.List.Forall2

/-!
# Comments as HTML

A text becomes one element for each of its paragraphs. The body of an element holds no tag, and reading
its character references gives the lines of the paragraph back.
-/

namespace GoIdl.Output.CommentText

variable {t : List Char} {paragraph : List (List Char)}

/-! ### Character references -/

/-- The characters with a meaning in HTML, and what follows the ampersand in their references. -/
def named : List (Char × String) :=
  [('&', "amp;"), ('<', "lt;"), ('>', "gt;"), ('\'', "#39;"), ('"', "#34;")]

/-- A named character is escaped by its reference, any other one stands for itself. -/
theorem escapeChar_eq (c : Char) : (escapeChar c = [c] ∧ ∀ entry ∈ named, c ≠ entry.1) ∨
    ∃ entry ∈ named, c = entry.1 ∧ escapeChar c = '&' :: entry.2.toList := by
  unfold escapeChar
  split
  · exact .inr ⟨('&', "amp;"), by decide, ‹_›, rfl⟩
  split
  · exact .inr ⟨('<', "lt;"), by decide, ‹_›, rfl⟩
  split
  · exact .inr ⟨('>', "gt;"), by decide, ‹_›, rfl⟩
  split
  · exact .inr ⟨('\'', "#39;"), by decide, ‹_›, rfl⟩
  split
  · exact .inr ⟨('"', "#34;"), by decide, ‹_›, rfl⟩
  refine .inl ⟨rfl, ?_⟩
  simp only [named, List.forall_mem_cons]
  exact ⟨‹_›, ‹_›, ‹_›, ‹_›, ‹_›, nofun⟩

/-- A reading of character references: what stands for the start of the text behind an ampersand, and
the length of that start. Every reading knows the named characters. -/
structure References where
  read : List Char → Option (List Char × Nat)
  knows : ∀ entry ∈ named, ∀ rest,
    read (entry.2.toList ++ rest) = some ([entry.1], entry.2.toList.length)

/-- The reading that knows nothing else. -/
def References.basic : References where
  read text := named.findSome? fun entry =>
    if entry.2.toList.isPrefixOf text then some ([entry.1], entry.2.toList.length) else none
  knows := by
    simp only [named, List.forall_mem_cons]
    exact ⟨fun _ => rfl, fun _ => rfl, fun _ => rfl, fun _ => rfl, fun _ => rfl, nofun⟩

instance : Inhabited References := ⟨.basic⟩

namespace References

variable (references : References)

/-- Reads a text whose first `skipped` characters belong to a reference that has been read. -/
def unescapeFrom (skipped : Nat) : List Char → List Char
  | [] => []
  | c :: rest =>
    match skipped with
    | skipped + 1 => unescapeFrom skipped rest
    | 0 =>
      if c = '&' then
        match references.read rest with
        | some (meaning, length) => meaning ++ unescapeFrom length rest
        | none => c :: unescapeFrom 0 rest
      else c :: unescapeFrom 0 rest

/-- A text with its character references replaced by what they stand for. -/
def unescape (s : List Char) : List Char := references.unescapeFrom 0 s

theorem unescapeFrom_append (skipped rest : List Char) :
    references.unescapeFrom skipped.length (skipped ++ rest) = references.unescapeFrom 0 rest := by
  induction skipped with
  | nil => rfl
  | cons c skipped ih => exact ih

theorem unescapeFrom_escapeChar (c : Char) (rest : List Char) :
    references.unescapeFrom 0 (escapeChar c ++ rest) = c :: references.unescapeFrom 0 rest := by
  rcases escapeChar_eq c with ⟨itself, ordinary⟩ | ⟨entry, known, rfl, reference⟩
  · have notAmpersand : c ≠ '&' := ordinary ('&', "amp;") (by decide)
    rw [itself, List.singleton_append, unescapeFrom, if_neg notAmpersand]
  · rw [reference, List.cons_append, unescapeFrom, if_pos rfl, references.knows entry known]
    exact congrArg (entry.1 :: ·) (references.unescapeFrom_append entry.2.toList rest)

@[simp] theorem unescape_escape (s : List Char) : references.unescape (escape s) = s := by
  rw [unescape]
  induction s with
  | nil => rfl
  | cons c s ih =>
    rw [escape, List.flatMap_cons, references.unescapeFrom_escapeChar]
    exact congrArg (c :: ·) ih

end References

/-- A text without the characters that begin and end tags and attribute values. -/
def Inert (body : List Char) : Prop := ∀ c ∈ body, c ≠ '<' ∧ c ≠ '>' ∧ c ≠ '\'' ∧ c ≠ '"'

theorem inert_escape (s : List Char) : Inert (escape s) := by
  intro c member
  obtain ⟨d, -, inside⟩ := List.mem_flatMap.mp member
  rcases escapeChar_eq d with ⟨itself, ordinary⟩ | ⟨entry, known, -, reference⟩
  · rw [itself, List.mem_singleton] at inside
    simp only [named, List.forall_mem_cons] at ordinary
    exact inside ▸ ⟨ordinary.2.1, ordinary.2.2.1, ordinary.2.2.2.1, ordinary.2.2.2.2.1⟩
  · have plain : (named.all fun entry => ('&' :: entry.2.toList).all fun c =>
        c != '<' && c != '>' && c != '\'' && c != '"') = true := by
      decide
    have here := List.all_eq_true.mp (List.all_eq_true.mp plain entry known) c (reference ▸ inside)
    simpa [and_assoc] using here

/-! ### Elements -/

/-- The elements that say what a paragraph says. -/
inductive Element (references : References) (paragraph : List (List Char)) : List Char → Prop
  /-- The lines, trimmed. -/
  | paragraph {body : List Char} (mixed : ¬∀ line ∈ paragraph, isIndented line = true)
      (inert : Inert body)
      (meaning : references.unescape body = Text.joinWith ['\n'] (paragraph.map Text.trim)) :
      Element references paragraph ("<p>\n".toList ++ body ++ "\n</p>\n".toList)
  /-- The lines without their common indentation and the blanks at their ends. -/
  | preformatted {body indentation : List Char} {lines : List (List Char)}
      (indented : ∀ line ∈ paragraph, isIndented line = true)
      (common : Text.CommonIndentation (paragraph.map Text.trimEnd) indentation)
      (whole : paragraph.map Text.trimEnd = lines.map (indentation ++ ·))
      (inert : Inert body)
      (meaning : references.unescape body = Text.joinWith ['\n'] lines) :
      Element references paragraph ("<pre>".toList ++ body ++ "\n</pre>\n".toList)

/-- Each paragraph has its element, in order. -/
theorem html_elements (references : References) (t : List Char) :
    ∃ elements, List.Forall₂ (Element references) (paragraphs t) elements ∧
      html t = elements.flatten := by
  let element (paragraph : List (List Char)) : List Char :=
    Block.html ⟨paragraph.all isIndented, paragraph.map Text.trimEnd⟩
  refine ⟨(paragraphs t).map element, ?_, ?_⟩
  · rw [List.forall₂_map_right_iff, List.forall₂_same]
    intro paragraph member
    dsimp only [element]
    rw [Block.html]
    have inert := inert_escape
    have back := references.unescape_escape
    split
    · rename_i indented
      have some : paragraph.map Text.trimEnd ≠ [] := by simpa using ne_nil_of_mem_paragraphs member
      exact .preformatted (by simpa using indented) (Text.margin_common some)
        (Text.map_append_dedent _).symm (inert _) (back _)
    · rename_i mixed
      refine .paragraph (by simpa using mixed) (inert _) ?_
      rw [back, List.map_map]
      simp only [Function.comp_def, Text.trim_trimEnd]
  · rw [html, blocks_eq, List.flatMap_map, List.flatMap_def]

end GoIdl.Output.CommentText
