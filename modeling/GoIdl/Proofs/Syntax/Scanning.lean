import GoIdl.Proofs.Spans
import GoIdl.Syntax.Lexeme
import Mathlib.Data.List.Infix

/-!
# Scanned texts

A lexeme and what follows it are the text that was scanned: scanning leaves nothing out.
-/

namespace GoIdl

theorem Text.splitFirst_eq {word s before after : List Char}
    (found : splitFirst word s = some (before, after)) : s = before ++ word ++ after := by
  induction s generalizing before with
  | nil =>
    unfold splitFirst at found
    split at found
    · rename_i empty
      cases found
      simp [List.isEmpty_iff.mp empty]
    · cases found
  | cons c rest ih =>
    unfold splitFirst at found
    split at found
    · rename_i starts
      obtain ⟨more, same⟩ := List.isPrefixOf_iff_prefix.mp starts
      cases found
      rw [← same]
      simp
    · obtain ⟨⟨before', after'⟩, inside, same⟩ := Option.map_eq_some_iff.mp found
      cases same
      rw [ih inside]
      rfl

namespace Syntax

def Lexeme.text : Lexeme → List Char
  | comment text | layout text | token _ text => text

variable {accepted : List Terminal} {s text rest : List Char} {mark : Char}

/-! ### Patterns -/

theorem comment?_append (found : comment? s = some (text, rest)) : s = text ++ rest := by
  unfold comment? at found
  split at found
  · rename_i rest'
    cases found
    exact congrArg (fun more => '/' :: '/' :: more) (span_append (· != '\n') rest').symm
  · obtain ⟨⟨body, rest'⟩, split, same⟩ := Option.map_eq_some_iff.mp found
    cases same
    rw [Text.splitFirst_eq split]
    simp
  · cases found

theorem operatorRun_append (s : List Char) : (operatorRun s).1 ++ (operatorRun s).2 = s := by
  fun_induction operatorRun s with
  | case1 => rfl
  | case2 => rfl
  | case3 => rfl
  | case4 c rest _ _ sign run rest' ended ih =>
    rw [ended] at ih
    exact congrArg (c :: ·) ih
  | case5 => rfl

theorem quotedBody_append (mark : Char) (s : List Char) :
    (quotedBody mark s).1 ++ (quotedBody mark s).2 = s := by
  fun_induction quotedBody mark s with
  | case1 => rfl
  | case2 c rest _ body rest' ended ih =>
    rw [ended] at ih
    exact congrArg (fun more => '\\' :: c :: more) ih
  | case3 => rfl
  | case4 c rest _ _ body rest' ended ih =>
    rw [ended] at ih
    exact congrArg (c :: ·) ih
  | case5 => rfl

theorem quotedLiteral?_append (found : quotedLiteral? mark s = some (text, rest)) :
    s = text ++ rest := by
  unfold quotedLiteral? at found
  split at found
  · rename_i c more
    split at found
    · rename_i opened
      split at found
      · rename_i body close rest' ended
        split at found
        · rename_i closed
          cases found
          have inside := quotedBody_append mark more
          rw [ended] at inside
          rw [opened, ← inside, ← closed]
          simp
        · cases found
      · cases found
    · cases found
  · cases found

theorem rawLiteral?_append (found : rawLiteral? s = some (text, rest)) : s = text ++ rest := by
  unfold rawLiteral? at found
  split at found
  · obtain ⟨⟨body, rest'⟩, split, same⟩ := Option.map_eq_some_iff.mp found
    cases same
    rw [Text.splitFirst_eq split]
    simp
  · cases found

theorem run?_append {first more : Char → Bool} (found : run? first more s = some (text, rest)) :
    s = text ++ rest ∧ text ≠ [] := by
  unfold run? at found
  split at found
  · rename_i c rest'
    split at found
    · cases found
      exact ⟨congrArg (c :: ·) (span_append more rest').symm, List.cons_ne_nil _ _⟩
    · cases found
  · cases found

theorem pattern?_append {t : Terminal} (found : pattern? t s = some (text, rest)) :
    s = text ++ rest := by
  unfold pattern? at found
  split at found
  · split at found
    · cases found
    · have whole := operatorRun_append s
      rw [Option.some.inj found] at whole
      exact whole.symm
  · exact (run?_append found).1
  · exact quotedLiteral?_append (Option.filter_eq_some_iff.mp found).1
  · exact quotedLiteral?_append found
  · exact (run?_append found).1
  · exact rawLiteral?_append found
  · cases found

/-! ### Lexemes -/

theorem scan_append {lexeme : Lexeme} (found : scan accepted s = some (lexeme, rest)) :
    s = lexeme.text ++ rest := by
  unfold scan at found
  split at found
  · rename_i comment
    cases found
    exact comment?_append comment
  · split at found
    · rename_i hit
      cases found
      obtain ⟨t, -, read⟩ := List.exists_of_findSome?_eq_some hit
      obtain ⟨found, matched, same⟩ := Option.map_eq_some_iff.mp read
      cases same
      exact pattern?_append matched
    · split at found
      · rename_i layout
        cases found
        exact (run?_append layout).1
      · split at found
        · cases found
          rfl
        · obtain ⟨⟨word, t⟩, -, read⟩ := List.exists_of_findSome?_eq_some found
          dsimp only at read
          split at read
          · rename_i starts
            obtain ⟨more, same⟩ := List.isPrefixOf_iff_prefix.mp starts
            cases read
            rw [← same, List.drop_left]
            rfl
          · cases read

theorem scan_length_le {lexeme : Lexeme} (found : scan accepted s = some (lexeme, rest)) :
    rest.length ≤ s.length := by
  rw [scan_append found, List.length_append]
  exact Nat.le_add_left _ _

end Syntax

end GoIdl
