import GoIdl.Syntax.Parser.Advance

/-!
# Between type declarations

Around type declarations stand the package clause, imports and declarations that are passed over. A
token that is read there leaves the declarations as they are, and opens a new one if it is the
keyword. What else a token may belong to is told by the region of the place where it is read.
-/

namespace GoIdl.Syntax.Parser

/-- What the next token belongs to. -/
inductive Region where
  | package
  /-- The end of the package clause, imports, and declarations that are passed over. -/
  | between
  | declaration
  | type
  | params
  | results
  | struct
  | field
  | interface
  deriving DecidableEq

def Mode.region : Mode → Region
  | .start | .packageName _ => .package
  | .typeStart _ _ | .specItem _ _ _ | .specName _ _ _ => .declaration
  | .type _ | .typeName _ _ | .qualifier _ _ | .qualified _ _ | .closed _ _ => .type
  | .bracket _ _ | .arrayLength _ _ _ | .mapKeyword _ _ => .type
  | .funcKeyword _ | .param _ | .paramName _ _ => .params
  | .params _ _ | .results _ _ _ => .results
  | .structKeyword _ _ | .field _ | .tag _ => .struct
  | .fieldName _ _ _ | .fieldComma _ _ _ | .fieldNames _ _ _ | .fieldStar _ _ _ => .field
  | .interfaceKeyword _ _ | .elem _ | .elemName _ _ _ => .interface
  | _ => .between

def ImportHole.file : ImportHole → SourceFile
  | .single file | .group file => file

/-- The file read so far, at a place where no type declaration is open. -/
def Mode.file? : Mode → Option SourceFile
  | .packageEnd file | .imports file | .decls file | .importStart file | .importItem file => some file
  | .importEnd file | .typeEnd file | .done file => some file
  | .skipStart file | .skipOpen _ _ file | .skip _ file => some file
  | .importPath _ _ hole | .importRead _ hole => some hole.file
  | _ => none

theorem Mode.file_of_between {mode : Mode} (region : mode.region = .between) :
    ∃ file, mode.file? = some file := by
  cases mode <;> first | exact ⟨_, rfl⟩ | cases region

/-- The place has a file with the same package and declarations. -/
def Mode.Stays (file : SourceFile) (mode : Mode) : Prop :=
  ∃ now, mode.file? = some now ∧ now.package = file.package ∧ now.types = file.types

theorem Mode.stays {mode : Mode} {file : SourceFile} (between : mode.file? = some file) :
    mode.Stays file := ⟨file, between, rfl, rfl⟩

/-- If a token is taken, the place reached has the declarations of the file. -/
def Outcome.Stays (file : SourceFile) (outcome : Outcome) : Prop :=
  ∀ step, outcome = .ok step → step.mode.Stays file

namespace Outcome

variable {mode : Mode} {fault : Option ContentFault} {file : SourceFile}

theorem stays_ok (stays : mode.Stays file) : Stays file (.ok { mode, fault }) := by
  rintro _ ⟨⟩
  exact stays

theorem stays_goto (stays : mode.Stays file) : Stays file (goto mode) := stays_ok stays

theorem stays_error (expected : List Terminal) : Stays file (.error expected) := by
  rintro _ ⟨⟩

end Outcome

open GoIdl.Syntax.Parser.Outcome

variable {t : Token}

/-! ### Imports -/

theorem importRead_stays (spec : ImportSpec) (hole : ImportHole) (next : Terminal) :
    (importRead spec hole next).Stays hole.file := by
  unfold importRead
  split
  · exact stays_goto ⟨_, rfl, rfl, rfl⟩
  · exact stays_error _
  · exact stays_goto ⟨_, rfl, rfl, rfl⟩
  · exact stays_goto ⟨_, rfl, rfl, rfl⟩

theorem importPathRead_stays (pos : Position) (localName : Option String) (hole : ImportHole) :
    (importPathRead pos localName hole t).mode.Stays hole.file := by
  unfold importPathRead
  split <;> exact Mode.stays rfl

theorem importBegun_stays (hole : ImportHole) : (importBegun hole t).Stays hole.file := by
  unfold importBegun
  split
  · exact stays_goto (Mode.stays rfl)
  · exact stays_goto (Mode.stays rfl)
  · exact stays_ok (importPathRead_stays t.pos none hole)

/-! ### Declarations that are passed over -/

theorem skipPart_stays (brackets : List Bracket) (file : SourceFile) :
    (skipPart brackets file t).Stays file := by
  unfold skipPart
  split <;> exact stays_goto (Mode.stays rfl)

theorem skipAfter_stays (brackets : List Bracket) (file : SourceFile) :
    (skipAfter brackets file t).Stays file := by
  unfold skipAfter
  split
  · split
    · exact stays_goto (Mode.stays rfl)
    · split
      · exact skipPart_stays [] file
      · exact stays_error _
  · split
    · exact stays_goto (Mode.stays rfl)
    · split
      · exact stays_goto (Mode.stays rfl)
      · split
        · exact skipPart_stays _ file
        · exact stays_error _

theorem declBegun_stays {docs : Nat → String} {file : SourceFile} (other : t.terminal ≠ .typeKeyword) :
    (declBegun docs file t).Stays file := by
  unfold declBegun
  split
  · exact stays_goto (Mode.stays rfl)
  · exact stays_goto (Mode.stays rfl)
  · rename_i keyword
    exact absurd keyword other
  · exact stays_goto (Mode.stays rfl)

/-! ### Reading a token -/

/-- Between declarations a token leaves them as they are, or it is the keyword of the next one. -/
theorem accept_between {docs : Nat → String} {mode : Mode} {file : SourceFile} {step : Step}
    (between : mode.file? = some file) (accepted : accept docs t mode = .ok step) :
    step.mode.Stays file ∨
      t.terminal = .typeKeyword ∧ step.mode = .typeStart (docs t.pos.line) file := by
  have declared : ∀ {file : SourceFile}, declBegun docs file t = .ok step →
      step.mode.Stays file ∨
        t.terminal = .typeKeyword ∧ step.mode = .typeStart (docs t.pos.line) file := by
    intro file begun
    by_cases keyword : t.terminal = .typeKeyword
    · rw [declBegun, keyword] at begun
      cases begun
      exact .inr ⟨keyword, rfl⟩
    · exact .inl (declBegun_stays keyword step begun)
  cases mode with
  | imports | decls =>
    cases between
    exact declared accepted
  | packageEnd | importEnd | typeEnd | done =>
    cases between
    exact .inl (stays_goto (Mode.stays rfl) step accepted)
  | importStart | importItem =>
    cases between
    simp only [accept] at accepted
    split at accepted
    · exact .inl (stays_goto (Mode.stays rfl) step accepted)
    · exact .inl (importBegun_stays _ step accepted)
  | importPath pos localName hole =>
    cases between
    exact .inl (stays_ok (importPathRead_stays pos (some localName) hole) step accepted)
  | importRead spec hole =>
    cases between
    exact .inl (importRead_stays spec hole t.terminal step accepted)
  | skipStart =>
    cases between
    exact .inl (skipPart_stays [] file step accepted)
  | skipOpen b outer =>
    cases between
    simp only [accept] at accepted
    split at accepted
    · exact .inl (stays_goto (Mode.stays rfl) step accepted)
    · split at accepted
      · exact .inl (stays_goto (Mode.stays rfl) step accepted)
      · exact .inl (skipPart_stays (b :: outer) file step accepted)
  | skip brackets =>
    cases between
    exact .inl (skipAfter_stays brackets file step accepted)
  | _ => cases between

end GoIdl.Syntax.Parser
