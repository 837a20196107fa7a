import GoIdl.Syntax.Source
import GoIdl.Proofs.Syntax.Between
import GoIdl.Proofs.Syntax.Progress
import GoIdl.Proofs.Syntax.Scanning

/-!
# Declared names

Whatever a source file declares, and its package, goes by an identifier. The names are tokens of
their own kind: every place of reading holds the names read so far, and a token adds at most its own
text to them. So the names of a file are identifiers, and the text they were read from is at least
as long as their list.
-/

namespace GoIdl

namespace Syntax

/-! ### Identifiers -/

/-- A text that is not empty and has word characters only. -/
structure IsIdentifier (s : String) : Prop where
  nonempty : s.toList ≠ []
  word : ∀ c ∈ s.toList, Text.isWord c = true

namespace IsIdentifier

variable {s : String}

theorem ne_empty (identifier : IsIdentifier s) : s ≠ "" := by
  rintro rfl
  exact identifier.nonempty rfl

theorem not_mem (identifier : IsIdentifier s) {c : Char} (other : Text.isWord c = false) :
    c ∉ s.toList := by
  intro member
  rw [identifier.word c member] at other
  cases other

end IsIdentifier

/-- The names of a file: its package, then its declarations. -/
def SourceFile.names (file : SourceFile) : List String := file.package :: file.types.map (·.name)

/-- The package of a file and its declarations go by identifiers. -/
structure SourceFile.Named (file : SourceFile) : Prop where
  package : IsIdentifier file.package
  types : ∀ spec ∈ file.types, IsIdentifier spec.name

theorem SourceFile.named_of_names {file : SourceFile}
    (all : ∀ name ∈ file.names, IsIdentifier name) : file.Named where
  package := all _ List.mem_cons_self
  types := fun _ member => all _ (List.mem_cons_of_mem _ (List.mem_map_of_mem member))

/-- A name token is an identifier. -/
def Token.Named (t : Token) : Prop := t.terminal = .name → IsIdentifier t.text

namespace Parser

/-! ### Places of reading -/

def ImportHole.names : ImportHole → List String
  | .single file | .group file => file.names

def SpecHole.names : SpecHole → List String
  | .single file => file.names
  | .group _ specs file => file.names ++ specs.map (·.name)

mutual

def TypeHole.names : TypeHole → List String
  | .spec name _ _ outer => outer.names ++ [name.name]
  | .pointer _ outer => outer.names
  | .slice _ outer => outer.names
  | .array _ _ outer => outer.names
  | .mapKey _ outer => outer.names
  | .mapValue _ _ outer => outer.names
  | .chan _ outer => outer.names
  | .field _ _ outer => outer.names
  | .param _ _ _ outer => outer.names
  | .result _ outer => outer.names

def SignatureHole.names : SignatureHole → List String
  | .func _ outer => outer.names
  | .method _ _ outer => outer.names

def ParamsHole.names : ParamsHole → List String
  | .params _ _ outer => outer.names
  | .results _ _ _ outer => outer.names

def StructHole.names : StructHole → List String
  | .fields _ _ outer => outer.names

def InterfaceHole.names : InterfaceHole → List String
  | .elems _ _ _ outer => outer.names

end

def NameHole.names : NameHole → List String
  | .type outer => outer.names
  | .field _ _ _ outer => outer.names
  | .embed outer => outer.names

/-- The package and the declarations read so far, with the one that is open. -/
def Mode.names : Mode → List String
  | .start | .packageName _ => []
  | .packageEnd file | .imports file | .decls file | .importStart file | .importItem file => file.names
  | .importEnd file | .typeStart _ file | .typeEnd file | .done file => file.names
  | .skipStart file | .skipOpen _ _ file | .skip _ file => file.names
  | .importPath _ _ hole | .importRead _ hole => hole.names
  | .specItem _ specs file => file.names ++ specs.map (·.name)
  | .specName name _ hole => hole.names ++ [name.name]
  | .type hole | .closed _ hole | .bracket _ hole | .arrayLength _ _ hole => hole.names
  | .mapKeyword _ hole | .structKeyword _ hole | .interfaceKeyword _ hole => hole.names
  | .typeName _ hole | .qualifier _ hole | .qualified _ hole => hole.names
  | .funcKeyword hole | .params _ hole | .results _ _ hole => hole.names
  | .param hole | .paramName _ hole => hole.names
  | .field hole | .fieldName _ _ hole | .fieldComma _ _ hole | .fieldNames _ _ hole => hole.names
  | .fieldStar _ _ hole | .tag hole => hole.names
  | .elem hole | .elemName _ _ hole => hole.names

/-- If a token is taken, the place reached has these names. -/
def Outcome.Reaches (names : List String) (outcome : Outcome) : Prop :=
  ∀ step, outcome = .ok step → step.mode.names = names

namespace Outcome

variable {mode : Mode} {fault : Option ContentFault} {names : List String}

theorem reaches_ok (same : mode.names = names) : Reaches names (.ok { mode, fault }) := by
  rintro _ ⟨⟩
  exact same

theorem reaches_goto (same : mode.names = names) : Reaches names (goto mode) := reaches_ok same

theorem Reaches.more_nil {outcome : Outcome} (reached : outcome.Reaches names) :
    outcome.Reaches (names ++ []) := by
  rwa [List.append_nil]

theorem reaches_error (expected : List Terminal) : Reaches names (.error expected) := by
  rintro _ ⟨⟩

end Outcome

open GoIdl.Syntax.Parser.Outcome

/-! ### Putting constructs into their holes -/

theorem names_closeGroup (doc : String) (specs : List TypeSpec) :
    (closeGroup doc specs).map (·.name) = specs.map (·.name) := by
  unfold closeGroup
  split
  · split <;> rfl
  · rfl

theorem names_withTypes (file : SourceFile) (specs : List TypeSpec) :
    SourceFile.names { file with types := file.types ++ specs } =
      file.names ++ specs.map (·.name) := by
  simp [SourceFile.names]

theorem specRead_reaches (spec : TypeSpec) (hole : SpecHole) (next : Terminal) :
    (specRead spec hole next).Reaches (hole.names ++ [spec.name]) := by
  unfold specRead
  split
  · exact reaches_goto (names_withTypes _ [spec])
  · exact reaches_error _
  · exact reaches_goto (by simp [Mode.names, SpecHole.names])
  · refine reaches_goto ((names_withTypes _ _).trans ?_)
    simp [names_closeGroup, SpecHole.names]
  · exact reaches_error _

theorem fieldClosed_reaches (hole : StructHole) (next : Terminal) :
    (fieldClosed hole next).Reaches hole.names := by
  unfold fieldClosed
  split
  · exact reaches_goto rfl
  · exact reaches_goto (by simp only [Mode.names, StructHole.names])
  · exact reaches_error _

theorem fieldRead_reaches (declare : Option String → List (FieldDecl TypeExpr)) (hole : StructHole)
    (next : Token) : (fieldRead declare hole next).Reaches hole.names := by
  obtain ⟨pos, fields, outer⟩ := hole
  have inside : ∀ more, (StructHole.fields pos more outer).names =
      (StructHole.fields pos fields outer).names := by
    simp only [StructHole.names, implies_true]
  simp only [fieldRead]
  split
  · exact reaches_ok (inside (fields ++ declare (readTag next).1))
  · exact reaches_ok (inside (fields ++ declare (readTag next).1))
  · exact inside (fields ++ declare none) ▸ fieldClosed_reaches _ _
  · exact inside (fields ++ declare none) ▸ fieldClosed_reaches _ _
  · exact reaches_error _

theorem elemRead_reaches (hole : InterfaceHole) (next : Terminal) :
    (elemRead hole next).Reaches hole.names := by
  unfold elemRead
  split
  · exact reaches_goto rfl
  · exact reaches_goto (by simp only [Mode.names, InterfaceHole.names])
  · exact reaches_error _

theorem ParamsHole.names_add (entry : Param TypeExpr) (hole : ParamsHole) :
    (hole.add entry).names = hole.names := by
  cases hole <;> simp only [ParamsHole.add, ParamsHole.names]

theorem ParamsHole.names_close (hole : ParamsHole) : hole.close.mode.names = hole.names := by
  cases hole <;> simp only [ParamsHole.close, ParamsHole.names, Mode.names]

theorem paramRead_reaches (entry : Param TypeExpr) (hole : ParamsHole) (next : Terminal) :
    (paramRead entry hole next).Reaches hole.names := by
  unfold paramRead
  split
  · exact reaches_goto (ParamsHole.names_add entry hole)
  · exact reaches_ok ((ParamsHole.names_close _).trans (ParamsHole.names_add entry hole))
  · exact reaches_error _

theorem names_addMethod (name : Ident) (doc : String) (signature : Signature TypeExpr)
    (hole : InterfaceHole) : (addMethod name doc signature hole).names = hole.names := by
  cases hole
  simp only [addMethod, InterfaceHole.names]

mutual

theorem typeRead_reaches (type : TypeExpr) (hole : TypeHole) (next : Token) :
    (typeRead type hole next).Reaches hole.names := by
  cases hole with
  | spec name doc isAlias outer =>
    rw [typeRead, TypeHole.names]
    exact specRead_reaches _ _ _
  | pointer pos outer =>
    rw [typeRead, TypeHole.names]
    exact typeRead_reaches _ outer next
  | slice pos outer =>
    rw [typeRead, TypeHole.names]
    exact typeRead_reaches _ outer next
  | array pos length outer =>
    rw [typeRead, TypeHole.names]
    exact typeRead_reaches _ outer next
  | mapKey pos outer =>
    rw [typeRead]
    split
    · exact reaches_goto (by simp only [Mode.names, TypeHole.names])
    · exact reaches_error _
  | mapValue pos key outer =>
    rw [typeRead, TypeHole.names]
    exact typeRead_reaches _ outer next
  | chan pos outer =>
    rw [typeRead, TypeHole.names]
    exact typeRead_reaches _ outer next
  | field names doc outer =>
    rw [typeRead, TypeHole.names]
    exact fieldRead_reaches _ outer next
  | param pos name variadic outer =>
    rw [typeRead, TypeHole.names]
    exact paramRead_reaches _ outer _
  | result params outer =>
    rw [typeRead, TypeHole.names]
    exact signatureRead_reaches _ outer next

theorem signatureRead_reaches (signature : Signature TypeExpr) (hole : SignatureHole)
    (next : Token) : (signatureRead signature hole next).Reaches hole.names := by
  cases hole with
  | func pos outer =>
    rw [signatureRead, SignatureHole.names]
    exact typeRead_reaches _ outer next
  | method name doc outer =>
    rw [signatureRead, SignatureHole.names, ← names_addMethod name doc signature outer]
    exact elemRead_reaches _ _

end

theorem typeRead_inside {type : TypeExpr} {hole : TypeHole} {names : List String} (next : Token)
    (same : hole.names = names) : (typeRead type hole next).Reaches names :=
  same ▸ typeRead_reaches type hole next

theorem nameRead_reaches (name : TypeName) (hole : NameHole) (next : Token) :
    (nameRead name hole next).Reaches hole.names := by
  cases hole with
  | type outer => exact typeRead_reaches _ outer next
  | field pos doc isPointer outer => exact fieldRead_reaches _ outer next
  | embed outer =>
    obtain ⟨pos, methods, embeds, outer⟩ := outer
    have same : (InterfaceHole.elems pos methods (embeds ++ [name]) outer).names =
        (InterfaceHole.elems pos methods embeds outer).names := by
      simp only [InterfaceHole.names]
    rw [NameHole.names, ← same]
    exact elemRead_reaches _ _

/-! ### Starting constructs -/

theorem typeBegun_reaches (hole : TypeHole) (t : Token) :
    (typeBegun hole t).Reaches hole.names := by
  unfold typeBegun
  split
  · exact reaches_goto rfl
  · exact reaches_goto (by simp only [Mode.names, TypeHole.names])
  · exact reaches_goto rfl
  · exact reaches_goto rfl
  · exact reaches_goto (by simp only [Mode.names, TypeHole.names])
  · exact reaches_goto rfl
  · exact reaches_goto rfl
  · exact reaches_goto (by simp only [Mode.names, SignatureHole.names])
  · exact reaches_error _

theorem typeBegun_inside {hole : TypeHole} {names : List String} (t : Token)
    (same : hole.names = names) : (typeBegun hole t).Reaches names :=
  same ▸ typeBegun_reaches hole t

/-! ### Reading a token -/

/-- The places where a token names the package or a declaration. -/
def Mode.declares (t : Token) : Mode → Bool
  | .packageName _ => true
  | .typeStart _ _ => t.terminal ≠ .leftParen
  | .specItem _ _ _ => t.terminal ≠ .rightParen
  | _ => false

theorem terminal_of_declares {t : Token} {mode : Mode} (declares : mode.declares t = true)
    (expected : t.terminal ∈ mode.expects) : t.terminal = .name := by
  cases mode <;> simp_all [Mode.declares, Mode.expects]

/-- Outside of the package clause and of declarations a token names neither. -/
theorem declares_of_region {t : Token} {mode : Mode} (region : mode.region ∉ [.package, .declaration]) :
    mode.declares t = false := by
  cases mode <;> first | rfl | simp [Mode.region] at region

theorem terminal_of_field {t : Token} {hole : StructHole} (open_ : t.terminal ≠ .rightBrace)
    (noStar : t.terminal ≠ .star) (expected : t.terminal ∈ (Mode.field hole).expects) :
    t.terminal = .name := by
  simpa [Mode.expects, open_, noStar] using expected

theorem terminal_of_elem {t : Token} {hole : InterfaceHole} (open_ : t.terminal ≠ .rightBrace)
    (expected : t.terminal ∈ (Mode.elem hole).expects) : t.terminal = .name := by
  simpa [Mode.expects, open_] using expected

theorem names_of_file {mode : Mode} {file : SourceFile} (between : mode.file? = some file) :
    mode.names = file.names := by
  cases mode with
  | importPath _ _ hole | importRead _ hole =>
    cases between
    cases hole <;> rfl
  | _ =>
    cases between <;> rfl

theorem between_reaches {docs : Nat → String} {t : Token} {mode : Mode} {file : SourceFile}
    (between : mode.file? = some file) : (accept docs t mode).Reaches mode.names := by
  intro step accepted
  rw [names_of_file between]
  rcases accept_between between accepted with ⟨now, later, package, types⟩ | ⟨-, begun⟩
  · rw [names_of_file later, SourceFile.names, package, types, SourceFile.names]
  · rw [begun, Mode.names]

theorem package_reaches {mode : Mode} (region : mode.region = .package) (docs : Nat → String) (t : Token) :
    (accept docs t mode).Reaches (mode.names ++ if mode.declares t then [t.text] else []) := by
  cases mode with
  | start => exact reaches_goto rfl
  | packageName pos => exact reaches_goto rfl
  | _ => cases region

theorem declaration_reaches {mode : Mode} (region : mode.region = .declaration) (docs : Nat → String)
    (t : Token) : (accept docs t mode).Reaches (mode.names ++ if mode.declares t then [t.text] else []) := by
  cases mode with
  | typeStart doc file =>
    by_cases opens : t.terminal = .leftParen
    · simp only [accept, Mode.declares, opens]
      exact reaches_goto (by simp [Mode.names])
    · rw [accept, if_neg opens, Mode.declares, if_pos (decide_eq_true opens)]
      exact reaches_goto rfl
  | specItem doc specs file =>
    by_cases closes : t.terminal = .rightParen
    · simp only [accept, Mode.declares, closes]
      refine Reaches.more_nil (reaches_goto ((names_withTypes _ _).trans ?_))
      rw [names_closeGroup, Mode.names]
    · rw [accept, if_neg closes, Mode.declares, if_pos (decide_eq_true closes)]
      exact reaches_goto rfl
  | specName name doc hole =>
    have inside : ∀ isAlias, (TypeHole.spec name doc isAlias hole).names =
        hole.names ++ [name.name] := by
      intro isAlias
      rw [TypeHole.names]
    refine Reaches.more_nil ?_
    simp only [accept]
    split
    · exact reaches_goto (inside true)
    · exact typeBegun_inside t (inside false)
  | _ => cases region

theorem type_reaches {mode : Mode} (region : mode.region = .type) (docs : Nat → String) (t : Token) :
    (accept docs t mode).Reaches mode.names := by
  cases mode with
  | type hole => exact typeBegun_reaches hole t
  | typeName name hole =>
    simp only [accept]
    split
    · exact reaches_goto rfl
    · exact nameRead_reaches _ hole t
  | qualifier name hole => exact reaches_goto rfl
  | qualified name hole => exact nameRead_reaches name hole t
  | closed type hole => exact typeRead_reaches type hole t
  | bracket pos hole =>
    simp only [accept]
    split
    · exact reaches_goto (by simp only [Mode.names, TypeHole.names])
    · exact reaches_goto rfl
  | arrayLength pos length hole =>
    exact reaches_goto (by simp only [Mode.names, TypeHole.names])
  | mapKeyword pos hole => exact reaches_goto (by simp only [Mode.names, TypeHole.names])
  | _ => cases region

theorem params_reaches {mode : Mode} (region : mode.region = .params) (docs : Nat → String) (t : Token) :
    (accept docs t mode).Reaches mode.names := by
  cases mode with
  | funcKeyword hole => exact reaches_goto (by simp only [Mode.names, ParamsHole.names])
  | param hole =>
    have inside : ∀ pos name variadic, (TypeHole.param pos name variadic hole).names =
        hole.names := by
      intros
      rw [TypeHole.names]
    simp only [accept]
    split
    · exact reaches_ok (ParamsHole.names_close hole)
    · split
      · exact reaches_goto (inside t.pos none true)
      · split
        · exact reaches_goto rfl
        · exact typeBegun_inside t (inside _ _ _)
  | paramName name hole =>
    have inside : ∀ pos name variadic, (TypeHole.param pos name variadic hole).names =
        hole.names := by
      intros
      rw [TypeHole.names]
    simp only [accept]
    split
    · exact reaches_goto (inside name.pos none false)
    · split
      · exact reaches_goto (inside name.pos (some name.name) true)
      · split
        · exact typeRead_inside t (inside _ _ _)
        · exact typeBegun_inside t (inside _ _ _)
  | _ => cases region

theorem results_reaches {mode : Mode} (region : mode.region = .results) (docs : Nat → String) (t : Token) :
    (accept docs t mode).Reaches mode.names := by
  cases mode with
  | params params hole =>
    simp only [accept]
    split
    · exact reaches_goto (by simp only [Mode.names, ParamsHole.names])
    · split
      · exact typeBegun_inside t (by simp only [Mode.names, TypeHole.names])
      · exact signatureRead_reaches _ hole t
  | results params results hole =>
    simp only [accept]
    split
    · exact signatureRead_reaches _ hole t
    · exact reaches_error _
  | _ => cases region

theorem struct_reaches {mode : Mode} (region : mode.region = .struct) (docs : Nat → String) (t : Token) :
    (accept docs t mode).Reaches mode.names := by
  cases mode with
  | structKeyword pos hole =>
    exact reaches_goto (by simp only [Mode.names, StructHole.names])
  | field hole =>
    simp only [accept]
    split
    · exact fieldClosed_reaches hole _
    · split <;> exact reaches_goto rfl
  | tag hole => exact fieldClosed_reaches hole _
  | _ => cases region

theorem field_reaches {mode : Mode} (region : mode.region = .field) (docs : Nat → String) (t : Token) :
    (accept docs t mode).Reaches mode.names := by
  cases mode with
  | fieldName name doc hole =>
    simp only [accept]
    split
    · exact reaches_goto rfl
    · split
      · exact reaches_goto rfl
      · split
        · exact typeBegun_inside t (by simp only [Mode.names, TypeHole.names])
        · exact nameRead_reaches _ (.field name.pos doc false hole) t
  | fieldComma names doc hole => exact reaches_goto rfl
  | fieldNames names doc hole =>
    simp only [accept]
    split
    · exact reaches_goto rfl
    · exact typeBegun_inside t (by simp only [Mode.names, TypeHole.names])
  | fieldStar pos doc hole => exact reaches_goto rfl
  | _ => cases region

theorem interface_reaches {mode : Mode} (region : mode.region = .interface) (docs : Nat → String)
    (t : Token) : (accept docs t mode).Reaches mode.names := by
  cases mode with
  | interfaceKeyword pos hole =>
    exact reaches_goto (by simp only [Mode.names, InterfaceHole.names])
  | elem hole =>
    simp only [accept]
    split
    · exact elemRead_reaches hole _
    · exact reaches_goto rfl
  | elemName name doc hole =>
    simp only [accept]
    split
    · exact reaches_goto rfl
    · split
      · exact reaches_goto (by simp only [Mode.names, ParamsHole.names, SignatureHole.names])
      · exact nameRead_reaches _ (.embed hole) t
  | _ => cases region

theorem accept_reaches (docs : Nat → String) (t : Token) (mode : Mode) :
    (accept docs t mode).Reaches (mode.names ++ if mode.declares t then [t.text] else []) := by
  have kept : mode.region ∉ [.package, .declaration] → (accept docs t mode).Reaches mode.names →
      (accept docs t mode).Reaches (mode.names ++ if mode.declares t then [t.text] else []) := by
    intro other reached
    rw [declares_of_region other]
    exact reached.more_nil
  cases region : mode.region with
  | package => exact package_reaches region docs t
  | between =>
    obtain ⟨file, between⟩ := Mode.file_of_between region
    exact kept (by simp [region]) (between_reaches between)
  | declaration => exact declaration_reaches region docs t
  | type => exact kept (by simp [region]) (type_reaches region docs t)
  | params => exact kept (by simp [region]) (params_reaches region docs t)
  | results => exact kept (by simp [region]) (results_reaches region docs t)
  | struct => exact kept (by simp [region]) (struct_reaches region docs t)
  | field => exact kept (by simp [region]) (field_reaches region docs t)
  | interface => exact kept (by simp [region]) (interface_reaches region docs t)

theorem advance_names {docs : Nat → String} {t : Token} {mode : Mode} {step : Step}
    (advanced : advance docs mode t = .ok step) :
    step.mode.names = mode.names ∨ t.terminal = .name ∧ step.mode.names = mode.names ++ [t.text] := by
  unfold advance at advanced
  split at advanced
  · rename_i expected
    have reached := accept_reaches docs t mode step advanced
    split at reached
    · rename_i declares
      exact .inr ⟨terminal_of_declares declares (List.contains_iff_mem.mp expected), reached⟩
    · exact .inl (reached.trans (List.append_nil _))
  · cases advanced

end Parser

/-! ### Scanning -/

theorem run?_word {s text rest : List Char} (found : run? Text.isWordStart Text.isWord s = some (text, rest)) :
    IsIdentifier (String.ofList text) := by
  cases s with
  | nil => cases found
  | cons c s =>
    simp only [run?] at found
    split at found
    · rename_i first
      cases found
      simp only [Text.isWordStart, Bool.and_eq_true] at first
      refine ⟨by simp, ?_⟩
      intro d member
      rw [String.toList_ofList] at member
      rcases List.mem_cons.mp member with rfl | later
      · exact first.1
      · exact span_passes _ _ d later
    · cases found

theorem classify_eq_name {accepted : List Terminal} {t : Terminal} {text : List Char}
    (same : classify accepted t text = .name) : t = .name := by
  have reads : ∀ spellings : List (String × Terminal), (∀ entry ∈ spellings, entry.2 ≠ .name) →
      reading spellings accepted text .operator ≠ .name := by
    intro spellings others
    unfold reading
    split
    · rename_i found
      exact others _ (List.mem_of_find?_eq_some found)
    · decide
  cases t <;> try cases same
  · exact absurd same (reads _ (by decide))
  · rfl

theorem spelled_ne_name {accepted : List Terminal} {entry : String × Terminal}
    (member : entry ∈ spelled accepted) : entry.2 ≠ .name := by
  have fixed : ∀ entry ∈ Terminal.keywords ++ Terminal.signs ++ Terminal.brackets,
      entry.2 ≠ .name := by
    decide
  refine fixed entry ?_
  simp only [spelled, List.mem_filter, List.mem_append] at member
  simp only [List.mem_append]
  rcases member.1 with (keyword | sign) | bracket
  · split at keyword
    · cases keyword
    · exact Or.inl (Or.inl keyword)
  · split at sign
    · cases sign
    · exact Or.inl (Or.inr sign)
  · exact Or.inr bracket

theorem scan_named {accepted : List Terminal} {s rest text : List Char} {t : Terminal}
    (pos : Position) (found : scan accepted s = some (.token t text, rest)) :
    Token.Named ⟨t, String.ofList text, pos⟩ := by
  intro name
  cases name
  unfold scan at found
  split at found
  · cases found
  · split at found
    · rename_i u text' rest' hit
      obtain ⟨⟨kind, rfl⟩, rfl⟩ :
          (classify accepted u text' = .name ∧ text' = text) ∧ rest' = rest := by
        simpa using found
      obtain ⟨v, -, read⟩ := List.exists_of_findSome?_eq_some hit
      obtain ⟨found, same, read⟩ :
          ∃ found, pattern? v s = some found ∧ v = u ∧ found = (text', rest') := by
        simpa using read
      rw [read.1, classify_eq_name kind, read.2] at same
      exact run?_word same
    · split at found
      · cases found
      · split at found
        · cases found
        · obtain ⟨⟨word, kind⟩, member, read⟩ := List.exists_of_findSome?_eq_some found
          dsimp only at read
          split at read
          · cases read
            exact absurd rfl (spelled_ne_name member)
          · cases read

theorem scan_name_length {accepted : List Terminal} {s rest text : List Char}
    (found : scan accepted s = some (.token .name text, rest)) : rest.length < s.length := by
  have nonempty := (scan_named ⟨1, 1⟩ found rfl).nonempty
  rw [String.toList_ofList] at nonempty
  rw [scan_append found, List.length_append]
  exact Nat.lt_add_of_pos_left (List.length_pos_iff.mpr nonempty)

namespace Parser.Reading

variable {r r' : Reading}

/-! ### Reading a text -/

/-- The names read so far are identifiers, and they fit into the text read so far, which leaves
`rest` of `total` characters. -/
structure Named (total : Nat) (r : Reading) : Prop where
  identifiers : ∀ name ∈ r.mode.names, IsIdentifier name
  room : r.mode.names.length + r.rest.length ≤ total

variable {total : Nat}

theorem Named.of_same (named : r.Named total) (names : r'.mode.names = r.mode.names)
    (shorter : r'.rest.length ≤ r.rest.length) : r'.Named total where
  identifiers := names ▸ named.identifiers
  room := by
    rw [names]
    exact (Nat.add_le_add_left shorter _).trans named.room

theorem feed_names {t : Token} (fed : r.feed t = .ok r') :
    r'.mode.names = r.mode.names ∨
      t.terminal = .name ∧ r'.mode.names = r.mode.names ++ [t.text] := by
  obtain ⟨step, advanced, rfl⟩ := feed_ok fed
  exact advance_names advanced

theorem feed_implied_names {t : Token} (implied : t.Implied) (fed : r.feed t = .ok r') :
    r'.mode.names = r.mode.names :=
  have other : t.terminal ∉ [.name] := implied.other (by decide)
  (feed_names fed).resolve_right fun name => other (List.mem_singleton.mpr name.1)

theorem emit_names {t : Token} (emitted : r.emit t = .ok r') :
    r'.mode.names = r.mode.names ∨
      t.terminal = .name ∧ r'.mode.names = r.mode.names ++ [t.text] := by
  cases emits_of_ok emitted with
  | token _ fed => exact feed_names fed
  | semicolon _ fed => exact .inl (feed_implied_names (.semicolon _) fed)
  | nothing => exact .inl rfl

theorem Named.steps (named : r.Named total) (step : r.Steps r') : r'.Named total := by
  cases step with
  | comment found | layout found => exact named.of_same rfl (scan_length_le found)
  | @token t text rest after found emitted =>
    rcases emit_names emitted with same | ⟨rfl, more⟩
    · exact named.of_same same (scan_length_le found)
    · have shorter := scan_name_length found
      have room := named.room
      refine ⟨?_, ?_⟩
      · intro name member
        rcases List.mem_append.mp (more ▸ member) with old | new
        · exact named.identifiers name old
        · rw [List.mem_singleton.mp new]
          exact scan_named r.pos found rfl
      · simp only [move, more, List.length_append, List.length_singleton]
        omega
  | ended => exact named

theorem Named.feed_implied {t : Token} (named : r.Named total) (implied : t.Implied)
    (fed : r.feed t = .ok r') : r'.Named total := by
  have rest : r'.rest = r.rest := by rw [feed_same fed]
  exact named.of_same (feed_implied_names implied fed) (rest ▸ Nat.le_refl _)

end Parser.Reading

theorem Parser.parse_names {source : List Char} {parsed : Parser.Parsed} {file : SourceFile}
    (read : Parser.parse source = .ok parsed) (whole : parsed.file = .ok file) :
    (∀ name ∈ file.names, IsIdentifier name) ∧ file.names.length ≤ source.length := by
  obtain ⟨r, last, ran, finished, -, mode⟩ := Parser.parse_done read whole
  have start : (Reading.start source).Named source.length :=
    ⟨by simp [Reading.start, Mode.names], by simp [Reading.start, Mode.names]⟩
  have named := Reading.run_keeps _ (fun _ _ held step => held.steps step) start ran
  have ⟨identifiers, room⟩ :=
    Reading.finish_keeps _ (fun _ _ _ held implied fed => held.feed_implied implied fed) named finished
  rw [mode] at identifiers room
  exact ⟨identifiers, Nat.le_of_add_right_le room⟩

theorem Parser.length_withoutMark (source : List Char) :
    (Parser.withoutMark source).length ≤ source.length := by
  unfold Parser.withoutMark
  split
  · exact Nat.le_succ _
  · exact Nat.le_refl _

theorem Source.ofPath_names {path : Disk.Path} {text : String} {file : SourceFile}
    (read : Source.ofPath path text = .ok file) :
    (∀ name ∈ file.names, IsIdentifier name) ∧ file.names.length ≤ text.toList.length := by
  obtain ⟨parsed, parsing, read⟩ := bind_eq_ok.mp read
  obtain ⟨content, whole, placed⟩ := bind_eq_ok.mp read
  cases placed
  have ⟨identifiers, room⟩ :=
    Parser.parse_names (mapError_eq_ok.mp parsing) (mapError_eq_ok.mp whole)
  exact ⟨identifiers, room.trans (Parser.length_withoutMark _)⟩

/-- The names in a file that has been read are identifiers. -/
theorem Source.ofPath_named {path : Disk.Path} {text : String} {file : SourceFile}
    (read : Source.ofPath path text = .ok file) : file.Named :=
  SourceFile.named_of_names (Source.ofPath_names read).1

/-- A text has more characters than declarations. -/
theorem Source.ofPath_length {path : Disk.Path} {text : String} {file : SourceFile}
    (read : Source.ofPath path text = .ok file) : file.types.length < text.toList.length := by
  simpa [SourceFile.names, Nat.succ_le_iff] using (Source.ofPath_names read).2

theorem Source.read_named {name text : String} {file : SourceFile}
    (done : Source.read name text = .ok file) : file.Named := by
  unfold Source.read at done
  exact Source.ofPath_named done

end Syntax

end GoIdl
