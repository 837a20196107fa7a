import GoIdl.Syntax.Source
import GoIdl.Proofs.Syntax.Legible

/-!
# Outlines

What has been read, without positions and docs. A token does the same to an outline as to what it is
the outline of, so that neither the places of tokens nor the comments between them have a say in what
is read.
-/

namespace GoIdl.Syntax

/-! ### Outlines of files -/

def TypeName.outline (n : TypeName) : TypeName := { n with pos := nowhere }

mutual

/-- An expression without positions and docs. -/
def TypeExpr.outline : TypeExpr → TypeExpr
  | .named name => .named name.outline
  | .pointer _ elem => .pointer nowhere elem.outline
  | .slice _ elem => .slice nowhere elem.outline
  | .array _ length elem => .array nowhere length elem.outline
  | .map _ key value => .map nowhere key.outline value.outline
  | .chan _ elem => .chan nowhere elem.outline
  | .func _ ⟨params, results⟩ => .func nowhere ⟨outlineParams params, outlineParams results⟩
  | .struct _ fields => .struct nowhere (outlineFields fields)
  | .interface _ methods embeds =>
    .interface nowhere (outlineMethods methods) (embeds.map TypeName.outline)

def outlineParams : List (Param TypeExpr) → List (Param TypeExpr)
  | [] => []
  | ⟨_, name, variadic, type⟩ :: rest => ⟨nowhere, name, variadic, type.outline⟩ :: outlineParams rest

def outlineFields : List (FieldDecl TypeExpr) → List (FieldDecl TypeExpr)
  | [] => []
  | ⟨_, name, type, tag, embedded, _⟩ :: rest =>
    ⟨nowhere, name, type.outline, tag, embedded, ""⟩ :: outlineFields rest

def outlineMethods : List (MethodDecl TypeExpr) → List (MethodDecl TypeExpr)
  | [] => []
  | ⟨_, name, ⟨params, results⟩, _⟩ :: rest =>
    ⟨nowhere, name, ⟨outlineParams params, outlineParams results⟩, ""⟩ :: outlineMethods rest

end

def Param.outline (p : Param TypeExpr) : Param TypeExpr :=
  { p with pos := nowhere, type := p.type.outline }

def Signature.outline (s : Signature TypeExpr) : Signature TypeExpr :=
  { params := s.params.map Param.outline, results := s.results.map Param.outline }

def FieldDecl.outline (f : FieldDecl TypeExpr) : FieldDecl TypeExpr :=
  { f with pos := nowhere, type := f.type.outline, doc := "" }

def MethodDecl.outline (m : MethodDecl TypeExpr) : MethodDecl TypeExpr :=
  { m with pos := nowhere, signature := m.signature.outline, doc := "" }

def TypeSpec.outline (spec : TypeSpec) : TypeSpec :=
  { spec with pos := nowhere, type := spec.type.outline, doc := "" }

def ImportSpec.outline (spec : ImportSpec) : ImportSpec := { spec with pos := nowhere }

def SourceFile.outline (file : SourceFile) : SourceFile :=
  { file with
    pos := nowhere
    imports := file.imports.map ImportSpec.outline
    types := file.types.map TypeSpec.outline }

@[simp] theorem outlineParams_eq (ps : List (Param TypeExpr)) :
    outlineParams ps = ps.map Param.outline := by
  induction ps with
  | nil => rw [outlineParams, List.map_nil]
  | cons p ps ih => rw [outlineParams, ih, List.map_cons, Param.outline]

@[simp] theorem outlineFields_eq (fs : List (FieldDecl TypeExpr)) :
    outlineFields fs = fs.map FieldDecl.outline := by
  induction fs with
  | nil => rw [outlineFields, List.map_nil]
  | cons f fs ih => rw [outlineFields, ih, List.map_cons, FieldDecl.outline]

@[simp] theorem outlineMethods_eq (ms : List (MethodDecl TypeExpr)) :
    outlineMethods ms = ms.map MethodDecl.outline := by
  induction ms with
  | nil => rw [outlineMethods, List.map_nil]
  | cons m ms ih =>
    rw [outlineMethods, ih, List.map_cons, MethodDecl.outline, Signature.outline, outlineParams_eq,
      outlineParams_eq]

namespace Parser

/-! ### Outlines of places of reading -/

def Ident.outline (id : Ident) : Ident := { id with pos := nowhere }

def ImportHole.outline : ImportHole → ImportHole
  | .single file => .single file.outline
  | .group file => .group file.outline

def SpecHole.outline : SpecHole → SpecHole
  | .single file => .single file.outline
  | .group _ specs file => .group "" (specs.map TypeSpec.outline) file.outline

mutual

def TypeHole.outline : TypeHole → TypeHole
  | .spec name _ isAlias outer => .spec name.outline "" isAlias outer.outline
  | .pointer _ outer => .pointer nowhere outer.outline
  | .slice _ outer => .slice nowhere outer.outline
  | .array _ length outer => .array nowhere length outer.outline
  | .mapKey _ outer => .mapKey nowhere outer.outline
  | .mapValue _ key outer => .mapValue nowhere key.outline outer.outline
  | .chan _ outer => .chan nowhere outer.outline
  | .field names _ outer => .field (names.map Ident.outline) "" outer.outline
  | .param _ name variadic outer => .param nowhere name variadic outer.outline
  | .result params outer => .result (params.map Param.outline) outer.outline

def SignatureHole.outline : SignatureHole → SignatureHole
  | .func _ outer => .func nowhere outer.outline
  | .method name _ outer => .method name.outline "" outer.outline

def ParamsHole.outline : ParamsHole → ParamsHole
  | .params _ entries outer => .params nowhere (entries.map Param.outline) outer.outline
  | .results _ entries params outer =>
    .results nowhere (entries.map Param.outline) (params.map Param.outline) outer.outline

def StructHole.outline : StructHole → StructHole
  | .fields _ members outer => .fields nowhere (members.map FieldDecl.outline) outer.outline

def InterfaceHole.outline : InterfaceHole → InterfaceHole
  | .elems _ methods embeds outer =>
    .elems nowhere (methods.map MethodDecl.outline) (embeds.map TypeName.outline) outer.outline

end

def NameHole.outline : NameHole → NameHole
  | .type outer => .type outer.outline
  | .field _ _ isPointer outer => .field nowhere "" isPointer outer.outline
  | .embed outer => .embed outer.outline

def Mode.outline : Mode → Mode
  | .start => .start
  | .packageName _ => .packageName nowhere
  | .packageEnd file => .packageEnd file.outline
  | .imports file => .imports file.outline
  | .decls file => .decls file.outline
  | .importStart file => .importStart file.outline
  | .importPath _ localName hole => .importPath nowhere localName hole.outline
  | .importItem file => .importItem file.outline
  | .importRead spec hole => .importRead spec.outline hole.outline
  | .importEnd file => .importEnd file.outline
  | .typeStart _ file => .typeStart "" file.outline
  | .specItem _ specs file => .specItem "" (specs.map TypeSpec.outline) file.outline
  | .specName name _ hole => .specName name.outline "" hole.outline
  | .typeEnd file => .typeEnd file.outline
  | .type hole => .type hole.outline
  | .typeName name hole => .typeName name.outline hole.outline
  | .qualifier name hole => .qualifier name.outline hole.outline
  | .qualified name hole => .qualified name.outline hole.outline
  | .closed t hole => .closed t.outline hole.outline
  | .bracket _ hole => .bracket nowhere hole.outline
  | .arrayLength _ length hole => .arrayLength nowhere length hole.outline
  | .mapKeyword _ hole => .mapKeyword nowhere hole.outline
  | .structKeyword _ hole => .structKeyword nowhere hole.outline
  | .interfaceKeyword _ hole => .interfaceKeyword nowhere hole.outline
  | .funcKeyword hole => .funcKeyword hole.outline
  | .param hole => .param hole.outline
  | .paramName name hole => .paramName name.outline hole.outline
  | .params ps hole => .params (ps.map Param.outline) hole.outline
  | .results ps rs hole => .results (ps.map Param.outline) (rs.map Param.outline) hole.outline
  | .field hole => .field hole.outline
  | .fieldName name _ hole => .fieldName name.outline "" hole.outline
  | .fieldComma names _ hole => .fieldComma (names.map Ident.outline) "" hole.outline
  | .fieldNames names _ hole => .fieldNames (names.map Ident.outline) "" hole.outline
  | .fieldStar _ _ hole => .fieldStar nowhere "" hole.outline
  | .tag hole => .tag hole.outline
  | .elem hole => .elem hole.outline
  | .elemName name _ hole => .elemName name.outline "" hole.outline
  | .skipStart file => .skipStart file.outline
  | .skipOpen b outer file => .skipOpen b outer file.outline
  | .skip brackets file => .skip brackets file.outline
  | .done file => .done file.outline

def ContentFault.outline : ContentFault → ContentFault
  | .escape site fault => .escape site fault
  | .mixedParams _ => .mixedParams nowhere

def Step.outline (step : Step) : Step :=
  { mode := step.mode.outline, fault := step.fault.map ContentFault.outline }

def Outcome.outline (outcome : Outcome) : Outcome := outcome.map Step.outline

end Parser

def Token.outline (t : Token) : Token := { t with pos := nowhere }

namespace Parser

variable {t : Token}

@[simp] theorem goto_outline (mode : Mode) : (goto mode).outline = goto mode.outline := rfl

@[simp] theorem error_outline (expected : List Terminal) :
    Outcome.outline (.error expected) = .error expected := rfl

@[simp] theorem ok_outline (step : Step) : Outcome.outline (.ok step) = .ok step.outline := rfl

/-! ### Putting constructs into their holes -/

theorem withImports_outline (file : SourceFile) (spec : ImportSpec) :
    SourceFile.outline { file with imports := file.imports ++ [spec] } =
      { file.outline with imports := file.outline.imports ++ [spec.outline] } := by
  simp [SourceFile.outline]

theorem withTypes_outline (file : SourceFile) (specs : List TypeSpec) :
    SourceFile.outline { file with types := file.types ++ specs } =
      { file.outline with types := file.outline.types ++ specs.map TypeSpec.outline } := by
  simp [SourceFile.outline]

@[simp] theorem importRead_outline (spec : ImportSpec) (hole : ImportHole) (next : Terminal) :
    importRead spec.outline hole.outline next = (importRead spec hole next).outline := by
  fun_cases importRead spec hole next <;>
    simp_all [importRead, ImportHole.outline, Mode.outline, withImports_outline]

theorem closeGroup_outline (doc : String) (specs : List TypeSpec) :
    (closeGroup doc specs).map TypeSpec.outline = closeGroup "" (specs.map TypeSpec.outline) := by
  fun_cases closeGroup doc specs <;> simp_all [closeGroup, TypeSpec.outline]

theorem specRead_outline (spec : TypeSpec) (hole : SpecHole) (next : Terminal) :
    specRead spec.outline hole.outline next = (specRead spec hole next).outline := by
  fun_cases specRead spec hole next with
  | case1 file => simp [specRead, SpecHole.outline, Mode.outline, withTypes_outline]
  | case2 => rfl
  | case3 => simp [specRead, SpecHole.outline, Mode.outline]
  | case4 doc specs file =>
    simp [specRead, SpecHole.outline, Mode.outline, withTypes_outline, closeGroup_outline]
  | case5 => cases hole <;> simp_all [specRead, SpecHole.outline]

@[simp] theorem fieldClosed_outline (hole : StructHole) (next : Terminal) :
    fieldClosed hole.outline next = (fieldClosed hole next).outline := by
  fun_cases fieldClosed hole next with
  | case1 => simp [fieldClosed, Mode.outline]
  | case2 => simp [fieldClosed, Mode.outline, StructHole.outline, TypeExpr.outline]
  | case3 => cases hole; simp_all [fieldClosed, StructHole.outline]

theorem readTag_outline (t : Token) :
    (readTag t).2.map ContentFault.outline = (readTag t).2 := by
  unfold readTag
  split <;> rfl

@[simp] theorem fieldRead_outline {declare declare' : Option String → List (FieldDecl TypeExpr)}
    (same : ∀ tag, declare' tag = (declare tag).map FieldDecl.outline) (hole : StructHole) (t : Token) :
    fieldRead declare' hole.outline t.outline = (fieldRead declare hole t).outline := by
  obtain ⟨pos, members, outer⟩ := hole
  have inside : ∀ tag, (StructHole.fields nowhere (members.map FieldDecl.outline ++ declare' tag) outer.outline) =
      (StructHole.fields pos (members ++ declare tag) outer).outline := by
    intro tag
    rw [same, StructHole.outline, List.map_append]
  have tag : readTag t.outline = readTag t := rfl
  simp only [fieldRead, StructHole.outline, tag]
  have kind : t.outline.terminal = t.terminal := rfl
  rw [kind]
  split
  · rw [inside, ok_outline, Step.outline, readTag_outline]
    rfl
  · rw [inside, ok_outline, Step.outline, readTag_outline]
    rfl
  · rw [inside, fieldClosed_outline]
  · rw [inside, fieldClosed_outline]
  · rfl

theorem namedFields_outline (names : List Ident) (doc : String) (type : TypeExpr) (tag : Option String) :
    namedFields (names.map Ident.outline) "" type.outline tag =
      (namedFields names doc type tag).map FieldDecl.outline := by
  simp only [namedFields, List.map_map]
  rfl

theorem embeddedField_outline (pos : Position) (doc : String) (isPointer : Bool) (name : TypeName)
    (tag : Option String) :
    embeddedField nowhere "" isPointer name.outline tag =
      (embeddedField pos doc isPointer name tag).map FieldDecl.outline := by
  cases isPointer <;> simp [embeddedField, FieldDecl.outline, TypeExpr.outline, TypeName.outline]

@[simp] theorem elemRead_outline (hole : InterfaceHole) (next : Terminal) :
    elemRead hole.outline next = (elemRead hole next).outline := by
  fun_cases elemRead hole next with
  | case1 => simp [elemRead, Mode.outline]
  | case2 => simp [elemRead, Mode.outline, InterfaceHole.outline, TypeExpr.outline]
  | case3 => cases hole; simp_all [elemRead, InterfaceHole.outline]

/-! ### Grouping -/

theorem asName?_outline (p : Param TypeExpr) : p.outline.asName? = p.asName? := by
  obtain ⟨pos, name, variadic, type⟩ := p
  cases variadic <;> cases type <;> simp [Param.outline, Param.asName?, TypeExpr.outline]
  rename_i n
  obtain ⟨_, qualifier, _⟩ := n
  cases qualifier <;> rfl

def unplaced (name : Position × String) : Position × String := (nowhere, name.2)

theorem groupFrom_outline (listPos : Position) (pending : List (Position × String))
    (entries : List (Param TypeExpr)) :
    groupFrom nowhere (pending.map unplaced) (entries.map Param.outline) =
      ((groupFrom listPos pending entries).map (List.map Param.outline)).mapError fun _ => nowhere := by
  induction entries generalizing pending with
  | nil =>
    cases pending <;> rfl
  | cons entry rest ih =>
    rw [List.map_cons, groupFrom, groupFrom, asName?_outline]
    have name : entry.outline.name = entry.name := rfl
    rw [name]
    split
    · have later := ih []
      rw [List.map_nil] at later
      rw [later]
      cases groupFrom listPos [] rest with
      | error pos => rfl
      | ok more =>
        refine congrArg Except.ok ?_
        rw [List.map_append, List.map_cons, ← List.map_reverse, List.map_map, List.map_map]
        rfl
    · split
      · rename_i name _
        exact ih ((entry.pos, name) :: pending)
      · rfl

theorem grouped_outline (pos : Position) (entries : List (Param TypeExpr)) :
    grouped nowhere (entries.map Param.outline) =
      ((grouped pos entries).1.map Param.outline,
        (grouped pos entries).2.map ContentFault.outline) := by
  have names : (entries.map Param.outline).any (·.name.isSome) = entries.any (·.name.isSome) := by
    rw [List.any_map]
    rfl
  have whole := groupFrom_outline pos [] entries
  rw [List.map_nil] at whole
  rw [grouped, grouped, groupParams, groupParams, names]
  by_cases named : entries.any (·.name.isSome) = true
  · rw [if_pos named, if_pos named, whole]
    cases groupFrom pos [] entries <;> rfl
  · rw [if_neg named, if_neg named]
    rfl

theorem add_outline (entry : Param TypeExpr) (hole : ParamsHole) :
    hole.outline.add entry.outline = (hole.add entry).outline := by
  cases hole <;> simp [ParamsHole.add, ParamsHole.outline]

theorem close_outline (hole : ParamsHole) : hole.outline.close = hole.close.outline := by
  cases hole with
  | params pos entries outer =>
    simp [ParamsHole.close, ParamsHole.outline, grouped_outline pos, Step.outline, Mode.outline]
  | results pos entries inputs outer =>
    simp [ParamsHole.close, ParamsHole.outline, grouped_outline pos, Step.outline, Mode.outline]

@[simp] theorem paramRead_outline (entry : Param TypeExpr) (hole : ParamsHole) (next : Terminal) :
    paramRead entry.outline hole.outline next = (paramRead entry hole next).outline := by
  fun_cases paramRead entry hole next with
  | case1 => simp [paramRead, Mode.outline, add_outline]
  | case2 => simp [paramRead, add_outline, close_outline]
  | case3 => simp_all [paramRead]

theorem addMethod_outline (name : Ident) (doc : String) (signature : Signature TypeExpr)
    (hole : InterfaceHole) :
    addMethod name.outline "" signature.outline hole.outline =
      (addMethod name doc signature hole).outline := by
  cases hole
  simp [addMethod, InterfaceHole.outline, MethodDecl.outline, Ident.outline]

theorem pos_outline (type : TypeExpr) : type.outline.pos = nowhere := by
  cases type <;> rfl

mutual

@[simp] theorem typeRead_outline (type : TypeExpr) (hole : TypeHole) (t : Token) :
    typeRead type.outline hole.outline t.outline = (typeRead type hole t).outline := by
  -- By recursion on the hole: a type that is read may complete the one around it.
  cases hole with
  | spec name doc isAlias outer =>
    rw [typeRead, ← specRead_outline, TypeHole.outline, typeRead]
    rfl
  | pointer pos outer => exact typeRead_outline (.pointer pos type) outer t
  | slice pos outer => exact typeRead_outline (.slice pos type) outer t
  | array pos length outer => exact typeRead_outline (.array pos length type) outer t
  | mapKey pos outer =>
    rw [typeRead, TypeHole.outline, typeRead]
    have kind : t.outline.terminal = t.terminal := rfl
    rw [kind]
    split <;> rfl
  | mapValue pos key outer => exact typeRead_outline (.map pos key type) outer t
  | chan pos outer => exact typeRead_outline (.chan pos type) outer t
  | field names doc outer =>
    rw [typeRead, TypeHole.outline, typeRead]
    exact fieldRead_outline (namedFields_outline names doc type) outer t
  | param pos name variadic outer =>
    exact paramRead_outline ⟨pos, name, variadic, type⟩ outer t.terminal
  | result params outer =>
    rw [typeRead, ← signatureRead_outline, TypeHole.outline, typeRead, pos_outline]
    rfl

@[simp] theorem signatureRead_outline (signature : Signature TypeExpr) (hole : SignatureHole)
    (t : Token) :
    signatureRead signature.outline hole.outline t.outline = (signatureRead signature hole t).outline := by
  cases hole with
  | func pos outer =>
    have same : TypeExpr.func nowhere signature.outline = (TypeExpr.func pos signature).outline := by
      rw [TypeExpr.outline, outlineParams_eq, outlineParams_eq, Signature.outline]
    rw [SignatureHole.outline, signatureRead, signatureRead, same, typeRead_outline]
  | method name doc outer =>
    rw [SignatureHole.outline, signatureRead, signatureRead, addMethod_outline, ← elemRead_outline]
    rfl

end

@[simp] theorem nameRead_outline (name : TypeName) (hole : NameHole) (t : Token) :
    nameRead name.outline hole.outline t.outline = (nameRead name hole t).outline := by
  cases hole with
  | type outer => exact typeRead_outline (.named name) outer t
  | field pos doc isPointer outer =>
    exact fieldRead_outline (embeddedField_outline pos doc isPointer name) outer t
  | embed outer =>
    obtain ⟨pos, methods, embeds, outer⟩ := outer
    rw [nameRead, ← elemRead_outline, InterfaceHole.outline, List.map_append]
    rfl

/-! ### Starting constructs -/

@[simp] theorem terminal_outline (t : Token) : t.outline.terminal = t.terminal := rfl

@[simp] theorem text_outline (t : Token) : t.outline.text = t.text := rfl

@[simp] theorem typeBegun_outline (hole : TypeHole) (t : Token) :
    typeBegun hole.outline t.outline = (typeBegun hole t).outline := by
  rw [typeBegun, typeBegun, terminal_outline]
  split <;> rfl

@[simp] theorem importPathRead_outline (pos : Position) (localName : Option String) (hole : ImportHole)
    (t : Token) :
    importPathRead nowhere localName hole.outline t.outline =
      (importPathRead pos localName hole t).outline := by
  rw [importPathRead, importPathRead, text_outline]
  split <;> rfl

@[simp] theorem importBegun_outline (hole : ImportHole) (t : Token) :
    importBegun hole.outline t.outline = (importBegun hole t).outline := by
  rw [importBegun, importBegun, terminal_outline]
  split
  · rfl
  · rfl
  · rw [ok_outline, ← importPathRead_outline]
    rfl

variable (docs : Nat → String)

@[simp] theorem declBegun_outline (file : SourceFile) (t : Token) :
    declBegun (fun _ => "") file.outline t.outline = (declBegun docs file t).outline := by
  rw [declBegun, declBegun, terminal_outline]
  split <;> rfl

@[simp] theorem skipPart_outline (brackets : List Bracket) (file : SourceFile) (t : Token) :
    skipPart brackets file.outline t.outline = (skipPart brackets file t).outline := by
  rw [skipPart, skipPart, terminal_outline]
  split <;> rfl

@[simp] theorem skipAfter_outline (brackets : List Bracket) (file : SourceFile) (t : Token) :
    skipAfter brackets file.outline t.outline = (skipAfter brackets file t).outline := by
  fun_cases skipAfter brackets file t <;> simp_all [skipAfter, Mode.outline]

/-! ### Reading a token -/

theorem ite_outline {c : Prop} [Decidable c] {a b a' b' : Outcome} (first : a' = a.outline)
    (second : b' = b.outline) : (if c then a' else b') = (if c then a else b).outline := by
  split <;> assumption

theorem specsClosed_outline (doc : String) (specs : List TypeSpec) (file : SourceFile) :
    goto (.typeEnd { file.outline with
      types := file.outline.types ++ closeGroup "" (specs.map TypeSpec.outline) }) =
      (goto (.typeEnd { file with types := file.types ++ closeGroup doc specs })).outline := by
  rw [goto_outline, Mode.outline, withTypes_outline, closeGroup_outline]

theorem accept_outline (t : Token) (mode : Mode) :
    accept (fun _ => "") t.outline mode.outline = (accept docs t mode).outline := by
  cases mode with
  -- These go on to one place, whatever the token is.
  | start | packageName | packageEnd | importEnd | typeEnd | qualifier | arrayLength | mapKeyword
  | structKeyword | interfaceKeyword | funcKeyword | fieldStar | done => rfl
  | imports file | decls file => exact declBegun_outline docs file t
  | importStart file => exact ite_outline rfl (importBegun_outline (.single file) t)
  | importPath pos localName hole =>
    exact congrArg Except.ok (importPathRead_outline pos (some localName) hole t)
  | importItem file => exact ite_outline rfl (importBegun_outline (.group file) t)
  | importRead spec hole => exact importRead_outline spec hole t.terminal
  | typeStart doc file => exact ite_outline rfl rfl
  | specItem doc specs file => exact ite_outline (specsClosed_outline doc specs file) rfl
  | specName name doc hole => exact ite_outline rfl (typeBegun_outline (.spec name doc false hole) t)
  | type hole => exact typeBegun_outline hole t
  | typeName name hole => exact ite_outline rfl (nameRead_outline ⟨name.pos, none, name.name⟩ hole t)
  | qualified name hole => exact nameRead_outline name hole t
  | closed type hole => exact typeRead_outline type hole t
  | bracket pos hole => exact ite_outline rfl rfl
  | param hole =>
    refine ite_outline (congrArg Except.ok (close_outline hole)) (ite_outline rfl (ite_outline rfl ?_))
    exact typeBegun_outline (.param t.pos none false hole) t
  | paramName name hole =>
    refine ite_outline rfl (ite_outline rfl (ite_outline ?_ ?_))
    · exact typeRead_outline (.named ⟨name.pos, none, name.name⟩) (.param name.pos none false hole) t
    · exact typeBegun_outline (.param name.pos (some name.name) false hole) t
  | params params hole =>
    refine ite_outline rfl (ite_outline ?_ ?_)
    · exact typeBegun_outline (.result params hole) t
    · exact signatureRead_outline ⟨params, []⟩ hole t
  | results params results hole =>
    exact ite_outline (signatureRead_outline ⟨params, results⟩ hole t) rfl
  | field hole => exact ite_outline (fieldClosed_outline hole .rightBrace) (ite_outline rfl rfl)
  | fieldName name doc hole =>
    refine ite_outline rfl (ite_outline rfl (ite_outline ?_ ?_))
    · exact typeBegun_outline (.field [name] doc hole) t
    · exact nameRead_outline ⟨name.pos, none, name.name⟩ (.field name.pos doc false hole) t
  | fieldComma names doc hole =>
    rw [Mode.outline, accept, accept, goto_outline, Mode.outline, List.map_append]
    rfl
  | fieldNames names doc hole =>
    exact ite_outline rfl (typeBegun_outline (.field names doc hole) t)
  | tag hole => exact fieldClosed_outline hole t.terminal
  | elem hole => exact ite_outline (elemRead_outline hole .rightBrace) rfl
  | elemName name doc hole =>
    refine ite_outline rfl (ite_outline rfl ?_)
    exact nameRead_outline ⟨name.pos, none, name.name⟩ (.embed hole) t
  | skipStart file => exact skipPart_outline [] file t
  | skipOpen b outer file =>
    exact ite_outline rfl (ite_outline rfl (skipPart_outline (b :: outer) file t))
  | skip brackets file => exact skipAfter_outline brackets file t

theorem expects_outline (mode : Mode) : mode.outline.expects = mode.expects := by
  cases mode <;> rfl

theorem advance_outline (mode : Mode) (t : Token) :
    advance (fun _ => "") mode.outline t.outline = (advance docs mode t).outline := by
  rw [advance, advance, expects_outline, terminal_outline]
  split
  · exact accept_outline docs t mode
  · rfl

end Parser

end GoIdl.Syntax
