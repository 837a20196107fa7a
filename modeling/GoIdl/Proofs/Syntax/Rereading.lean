import GoIdl.Proofs.Syntax.Steps

/-!
# Printed type expressions are read again

The text of a legible type expression is read as that expression, wherever a type may start. How its
reading ends depends on what is around it, so each part is shown to lead to a place that only awaits
what closes it.
-/

namespace GoIdl.Syntax

open GoIdl.Syntax.Parser

/-! ### Printed texts -/

/-- A text that starts, and not with a blank. -/
def Solid (s : String) : Prop := ∃ c more, s.toList = c :: more ∧ isLayout c = false

theorem Solid.head {s : String} (solid : Solid s) (rest : List Char) :
    ∀ c ∈ (s.toList ++ rest).head?, isLayout c = false := by
  obtain ⟨d, more, letters, other⟩ := solid
  rw [letters]
  rintro c ⟨⟩
  exact other

theorem IsName.solid {s : String} (isName : IsName s) : Solid s := by
  obtain ⟨c, more, letters, starts, -⟩ := isName.spelled
  refine ⟨c, more, letters, ?_⟩
  have others : ∀ d ∈ [' ', '\t', '\x0c', '\r'], c ≠ d := by
    simp [isWordStart_ne (d := ' ') starts (by decide), isWordStart_ne (d := '\t') starts (by decide),
      isWordStart_ne (d := '\x0c') starts (by decide), isWordStart_ne (d := '\r') starts (by decide)]
  simpa [isLayout, and_assoc] using others

theorem Solid.append {s : String} (solid : Solid s) (more : String) : Solid (s ++ more) := by
  obtain ⟨c, inside, letters, other⟩ := solid
  exact ⟨c, inside ++ more.toList, by simp [letters], other⟩

theorem breaks_cons {c : Char} (other : Text.isWord c = false) (rest : List Char) :
    Breaks (c :: rest) := by
  rintro d ⟨⟩
  exact other

namespace TypeName

/-- What follows the first word of a name. -/
def tail (n : TypeName) : List Char := if n.qualifier.isSome then '.' :: n.name.toList else []

theorem toList_text (n : TypeName) : n.text.toList = n.first.toList ++ n.tail := by
  obtain ⟨pos, qualifier, name⟩ := n
  cases qualifier <;> simp [text, first, tail]

theorem name_eq_of_bare {m n : TypeName} (same : m.bare = n.bare) : m.name = n.name := by
  have names := congrArg TypeName.name same
  exact names

theorem breaks_tail (n : TypeName) {rest : List Char} (breaks : Breaks rest) :
    Breaks (n.tail ++ rest) := by
  unfold tail
  split
  · exact breaks_cons (by decide) _
  · exact breaks

theorem Spelled.solid {n : TypeName} (spelled : n.Spelled) : Solid n.text := by
  obtain ⟨c, more, letters, other⟩ := spelled.first.solid
  exact ⟨c, more ++ n.tail, by rw [toList_text, letters]; rfl, other⟩

end TypeName

/-- The results of a signature behind its parameters. -/
def resultsText (results : List String) (bare : Bool) : List Char :=
  match results with
  | [] => []
  | [result] => if bare then ' ' :: result.toList else ' ' :: '(' :: (result.toList ++ [')'])
  | _ => ' ' :: '(' :: ((", ".intercalate results).toList ++ [')'])

theorem toList_signatureText (params results : List String) (bare : Bool) :
    (signatureText params results bare).toList =
      '(' :: ((", ".intercalate params).toList ++ ')' :: resultsText results bare) := by
  unfold signatureText resultsText
  split
  · simp
  · split <;> simp
  · simp

/-- The first terminal of an expression. -/
def TypeExpr.first : TypeExpr → Terminal
  | .named _ => .name
  | .pointer _ _ => .star
  | .slice _ _ | .array _ _ _ => .leftBracket
  | .map _ _ _ => .mapKeyword
  | .chan _ _ => .chanKeyword
  | .func _ _ => .funcKeyword
  | .struct _ _ => .structKeyword
  | .interface _ _ _ => .interfaceKeyword

theorem TypeExpr.first_mem (type : TypeExpr) : type.first ∈ typeFirst := by
  cases type <;> exact List.mem_of_elem_eq_true rfl

theorem TypeExpr.Legible.solid {type : TypeExpr} (legible : type.Legible) : Solid type.text := by
  cases legible with
  | named spelled _ => exact spelled.solid
  | @func pos s =>
    obtain ⟨params, results⟩ := s
    exact ⟨'f', _, by rw [TypeExpr.text, String.toList_append]; rfl, by decide⟩
  | _ => exact ⟨_, _, by simp only [TypeExpr.text, String.toList_append, List.append_assoc]; rfl, by decide⟩

theorem paramTexts_eq (ps : List (Param TypeExpr)) :
    paramTexts ps = ps.map fun p => paramText p.name p.variadic p.type.text := by
  induction ps with
  | nil => rfl
  | cons p ps ih => rw [paramTexts, ih, List.map_cons]

def fieldText (f : FieldDecl TypeExpr) : String :=
  if f.embedded then f.type.text else f.name ++ " " ++ f.type.text

theorem fieldTexts_eq (fs : List (FieldDecl TypeExpr)) : fieldTexts fs = fs.map fieldText := by
  induction fs with
  | nil => rfl
  | cons f fs ih => rw [fieldTexts, ih, List.map_cons, fieldText]

theorem methodTexts_eq (ms : List (MethodDecl TypeExpr)) : methodTexts ms = ms.map MethodDecl.text := by
  induction ms with
  | nil => rfl
  | cons m ms ih => rw [methodTexts, ih, List.map_cons, MethodDecl.text]

def Param.bare (p : Param TypeExpr) : Param TypeExpr := ⟨nowhere, p.name, p.variadic, p.type.bare⟩

def FieldDecl.bare (f : FieldDecl TypeExpr) : FieldDecl TypeExpr :=
  ⟨nowhere, f.name, f.type.bare, none, f.embedded, ""⟩

def MethodDecl.bare (m : MethodDecl TypeExpr) : MethodDecl TypeExpr :=
  ⟨nowhere, m.name, ⟨bareParams m.signature.params, bareParams m.signature.results⟩, ""⟩

theorem bareParams_eq (ps : List (Param TypeExpr)) : bareParams ps = ps.map Param.bare := by
  induction ps with
  | nil => rfl
  | cons p ps ih => rw [bareParams, ih, List.map_cons, Param.bare]

theorem bareFields_eq (fs : List (FieldDecl TypeExpr)) : bareFields fs = fs.map FieldDecl.bare := by
  induction fs with
  | nil => rfl
  | cons f fs ih => rw [bareFields, ih, List.map_cons, FieldDecl.bare]

theorem bareMethods_eq (ms : List (MethodDecl TypeExpr)) : bareMethods ms = ms.map MethodDecl.bare := by
  induction ms with
  | nil => rfl
  | cons m ms ih => rw [bareMethods, ih, List.map_cons, MethodDecl.bare]

/-! ### Places where a construct ends -/

namespace Parser

/-- The terminals that close a type in what is printed. -/
def typeClosers : List Terminal := [.comma, .rightParen, .rightBracket, .rightBrace, .semicolon]

namespace Reading

/-- A place where only the tokens that close what has been read are looked at. -/
structure Awaits (closers : List Terminal) (rest : List Char) (outcome : Token → Outcome)
    (r : Reading) : Prop where
  rest : r.rest = rest
  sound : r.fault = none
  noOperator : .operator ∉ r.mode.expects
  expects : ∀ t ∈ closers, t ∈ r.mode.expects
  accepts : ∀ docs t, t.terminal ∈ closers → accept docs t r.mode = outcome t

/-- A statement may end here. -/
def Ends (r : Reading) : Prop := r.last.any Token.endsStatement = true

variable {r s : Reading} {closers fewer : List Terminal} {rest : List Char}
  {outcome other : Token → Outcome}
  {hole : TypeHole} {c : Char} {t : Terminal} {next mode : Mode} {word : String}

/-- Where a construct can end, its end is awaited. -/
theorem At.awaits (place : r.At mode rest) (noOperator : .operator ∉ mode.expects)
    (expects : ∀ t ∈ closers, t ∈ mode.expects)
    (accepts : ∀ docs t, t.terminal ∈ closers → accept docs t mode = outcome t) :
    r.Awaits closers rest outcome := by
  rw [← place.mode] at noOperator expects
  refine ⟨place.rest, place.sound, noOperator, expects, ?_⟩
  intro docs t member
  rw [place.mode]
  exact accepts docs t member

theorem Awaits.congr (awaits : r.Awaits closers rest outcome) (among : ∀ t ∈ fewer, t ∈ closers)
    (same : ∀ t, t.terminal ∈ fewer → outcome t = other t) : r.Awaits fewer rest other where
  rest := awaits.rest
  sound := awaits.sound
  noOperator := awaits.noOperator
  expects := fun t member => awaits.expects t (among t member)
  accepts := fun docs t member => (awaits.accepts docs t (among _ member)).trans (same t member)

theorem Awaits.close (awaits : r.Awaits closers (c :: rest) outcome) (mark : (c, t) ∈ signMarks)
    (closes : t ∈ closers) (leads : outcome ⟨t, String.ofList [c], r.pos⟩ = goto next) :
    ∃ r', r.Leads r' ∧ r'.At next rest ∧ r'.last = some ⟨t, String.ofList [c], r.pos⟩ :=
  leads_mark ⟨rfl, awaits.rest, awaits.sound⟩ awaits.noOperator mark (awaits.expects t closes)
    ((awaits.accepts _ _ closes).trans leads)

/-- A type expression that starts here with `first` goes into `hole`. -/
structure Begins (hole : TypeHole) (first : Terminal) (r : Reading) : Prop where
  starts : r.mode.startsType = true
  begun : ∀ docs t, t.terminal = first → t.pos = r.pos → accept docs t r.mode = typeBegun hole t

end Reading

/-! ### Where types start -/

theorem Mode.noOperator {mode : Mode} (starts : mode.startsType = true) : .operator ∉ mode.expects := by
  cases mode <;> cases starts <;> simp only [Mode.expects] <;> decide

theorem Mode.keyword_mem {mode : Mode} (starts : mode.startsType = true) {entry : String × Terminal}
    (keyword : entry ∈ Terminal.keywords) (expected : entry.2 ∈ mode.expects) : entry.1 ∈ typeWords := by
  revert entry
  cases mode <;> cases starts <;> simp only [Mode.expects] <;> decide

namespace Reading

variable {r s : Reading} {closers : List Terminal} {rest : List Char} {hole : TypeHole} {first : Terminal}
  {word : String} {next : Mode}

theorem begins_type (place : r.mode = .type hole) : r.Begins hole first where
  starts := by rw [place]; rfl
  begun := fun docs t _ _ => by rw [place]; rfl

theorem begins_specName {name : Ident} {doc : String} {outer : SpecHole}
    (place : r.mode = .specName name doc outer) (listed : first ∈ typeFirst) :
    r.Begins (.spec name doc false outer) first where
  starts := by rw [place]; rfl
  begun := by
    intro docs t same _
    have other : t.terminal ≠ .equal := by
      rintro equal
      rw [← same, equal] at listed
      exact absurd listed (by decide)
    rw [place, accept, if_neg other]

theorem begins_params {ps : List (Param TypeExpr)} {outer : SignatureHole}
    (place : r.mode = .params ps outer) (listed : first ∈ typeFirst) :
    r.Begins (.result ps outer) first where
  starts := by rw [place]; rfl
  begun := by
    intro docs t same _
    rw [← same] at listed
    have other : t.terminal ≠ .leftParen := by
      rintro equal
      rw [equal] at listed
      exact absurd listed (by decide)
    rw [place, accept, if_neg other, if_pos (List.contains_iff_mem.mpr listed)]

theorem begins_paramName {name : Ident} {outer : ParamsHole} (place : r.mode = .paramName name outer)
    (listed : first ∈ typeFirst) : r.Begins (.param name.pos (some name.name) false outer) first where
  starts := by rw [place]; rfl
  begun := by
    intro docs t same _
    rw [← same] at listed
    have others : ∀ u ∈ typeFirst,
        u ≠ .dot ∧ u ≠ .ellipsis ∧ ¬ (u = .comma ∨ u = .rightParen) := by
      decide
    obtain ⟨dot, ellipsis, ends⟩ := others _ listed
    rw [place, accept, if_neg dot, if_neg ellipsis, if_neg ends]

theorem begins_param {outer : ParamsHole} (place : r.mode = .param outer) (listed : first ∈ typeFirst)
    (noName : first ≠ .name) : r.Begins (.param r.pos none false outer) first where
  starts := by rw [place]; rfl
  begun := by
    intro docs t same pos
    rw [← same] at listed noName
    have others : ∀ u ∈ typeFirst, u ≠ .rightParen ∧ u ≠ .ellipsis := by decide
    obtain ⟨closes, ellipsis⟩ := others _ listed
    rw [place, accept, if_neg closes, if_neg ellipsis, if_neg noName, pos]

theorem begins_fieldName {name : Ident} {doc : String} {outer : StructHole}
    (place : r.mode = .fieldName name doc outer) (listed : first ∈ typeFirst) :
    r.Begins (.field [name] doc outer) first where
  starts := by rw [place]; rfl
  begun := by
    intro docs t same _
    rw [← same] at listed
    have others : ∀ u ∈ typeFirst, u ≠ .comma ∧ u ≠ .dot := by decide
    obtain ⟨comma, dot⟩ := others _ listed
    rw [place, accept, if_neg comma, if_neg dot, if_pos (List.contains_iff_mem.mpr listed)]

theorem Begins.noOperator (begins : r.Begins hole first) : .operator ∉ r.mode.expects :=
  Mode.noOperator begins.starts

theorem Begins.expects (begins : r.Begins hole first) {t : Terminal} (listed : t ∈ typeFirst) :
    t ∈ r.mode.expects := Mode.expects_typeFirst begins.starts t listed

/-- The sign that a type starts with. -/
theorem Begins.mark {c : Char} (begins : r.Begins hole first) (text : r.rest = c :: rest)
    (sound : r.fault = none) (mark : (c, first) ∈ signMarks) (listed : first ∈ typeFirst)
    (begun : typeBegun hole ⟨first, String.ofList [c], r.pos⟩ = goto next) :
    ∃ s, r.Leads s ∧ s.At next rest := by
  obtain ⟨s, leads, place, -⟩ := leads_mark ⟨rfl, text, sound⟩ begins.noOperator mark
    (begins.expects listed) ((begins.begun _ _ rfl rfl).trans begun)
  exact ⟨s, leads, place⟩

/-- The keyword that a type starts with. -/
theorem Begins.keyword (begins : r.Begins hole first) (text : r.rest = word.toList ++ rest)
    (sound : r.fault = none) (keyword : (word, first) ∈ Terminal.keywords) (listed : first ∈ typeFirst)
    (breaks : Breaks rest) (begun : typeBegun hole ⟨first, word, r.pos⟩ = goto next) :
    ∃ s, r.Leads s ∧ s.At next rest :=
  leads_keyword ⟨rfl, text, sound⟩ begins.noOperator (begins.expects (by decide)) keyword
    (begins.expects listed) breaks ((begins.begun _ _ rfl rfl).trans begun)

end Reading

/-! ### Names -/

/-- Behind the first word of a name that goes into `hole`. -/
structure Mode.NamesType (name : Ident) (hole : NameHole) (closers : List Terminal) (mode : Mode) :
    Prop where
  noOperator : .operator ∉ mode.expects
  dot : .dot ∈ mode.expects
  expects : ∀ t ∈ closers, t ∈ mode.expects
  dotted : ∀ docs t, t.terminal = .dot → accept docs t mode = goto (.qualifier name hole)
  closed : ∀ docs t, t.terminal ∈ closers →
    accept docs t mode = nameRead ⟨name.pos, none, name.name⟩ hole t

theorem namesType_typeName (name : Ident) (hole : NameHole) :
    (Mode.typeName name hole).NamesType name hole typeClosers where
  noOperator := Mode.unexpected rfl
  dot := Mode.expected rfl
  expects := Mode.expected_all rfl
  dotted := fun docs t same => by rw [accept, if_pos same]
  closed := by
    intro docs t member
    have other : t.terminal ≠ .dot := by
      intro same
      rw [same] at member
      exact absurd member (by decide)
    rw [accept, if_neg other]

theorem namesType_paramName (name : Ident) (hole : ParamsHole) :
    (Mode.paramName name hole).NamesType name (.type (.param name.pos none false hole))
      [.comma, .rightParen] where
  noOperator := Mode.unexpected rfl
  dot := Mode.expected rfl
  expects := Mode.expected_all rfl
  dotted := fun docs t same => by rw [accept, if_pos same]
  closed := by
    intro docs t member
    have others : ∀ u ∈ [Terminal.comma, .rightParen],
        u ≠ .dot ∧ u ≠ .ellipsis ∧ (u = .comma ∨ u = .rightParen) := by
      decide
    obtain ⟨dot, ellipsis, ends⟩ := others _ member
    rw [accept, if_neg dot, if_neg ellipsis, if_pos ends]
    rfl

theorem namesType_fieldName (name : Ident) (doc : String) (hole : StructHole) :
    (Mode.fieldName name doc hole).NamesType name (.field name.pos doc false hole)
      [.semicolon, .rightBrace] where
  noOperator := Mode.unexpected rfl
  dot := Mode.expected rfl
  expects := Mode.expected_all rfl
  dotted := by
    intro docs t same
    have other : t.terminal ≠ .comma := by rw [same]; decide
    rw [accept, if_neg other, if_pos same]
  closed := by
    intro docs t member
    have others : ∀ u ∈ [Terminal.semicolon, .rightBrace], u ≠ .comma ∧ u ≠ .dot ∧
        ¬ typeFirst.contains u = true := by decide
    obtain ⟨comma, dot, noType⟩ := others _ member
    rw [accept, if_neg comma, if_neg dot, if_neg noType]

theorem namesType_elemName (name : Ident) (doc : String) (hole : InterfaceHole) :
    (Mode.elemName name doc hole).NamesType name (.embed hole) [.semicolon, .rightBrace] where
  noOperator := Mode.unexpected rfl
  dot := Mode.expected rfl
  expects := Mode.expected_all rfl
  dotted := fun docs t same => by rw [accept, if_pos same]
  closed := by
    intro docs t member
    have others : ∀ u ∈ [Terminal.semicolon, .rightBrace], u ≠ .dot ∧ u ≠ .leftParen := by decide
    obtain ⟨dot, paren⟩ := others _ member
    rw [accept, if_neg dot, if_neg paren]

namespace Reading

variable {r s : Reading} {closers : List Terminal} {rest : List Char} {mode : Mode}

theorem ends_of_last {t : Token} (last : r.last = some t) (ends : t.endsStatement = true) : r.Ends := by
  rw [Ends, last]
  exact ends

theorem name_read {n : TypeName} {pos : Position} {hole : NameHole} (spelled : n.Spelled)
    (behind : mode.NamesType ⟨n.first, pos⟩ hole closers) (among : ∀ t ∈ closers, t ∈ typeClosers)
    (place : r.At mode (n.tail ++ rest)) (ends : r.Ends) (breaks : Breaks rest) :
    ∃ s n', r.Leads s ∧ n'.bare = n.bare ∧ s.Ends ∧ s.Awaits closers rest (nameRead n' hole) := by
  obtain ⟨at_, qualifier, name⟩ := n
  cases qualifier with
  | none =>
    exact ⟨r, ⟨pos, none, name⟩, .refl r, rfl, ends,
      place.awaits behind.noOperator behind.expects behind.closed⟩
  | some q =>
    obtain ⟨c, more, letters, starts, -⟩ := spelled.name.spelled
    have text : TypeName.tail ⟨at_, some q, name⟩ ++ rest = '.' :: c :: (more ++ rest) := by
      simp only [TypeName.tail, Option.isSome_some, if_true, letters, List.cons_append]
    rw [text] at place
    obtain ⟨s, toDot, afterDot, -⟩ := leads_token place
      (scan_dot behind.noOperator behind.dot (isWordStart_ne starts (by decide))) (by simp) (by decide)
      behind.dot (behind.dotted _ _ rfl)
    have placeWord : s.At (.qualifier ⟨q, pos⟩ hole) (name.toList ++ rest) := by
      rw [letters]
      exact afterDot
    have noKeyword : ∀ entry ∈ Terminal.keywords, entry.2 ∉ [Terminal.name] := by decide
    obtain ⟨u, toName, afterName, last⟩ := leads_word placeWord (Mode.unexpected rfl)
      (Mode.expected rfl) spelled.name
      (fun entry keyword expected => absurd expected (noKeyword entry keyword)) breaks rfl
    have follows : ∀ t ∈ typeClosers, t ∈ typeFollow := by decide
    exact ⟨u, ⟨pos, some q, name⟩, toDot.trans toName, rfl, ends_of_last last rfl,
      afterName.awaits (Mode.unexpected rfl) (fun t member => follows t (among t member)) fun _ _ _ => rfl⟩

end Reading

/-! ### Types without lists -/

/-- Wherever the expression may start, its text is read as the expression up to positions, docs and
tags. -/
def ReadsBack (type : TypeExpr) : Prop :=
  ∀ ⦃r : Reading⦄ ⦃hole : TypeHole⦄ ⦃rest : List Char⦄, r.Begins hole type.first →
    r.rest = type.text.toList ++ rest → r.fault = none → Breaks rest →
      ∃ s type', r.Leads s ∧ type'.bare = type.bare ∧ s.Ends ∧
        s.Awaits typeClosers rest (typeRead type' hole)

open Reading

variable {elem key value : TypeExpr} {pos : Position}

theorem readsBack_named {n : TypeName} (spelled : n.Spelled) (plain : n.first ∉ typeWords) :
    ReadsBack (.named n) := by
  intro r hole rest begins text sound breaks
  rw [TypeExpr.text, TypeName.toList_text, List.append_assoc] at text
  -- A word that starts another type would be scanned as its keyword here.
  obtain ⟨s, toWord, behind, last⟩ := leads_word ⟨rfl, text, sound⟩ begins.noOperator
    (begins.expects (by decide)) spelled.first
    (fun entry keyword expected same => plain (same ▸ Mode.keyword_mem begins.starts keyword expected))
    (n.breaks_tail breaks) (begins.begun _ _ rfl rfl)
  obtain ⟨u, n', toEnd, bare, ends, awaits⟩ := name_read spelled
    (namesType_typeName ⟨n.first, r.pos⟩ (.type hole)) (fun _ => id) behind (ends_of_last last rfl) breaks
  exact ⟨u, .named n', toWord.trans toEnd, congrArg TypeExpr.named bare, ends, awaits⟩

theorem readsBack_pointer (inner : ReadsBack elem) : ReadsBack (.pointer pos elem) := by
  intro r hole rest (begins : r.Begins hole .star) text sound breaks
  have text : r.rest = '*' :: (elem.text.toList ++ rest) := by
    rw [text, TypeExpr.text, String.toList_append]
    rfl
  obtain ⟨s, toElem, behind⟩ := begins.mark text sound (by decide) (by decide) rfl
  obtain ⟨u, elem', toEnd, bare, ends, awaits⟩ :=
    inner (begins_type behind.mode) behind.rest behind.sound breaks
  refine ⟨u, .pointer r.pos elem', toElem.trans toEnd, by simp only [TypeExpr.bare, bare], ends, ?_⟩
  exact awaits.congr (fun _ => id) fun t _ => by rw [typeRead]

theorem readsBack_slice (inner : ReadsBack elem) : ReadsBack (.slice pos elem) := by
  intro r hole rest (begins : r.Begins hole .leftBracket) text sound breaks
  have text : r.rest = '[' :: ']' :: (elem.text.toList ++ rest) := by
    rw [text, TypeExpr.text, String.toList_append]
    rfl
  obtain ⟨s, toBracket, behind⟩ := begins.mark text sound (by decide) (by decide) rfl
  obtain ⟨u, toElem, behindBracket, -⟩ := leads_mark (t := .rightBracket) behind
    (Mode.unexpected rfl) (by decide) (Mode.expected rfl) rfl
  obtain ⟨v, elem', toEnd, bare, ends, awaits⟩ :=
    inner (begins_type behindBracket.mode) behindBracket.rest behindBracket.sound breaks
  refine ⟨v, .slice r.pos elem', (toBracket.trans toElem).trans toEnd,
    by simp only [TypeExpr.bare, bare], ends, ?_⟩
  exact awaits.congr (fun _ => id) fun t _ => by rw [typeRead]

theorem readsBack_array {length : String} (sized : IsLength length) (inner : ReadsBack elem) :
    ReadsBack (.array pos length elem) := by
  intro r hole rest (begins : r.Begins hole .leftBracket) text sound breaks
  have text : r.rest = '[' :: (length.toList ++ ']' :: (elem.text.toList ++ rest)) := by
    rw [text, TypeExpr.text]
    simp
  obtain ⟨s, toLength, behind⟩ := begins.mark text sound (by decide) (by decide) rfl
  obtain ⟨t, kind, scanned⟩ := scan_length sized
  have filled : length.toList ≠ [] := by
    cases sized with
    | name isName =>
      obtain ⟨c, more, letters, -⟩ := isName.spelled
      simp [letters]
    | number spelled =>
      obtain ⟨c, more, letters, -⟩ := spelled
      simp [letters]
  have taken : accept (Comment.above s.comments) ⟨t, String.ofList length.toList, s.pos⟩
      (.bracket r.pos hole) = goto (.arrayLength r.pos length hole) := by
    have other : t ≠ .rightBracket := by
      rcases kind with rfl | rfl <;> decide
    rw [accept, if_neg other, String.ofList_toList]
  obtain ⟨u, toBracket, behindLength, -⟩ := leads_token behind scanned filled
    (by rcases kind with rfl | rfl <;> decide)
    (by rcases kind with rfl | rfl <;> simp only [Mode.expects] <;> decide) taken
  obtain ⟨v, toElem, behindBracket, -⟩ := leads_mark (t := .rightBracket) behindLength
    (Mode.unexpected rfl) (by decide) (Mode.expected rfl) rfl
  obtain ⟨w, elem', toEnd, bare, ends, awaits⟩ :=
    inner (begins_type behindBracket.mode) behindBracket.rest behindBracket.sound breaks
  refine ⟨w, .array r.pos length elem', ((toLength.trans toBracket).trans toElem).trans toEnd,
    by simp only [TypeExpr.bare, bare], ends, ?_⟩
  exact awaits.congr (fun _ => id) fun t _ => by rw [typeRead]

theorem readsBack_map (inKey : ReadsBack key) (inValue : ReadsBack value) :
    ReadsBack (.map pos key value) := by
  intro r hole rest (begins : r.Begins hole .mapKeyword) text sound breaks
  have text : r.rest = "map".toList ++ '[' :: (key.text.toList ++ ']' :: (value.text.toList ++ rest)) := by
    rw [text, TypeExpr.text]
    simp
  obtain ⟨s, toBracket, behind⟩ := begins.keyword text sound (by decide) (by decide)
    (breaks_cons (by decide) _) rfl
  obtain ⟨u, toKey, behindBracket, -⟩ := leads_mark (t := .leftBracket) behind
    (Mode.unexpected rfl) (by decide) (Mode.expected rfl) rfl
  obtain ⟨v, key', toKeyEnd, bareKey, -, awaitsKey⟩ := inKey (begins_type behindBracket.mode)
    behindBracket.rest behindBracket.sound (breaks_cons (by decide) _)
  obtain ⟨w, toValue, behindKey, -⟩ := awaitsKey.close (t := .rightBracket) (by decide) (by decide)
    (by rw [typeRead, if_pos rfl])
  obtain ⟨x, value', toEnd, bareValue, ends, awaits⟩ :=
    inValue (begins_type behindKey.mode) behindKey.rest behindKey.sound breaks
  refine ⟨x, .map r.pos key' value', (((toBracket.trans toKey).trans toKeyEnd).trans toValue).trans toEnd,
    by simp only [TypeExpr.bare, bareKey, bareValue], ends, ?_⟩
  exact awaits.congr (fun _ => id) fun t _ => by rw [typeRead]

theorem readsBack_chan (solid : Solid elem.text) (inner : ReadsBack elem) :
    ReadsBack (.chan pos elem) := by
  intro r hole rest (begins : r.Begins hole .chanKeyword) text sound breaks
  have text : r.rest = "chan".toList ++ ' ' :: (elem.text.toList ++ rest) := by
    rw [text, TypeExpr.text, String.toList_append]
    rfl
  obtain ⟨s, toBlank, behind⟩ := begins.keyword text sound (by decide) (by decide)
    (breaks_cons (by decide) _) rfl
  obtain ⟨u, toElem, behindBlank, -⟩ := leads_blank behind (Mode.noOperator rfl) (solid.head rest)
  obtain ⟨v, elem', toEnd, bare, ends, awaits⟩ :=
    inner (begins_type behindBlank.mode) behindBlank.rest behindBlank.sound breaks
  refine ⟨v, .chan r.pos elem', (toBlank.trans toElem).trans toEnd,
    by simp only [TypeExpr.bare, bare], ends, ?_⟩
  exact awaits.congr (fun _ => id) fun t _ => by rw [typeRead]

end Parser

end GoIdl.Syntax
