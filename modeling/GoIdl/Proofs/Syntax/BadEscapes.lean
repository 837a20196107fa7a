import GoIdl.Syntax.Source
import GoIdl.Proofs.Syntax.Progress
import GoIdl.Proofs.Syntax.Scanning
import GoIdl.Proofs.Text.Bounds
import Mathlib.Data.Option.Basic

/-!
# Bad escapes in source texts

The parser puts a bad escape aside and reads on, so that a text is refused for it long after the
literal has been met. What it is refused for is a literal of that text all the same.
-/

namespace GoIdl.Syntax

variable {fault : EscapeFault} {source : List Char}

theorem unquote_eq_error {s : String} :
    unquote s = .error fault ↔ unquoteChars s.toList = .error fault := map_eq_error

/-- A literal of the text is refused for this escape. -/
def EscapeFault.In (source : List Char) (fault : EscapeFault) : Prop :=
  ∃ literal, literal <:+: source ∧ unquoteChars literal = .error fault

namespace EscapeFault.In

theorem beyond (inside : fault.In source) : 0x110000 ≤ fault.number := by
  obtain ⟨_, _, refused⟩ := inside
  exact unquoteChars_refused refused

theorem mono {whole : List Char} (inside : fault.In source) (part : source <:+: whole) :
    fault.In whole := by
  obtain ⟨literal, within, refused⟩ := inside
  exact ⟨literal, within.trans part, refused⟩

end EscapeFault.In

namespace Parser

variable {t : Token}

/-! ### Faults of a token -/

/-- A bad escape is the one that the token is refused for. -/
def ContentFault.Of (t : Token) : ContentFault → Prop
  | .escape _ fault => unquote t.text = .error fault
  | .mixedParams _ => True

/-- If the token is taken, what is put aside is its fault. -/
def Outcome.Faithful (t : Token) (outcome : Outcome) : Prop :=
  ∀ step, outcome = .ok step → ∀ fault, step.fault = some fault → fault.Of t

namespace Outcome

theorem faithful_ok {step : Step} (of : ∀ fault, step.fault = some fault → fault.Of t) :
    Faithful t (.ok step) := by
  rintro _ ⟨⟩
  exact of

@[simp] theorem faithful_goto : Faithful t (goto mode) := faithful_ok nofun

@[simp] theorem faithful_error (expected : List Terminal) : Faithful t (.error expected) := by
  rintro _ ⟨⟩

end Outcome

open GoIdl.Syntax.Parser.Outcome

@[simp] theorem importRead_faithful (spec : ImportSpec) (hole : ImportHole) (next : Terminal) :
    (importRead spec hole next).Faithful t := by
  unfold importRead
  split <;> simp

@[simp] theorem specRead_faithful (spec : TypeSpec) (hole : SpecHole) (next : Terminal) :
    (specRead spec hole next).Faithful t := by
  unfold specRead
  split <;> simp

@[simp] theorem fieldClosed_faithful (hole : StructHole) (next : Terminal) :
    (fieldClosed hole next).Faithful t := by
  unfold fieldClosed
  split <;> simp

theorem readTag_of {fault : ContentFault} (found : (readTag t).2 = some fault) : fault.Of t := by
  unfold readTag at found
  split at found
  · cases found
  · rename_i refused
    cases found
    exact refused

@[simp] theorem fieldRead_faithful (declare : Option String → List (FieldDecl TypeExpr))
    (hole : StructHole) : (fieldRead declare hole t).Faithful t := by
  obtain ⟨pos, fields, outer⟩ := hole
  simp only [fieldRead]
  split
  · exact faithful_ok fun _ => readTag_of
  · exact faithful_ok fun _ => readTag_of
  · simp
  · simp
  · simp

@[simp] theorem elemRead_faithful (hole : InterfaceHole) (next : Terminal) :
    (elemRead hole next).Faithful t := by
  unfold elemRead
  split <;> simp

/-- A parameter list has no escapes of its own. -/
theorem grouped_of {pos : Position} {entries : List (Param TypeExpr)} {fault : ContentFault}
    (found : (grouped pos entries).2 = some fault) : fault.Of t := by
  unfold grouped at found
  split at found
  · cases found
  · cases found
    trivial

@[simp] theorem close_faithful (hole : ParamsHole) : Faithful t (.ok hole.close) := by
  cases hole <;> exact faithful_ok fun _ => grouped_of

@[simp] theorem paramRead_faithful (entry : Param TypeExpr) (hole : ParamsHole) (next : Terminal) :
    (paramRead entry hole next).Faithful t := by
  unfold paramRead
  split <;> simp

mutual

@[simp] theorem typeRead_faithful (type : TypeExpr) (hole : TypeHole) :
    (typeRead type hole t).Faithful t := by
  cases hole with
  | spec name doc isAlias outer =>
    rw [typeRead]
    exact specRead_faithful _ _ _
  | pointer pos outer =>
    rw [typeRead]
    exact typeRead_faithful _ outer
  | slice pos outer =>
    rw [typeRead]
    exact typeRead_faithful _ outer
  | array pos length outer =>
    rw [typeRead]
    exact typeRead_faithful _ outer
  | mapKey pos outer =>
    rw [typeRead]
    split <;> simp
  | mapValue pos key outer =>
    rw [typeRead]
    exact typeRead_faithful _ outer
  | chan pos outer =>
    rw [typeRead]
    exact typeRead_faithful _ outer
  | field names doc outer =>
    rw [typeRead]
    exact fieldRead_faithful _ outer
  | param pos name variadic outer =>
    rw [typeRead]
    exact paramRead_faithful _ outer _
  | result params outer =>
    rw [typeRead]
    exact signatureRead_faithful _ outer

@[simp] theorem signatureRead_faithful (signature : Signature TypeExpr) (hole : SignatureHole) :
    (signatureRead signature hole t).Faithful t := by
  cases hole with
  | func pos outer =>
    rw [signatureRead]
    exact typeRead_faithful _ outer
  | method name doc outer =>
    rw [signatureRead]
    exact elemRead_faithful _ _

end

@[simp] theorem nameRead_faithful (name : TypeName) (hole : NameHole) :
    (nameRead name hole t).Faithful t := by
  unfold nameRead
  split <;> simp

@[simp] theorem typeBegun_faithful (hole : TypeHole) : (typeBegun hole t).Faithful t := by
  unfold typeBegun
  split <;> simp

@[simp] theorem importPathRead_faithful (pos : Position) (localName : Option String)
    (hole : ImportHole) : Faithful t (.ok (importPathRead pos localName hole t)) := by
  unfold importPathRead
  split
  · exact faithful_goto
  · rename_i refused
    refine faithful_ok ?_
    rintro _ ⟨⟩
    exact refused

@[simp] theorem importBegun_faithful (hole : ImportHole) : (importBegun hole t).Faithful t := by
  unfold importBegun
  split <;> simp

@[simp] theorem declBegun_faithful (docs : Nat → String) (file : SourceFile) :
    (declBegun docs file t).Faithful t := by
  unfold declBegun
  split <;> simp

@[simp] theorem skipPart_faithful (brackets : List Bracket) (file : SourceFile) :
    (skipPart brackets file t).Faithful t := by
  unfold skipPart
  split <;> simp

@[simp] theorem skipAfter_faithful (brackets : List Bracket) (file : SourceFile) :
    (skipAfter brackets file t).Faithful t := by
  fun_cases skipAfter brackets file t <;> simp

theorem accept_faithful (docs : Nat → String) (mode : Mode) : (accept docs t mode).Faithful t := by
  fun_cases accept docs t mode <;> simp

theorem advance_of {docs : Nat → String} {mode : Mode} {step : Step} {fault : ContentFault}
    (advanced : advance docs mode t = .ok step) (found : step.fault = some fault) :
    fault.Of t := by
  unfold advance at advanced
  split at advanced
  · exact accept_faithful docs mode step advanced fault found
  · cases advanced

/-! ### Faults of a text -/

/-- A bad escape stands in the text. -/
def ContentFault.In (source : List Char) : ContentFault → Prop
  | .escape _ fault => fault.In source
  | .mixedParams _ => True

/-- What the token may be refused for stands in the text. -/
def TellsOf (source : List Char) (t : Token) : Prop :=
  ∀ fault : ContentFault, fault.Of t → fault.In source

theorem tellsOf_inside (inside : t.text.toList <:+: source) : TellsOf source t := by
  rintro (⟨site, fault⟩ | pos) of
  · exact ⟨_, inside, unquote_eq_error.mp of⟩
  · trivial

/-- A token that is not written is never refused. -/
theorem tellsOf_implied (implied : t.Implied) : TellsOf source t := by
  have semicolon : unquote ";" = .ok ";" := by rfl
  have empty : unquote "" = .ok "" := by rfl
  obtain ⟨text, readable⟩ : ∃ text, unquote t.text = .ok text := by
    cases implied with
    | semicolon => exact ⟨_, semicolon⟩
    | ended => exact ⟨_, empty⟩
  rintro (⟨site, fault⟩ | pos) of
  · exact nomatch readable.symm.trans of
  · trivial

namespace Reading

variable {r r' : Reading}

/-- What is left to read ends the text, and what has been put aside stands in it. -/
structure Faithful (source : List Char) (r : Reading) : Prop where
  rest : r.rest <:+ source
  fault : ∀ fault, r.fault = some fault → fault.In source

namespace Faithful

theorem start (source : List Char) : (Reading.start source).Faithful source :=
  ⟨List.suffix_rfl, nofun⟩

theorem feed (faithful : r.Faithful source) (tells : TellsOf source t) (fed : r.feed t = .ok r') :
    r'.Faithful source := by
  obtain ⟨step, advanced, rfl⟩ := feed_ok fed
  refine ⟨faithful.rest, fun fault found => ?_⟩
  rcases (Option.orElse_eq_some _ _ _).mp found with old | ⟨-, new⟩
  · exact faithful.fault fault old
  · exact tells fault (advance_of advanced new)

theorem emit (faithful : r.Faithful source) (inside : t.text.toList <:+: source)
    (emitted : r.emit t = .ok r') : r'.Faithful source := by
  cases emits_of_ok emitted with
  | token _ fed => exact faithful.feed (tellsOf_inside inside) fed
  | semicolon _ fed => exact faithful.feed (tellsOf_implied (.semicolon _)) fed
  | nothing => exact faithful

theorem steps (faithful : r.Faithful source) (step : r.Steps r') : r'.Faithful source := by
  have left : ∀ {text rest : List Char}, r.rest = text ++ rest → rest <:+ source :=
    fun whole => (List.suffix_append _ _).trans (whole ▸ faithful.rest)
  cases step with
  | comment found | layout found => exact ⟨left (scan_append found), faithful.fault⟩
  | @token t text rest after found emitted =>
    have whole : r.rest = text ++ rest := scan_append found
    have inside : text <:+: source :=
      (List.prefix_append text rest).isInfix.trans (whole ▸ faithful.rest.isInfix)
    exact ⟨left whole, (faithful.emit (by rwa [String.toList_ofList]) emitted).fault⟩
  | ended => exact faithful

end Faithful

end Reading

theorem parse_refused {parsed : Parsed} {fault : ContentFault} (read : parse source = .ok parsed)
    (refused : parsed.file = .error fault) : fault.In source := by
  obtain ⟨r, last, ran, finished, -, ⟨other, found, same⟩ | ⟨file, -, same⟩⟩ := parse_ok read
  · have ended := Reading.run_keeps _ (fun _ _ held step => held.steps step)
      (Reading.Faithful.start source) ran
    have closed := Reading.finish_keeps _
      (fun _ _ _ held implied fed => held.feed (tellsOf_implied implied) fed) ended finished
    cases same.symm.trans refused
    exact closed.fault _ found
  · cases same.symm.trans refused

theorem withoutMark_suffix (source : List Char) : withoutMark source <:+ source := by
  unfold withoutMark
  split
  · exact List.suffix_cons _ _
  · exact List.suffix_rfl

end Parser

/-- A text is refused for an error in the definitions or a bad escape in one of its literals. -/
theorem Source.ofPath_refused {path : Disk.Path} {text : String} {failure : Failure}
    (refused : Source.ofPath path text = .error failure) :
    (∃ error, failure = .definition error) ∨
      ∃ site fault, failure = .literal site fault ∧ fault.In text.toList := by
  rcases bind_eq_error.mp refused with unread | ⟨parsed, parsing, refused⟩
  · obtain ⟨fault, _, rfl⟩ := mapError_eq_error.mp unread
    exact .inl ⟨_, rfl⟩
  · rcases bind_eq_error.mp refused with refused | ⟨_, _, done⟩
    · obtain ⟨fault, content, rfl⟩ := mapError_eq_error.mp refused
      have inside := Parser.parse_refused (mapError_eq_ok.mp parsing) content
      cases fault with
      | escape site fault =>
        exact .inr ⟨site, fault, rfl, inside.mono (Parser.withoutMark_suffix _).isInfix⟩
      | mixedParams pos => exact .inl ⟨_, rfl⟩
    · cases done

end GoIdl.Syntax
