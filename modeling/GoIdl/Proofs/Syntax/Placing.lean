import GoIdl.Proofs.Syntax.Standing

/-!
# Names and docs in their places

Every place of reading holds names with the positions at which they stand, and docs with the positions
that they were looked up for. What is required of either is left open: positions are told to be those
of the source first, and docs to be those of the comments above.
-/

namespace GoIdl

namespace Syntax

/-! ### Types with their names and docs in place -/

/-- What is required of the names, marks and docs at a position, and of the doc of a declaration in
parentheses whose first name is there. -/
structure Rules where
  name : Position → String → Prop
  mark : Position → String → Prop
  doc : Position → String → Prop
  group : Position → String → Prop

/-- The names of parameters and results follow the rule. -/
def Signature.Written (name : Position → String → Prop) (s : Signature TypeExpr) : Prop :=
  ∀ p ∈ s.params ++ s.results, ∀ word ∈ p.name, name p.pos word

/-- The names that belong to an expression and not to its parts follow the rule. -/
def TypeExpr.Written (name : Position → String → Prop) : TypeExpr → Prop
  | .named n => name n.pos n.first
  | .func _ s => s.Written name
  | .struct _ fields => ∀ f ∈ fields, f.embedded = false → name f.pos f.name
  | .interface _ methods _ => ∀ m ∈ methods, name m.pos m.name ∧ m.signature.Written name
  | _ => True

/-- Fields as they are declared. The first of several names has the doc, and the others share it with
the type and the tag; a type that is embedded has its own, at its star if there is one. -/
inductive DeclaredFields (mark doc : Position → String → Prop) : List (FieldDecl TypeExpr) → Prop where
  | nil : DeclaredFields mark doc []
  | named {fields rest : List (FieldDecl TypeExpr)} {first : FieldDecl TypeExpr}
      (before : DeclaredFields mark doc fields) (docs : doc first.pos first.doc)
      (alike : ∀ f ∈ first :: rest, f.embedded = false ∧ f.type = first.type ∧ f.tag = first.tag ∧
        f.doc = first.doc) : DeclaredFields mark doc (fields ++ first :: rest)
  | embedded {fields : List (FieldDecl TypeExpr)} {f : FieldDecl TypeExpr} {n : TypeName}
      (before : DeclaredFields mark doc fields) (docs : doc f.pos f.doc) (embeds : f.embedded = true)
      (type : f.type = .named n ∧ n.pos = f.pos ∨ f.type = .pointer f.pos (.named n) ∧ mark f.pos "*") :
      DeclaredFields mark doc (fields ++ [f])

/-- The docs that belong to an expression and not to its parts follow the rule. -/
def TypeExpr.Documented (mark doc : Position → String → Prop) : TypeExpr → Prop
  | .struct _ fields => DeclaredFields mark doc fields
  | .interface _ methods _ => ∀ m ∈ methods, doc m.pos m.doc
  | _ => True

variable {R : Rules} {pos : Position}

def TypeExpr.Fits (R : Rules) (part : TypeExpr) : Prop :=
  part.Written R.name ∧ part.Documented R.mark R.doc

/-- An expression and its parts follow the rules. -/
def TypeExpr.Placed (R : Rules) (type : TypeExpr) : Prop := ∀ part ∈ type.parts, part.Fits R

structure Param.Placed (R : Rules) (p : Param TypeExpr) : Prop where
  type : p.type.Placed R
  name : ∀ word ∈ p.name, R.name p.pos word

/-- An entry of a list that is not grouped yet. -/
structure Param.Entered (R : Rules) (p : Param TypeExpr) : Prop extends p.Placed R where
  bare : p.name = none → ∀ word ∈ p.asName?, R.name p.pos word

structure FieldDecl.Placed (R : Rules) (f : FieldDecl TypeExpr) : Prop where
  type : f.type.Placed R
  name : f.embedded = false → R.name f.pos f.name

structure FieldsPlaced (R : Rules) (fields : List (FieldDecl TypeExpr)) : Prop where
  declared : DeclaredFields R.mark R.doc fields
  each : ∀ f ∈ fields, f.Placed R

structure Signature.Placed (R : Rules) (s : Signature TypeExpr) : Prop where
  params : ∀ p ∈ s.params, p.Placed R
  results : ∀ p ∈ s.results, p.Placed R

structure MethodDecl.Placed (R : Rules) (m : MethodDecl TypeExpr) : Prop where
  name : R.name m.pos m.name
  doc : R.doc m.pos m.doc
  signature : m.signature.Placed R

theorem Signature.Placed.written {s : Signature TypeExpr} (placed : s.Placed R) : s.Written R.name := by
  intro p member
  rcases List.mem_append.mp member with among | among
  · exact (placed.params p among).name
  · exact (placed.results p among).name

theorem placed_paramParts {ps : List (Param TypeExpr)} (placed : ∀ p ∈ ps, p.Placed R) :
    ∀ part ∈ paramParts ps, part.Fits R := by
  intro part member
  rw [paramParts_eq] at member
  obtain ⟨p, listed, inside⟩ := List.mem_flatMap.mp member
  exact (placed p listed).type part inside

namespace TypeExpr.Placed

variable {type elem key value : TypeExpr}

theorem named {n : TypeName} (here : R.name n.pos n.first) : (TypeExpr.named n).Placed R := by
  intro part member
  rw [parts] at member
  rw [List.mem_singleton.mp member]
  exact ⟨here, trivial⟩

theorem around (parts : type.parts = type :: elem.parts) (fits : type.Fits R) (placed : elem.Placed R) :
    type.Placed R := by
  intro part member
  rw [parts] at member
  rcases List.mem_cons.mp member with rfl | inside
  · exact fits
  · exact placed part inside

theorem pointer (placed : elem.Placed R) : (TypeExpr.pointer pos elem).Placed R :=
  around (by rw [parts]) ⟨trivial, trivial⟩ placed

theorem slice (placed : elem.Placed R) : (TypeExpr.slice pos elem).Placed R :=
  around (by rw [parts]) ⟨trivial, trivial⟩ placed

theorem array {length : String} (placed : elem.Placed R) : (TypeExpr.array pos length elem).Placed R :=
  around (by rw [parts]) ⟨trivial, trivial⟩ placed

theorem chan (placed : elem.Placed R) : (TypeExpr.chan pos elem).Placed R :=
  around (by rw [parts]) ⟨trivial, trivial⟩ placed

theorem map (inKey : key.Placed R) (inValue : value.Placed R) :
    (TypeExpr.map pos key value).Placed R := by
  intro part member
  rw [parts] at member
  rcases List.mem_cons.mp member with rfl | member
  · exact ⟨trivial, trivial⟩
  · rcases List.mem_append.mp member with inside | inside
    · exact inKey part inside
    · exact inValue part inside

theorem func {s : Signature TypeExpr} (placed : s.Placed R) : (TypeExpr.func pos s).Placed R := by
  intro part member
  rw [parts] at member
  rcases List.mem_cons.mp member with rfl | member
  · exact ⟨placed.written, trivial⟩
  · rcases List.mem_append.mp member with inside | inside
    · exact placed_paramParts placed.params part inside
    · exact placed_paramParts placed.results part inside

theorem struct {fields : List (FieldDecl TypeExpr)} (placed : FieldsPlaced R fields) :
    (TypeExpr.struct pos fields).Placed R := by
  intro part member
  rw [parts, fieldParts_eq] at member
  rcases List.mem_cons.mp member with rfl | member
  · exact ⟨fun f listed => (placed.each f listed).name, placed.declared⟩
  · obtain ⟨f, listed, inside⟩ := List.mem_flatMap.mp member
    exact (placed.each f listed).type part inside

theorem interface {methods : List (MethodDecl TypeExpr)} {embeds : List TypeName}
    (placed : ∀ m ∈ methods, m.Placed R) (embedded : ∀ n ∈ embeds, R.name n.pos n.first) :
    (TypeExpr.interface pos methods embeds).Placed R := by
  intro part member
  rw [parts, methodParts_eq] at member
  rcases List.mem_cons.mp member with rfl | member
  · refine ⟨fun m listed => ?_, fun m listed => (placed m listed).doc⟩
    exact ⟨(placed m listed).name, (placed m listed).signature.written⟩
  · rcases List.mem_append.mp member with inside | inside
    · obtain ⟨m, listed, inside⟩ := List.mem_flatMap.mp inside
      rcases List.mem_append.mp inside with inside | inside
      · exact placed_paramParts (placed m listed).signature.params part inside
      · exact placed_paramParts (placed m listed).signature.results part inside
    · obtain ⟨n, listed, rfl⟩ := List.mem_map.mp inside
      exact ⟨embedded n listed, trivial⟩

end TypeExpr.Placed

/-- A type declaration whose doc is the one at its name. -/
structure TypeSpec.Own (R : Rules) (spec : TypeSpec) : Prop where
  name : R.name spec.pos spec.name
  type : spec.type.Placed R
  doc : R.doc spec.pos spec.doc

/-- The doc of a type declaration is the one at its name, or the one of the parentheses if there is none
at its name. -/
def TypeSpec.Documented (group doc : Position → String → Prop) (spec : TypeSpec) : Prop :=
  doc spec.pos spec.doc ∨ doc spec.pos "" ∧ group spec.pos spec.doc

structure TypeSpec.Placed (R : Rules) (spec : TypeSpec) : Prop where
  name : R.name spec.pos spec.name
  type : spec.type.Placed R
  doc : spec.Documented R.group R.doc

theorem TypeSpec.Own.placed {spec : TypeSpec} (own : spec.Own R) : spec.Placed R :=
  ⟨own.name, own.type, .inl own.doc⟩

def SourceFile.Placed (R : Rules) (file : SourceFile) : Prop := ∀ spec ∈ file.types, spec.Placed R

/-! ### Grouping -/

/-- A name that is given to an entry of its group stands where it stood as a type. -/
theorem groupFrom_placed {listPos : Position} {pending : List (Position × String)}
    {entries params : List (Param TypeExpr)} (entered : ∀ p ∈ entries, p.Entered R)
    (names : ∀ name ∈ pending, R.name name.1 name.2)
    (grouped : groupFrom listPos pending entries = .ok params) : ∀ p ∈ params, p.Placed R := by
  induction entries generalizing pending params with
  | nil =>
    unfold groupFrom at grouped
    split at grouped
    · cases grouped
      simp
    · cases grouped
  | cons entry rest ih =>
    have here := entered entry List.mem_cons_self
    have later : ∀ p ∈ rest, p.Entered R := fun p member => entered p (List.mem_cons_of_mem _ member)
    unfold groupFrom at grouped
    split at grouped
    · obtain ⟨more, inside, same⟩ := bind_eq_ok.mp grouped
      cases same
      intro p member
      rcases List.mem_append.mp member with first | own
      · obtain ⟨⟨pos, word⟩, waiting, rfl⟩ := List.mem_map.mp first
        refine ⟨here.type, fun other same => ?_⟩
        cases same
        exact names _ (List.mem_reverse.mp waiting)
      · rcases List.mem_cons.mp own with rfl | after
        · exact here.toPlaced
        · exact ih later (by simp) inside p after
    · rename_i unnamed
      split at grouped
      · rename_i name found
        refine ih later (fun waiting member => ?_) grouped
        rcases List.mem_cons.mp member with rfl | before
        · exact here.bare unnamed name found
        · exact names waiting before
      · cases grouped

namespace Parser

theorem grouped_placed {entries : List (Param TypeExpr)} (entered : ∀ p ∈ entries, p.Entered R) :
    ∀ p ∈ (grouped pos entries).1, p.Placed R := by
  unfold grouped
  split
  · rename_i params same
    unfold groupParams at same
    split at same
    · exact groupFrom_placed entered (by simp) same
    · cases same
      exact fun p member => (entered p member).toPlaced
  · simp

/-! ### Places of reading -/

/-- The doc of a declaration in parentheses is the one for its first name. -/
def Headed (R : Rules) (doc : String) (names : List Position) : Prop :=
  ∀ pos ∈ names.head?, R.group pos doc

structure NamesPlaced (R : Rules) (names : List Ident) (doc : String) : Prop where
  each : ∀ id ∈ names, R.name id.pos id.name
  first : ∃ id rest, names = id :: rest ∧ R.doc id.pos doc

def ImportHole.Placed (R : Rules) : ImportHole → Prop
  | .single file | .group file => file.Placed R

/-- Around a type declaration with its name at a position. -/
def SpecHole.Placed (R : Rules) (name : Position) : SpecHole → Prop
  | .single file => file.Placed R
  | .group doc specs file =>
    Headed R doc (specs.map (·.pos) ++ [name]) ∧ (∀ spec ∈ specs, spec.Own R) ∧ file.Placed R

mutual

def TypeHole.Placed (R : Rules) : TypeHole → Prop
  | .spec name doc _ outer =>
    R.name name.pos name.name ∧ R.doc name.pos doc ∧ outer.Placed R name.pos
  | .pointer _ outer | .slice _ outer | .array _ _ outer => outer.Placed R
  | .mapKey _ outer | .chan _ outer => outer.Placed R
  | .mapValue _ key outer => key.Placed R ∧ outer.Placed R
  | .field names doc outer => NamesPlaced R names doc ∧ outer.Placed R
  | .param pos name _ outer => (∀ word ∈ name, R.name pos word) ∧ outer.Placed R
  | .result params outer => (∀ p ∈ params, p.Placed R) ∧ outer.Placed R

def SignatureHole.Placed (R : Rules) : SignatureHole → Prop
  | .func _ outer => outer.Placed R
  | .method name doc outer => R.name name.pos name.name ∧ R.doc name.pos doc ∧ outer.Placed R

def ParamsHole.Placed (R : Rules) : ParamsHole → Prop
  | .params _ entries outer => (∀ p ∈ entries, p.Entered R) ∧ outer.Placed R
  | .results _ entries inputs outer =>
    (∀ p ∈ entries, p.Entered R) ∧ (∀ p ∈ inputs, p.Placed R) ∧ outer.Placed R

def StructHole.Placed (R : Rules) : StructHole → Prop
  | .fields _ members outer => FieldsPlaced R members ∧ outer.Placed R

def InterfaceHole.Placed (R : Rules) : InterfaceHole → Prop
  | .elems _ methods embeds outer =>
    (∀ m ∈ methods, m.Placed R) ∧ (∀ n ∈ embeds, R.name n.pos n.first) ∧ outer.Placed R

end

/-- Whether a type may be put there. A bare name in a list of parameters may turn out to be the name of
a parameter, so it has to stand where the entry starts. -/
def TypeHole.Takes (R : Rules) : TypeHole → TypeExpr → Prop
  | .param pos none false _, .named n => n.qualifier = none → R.name pos n.name
  | _, _ => True

/-- Around a name that starts at a position. -/
def NameHole.Placed (R : Rules) (start : Position) : NameHole → Prop
  | .type outer => outer.Placed R
  | .field pos doc isPointer outer =>
    R.doc pos doc ∧ (if isPointer then R.mark pos "*" else start = pos) ∧ outer.Placed R
  | .embed outer => outer.Placed R

/-- Whether every name may be put there. -/
def NameHole.Open (R : Rules) : NameHole → Prop
  | .type outer => ∀ type, outer.Takes R type
  | _ => True

/-- Whatever has been read and put into its place follows the rules. `since` is required of the tokens
from the keyword of a declaration on, and of the doc above the keyword. -/
def Mode.Placed (R : Rules) (since : List String → String → Prop) : Mode → Prop
  | .start | .packageName _ => True
  | .packageEnd file | .imports file | .decls file | .importStart file | .importItem file => file.Placed R
  | .importEnd file | .typeEnd file | .done file => file.Placed R
  | .skipStart file | .skipOpen _ _ file | .skip _ file => file.Placed R
  | .importPath _ _ hole | .importRead _ hole => hole.Placed R
  | .typeStart doc file => since ["type"] doc ∧ file.Placed R
  | .specItem doc specs file =>
    (specs = [] → since ["type", "("] doc) ∧ Headed R doc (specs.map (·.pos)) ∧ (∀ spec ∈ specs, spec.Own R) ∧
      file.Placed R
  | .specName name doc hole => R.name name.pos name.name ∧ R.doc name.pos doc ∧ hole.Placed R name.pos
  | .type hole => hole.Placed R ∧ ∀ type, hole.Takes R type
  | .bracket _ hole | .arrayLength _ _ hole | .mapKeyword _ hole => hole.Placed R
  | .structKeyword _ hole | .interfaceKeyword _ hole => hole.Placed R
  | .closed t hole => t.Placed R ∧ hole.Takes R t ∧ hole.Placed R
  | .typeName name hole => R.name name.pos name.name ∧ hole.Open R ∧ hole.Placed R name.pos
  | .qualifier name hole => R.name name.pos name.name ∧ hole.Placed R name.pos
  | .qualified name hole => R.name name.pos name.first ∧ name.qualifier ≠ none ∧ hole.Placed R name.pos
  | .funcKeyword hole => hole.Placed R
  | .params ps hole => (∀ p ∈ ps, p.Placed R) ∧ hole.Placed R
  | .results ps rs hole => (∀ p ∈ ps, p.Placed R) ∧ (∀ p ∈ rs, p.Placed R) ∧ hole.Placed R
  | .param hole => hole.Placed R
  | .paramName name hole => R.name name.pos name.name ∧ hole.Placed R
  | .field hole | .tag hole => hole.Placed R
  | .fieldName name doc hole => R.name name.pos name.name ∧ R.doc name.pos doc ∧ hole.Placed R
  | .fieldComma names doc hole | .fieldNames names doc hole => NamesPlaced R names doc ∧ hole.Placed R
  | .fieldStar pos doc hole => R.mark pos "*" ∧ R.doc pos doc ∧ hole.Placed R
  | .elem hole => hole.Placed R
  | .elemName name doc hole => R.name name.pos name.name ∧ R.doc name.pos doc ∧ hole.Placed R

/-- If a token is taken, the place reached follows the rules. -/
def Outcome.Placed (R : Rules) (since : List String → String → Prop) (outcome : Outcome) : Prop :=
  ∀ step, outcome = .ok step → step.mode.Placed R since

namespace Outcome

variable {mode : Mode} {fault : Option ContentFault} {since : List String → String → Prop}

theorem placed_ok (placed : mode.Placed R since) : Placed R since (.ok { mode, fault }) := by
  rintro _ ⟨⟩
  exact placed

theorem placed_goto (placed : mode.Placed R since) : Placed R since (goto mode) := placed_ok placed

theorem placed_error (expected : List Terminal) : Placed R since (.error expected) := by
  rintro _ ⟨⟩

end Outcome

open GoIdl.Syntax.Parser.Outcome

variable {since : List String → String → Prop}

/-! ### Putting constructs into their holes -/

theorem placed_withTypes {file : SourceFile} {specs : List TypeSpec} (placed : file.Placed R)
    (more : ∀ spec ∈ specs, spec.Placed R) :
    SourceFile.Placed R { file with types := file.types ++ specs } :=
  List.forall_mem_append.mpr ⟨placed, more⟩

/-- A single declaration without a doc takes the one of its parentheses. -/
theorem placed_closeGroup {doc : String} {specs : List TypeSpec} (headed : Headed R doc (specs.map (·.pos)))
    (own : ∀ spec ∈ specs, spec.Own R) : ∀ spec ∈ closeGroup doc specs, spec.Placed R := by
  have placed : ∀ spec ∈ specs, spec.Placed R := fun spec member => (own spec member).placed
  unfold closeGroup
  split
  · rename_i spec
    split
    · rename_i without
      have here := own spec List.mem_cons_self
      intro other member
      rw [List.mem_singleton.mp member]
      exact ⟨here.name, here.type, .inr ⟨without ▸ here.doc, headed _ rfl⟩⟩
    · exact placed
  · exact placed

theorem specRead_placed {spec : TypeSpec} {hole : SpecHole} {next : Terminal} (own : spec.Own R)
    (placed : hole.Placed R spec.pos) : (specRead spec hole next).Placed R since := by
  have names : ∀ specs : List TypeSpec, (specs ++ [spec]).map (·.pos) = specs.map (·.pos) ++ [spec.pos] :=
    fun specs => List.map_append
  unfold specRead
  split
  · exact placed_goto (placed_withTypes placed (List.forall_mem_singleton.mpr own.placed))
  · exact placed_error _
  · rename_i specs _
    obtain ⟨headed, others, file⟩ := placed
    rw [← names specs] at headed
    exact placed_goto ⟨by simp, headed,
      List.forall_mem_append.mpr ⟨others, List.forall_mem_singleton.mpr own⟩, file⟩
  · rename_i specs _
    obtain ⟨headed, others, file⟩ := placed
    rw [← names specs] at headed
    exact placed_goto (placed_withTypes file (placed_closeGroup headed
      (List.forall_mem_append.mpr ⟨others, List.forall_mem_singleton.mpr own⟩)))
  · exact placed_error _

theorem fieldClosed_placed {hole : StructHole} {next : Terminal} (placed : hole.Placed R) :
    (fieldClosed hole next).Placed R since := by
  unfold fieldClosed
  split
  · exact placed_goto placed
  · rw [StructHole.Placed] at placed
    refine placed_goto ⟨.struct placed.1, ?_, placed.2⟩
    unfold TypeHole.Takes
    split <;> trivial
  · exact placed_error _

/-- What a declaration adds to the fields of a struct. -/
def Declares (R : Rules) (declare : Option String → List (FieldDecl TypeExpr)) : Prop :=
  ∀ tag fields, FieldsPlaced R fields → FieldsPlaced R (fields ++ declare tag)

theorem fieldRead_placed {declare : Option String → List (FieldDecl TypeExpr)} {hole : StructHole}
    {next : Token} (declares : Declares R declare) (placed : hole.Placed R) :
    (fieldRead declare hole next).Placed R since := by
  obtain ⟨pos, before, outer⟩ := hole
  rw [StructHole.Placed] at placed
  have inside : ∀ tag, (StructHole.fields pos (before ++ declare tag) outer).Placed R := by
    intro tag
    rw [StructHole.Placed]
    exact ⟨declares tag before placed.1, placed.2⟩
  simp only [fieldRead]
  split
  · exact placed_ok (inside _)
  · exact placed_ok (inside _)
  · exact fieldClosed_placed (inside none)
  · exact fieldClosed_placed (inside none)
  · exact placed_error _

theorem namedFields_declares {names : List Ident} {doc : String} {type : TypeExpr}
    (written : NamesPlaced R names doc) (placed : type.Placed R) :
    Declares R (namedFields names doc type) := by
  intro tag fields before
  obtain ⟨id, rest, same, docs⟩ := written.first
  have each : ∀ f ∈ namedFields names doc type tag, f.Placed R ∧ f.embedded = false ∧ f.type = type ∧
      f.tag = tag ∧ f.doc = doc := by
    intro f member
    obtain ⟨id, listed, rfl⟩ := List.mem_map.mp member
    exact ⟨⟨placed, fun _ => written.each id listed⟩, rfl, rfl, rfl, rfl⟩
  refine ⟨?_, List.forall_mem_append.mpr ⟨before.each, fun f member => (each f member).1⟩⟩
  rw [same] at each ⊢
  exact .named before.declared docs fun f member => (each f member).2

theorem embeddedField_declares {doc : String} {isPointer : Bool} {name : TypeName}
    (written : R.name name.pos name.first) (docs : R.doc pos doc)
    (start : if isPointer then R.mark pos "*" else name.pos = pos) :
    Declares R (embeddedField pos doc isPointer name) := by
  intro tag fields before
  have type : TypeExpr.Placed R (.named name) := .named written
  cases isPointer with
  | false =>
    refine ⟨.embedded before.declared docs rfl (.inl ⟨rfl, start⟩), List.forall_mem_append.mpr
      ⟨before.each, List.forall_mem_singleton.mpr ⟨type, nofun⟩⟩⟩
  | true =>
    refine ⟨.embedded before.declared docs rfl (.inr ⟨rfl, start⟩), List.forall_mem_append.mpr
      ⟨before.each, List.forall_mem_singleton.mpr ⟨type.pointer, nofun⟩⟩⟩

theorem elemRead_placed {hole : InterfaceHole} {next : Terminal} (placed : hole.Placed R) :
    (elemRead hole next).Placed R since := by
  unfold elemRead
  split
  · exact placed_goto placed
  · rw [InterfaceHole.Placed] at placed
    refine placed_goto ⟨.interface placed.1 placed.2.1, ?_, placed.2.2⟩
    unfold TypeHole.Takes
    split <;> trivial
  · exact placed_error _

theorem ParamsHole.Placed.add {hole : ParamsHole} {entry : Param TypeExpr} (placed : hole.Placed R)
    (here : entry.Entered R) : (hole.add entry).Placed R := by
  cases hole with
  | params pos entries outer =>
    rw [ParamsHole.Placed] at placed
    rw [ParamsHole.add, ParamsHole.Placed]
    exact ⟨List.forall_mem_append.mpr ⟨placed.1, List.forall_mem_singleton.mpr here⟩, placed.2⟩
  | results pos entries inputs outer =>
    rw [ParamsHole.Placed] at placed
    rw [ParamsHole.add, ParamsHole.Placed]
    exact ⟨List.forall_mem_append.mpr ⟨placed.1, List.forall_mem_singleton.mpr here⟩, placed.2⟩

theorem ParamsHole.Placed.close {hole : ParamsHole} (placed : hole.Placed R) :
    hole.close.mode.Placed R since := by
  cases hole with
  | params pos entries outer =>
    rw [ParamsHole.Placed] at placed
    exact ⟨grouped_placed placed.1, placed.2⟩
  | results pos entries inputs outer =>
    rw [ParamsHole.Placed] at placed
    exact ⟨placed.2.1, grouped_placed placed.1, placed.2.2⟩

theorem paramRead_placed {entry : Param TypeExpr} {hole : ParamsHole} {next : Terminal}
    (here : entry.Entered R) (placed : hole.Placed R) : (paramRead entry hole next).Placed R since := by
  unfold paramRead
  split
  · exact placed_goto (placed.add here)
  · exact placed_ok (placed.add here).close
  · exact placed_error _

theorem entered_of_takes {name : Option String} {variadic : Bool} {type : TypeExpr} {outer : ParamsHole}
    (placed : type.Placed R) (named : ∀ word ∈ name, R.name pos word)
    (takes : (TypeHole.param pos name variadic outer).Takes R type) :
    Param.Entered R { pos, name, variadic, type } := by
  refine ⟨⟨placed, named⟩, fun unnamed word bare => ?_⟩
  cases unnamed
  unfold Param.asName? at bare
  split at bare
  · rename_i plain same
    cases plain
    cases bare
    dsimp only at same
    subst same
    exact takes rfl
  · cases bare

theorem addMethod_placed {name : Ident} {doc : String} {signature : Signature TypeExpr}
    {hole : InterfaceHole} (written : R.name name.pos name.name) (docs : R.doc name.pos doc)
    (here : signature.Placed R) (placed : hole.Placed R) :
    (addMethod name doc signature hole).Placed R := by
  obtain ⟨pos, methods, embeds, outer⟩ := hole
  rw [InterfaceHole.Placed] at placed
  rw [addMethod, InterfaceHole.Placed]
  exact ⟨List.forall_mem_append.mpr ⟨placed.1, List.forall_mem_singleton.mpr ⟨written, docs, here⟩⟩,
    placed.2⟩

theorem takes_unnamed {type : TypeExpr} (hole : TypeHole) (other : ∀ n, type ≠ .named n) :
    hole.Takes R type := by
  unfold TypeHole.Takes
  split
  · exact absurd rfl (other _)
  · trivial

theorem takes_qualified {n : TypeName} (hole : TypeHole) (qualified : n.qualifier ≠ none) :
    hole.Takes R (.named n) := by
  unfold TypeHole.Takes
  split
  · rename_i same
    cases same
    exact fun bare => absurd bare qualified
  · trivial

mutual

theorem typeRead_placed {type : TypeExpr} {hole : TypeHole} {next : Token} (here : type.Placed R)
    (takes : hole.Takes R type) (placed : hole.Placed R) : (typeRead type hole next).Placed R since := by
  cases hole with
  | spec name doc isAlias outer =>
    rw [TypeHole.Placed] at placed
    rw [typeRead]
    exact specRead_placed ⟨placed.1, here, placed.2.1⟩ placed.2.2
  | pointer pos outer =>
    rw [TypeHole.Placed] at placed
    rw [typeRead]
    exact typeRead_placed here.pointer (takes_unnamed outer nofun) placed
  | slice pos outer =>
    rw [TypeHole.Placed] at placed
    rw [typeRead]
    exact typeRead_placed here.slice (takes_unnamed outer nofun) placed
  | array pos length outer =>
    rw [TypeHole.Placed] at placed
    rw [typeRead]
    exact typeRead_placed here.array (takes_unnamed outer nofun) placed
  | mapKey pos outer =>
    rw [TypeHole.Placed] at placed
    rw [typeRead]
    split
    · refine placed_goto ⟨?_, fun _ => trivial⟩
      rw [TypeHole.Placed]
      exact ⟨here, placed⟩
    · exact placed_error _
  | mapValue pos key outer =>
    rw [TypeHole.Placed] at placed
    rw [typeRead]
    exact typeRead_placed (.map placed.1 here) (takes_unnamed outer nofun) placed.2
  | chan pos outer =>
    rw [TypeHole.Placed] at placed
    rw [typeRead]
    exact typeRead_placed here.chan (takes_unnamed outer nofun) placed
  | field names doc outer =>
    rw [TypeHole.Placed] at placed
    rw [typeRead]
    exact fieldRead_placed (namedFields_declares placed.1 here) placed.2
  | param pos name variadic outer =>
    rw [TypeHole.Placed] at placed
    rw [typeRead]
    exact paramRead_placed (entered_of_takes here placed.1 takes) placed.2
  | result params outer =>
    rw [TypeHole.Placed] at placed
    rw [typeRead]
    exact signatureRead_placed ⟨placed.1, List.forall_mem_singleton.mpr ⟨here, nofun⟩⟩ placed.2

theorem signatureRead_placed {signature : Signature TypeExpr} {hole : SignatureHole} {next : Token}
    (here : signature.Placed R) (placed : hole.Placed R) :
    (signatureRead signature hole next).Placed R since := by
  cases hole with
  | func pos outer =>
    rw [SignatureHole.Placed] at placed
    rw [signatureRead]
    exact typeRead_placed (.func here) (takes_unnamed outer nofun) placed
  | method name doc outer =>
    rw [SignatureHole.Placed] at placed
    rw [signatureRead]
    exact elemRead_placed (addMethod_placed placed.1 placed.2.1 here placed.2.2)

end

theorem nameRead_placed {name : TypeName} {hole : NameHole} {next : Token}
    (written : R.name name.pos name.first)
    (takes : ∀ outer, hole = .type outer → outer.Takes R (.named name))
    (placed : hole.Placed R name.pos) : (nameRead name hole next).Placed R since := by
  cases hole with
  | type outer => exact typeRead_placed (.named written) (takes outer rfl) placed
  | field pos doc isPointer outer =>
    exact fieldRead_placed (embeddedField_declares written placed.1 placed.2.1) placed.2.2
  | embed outer =>
    obtain ⟨pos, methods, embeds, outer⟩ := outer
    rw [NameHole.Placed, InterfaceHole.Placed] at placed
    refine elemRead_placed ?_
    rw [InterfaceHole.Placed]
    exact ⟨placed.1, List.forall_mem_append.mpr ⟨placed.2.1, List.forall_mem_singleton.mpr written⟩,
      placed.2.2⟩

/-! ### Starting constructs -/

end Parser

/-- What a token tells that stands in a source. -/
structure Token.Placed (R : Rules) (docs : Nat → String) (t : Token) : Prop where
  name : t.terminal = .name → R.name t.pos t.text
  star : t.terminal = .star → R.mark t.pos "*"
  doc : t.terminal ∈ [.name, .typeKeyword, .star] → R.doc t.pos (docs t.pos.line)

theorem Token.Placed.declares {docs : Nat → String} {t : Token} (token : t.Placed R docs)
    (isName : t.terminal = .name) : R.name t.pos t.text ∧ R.doc t.pos (docs t.pos.line) :=
  ⟨token.name isName, token.doc (by simp [isName])⟩

/-- What a token is to the tokens from the keyword of a declaration on. -/
structure Token.Follows (R : Rules) (docs : Nat → String) (before since : List String → String → Prop)
    (t : Token) : Prop where
  opened : t.terminal = .typeKeyword → since ["type"] (docs t.pos.line)
  entered : t.terminal = .leftParen → ∀ doc, before ["type"] doc → since ["type", "("] doc
  named : t.terminal = .name → ∀ doc, before ["type", "("] doc → R.group t.pos doc

namespace Parser

open GoIdl.Syntax.Parser.Outcome

variable {docs : Nat → String} {t : Token} {before since : List String → String → Prop}

theorem typeBegun_placed {hole : TypeHole} (token : t.Placed R docs) (placed : hole.Placed R)
    (takes : t.terminal = .name → ∀ type, hole.Takes R type) : (typeBegun hole t).Placed R since := by
  unfold typeBegun
  split
  · rename_i isName
    exact placed_goto ⟨token.name isName, takes isName, placed⟩
  · refine placed_goto ⟨?_, fun _ => trivial⟩
    rwa [TypeHole.Placed]
  · exact placed_goto placed
  · exact placed_goto placed
  · refine placed_goto ⟨?_, fun _ => trivial⟩
    rwa [TypeHole.Placed]
  · exact placed_goto placed
  · exact placed_goto placed
  · refine placed_goto ?_
    rwa [Mode.Placed, SignatureHole.Placed]
  · exact placed_error _

/-! ### Reading a token -/

theorem Mode.Placed.mono {mode : Mode} (further : ∀ tokens doc, before tokens doc → since tokens doc)
    (placed : mode.Placed R before) : mode.Placed R since := by
  cases mode with
  | typeStart doc file => exact ⟨further _ _ placed.1, placed.2⟩
  | specItem doc specs file => exact ⟨fun first => further _ _ (placed.1 first), placed.2⟩
  | _ => exact placed

theorem placed_of_file {mode : Mode} {file : SourceFile} (between : mode.file? = some file) :
    mode.Placed R since ↔ file.Placed R := by
  cases mode with
  | importPath _ _ hole | importRead _ hole =>
    cases between
    cases hole <;> exact Iff.rfl
  | _ =>
    cases between <;> exact Iff.rfl

theorem between_placed {mode : Mode} {file : SourceFile} (follows : t.Follows R docs before since)
    (between : mode.file? = some file) (placed : mode.Placed R before) :
    (accept docs t mode).Placed R since := by
  have declared : file.Placed R := (placed_of_file between).mp placed
  intro step accepted
  rcases accept_between between accepted with ⟨now, later, -, types⟩ | ⟨keyword, begun⟩
  · rw [placed_of_file later, SourceFile.Placed, types]
    exact declared
  · rw [begun]
    exact ⟨follows.opened keyword, declared⟩

theorem package_placed {mode : Mode} (region : mode.region = .package) :
    (accept docs t mode).Placed R since := by
  cases mode with
  | start => exact placed_goto trivial
  | packageName pos =>
    refine placed_goto ?_
    intro spec member
    cases member
  | _ => cases region

theorem declaration_placed {mode : Mode} (region : mode.region = .declaration)
    (token : t.Placed R docs) (follows : t.Follows R docs before since)
    (expected : t.terminal ∈ mode.expects) (placed : mode.Placed R before) :
    (accept docs t mode).Placed R since := by
  cases mode with
  | typeStart doc file =>
    obtain ⟨opened, placed⟩ := placed
    simp only [accept]
    split
    · rename_i paren
      exact placed_goto ⟨fun _ => follows.entered paren doc opened, by simp [Headed], by simp, placed⟩
    · rename_i single
      have declares : (Mode.typeStart doc file).declares t = true := decide_eq_true single
      have isName := terminal_of_declares declares expected
      exact placed_goto ⟨(token.declares isName).1, (token.declares isName).2, placed⟩
  | specItem doc specs file =>
    obtain ⟨opened, headed, own, placed⟩ := placed
    simp only [accept]
    split
    · exact placed_goto (placed_withTypes placed (placed_closeGroup headed own))
    · rename_i more
      have declares : (Mode.specItem doc specs file).declares t = true := decide_eq_true more
      have isName := terminal_of_declares declares expected
      have headed' : Headed R doc (specs.map (·.pos) ++ [t.pos]) := by
        cases specs with
        | nil =>
          rintro pos ⟨⟩
          exact follows.named isName doc (opened rfl)
        | cons spec specs => exact headed
      exact placed_goto ⟨(token.declares isName).1, (token.declares isName).2, headed', own, placed⟩
  | specName name doc hole =>
    have inside : ∀ isAlias, (TypeHole.spec name doc isAlias hole).Placed R := by
      intro isAlias
      rwa [TypeHole.Placed]
    simp only [accept]
    split
    · exact placed_goto ⟨inside true, fun _ => trivial⟩
    · exact typeBegun_placed token (inside false) fun _ _ => trivial
  | _ => cases region

theorem type_placed {mode : Mode} (region : mode.region = .type) (token : t.Placed R docs)
    (placed : mode.Placed R before) : (accept docs t mode).Placed R since := by
  cases mode with
  | type hole => exact typeBegun_placed token placed.1 fun _ => placed.2
  | typeName name hole =>
    obtain ⟨written, takes, placed⟩ := placed
    simp only [accept]
    split
    · exact placed_goto ⟨written, placed⟩
    · refine nameRead_placed written ?_ placed
      rintro outer rfl
      exact takes _
  | qualifier name hole =>
    obtain ⟨written, placed⟩ := placed
    exact placed_goto ⟨written, Option.some_ne_none _, placed⟩
  | qualified name hole =>
    obtain ⟨written, qualified, placed⟩ := placed
    exact nameRead_placed written (fun outer _ => takes_qualified outer qualified) placed
  | closed type hole => exact typeRead_placed placed.1 placed.2.1 placed.2.2
  | bracket pos hole =>
    simp only [accept]
    split
    · refine placed_goto ⟨?_, fun _ => trivial⟩
      rwa [TypeHole.Placed]
    · exact placed_goto placed
  | arrayLength pos length hole =>
    refine placed_goto ⟨?_, fun _ => trivial⟩
    rwa [TypeHole.Placed]
  | mapKeyword pos hole =>
    refine placed_goto ⟨?_, fun _ => trivial⟩
    rwa [TypeHole.Placed]
  | _ => cases region

theorem params_placed {mode : Mode} (region : mode.region = .params) (token : t.Placed R docs)
    (placed : mode.Placed R before) : (accept docs t mode).Placed R since := by
  cases mode with
  | funcKeyword hole =>
    refine placed_goto ?_
    rw [Mode.Placed, ParamsHole.Placed]
    exact ⟨by simp, placed⟩
  | param hole =>
    have unnamed : ∀ pos variadic, (TypeHole.param pos none variadic hole).Placed R := by
      intro pos variadic
      rw [TypeHole.Placed]
      exact ⟨by simp, placed⟩
    simp only [accept]
    split
    · exact placed_ok placed.close
    · split
      · exact placed_goto ⟨unnamed t.pos true, fun _ => trivial⟩
      · split
        · rename_i isName
          exact placed_goto ⟨token.name isName, placed⟩
        · rename_i other
          exact typeBegun_placed token (unnamed _ _) fun isName => absurd isName other
  | paramName name hole =>
    obtain ⟨written, placed⟩ := placed
    have unnamed : (TypeHole.param name.pos none false hole).Placed R := by
      rw [TypeHole.Placed]
      exact ⟨by simp, placed⟩
    have named : ∀ variadic, (TypeHole.param name.pos (some name.name) variadic hole).Placed R := by
      intro variadic
      rw [TypeHole.Placed]
      exact ⟨by simpa using written, placed⟩
    simp only [accept]
    split
    · exact placed_goto ⟨written, unnamed⟩
    · split
      · exact placed_goto ⟨named true, fun _ => trivial⟩
      · split
        · exact typeRead_placed (.named written) (fun _ => written) unnamed
        · exact typeBegun_placed token (named false) fun _ _ => trivial
  | _ => cases region

theorem results_placed {mode : Mode} (region : mode.region = .results) (token : t.Placed R docs)
    (placed : mode.Placed R before) : (accept docs t mode).Placed R since := by
  cases mode with
  | params params hole =>
    obtain ⟨inputs, placed⟩ := placed
    simp only [accept]
    split
    · refine placed_goto ?_
      rw [Mode.Placed, ParamsHole.Placed]
      exact ⟨by simp, inputs, placed⟩
    · split
      · refine typeBegun_placed token ?_ fun _ _ => trivial
        rw [TypeHole.Placed]
        exact ⟨inputs, placed⟩
      · exact signatureRead_placed ⟨inputs, by simp⟩ placed
  | results params results hole =>
    simp only [accept]
    split
    · exact signatureRead_placed ⟨placed.1, placed.2.1⟩ placed.2.2
    · exact placed_error _
  | _ => cases region

theorem struct_placed {mode : Mode} (region : mode.region = .struct) (token : t.Placed R docs)
    (expected : t.terminal ∈ mode.expects) (placed : mode.Placed R before) :
    (accept docs t mode).Placed R since := by
  cases mode with
  | structKeyword pos hole =>
    refine placed_goto ?_
    rw [Mode.Placed, StructHole.Placed]
    exact ⟨⟨.nil, by simp⟩, placed⟩
  | field hole =>
    simp only [accept]
    split
    · exact fieldClosed_placed placed
    · split
      · rename_i star
        exact placed_goto ⟨token.star star, token.doc (by simp [star]), placed⟩
      · rename_i open_ noStar
        have isName := terminal_of_field open_ noStar expected
        exact placed_goto ⟨(token.declares isName).1, (token.declares isName).2, placed⟩
  | tag hole => exact fieldClosed_placed placed
  | _ => cases region

theorem field_placed {mode : Mode} (region : mode.region = .field) (token : t.Placed R docs)
    (expected : t.terminal ∈ mode.expects) (placed : mode.Placed R before) :
    (accept docs t mode).Placed R since := by
  cases mode with
  | fieldName name doc hole =>
    obtain ⟨written, docs, placed⟩ := placed
    have single : NamesPlaced R [name] doc :=
      ⟨List.forall_mem_singleton.mpr written, name, [], rfl, docs⟩
    have embeds : (NameHole.field name.pos doc false hole).Placed R name.pos := ⟨docs, rfl, placed⟩
    simp only [accept]
    split
    · exact placed_goto ⟨single, placed⟩
    · split
      · exact placed_goto ⟨written, embeds⟩
      · split
        · refine typeBegun_placed token ?_ fun _ _ => trivial
          rw [TypeHole.Placed]
          exact ⟨single, placed⟩
        · exact nameRead_placed written (by simp) embeds
  | fieldComma names doc hole =>
    obtain ⟨⟨each, first, rest, same, docs⟩, placed⟩ := placed
    have isName : t.terminal = .name := List.mem_singleton.mp expected
    refine placed_goto ⟨⟨List.forall_mem_append.mpr ⟨each, ?_⟩, first, rest ++ [.ofToken t], ?_, docs⟩,
      placed⟩
    · exact List.forall_mem_singleton.mpr (token.name isName)
    · rw [same, List.cons_append]
  | fieldNames names doc hole =>
    simp only [accept]
    split
    · exact placed_goto placed
    · refine typeBegun_placed token ?_ fun _ _ => trivial
      rwa [TypeHole.Placed]
  | fieldStar pos doc hole =>
    obtain ⟨star, docs, placed⟩ := placed
    have isName : t.terminal = .name := List.mem_singleton.mp expected
    exact placed_goto ⟨token.name isName, trivial, docs, star, placed⟩
  | _ => cases region

theorem interface_placed {mode : Mode} (region : mode.region = .interface) (token : t.Placed R docs)
    (expected : t.terminal ∈ mode.expects) (placed : mode.Placed R before) :
    (accept docs t mode).Placed R since := by
  cases mode with
  | interfaceKeyword pos hole =>
    refine placed_goto ?_
    rw [Mode.Placed, InterfaceHole.Placed]
    exact ⟨by simp, by simp, placed⟩
  | elem hole =>
    simp only [accept]
    split
    · exact elemRead_placed placed
    · rename_i open_
      have isName := terminal_of_elem open_ expected
      exact placed_goto ⟨(token.declares isName).1, (token.declares isName).2, placed⟩
  | elemName name doc hole =>
    obtain ⟨written, docs, placed⟩ := placed
    simp only [accept]
    split
    · exact placed_goto ⟨written, placed⟩
    · split
      · refine placed_goto ?_
        rw [Mode.Placed, ParamsHole.Placed, SignatureHole.Placed]
        exact ⟨by simp, written, docs, placed⟩
      · exact nameRead_placed written (by simp) (show (NameHole.embed hole).Placed R name.pos from placed)
  | _ => cases region

theorem accept_placed {mode : Mode} (token : t.Placed R docs) (follows : t.Follows R docs before since)
    (expected : t.terminal ∈ mode.expects) (placed : mode.Placed R before) :
    (accept docs t mode).Placed R since := by
  cases region : mode.region with
  | package => exact package_placed region
  | between =>
    obtain ⟨file, between⟩ := Mode.file_of_between region
    exact between_placed follows between placed
  | declaration => exact declaration_placed region token follows expected placed
  | type => exact type_placed region token placed
  | params => exact params_placed region token placed
  | results => exact results_placed region token placed
  | struct => exact struct_placed region token expected placed
  | field => exact field_placed region token expected placed
  | interface => exact interface_placed region token expected placed

end Parser

end Syntax

end GoIdl
