import GoIdl.Syntax.Source
import GoIdl.Proofs.Outcomes
import GoIdl.Proofs.Syntax.DeclaredNames
import GoIdl.Proofs.Syntax.Legible

/-!
# What is read is legible

Every place of reading holds legible types only, finished ones and parts of those that are open. A
name is told from a keyword wherever a type may start, so no legible name starts with one there.
-/

namespace GoIdl

namespace Syntax

/-! ### Legible contents -/

structure LegibleParams (ps : List (Param TypeExpr)) : Prop where
  types : ∀ p ∈ ps, p.type.Legible
  uniform : Uniform ps

/-- An entry of a list that is not grouped yet. -/
structure Param.Legible (p : Param TypeExpr) : Prop where
  type : p.type.Legible
  name : ∀ n ∈ p.name, IsPlainName n

structure Signature.Legible (s : Signature TypeExpr) : Prop where
  params : LegibleParams s.params
  results : LegibleParams s.results

structure FieldDecl.Legible (f : FieldDecl TypeExpr) : Prop where
  spelled : f.Spelled
  type : f.embedded = false → f.type.Legible

structure MethodDecl.Legible (m : MethodDecl TypeExpr) : Prop where
  name : IsName m.name
  signature : m.signature.Legible

def SourceFile.Legible (file : SourceFile) : Prop := ∀ spec ∈ file.types, spec.type.Legible

theorem LegibleParams.nil : LegibleParams [] := ⟨by simp, .unnamed (by simp)⟩

/-- A single result without parentheses. -/
theorem LegibleParams.single {type : TypeExpr} (legible : type.Legible) (pos : Position) :
    LegibleParams [⟨pos, none, false, type⟩] := by
  refine ⟨?_, .unnamed ?_⟩
  · intro p member
    rw [List.mem_singleton.mp member]
    exact legible
  · intro p member
    rw [List.mem_singleton.mp member]

theorem Signature.Legible.func {s : Signature TypeExpr} (legible : s.Legible) (pos : Position) :
    (TypeExpr.func pos s).Legible :=
  .func ⟨legible.params.uniform, legible.results.uniform⟩ legible.params.types legible.results.types

theorem legible_struct {fields : List (FieldDecl TypeExpr)} (legible : ∀ f ∈ fields, f.Legible)
    (pos : Position) : (TypeExpr.struct pos fields).Legible :=
  .struct (fun f member => (legible f member).spelled) fun f member => (legible f member).type

theorem legible_interface {methods : List (MethodDecl TypeExpr)} {embeds : List TypeName}
    (legible : ∀ m ∈ methods, m.Legible) (embedded : ∀ n ∈ embeds, n.Spelled) (pos : Position) :
    (TypeExpr.interface pos methods embeds).Legible := by
  refine .interface ?_ ?_ ?_ embedded
  · intro m member
    have ⟨name, signature⟩ := legible m member
    exact ⟨name, signature.params.uniform, signature.results.uniform⟩
  · intro m member
    exact (legible m member).signature.params.types
  · intro m member
    exact (legible m member).signature.results.types

/-! ### Grouping -/

theorem Param.Legible.asName {p : Param TypeExpr} {name : String} (legible : p.Legible)
    (found : p.asName? = some name) : IsPlainName name := by
  unfold Param.asName? at found
  split at found
  · rename_i pos word _ same
    cases found
    have type := legible.type
    rw [same] at type
    cases type with
    | named spelled plain => exact ⟨spelled.name, plain⟩
  · cases found

theorem groupFrom_legible {listPos : Position} {pending : List (Position × String)}
    {entries params : List (Param TypeExpr)} (legible : ∀ p ∈ entries, p.Legible)
    (names : ∀ name ∈ pending, IsPlainName name.2)
    (grouped : groupFrom listPos pending entries = .ok params) :
    ∀ p ∈ params, p.type.Legible ∧ ∃ name, p.name = some name ∧ IsPlainName name := by
  induction entries generalizing pending params with
  | nil =>
    unfold groupFrom at grouped
    split at grouped
    · cases grouped
      simp
    · cases grouped
  | cons entry rest ih =>
    have here := legible entry List.mem_cons_self
    have later : ∀ p ∈ rest, p.Legible := fun p member => legible p (List.mem_cons_of_mem _ member)
    unfold groupFrom at grouped
    split at grouped
    · rename_i name named
      obtain ⟨more, inside, same⟩ := bind_eq_ok.mp grouped
      cases same
      intro p member
      rcases List.mem_append.mp member with first | own
      · obtain ⟨⟨pos, word⟩, waiting, rfl⟩ := List.mem_map.mp first
        exact ⟨here.type, word, rfl, names _ (List.mem_reverse.mp waiting)⟩
      · rcases List.mem_cons.mp own with rfl | after
        · exact ⟨here.type, name, named, here.name name named⟩
        · exact ih later (by simp) inside p after
    · split at grouped
      · rename_i name found
        refine ih later ?_ grouped
        intro waiting member
        rcases List.mem_cons.mp member with rfl | before
        · exact here.asName found
        · exact names waiting before
      · cases grouped

namespace Parser

theorem grouped_legible {pos : Position} {entries : List (Param TypeExpr)}
    (legible : ∀ p ∈ entries, p.Legible) : LegibleParams (grouped pos entries).1 := by
  unfold grouped
  split
  · rename_i params same
    unfold groupParams at same
    split at same
    · have all := groupFrom_legible legible (by simp) same
      exact ⟨fun p member => (all p member).1, .named fun p member => (all p member).2⟩
    · rename_i unnamed
      cases same
      refine ⟨fun p member => (legible p member).type, .unnamed fun p member => ?_⟩
      by_contra named
      exact unnamed (List.any_eq_true.mpr ⟨p, member, Option.isSome_iff_ne_none.mpr named⟩)
  · exact .nil

/-! ### Places of reading -/

def ImportHole.Legible : ImportHole → Prop
  | .single file | .group file => file.Legible

def SpecHole.Legible : SpecHole → Prop
  | .single file => file.Legible
  | .group _ specs file => (∀ spec ∈ specs, spec.type.Legible) ∧ file.Legible

mutual

def TypeHole.Legible : TypeHole → Prop
  | .spec _ _ _ outer => outer.Legible
  | .pointer _ outer => outer.Legible
  | .slice _ outer => outer.Legible
  | .array _ length outer => IsLength length ∧ outer.Legible
  | .mapKey _ outer => outer.Legible
  | .mapValue _ key outer => key.Legible ∧ outer.Legible
  | .chan _ outer => outer.Legible
  | .field names _ outer => (∀ id ∈ names, IsName id.name) ∧ outer.Legible
  | .param _ name _ outer => (∀ n ∈ name, IsPlainName n) ∧ outer.Legible
  | .result params outer => LegibleParams params ∧ outer.Legible

def SignatureHole.Legible : SignatureHole → Prop
  | .func _ outer => outer.Legible
  | .method name _ outer => IsName name.name ∧ outer.Legible

def ParamsHole.Legible : ParamsHole → Prop
  | .params _ entries outer => (∀ p ∈ entries, p.Legible) ∧ outer.Legible
  | .results _ entries inputs outer =>
    (∀ p ∈ entries, p.Legible) ∧ LegibleParams inputs ∧ outer.Legible

def StructHole.Legible : StructHole → Prop
  | .fields _ members outer => (∀ f ∈ members, f.Legible) ∧ outer.Legible

def InterfaceHole.Legible : InterfaceHole → Prop
  | .elems _ methods embeds outer =>
    (∀ m ∈ methods, m.Legible) ∧ (∀ n ∈ embeds, n.Spelled) ∧ outer.Legible

end

def NameHole.Legible : NameHole → Prop
  | .type outer => outer.Legible
  | .field _ _ _ outer => outer.Legible
  | .embed outer => outer.Legible

/-- Whether a name that starts with `word` may stand there. -/
def NameHole.Admits (word : String) : NameHole → Prop
  | .type _ => word ∉ typeWords
  | _ => True

/-- Whatever has been read and put into its place is legible. -/
def Mode.Legible : Mode → Prop
  | .start | .packageName _ => True
  | .packageEnd file | .imports file | .decls file | .importStart file | .importItem file => file.Legible
  | .importEnd file | .typeStart _ file | .typeEnd file | .done file => file.Legible
  | .skipStart file | .skipOpen _ _ file | .skip _ file => file.Legible
  | .importPath _ _ hole | .importRead _ hole => hole.Legible
  | .specItem _ specs file => (∀ spec ∈ specs, spec.type.Legible) ∧ file.Legible
  | .specName _ _ hole => hole.Legible
  | .type hole | .bracket _ hole => hole.Legible
  | .mapKeyword _ hole | .structKeyword _ hole | .interfaceKeyword _ hole => hole.Legible
  | .closed t hole => t.Legible ∧ hole.Legible
  | .arrayLength _ length hole => IsLength length ∧ hole.Legible
  | .typeName name hole | .qualifier name hole =>
    IsName name.name ∧ hole.Admits name.name ∧ hole.Legible
  | .qualified name hole => name.Spelled ∧ hole.Admits name.first ∧ hole.Legible
  | .funcKeyword hole => hole.Legible
  | .params ps hole => LegibleParams ps ∧ hole.Legible
  | .results ps rs hole => LegibleParams ps ∧ LegibleParams rs ∧ hole.Legible
  | .param hole => hole.Legible
  | .paramName name hole => IsPlainName name.name ∧ hole.Legible
  | .field hole | .fieldStar _ _ hole | .tag hole => hole.Legible
  | .fieldName name _ hole => IsName name.name ∧ hole.Legible
  | .fieldComma names _ hole | .fieldNames names _ hole => (∀ id ∈ names, IsName id.name) ∧ hole.Legible
  | .elem hole => hole.Legible
  | .elemName name _ hole => IsName name.name ∧ hole.Legible

/-- If a token is taken, the place reached is legible. -/
def Outcome.Legible (outcome : Outcome) : Prop := ∀ step, outcome = .ok step → step.mode.Legible

namespace Outcome

variable {mode : Mode} {fault : Option ContentFault}

theorem legible_ok (legible : mode.Legible) : Legible (.ok { mode, fault }) := by
  rintro _ ⟨⟩
  exact legible

theorem legible_goto (legible : mode.Legible) : Legible (goto mode) := legible_ok legible

theorem legible_error (expected : List Terminal) : Legible (.error expected) := by
  rintro _ ⟨⟩

end Outcome

open GoIdl.Syntax.Parser.Outcome

/-! ### Putting constructs into their holes -/

theorem legible_closeGroup {doc : String} {specs : List TypeSpec}
    (legible : ∀ spec ∈ specs, spec.type.Legible) :
    ∀ spec ∈ closeGroup doc specs, spec.type.Legible := by
  unfold closeGroup
  split
  · split
    · rename_i only _
      intro spec member
      rw [List.mem_singleton.mp member]
      exact legible only List.mem_cons_self
    · exact legible
  · exact legible

theorem legible_append {specs more : List TypeSpec} (legible : ∀ spec ∈ specs, spec.type.Legible)
    (legibleMore : ∀ spec ∈ more, spec.type.Legible) :
    ∀ spec ∈ specs ++ more, spec.type.Legible :=
  List.forall_mem_append.mpr ⟨legible, legibleMore⟩

theorem specRead_legible {spec : TypeSpec} {hole : SpecHole} {next : Terminal}
    (type : spec.type.Legible) (legible : hole.Legible) : (specRead spec hole next).Legible := by
  have single : ∀ other ∈ [spec], other.type.Legible := by
    intro other member
    rw [List.mem_singleton.mp member]
    exact type
  unfold specRead
  split
  · exact legible_goto (legible_append legible single)
  · exact legible_error _
  · exact legible_goto ⟨legible_append legible.1 single, legible.2⟩
  · exact legible_goto (legible_append legible.2 (legible_closeGroup (legible_append legible.1 single)))
  · exact legible_error _

theorem fieldClosed_legible {hole : StructHole} {next : Terminal} (legible : hole.Legible) :
    (fieldClosed hole next).Legible := by
  unfold fieldClosed
  split
  · exact legible_goto legible
  · rw [StructHole.Legible] at legible
    exact legible_goto ⟨legible_struct legible.1 _, legible.2⟩
  · exact legible_error _

theorem fieldRead_legible {declare : Option String → List (FieldDecl TypeExpr)} {hole : StructHole}
    {next : Token} (fields : ∀ tag, ∀ f ∈ declare tag, f.Legible) (legible : hole.Legible) :
    (fieldRead declare hole next).Legible := by
  obtain ⟨pos, before, outer⟩ := hole
  rw [StructHole.Legible] at legible
  have inside : ∀ tag, (StructHole.fields pos (before ++ declare tag) outer).Legible := by
    intro tag
    rw [StructHole.Legible]
    exact ⟨List.forall_mem_append.mpr ⟨legible.1, fields tag⟩, legible.2⟩
  simp only [fieldRead]
  split
  · exact legible_ok (inside _)
  · exact legible_ok (inside _)
  · exact fieldClosed_legible (inside none)
  · exact fieldClosed_legible (inside none)
  · exact legible_error _

theorem namedFields_legible {names : List Ident} {doc : String} {type : TypeExpr}
    (spelled : ∀ id ∈ names, IsName id.name) (legible : type.Legible) (tag : Option String) :
    ∀ f ∈ namedFields names doc type tag, f.Legible := by
  intro f member
  obtain ⟨id, listed, rfl⟩ := List.mem_map.mp member
  exact ⟨.named rfl (spelled id listed), fun _ => legible⟩

theorem embeddedField_legible {pos : Position} {doc : String} {isPointer : Bool} {name : TypeName}
    (spelled : name.Spelled) (tag : Option String) :
    ∀ f ∈ embeddedField pos doc isPointer name tag, f.Legible := by
  intro f member
  rw [List.mem_singleton.mp member]
  refine ⟨.embedded rfl name spelled rfl ?_, fun named => nomatch named⟩
  cases isPointer
  · exact .inl rfl
  · exact .inr ⟨pos, rfl⟩

theorem elemRead_legible {hole : InterfaceHole} {next : Terminal} (legible : hole.Legible) :
    (elemRead hole next).Legible := by
  unfold elemRead
  split
  · exact legible_goto legible
  · rw [InterfaceHole.Legible] at legible
    exact legible_goto ⟨legible_interface legible.1 legible.2.1 _, legible.2.2⟩
  · exact legible_error _

theorem ParamsHole.Legible.add {hole : ParamsHole} {entry : Param TypeExpr} (legible : hole.Legible)
    (here : entry.Legible) : (hole.add entry).Legible := by
  have single : ∀ p ∈ [entry], p.Legible := by
    intro p member
    rw [List.mem_singleton.mp member]
    exact here
  cases hole with
  | params pos entries outer =>
    rw [ParamsHole.Legible] at legible
    rw [ParamsHole.add, ParamsHole.Legible]
    exact ⟨List.forall_mem_append.mpr ⟨legible.1, single⟩, legible.2⟩
  | results pos entries params outer =>
    rw [ParamsHole.Legible] at legible
    rw [ParamsHole.add, ParamsHole.Legible]
    exact ⟨List.forall_mem_append.mpr ⟨legible.1, single⟩, legible.2⟩

theorem ParamsHole.Legible.close {hole : ParamsHole} (legible : hole.Legible) :
    hole.close.mode.Legible := by
  cases hole with
  | params pos entries outer =>
    rw [ParamsHole.Legible] at legible
    exact ⟨grouped_legible legible.1, legible.2⟩
  | results pos entries params outer =>
    rw [ParamsHole.Legible] at legible
    exact ⟨legible.2.1, grouped_legible legible.1, legible.2.2⟩

theorem paramRead_legible {entry : Param TypeExpr} {hole : ParamsHole} {next : Terminal}
    (here : entry.Legible) (legible : hole.Legible) : (paramRead entry hole next).Legible := by
  unfold paramRead
  split
  · exact legible_goto (legible.add here)
  · exact legible_ok (legible.add here).close
  · exact legible_error _

theorem addMethod_legible {name : Ident} {doc : String} {signature : Signature TypeExpr}
    {hole : InterfaceHole} (isName : IsName name.name) (here : signature.Legible)
    (legible : hole.Legible) : (addMethod name doc signature hole).Legible := by
  obtain ⟨pos, methods, embeds, outer⟩ := hole
  rw [InterfaceHole.Legible] at legible
  rw [addMethod, InterfaceHole.Legible]
  refine ⟨List.forall_mem_append.mpr ⟨legible.1, fun m member => ?_⟩, legible.2⟩
  rw [List.mem_singleton.mp member]
  exact ⟨isName, here⟩

mutual

theorem typeRead_legible {type : TypeExpr} {hole : TypeHole} {next : Token} (here : type.Legible)
    (legible : hole.Legible) : (typeRead type hole next).Legible := by
  cases hole with
  | spec name doc isAlias outer =>
    rw [TypeHole.Legible] at legible
    rw [typeRead]
    exact specRead_legible here legible
  | pointer pos outer =>
    rw [TypeHole.Legible] at legible
    rw [typeRead]
    exact typeRead_legible (.pointer here) legible
  | slice pos outer =>
    rw [TypeHole.Legible] at legible
    rw [typeRead]
    exact typeRead_legible (.slice here) legible
  | array pos length outer =>
    rw [TypeHole.Legible] at legible
    rw [typeRead]
    exact typeRead_legible (.array legible.1 here) legible.2
  | mapKey pos outer =>
    rw [TypeHole.Legible] at legible
    rw [typeRead]
    split
    · refine legible_goto ?_
      rw [Mode.Legible, TypeHole.Legible]
      exact ⟨here, legible⟩
    · exact legible_error _
  | mapValue pos key outer =>
    rw [TypeHole.Legible] at legible
    rw [typeRead]
    exact typeRead_legible (.map legible.1 here) legible.2
  | chan pos outer =>
    rw [TypeHole.Legible] at legible
    rw [typeRead]
    exact typeRead_legible (.chan here) legible
  | field names doc outer =>
    rw [TypeHole.Legible] at legible
    rw [typeRead]
    exact fieldRead_legible (namedFields_legible legible.1 here) legible.2
  | param pos name variadic outer =>
    rw [TypeHole.Legible] at legible
    rw [typeRead]
    exact paramRead_legible ⟨here, legible.1⟩ legible.2
  | result params outer =>
    rw [TypeHole.Legible] at legible
    rw [typeRead]
    exact signatureRead_legible ⟨legible.1, .single here _⟩ legible.2

theorem signatureRead_legible {signature : Signature TypeExpr} {hole : SignatureHole} {next : Token}
    (here : signature.Legible) (legible : hole.Legible) :
    (signatureRead signature hole next).Legible := by
  cases hole with
  | func pos outer =>
    rw [SignatureHole.Legible] at legible
    rw [signatureRead]
    exact typeRead_legible (here.func pos) legible
  | method name doc outer =>
    rw [SignatureHole.Legible] at legible
    rw [signatureRead]
    exact elemRead_legible (addMethod_legible legible.1 here legible.2)

end

theorem nameRead_legible {name : TypeName} {hole : NameHole} {next : Token} (spelled : name.Spelled)
    (admits : hole.Admits name.first) (legible : hole.Legible) :
    (nameRead name hole next).Legible := by
  cases hole with
  | type outer => exact typeRead_legible (.named spelled admits) legible
  | field pos doc isPointer outer => exact fieldRead_legible (embeddedField_legible spelled) legible
  | embed outer =>
    obtain ⟨pos, methods, embeds, outer⟩ := outer
    rw [NameHole.Legible, InterfaceHole.Legible] at legible
    refine elemRead_legible ?_
    rw [InterfaceHole.Legible]
    refine ⟨legible.1, List.forall_mem_append.mpr ⟨legible.2.1, fun n member => ?_⟩, legible.2.2⟩
    rw [List.mem_singleton.mp member]
    exact spelled

/-! ### Starting constructs -/

end Parser

/-- What scanning tells of a token among the accepted ones. -/
structure Token.Scanned (accepted : List Terminal) (t : Token) : Prop where
  name : t.terminal = .name → IsName t.text
  other : t.terminal = .name → ∀ entry ∈ Terminal.keywords, entry.2 ∈ accepted → t.text ≠ entry.1
  number : t.terminal = .number → IsLength t.text

/-- Where a type may start, a name is none of the words that start one. -/
theorem Token.Scanned.plain {accepted : List Terminal} {t : Token} (scanned : t.Scanned accepted)
    (starts : ∀ u ∈ Parser.typeFirst, u ∈ accepted) (isName : t.terminal = .name) :
    IsPlainName t.text := by
  have words : ∀ word ∈ typeWords,
      ∃ entry ∈ Terminal.keywords, entry.2 ∈ Parser.typeFirst ∧ entry.1 = word := by
    decide
  refine ⟨scanned.name isName, fun member => ?_⟩
  obtain ⟨entry, keyword, first, same⟩ := words _ member
  exact scanned.other isName entry keyword (starts _ first) same.symm

namespace Parser

open GoIdl.Syntax.Parser.Outcome

variable {t : Token}

/-- The places where a type expression may start. -/
def Mode.startsType : Mode → Bool
  | .specName _ _ _ | .type _ | .param _ | .paramName _ _ | .params _ _ => true
  | .fieldName _ _ _ | .fieldNames _ _ _ => true
  | _ => false

theorem Mode.expects_typeFirst {mode : Mode} (starts : mode.startsType = true) :
    ∀ u ∈ typeFirst, u ∈ mode.expects := by
  cases mode <;> cases starts <;> simp only [Mode.expects] <;> decide

theorem typeBegun_legible {hole : TypeHole} (plain : t.terminal = .name → IsPlainName t.text)
    (legible : hole.Legible) : (typeBegun hole t).Legible := by
  unfold typeBegun
  split
  · rename_i isName
    have ⟨word, free⟩ := plain isName
    exact legible_goto ⟨word, free, legible⟩
  · refine legible_goto ?_
    rwa [Mode.Legible, TypeHole.Legible]
  · exact legible_goto legible
  · exact legible_goto legible
  · refine legible_goto ?_
    rwa [Mode.Legible, TypeHole.Legible]
  · exact legible_goto legible
  · exact legible_goto legible
  · refine legible_goto ?_
    rwa [Mode.Legible, SignatureHole.Legible]
  · exact legible_error _

/-! ### Reading a token -/

theorem legible_of_file {mode : Mode} {file : SourceFile} (between : mode.file? = some file) :
    mode.Legible ↔ file.Legible := by
  cases mode with
  | importPath _ _ hole | importRead _ hole =>
    cases between
    cases hole <;> exact Iff.rfl
  | _ =>
    cases between <;> exact Iff.rfl

theorem between_legible {docs : Nat → String} {mode : Mode} {file : SourceFile}
    (between : mode.file? = some file) (legible : mode.Legible) : (accept docs t mode).Legible := by
  have declared : file.Legible := (legible_of_file between).mp legible
  intro step accepted
  rcases accept_between between accepted with ⟨now, later, -, types⟩ | ⟨-, begun⟩
  · rw [legible_of_file later, SourceFile.Legible, types]
    exact declared
  · rw [begun]
    exact declared

theorem package_legible {docs : Nat → String} {mode : Mode} (region : mode.region = .package) :
    (accept docs t mode).Legible := by
  cases mode with
  | start => exact legible_goto trivial
  | packageName pos =>
    refine legible_goto ?_
    intro spec member
    cases member
  | _ => cases region

theorem declaration_legible {docs : Nat → String} {mode : Mode}
    (region : mode.region = .declaration) (scanned : t.Scanned mode.expects)
    (legible : mode.Legible) : (accept docs t mode).Legible := by
  cases mode with
  | typeStart doc file =>
    simp only [accept]
    split
    · exact legible_goto ⟨by simp, legible⟩
    · exact legible_goto legible
  | specItem doc specs file =>
    simp only [accept]
    split
    · exact legible_goto (legible_append legible.2 (legible_closeGroup legible.1))
    · exact legible_goto legible
  | specName name doc hole =>
    have inside : ∀ isAlias, (TypeHole.spec name doc isAlias hole).Legible := by
      intro isAlias
      rwa [TypeHole.Legible]
    simp only [accept]
    split
    · exact legible_goto (inside true)
    · exact typeBegun_legible (scanned.plain (Mode.expects_typeFirst rfl)) (inside false)
  | _ => cases region

theorem type_legible {docs : Nat → String} {mode : Mode} (region : mode.region = .type)
    (scanned : t.Scanned mode.expects) (expected : t.terminal ∈ mode.expects)
    (legible : mode.Legible) : (accept docs t mode).Legible := by
  cases mode with
  | type hole => exact typeBegun_legible (scanned.plain (Mode.expects_typeFirst rfl)) legible
  | typeName name hole =>
    obtain ⟨isName, admits, legible⟩ := legible
    simp only [accept]
    split
    · exact legible_goto ⟨isName, admits, legible⟩
    · exact nameRead_legible ⟨by simp, isName⟩ admits legible
  | qualifier name hole =>
    obtain ⟨isName, admits, legible⟩ := legible
    have second : IsName t.text := scanned.name (List.mem_singleton.mp expected)
    exact legible_goto ⟨⟨by simpa using isName, second⟩, admits, legible⟩
  | qualified name hole => exact nameRead_legible legible.1 legible.2.1 legible.2.2
  | closed type hole => exact typeRead_legible legible.1 legible.2
  | bracket pos hole =>
    simp only [accept]
    split
    · refine legible_goto ?_
      rwa [Mode.Legible, TypeHole.Legible]
    · rename_i open_
      have length : IsLength t.text := by
        simp only [Mode.expects, List.mem_cons, List.not_mem_nil, or_false] at expected
        rcases expected with name | number | closes
        · exact .name (scanned.name name)
        · exact scanned.number number
        · exact absurd closes open_
      exact legible_goto ⟨length, legible⟩
  | arrayLength pos length hole =>
    refine legible_goto ?_
    rwa [Mode.Legible, TypeHole.Legible]
  | mapKeyword pos hole =>
    refine legible_goto ?_
    rwa [Mode.Legible, TypeHole.Legible]
  | _ => cases region

theorem params_legible {docs : Nat → String} {mode : Mode} (region : mode.region = .params)
    (scanned : t.Scanned mode.expects) (legible : mode.Legible) : (accept docs t mode).Legible := by
  cases mode with
  | funcKeyword hole =>
    refine legible_goto ?_
    rw [Mode.Legible, ParamsHole.Legible]
    exact ⟨by simp, legible⟩
  | param hole =>
    have unnamed : ∀ pos variadic, (TypeHole.param pos none variadic hole).Legible := by
      intro pos variadic
      rw [TypeHole.Legible]
      exact ⟨by simp, legible⟩
    simp only [accept]
    split
    · exact legible_ok legible.close
    · split
      · exact legible_goto (unnamed t.pos true)
      · split
        · rename_i isName
          exact legible_goto ⟨scanned.plain (Mode.expects_typeFirst rfl) isName, legible⟩
        · exact typeBegun_legible (scanned.plain (Mode.expects_typeFirst rfl)) (unnamed _ _)
  | paramName name hole =>
    obtain ⟨plain, legible⟩ := legible
    have unnamed : (TypeHole.param name.pos none false hole).Legible := by
      rw [TypeHole.Legible]
      exact ⟨by simp, legible⟩
    have named : ∀ variadic, (TypeHole.param name.pos (some name.name) variadic hole).Legible := by
      intro variadic
      rw [TypeHole.Legible]
      exact ⟨by simpa using plain, legible⟩
    simp only [accept]
    split
    · exact legible_goto ⟨plain.toIsName, plain.plain, unnamed⟩
    · split
      · exact legible_goto (named true)
      · split
        · exact typeRead_legible (.named ⟨by simp, plain.toIsName⟩ plain.plain) unnamed
        · exact typeBegun_legible (scanned.plain (Mode.expects_typeFirst rfl)) (named false)
  | _ => cases region

theorem results_legible {docs : Nat → String} {mode : Mode} (region : mode.region = .results)
    (scanned : t.Scanned mode.expects) (legible : mode.Legible) : (accept docs t mode).Legible := by
  cases mode with
  | params params hole =>
    simp only [accept]
    split
    · refine legible_goto ?_
      rw [Mode.Legible, ParamsHole.Legible]
      exact ⟨by simp, legible⟩
    · split
      · refine typeBegun_legible (scanned.plain (Mode.expects_typeFirst rfl)) ?_
        rwa [TypeHole.Legible]
      · exact signatureRead_legible ⟨legible.1, .nil⟩ legible.2
  | results params results hole =>
    simp only [accept]
    split
    · exact signatureRead_legible ⟨legible.1, legible.2.1⟩ legible.2.2
    · exact legible_error _
  | _ => cases region

theorem struct_legible {docs : Nat → String} {mode : Mode} (region : mode.region = .struct)
    (scanned : t.Scanned mode.expects) (expected : t.terminal ∈ mode.expects)
    (legible : mode.Legible) : (accept docs t mode).Legible := by
  cases mode with
  | structKeyword pos hole =>
    refine legible_goto ?_
    rw [Mode.Legible, StructHole.Legible]
    exact ⟨by simp, legible⟩
  | field hole =>
    simp only [accept]
    split
    · exact fieldClosed_legible legible
    · split
      · exact legible_goto legible
      · rename_i open_ noStar
        exact legible_goto ⟨scanned.name (terminal_of_field open_ noStar expected), legible⟩
  | tag hole => exact fieldClosed_legible legible
  | _ => cases region

theorem field_legible {docs : Nat → String} {mode : Mode} (region : mode.region = .field)
    (scanned : t.Scanned mode.expects) (expected : t.terminal ∈ mode.expects)
    (legible : mode.Legible) : (accept docs t mode).Legible := by
  cases mode with
  | fieldName name doc hole =>
    obtain ⟨isName, legible⟩ := legible
    have single : ∀ id ∈ [name], IsName id.name := by
      intro id member
      rwa [List.mem_singleton.mp member]
    simp only [accept]
    split
    · exact legible_goto ⟨single, legible⟩
    · split
      · exact legible_goto ⟨isName, trivial, legible⟩
      · split
        · refine typeBegun_legible (scanned.plain (Mode.expects_typeFirst rfl)) ?_
          rw [TypeHole.Legible]
          exact ⟨single, legible⟩
        · have admits : (NameHole.field name.pos doc false hole).Admits name.name := trivial
          exact nameRead_legible ⟨by simp, isName⟩ admits legible
  | fieldComma names doc hole =>
    have isName : IsName t.text := scanned.name (List.mem_singleton.mp expected)
    refine legible_goto ⟨List.forall_mem_append.mpr ⟨legible.1, fun id member => ?_⟩, legible.2⟩
    rwa [List.mem_singleton.mp member]
  | fieldNames names doc hole =>
    simp only [accept]
    split
    · exact legible_goto legible
    · refine typeBegun_legible (scanned.plain (Mode.expects_typeFirst rfl)) ?_
      rwa [TypeHole.Legible]
  | fieldStar pos doc hole =>
    have isName : IsName t.text := scanned.name (List.mem_singleton.mp expected)
    exact legible_goto ⟨isName, trivial, legible⟩
  | _ => cases region

theorem interface_legible {docs : Nat → String} {mode : Mode} (region : mode.region = .interface)
    (scanned : t.Scanned mode.expects) (expected : t.terminal ∈ mode.expects)
    (legible : mode.Legible) : (accept docs t mode).Legible := by
  cases mode with
  | interfaceKeyword pos hole =>
    refine legible_goto ?_
    rw [Mode.Legible, InterfaceHole.Legible]
    exact ⟨by simp, by simp, legible⟩
  | elem hole =>
    simp only [accept]
    split
    · exact elemRead_legible legible
    · rename_i open_
      exact legible_goto ⟨scanned.name (terminal_of_elem open_ expected), legible⟩
  | elemName name doc hole =>
    obtain ⟨isName, legible⟩ := legible
    simp only [accept]
    split
    · exact legible_goto ⟨isName, trivial, legible⟩
    · split
      · refine legible_goto ?_
        rw [Mode.Legible, ParamsHole.Legible, SignatureHole.Legible]
        exact ⟨by simp, isName, legible⟩
      · have admits : (NameHole.embed hole).Admits name.name := trivial
        exact nameRead_legible ⟨by simp, isName⟩ admits legible
  | _ => cases region

theorem accept_legible {docs : Nat → String} {mode : Mode} (scanned : t.Scanned mode.expects)
    (expected : t.terminal ∈ mode.expects) (legible : mode.Legible) :
    (accept docs t mode).Legible := by
  cases region : mode.region with
  | package => exact package_legible region
  | between =>
    obtain ⟨file, between⟩ := Mode.file_of_between region
    exact between_legible between legible
  | declaration => exact declaration_legible region scanned legible
  | type => exact type_legible region scanned expected legible
  | params => exact params_legible region scanned legible
  | results => exact results_legible region scanned legible
  | struct => exact struct_legible region scanned expected legible
  | field => exact field_legible region scanned expected legible
  | interface => exact interface_legible region scanned expected legible

theorem advance_legible {docs : Nat → String} {mode : Mode} {step : Step}
    (scanned : t.Scanned mode.expects) (legible : mode.Legible)
    (advanced : advance docs mode t = .ok step) : step.mode.Legible := by
  unfold advance at advanced
  split at advanced
  · rename_i expected
    exact accept_legible scanned (List.contains_iff_mem.mp expected) legible step advanced
  · cases advanced

end Parser

/-! ### Scanning -/

theorem run?_spelled {first more : Char → Bool} {s text rest : List Char}
    (found : run? first more s = some (text, rest)) :
    ∃ c inside, (String.ofList text).toList = c :: inside ∧ first c = true ∧
      ∀ d ∈ inside, more d = true := by
  unfold run? at found
  split at found
  · rename_i c s
    split at found
    · rename_i starts
      cases found
      exact ⟨c, _, String.toList_ofList, starts, span_passes more s⟩
    · cases found
  · cases found

theorem reading_name {spellings : List (String × Terminal)} {accepted : List Terminal}
    {text : List Char} {otherwise : Terminal} (others : ∀ entry ∈ spellings, entry.2 ≠ otherwise)
    (same : reading spellings accepted text otherwise = otherwise) :
    ∀ entry ∈ spellings, entry.2 ∈ accepted → String.ofList text ≠ entry.1 := by
  intro entry member accepts spelled
  unfold reading at same
  split at same
  · rename_i found
    exact others _ (List.mem_of_find?_eq_some found) same
  · rename_i absent
    have missed := List.find?_eq_none.mp absent entry member
    simp [← spelled, accepts] at missed

theorem mem_of_spelled {accepted : List Terminal} {entry : String × Terminal}
    (member : entry ∈ spelled accepted) :
    entry ∈ Terminal.keywords ++ Terminal.signs ++ Terminal.brackets := by
  simp only [spelled, List.mem_filter, List.mem_append] at member
  simp only [List.mem_append]
  refine member.1.imp (Or.imp ?_ ?_) id
  · intro keyword
    split at keyword
    · cases keyword
    · exact keyword
  · intro sign
    split at sign
    · cases sign
    · exact sign

theorem classify_eq_number {accepted : List Terminal} {t : Terminal} {text : List Char}
    (same : classify accepted t text = .number) : t = .number := by
  have reads : ∀ spellings otherwise, (∀ entry ∈ spellings, entry.2 ≠ .number) → otherwise ≠ .number →
      reading spellings accepted text otherwise ≠ .number := by
    intro spellings otherwise others plain
    unfold reading
    split
    · rename_i found
      exact others _ (List.mem_of_find?_eq_some found)
    · exact plain
  cases t <;> try cases same
  · exact absurd same (reads _ _ (by decide) (by decide))
  · rfl
  · exact absurd same (reads _ _ (by decide) (by decide))

theorem scan_scanned {accepted : List Terminal} {s rest text : List Char} {t : Terminal}
    (pos : Position) (found : scan accepted s = some (.token t text, rest)) :
    Token.Scanned accepted ⟨t, String.ofList text, pos⟩ := by
  unfold scan at found
  split at found
  · cases found
  · split at found
    · rename_i u text' rest' hit
      obtain ⟨⟨rfl, rfl⟩, rfl⟩ : (classify accepted u text' = t ∧ text' = text) ∧ rest' = rest := by
        simpa using found
      obtain ⟨v, -, read⟩ := List.exists_of_findSome?_eq_some hit
      obtain ⟨pair, matched, same⟩ := Option.map_eq_some_iff.mp read
      cases same
      refine ⟨fun isName => ?_, fun isName => ?_, fun isNumber => ?_⟩
      · rw [classify_eq_name isName] at matched
        exact ⟨run?_spelled matched⟩
      · dsimp only at isName ⊢
        rw [classify_eq_name isName] at isName
        exact reading_name (by decide) isName
      · rw [classify_eq_number isNumber] at matched
        exact .number (run?_spelled matched)
    · split at found
      · cases found
      · have others : t ≠ .name ∧ t ≠ .number := by
          split at found
          · cases found
            decide
          · obtain ⟨entry, member, read⟩ := List.exists_of_findSome?_eq_some found
            dsimp only at read
            split at read
            · cases read
              have fixed : ∀ entry ∈ Terminal.keywords ++ Terminal.signs ++ Terminal.brackets,
                  entry.2 ≠ .name ∧ entry.2 ≠ .number := by
                decide
              exact fixed entry (mem_of_spelled member)
            · cases read
        exact ⟨fun same => absurd same others.1, fun same => absurd same others.1,
          fun same => absurd same others.2⟩

/-! ### Reading a text -/

namespace Parser.Reading

variable {r r' : Reading}

theorem feed_legible {t : Token} (scanned : t.Scanned r.mode.expects) (legible : r.mode.Legible)
    (fed : r.feed t = .ok r') : r'.mode.Legible := by
  obtain ⟨step, advanced, rfl⟩ := feed_ok fed
  exact advance_legible scanned legible advanced

/-- A token that is neither a name nor a number needs no scanning. -/
theorem scanned_mark {accepted : List Terminal} {t : Token} (mark : t.terminal ∉ [.name, .number]) :
    t.Scanned accepted := by
  simp only [List.mem_cons, List.not_mem_nil, or_false, not_or] at mark
  exact ⟨fun same => absurd same mark.1, fun same => absurd same mark.1, fun same => absurd same mark.2⟩

theorem feed_implied_legible {t : Token} (implied : t.Implied) (legible : r.mode.Legible)
    (fed : r.feed t = .ok r') : r'.mode.Legible :=
  feed_legible (scanned_mark (implied.other (by decide))) legible fed

theorem steps_legible (legible : r.mode.Legible) (step : r.Steps r') : r'.mode.Legible := by
  cases step with
  | comment | layout | ended => exact legible
  | @token t text rest after found emitted =>
    show after.mode.Legible
    cases emits_of_ok emitted with
    | token _ fed => exact feed_legible (scan_scanned r.pos found) legible fed
    | semicolon _ fed => exact feed_implied_legible (.semicolon _) legible fed
    | nothing => exact legible

end Parser.Reading

theorem Parser.parse_legible {source : List Char} {parsed : Parser.Parsed} {file : SourceFile}
    (read : Parser.parse source = .ok parsed) (whole : parsed.file = .ok file) : file.Legible := by
  obtain ⟨r, last, ran, finished, -, mode⟩ := Parser.parse_done read whole
  have start : (Reading.start source).mode.Legible := trivial
  have legible : r.mode.Legible :=
    Reading.run_keeps (·.mode.Legible) (fun _ _ => Reading.steps_legible) start ran
  have closed : last.mode.Legible :=
    Reading.finish_keeps (·.mode.Legible)
      (fun _ _ _ held implied fed => Reading.feed_implied_legible implied held fed) legible finished
  rwa [mode] at closed

/-- Every type of a file that has been read is legible. -/
theorem Source.read_legible {name text : String} {file : SourceFile}
    (done : Source.read name text = .ok file) : file.Legible := by
  obtain ⟨parsed, parsing, read⟩ := bind_eq_ok.mp done
  obtain ⟨content, whole, placed⟩ := bind_eq_ok.mp read
  have legible := Parser.parse_legible (mapError_eq_ok.mp parsing) (mapError_eq_ok.mp whole)
  cases placed
  exact legible

end Syntax

end GoIdl
