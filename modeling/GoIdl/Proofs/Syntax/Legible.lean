import GoIdl.Syntax.TypeExprPrinter
import GoIdl.Syntax.Lexeme

/-!
# Legible type expressions

A type expression is legible if its names are words that a reader takes for names where they stand,
and if each of its lists of parameters has names throughout or nowhere.
-/

namespace GoIdl.Syntax

/-! ### Words -/

/-- A text that is scanned as a name. -/
structure IsName (s : String) : Prop where
  spelled : ∃ c more, s.toList = c :: more ∧ Text.isWordStart c = true ∧ ∀ d ∈ more, Text.isWord d = true

def spellsName : List Char → Bool
  | [] => false
  | c :: more => Text.isWordStart c && more.all Text.isWord

theorem isName_iff {s : String} : IsName s ↔ spellsName s.toList = true := by
  constructor
  · rintro ⟨c, more, letters, starts, goes⟩
    rw [letters, spellsName, starts, List.all_eq_true.mpr goes]
    rfl
  · intro spells
    cases letters : s.toList with
    | nil =>
      rw [letters] at spells
      cases spells
    | cons c more =>
      rw [letters, spellsName, Bool.and_eq_true] at spells
      exact ⟨c, more, letters, spells.1, List.all_eq_true.mp spells.2⟩

instance {s : String} : Decidable (IsName s) := decidable_of_iff _ isName_iff.symm

/-- The words that start a type expression which is no name. -/
def typeWords : List String := ["chan", "func", "interface", "map", "struct"]

/-- A name where a type expression may stand. -/
structure IsPlainName (s : String) : Prop extends IsName s where
  plain : s ∉ typeWords

inductive IsLength (s : String) : Prop where
  | name (isName : IsName s)
  | number (spelled : ∃ c more, s.toList = c :: more ∧ Text.isDecimal c = true ∧
      ∀ d ∈ more, isNumberRest d = true)

namespace TypeName

/-- The name's first word. -/
def first (n : TypeName) : String := n.qualifier.getD n.name

structure Spelled (n : TypeName) : Prop where
  qualifier : ∀ q ∈ n.qualifier, IsName q
  name : IsName n.name

theorem Spelled.first {n : TypeName} (spelled : n.Spelled) : IsName n.first := by
  unfold TypeName.first
  cases qualified : n.qualifier with
  | none => exact spelled.name
  | some q => exact spelled.qualifier q qualified

end TypeName

/-! ### Legible expressions -/

/-- Either every entry of a list has a name or none has. -/
inductive Uniform (ps : List (Param TypeExpr)) : Prop where
  | unnamed (all : ∀ p ∈ ps, p.name = none)
  | named (all : ∀ p ∈ ps, ∃ name, p.name = some name ∧ IsPlainName name)

/-- A field goes by its own name, or by that of the type it embeds. -/
inductive FieldDecl.Spelled (f : FieldDecl TypeExpr) : Prop where
  | named (embedded : f.embedded = false) (name : IsName f.name)
  | embedded (embedded : f.embedded = true) (n : TypeName) (spelled : n.Spelled) (name : f.name = n.name)
      (type : f.type = .named n ∨ ∃ pos, f.type = .pointer pos (.named n))

structure Signature.Uniform (s : Signature TypeExpr) : Prop where
  params : Syntax.Uniform s.params
  results : Syntax.Uniform s.results

structure MethodDecl.Spelled (m : MethodDecl TypeExpr) : Prop where
  name : IsName m.name
  signature : m.signature.Uniform

inductive TypeExpr.Legible : TypeExpr → Prop where
  | named {name : TypeName} (spelled : name.Spelled) (plain : name.first ∉ typeWords) :
      Legible (.named name)
  | pointer {pos : Position} {elem : TypeExpr} (inner : Legible elem) : Legible (.pointer pos elem)
  | slice {pos : Position} {elem : TypeExpr} (inner : Legible elem) : Legible (.slice pos elem)
  | array {pos : Position} {length : String} {elem : TypeExpr} (sized : IsLength length)
      (inner : Legible elem) : Legible (.array pos length elem)
  | map {pos : Position} {key value : TypeExpr} (inKey : Legible key)
      (inValue : Legible value) :
      Legible (.map pos key value)
  | chan {pos : Position} {elem : TypeExpr} (inner : Legible elem) : Legible (.chan pos elem)
  | func {pos : Position} {s : Signature TypeExpr} (uniform : s.Uniform)
      (params : ∀ p ∈ s.params, Legible p.type) (results : ∀ r ∈ s.results, Legible r.type) :
      Legible (.func pos s)
  | struct {pos : Position} {fields : List (FieldDecl TypeExpr)} (spelled : ∀ f ∈ fields, f.Spelled)
      (types : ∀ f ∈ fields, f.embedded = false → Legible f.type) : Legible (.struct pos fields)
  | interface {pos : Position} {methods : List (MethodDecl TypeExpr)} {embeds : List TypeName}
      (spelled : ∀ m ∈ methods, m.Spelled)
      (params : ∀ m ∈ methods, ∀ p ∈ m.signature.params, Legible p.type)
      (results : ∀ m ∈ methods, ∀ r ∈ m.signature.results, Legible r.type)
      (embedded : ∀ n ∈ embeds, n.Spelled) : Legible (.interface pos methods embeds)

/-! ### Parts of expressions -/

mutual

/-- An expression and all expressions in it, embedded names included. -/
def TypeExpr.parts : TypeExpr → List TypeExpr
  | .named name => [.named name]
  | .pointer pos elem => .pointer pos elem :: elem.parts
  | .slice pos elem => .slice pos elem :: elem.parts
  | .array pos length elem => .array pos length elem :: elem.parts
  | .map pos key value => .map pos key value :: (key.parts ++ value.parts)
  | .chan pos elem => .chan pos elem :: elem.parts
  | .func pos ⟨params, results⟩ => .func pos ⟨params, results⟩ :: (paramParts params ++ paramParts results)
  | .struct pos fields => .struct pos fields :: fieldParts fields
  | .interface pos methods embeds =>
    .interface pos methods embeds :: (methodParts methods ++ embeds.map .named)

def paramParts : List (Param TypeExpr) → List TypeExpr
  | [] => []
  | ⟨_, _, _, type⟩ :: rest => type.parts ++ paramParts rest

def fieldParts : List (FieldDecl TypeExpr) → List TypeExpr
  | [] => []
  | ⟨_, _, type, _, _, _⟩ :: rest => type.parts ++ fieldParts rest

def methodParts : List (MethodDecl TypeExpr) → List TypeExpr
  | [] => []
  | ⟨_, _, ⟨params, results⟩, _⟩ :: rest => paramParts params ++ paramParts results ++ methodParts rest

end

mutual

/-- The signatures of an expression and of all expressions in it. -/
def TypeExpr.signatures : TypeExpr → List (Signature TypeExpr)
  | .named _ => []
  | .pointer _ elem | .slice _ elem | .array _ _ elem | .chan _ elem => elem.signatures
  | .map _ key value => key.signatures ++ value.signatures
  | .func _ ⟨params, results⟩ =>
    ⟨params, results⟩ :: (paramSignatures params ++ paramSignatures results)
  | .struct _ fields => fieldSignatures fields
  | .interface _ methods _ => methodSignatures methods

def paramSignatures : List (Param TypeExpr) → List (Signature TypeExpr)
  | [] => []
  | ⟨_, _, _, type⟩ :: rest => type.signatures ++ paramSignatures rest

def fieldSignatures : List (FieldDecl TypeExpr) → List (Signature TypeExpr)
  | [] => []
  | ⟨_, _, type, _, _, _⟩ :: rest => type.signatures ++ fieldSignatures rest

def methodSignatures : List (MethodDecl TypeExpr) → List (Signature TypeExpr)
  | [] => []
  | ⟨_, _, ⟨params, results⟩, _⟩ :: rest =>
    ⟨params, results⟩ :: (paramSignatures params ++ paramSignatures results) ++ methodSignatures rest

end

theorem paramParts_eq (ps : List (Param TypeExpr)) : paramParts ps = ps.flatMap (·.type.parts) := by
  induction ps with
  | nil => rfl
  | cons p ps ih => rw [paramParts, ih, List.flatMap_cons]

theorem fieldParts_eq (fs : List (FieldDecl TypeExpr)) : fieldParts fs = fs.flatMap (·.type.parts) := by
  induction fs with
  | nil => rfl
  | cons f fs ih => rw [fieldParts, ih, List.flatMap_cons]

theorem methodParts_eq (ms : List (MethodDecl TypeExpr)) : methodParts ms =
    ms.flatMap fun m => paramParts m.signature.params ++ paramParts m.signature.results := by
  induction ms with
  | nil => rfl
  | cons m ms ih => rw [methodParts, ih, List.flatMap_cons]

theorem paramSignatures_eq (ps : List (Param TypeExpr)) :
    paramSignatures ps = ps.flatMap (·.type.signatures) := by
  induction ps with
  | nil => rfl
  | cons p ps ih => rw [paramSignatures, ih, List.flatMap_cons]

theorem fieldSignatures_eq (fs : List (FieldDecl TypeExpr)) :
    fieldSignatures fs = fs.flatMap (·.type.signatures) := by
  induction fs with
  | nil => rfl
  | cons f fs ih => rw [fieldSignatures, ih, List.flatMap_cons]

theorem methodSignatures_eq (ms : List (MethodDecl TypeExpr)) : methodSignatures ms =
    ms.flatMap fun m => m.signature ::
      (paramSignatures m.signature.params ++ paramSignatures m.signature.results) := by
  induction ms with
  | nil => rfl
  | cons m ms ih => rw [methodSignatures, ih, List.flatMap_cons]

/-- A name, or a name behind a star. -/
def TypeExpr.name? : TypeExpr → Option TypeName
  | .named name => some name
  | .pointer _ (.named name) => some name
  | _ => none

/-- The parts of a legible expression are legible, or they are names that a struct or an interface
embeds. -/
theorem TypeExpr.Legible.part {type part : TypeExpr} (legible : type.Legible) (member : part ∈ type.parts)
    (plain : ∀ n ∈ part.name?, n.first ∉ typeWords) : part.Legible := by
  induction legible with
  | named spelled free =>
    rw [parts, List.mem_singleton] at member
    subst member
    exact .named spelled free
  | pointer elem ih =>
    rw [parts, List.mem_cons] at member
    rcases member with rfl | inside
    · exact .pointer elem
    · exact ih inside
  | slice elem ih =>
    rw [parts, List.mem_cons] at member
    rcases member with rfl | inside
    · exact .slice elem
    · exact ih inside
  | array length elem ih =>
    rw [parts, List.mem_cons] at member
    rcases member with rfl | inside
    · exact .array length elem
    · exact ih inside
  | map key value ihKey ihValue =>
    rw [parts, List.mem_cons, List.mem_append] at member
    rcases member with rfl | inKey | inValue
    · exact .map key value
    · exact ihKey inKey
    · exact ihValue inValue
  | chan elem ih =>
    rw [parts, List.mem_cons] at member
    rcases member with rfl | inside
    · exact .chan elem
    · exact ih inside
  | @func pos s uniform params results ihParams ihResults =>
    rw [parts, List.mem_cons, List.mem_append, paramParts_eq, paramParts_eq] at member
    rcases member with rfl | inParams | inResults
    · exact .func uniform params results
    · obtain ⟨p, listed, inside⟩ := List.mem_flatMap.mp inParams
      exact ihParams p listed inside
    · obtain ⟨r, listed, inside⟩ := List.mem_flatMap.mp inResults
      exact ihResults r listed inside
  | struct spelled types ih =>
    rw [parts, List.mem_cons, fieldParts_eq] at member
    rcases member with rfl | inFields
    · exact .struct spelled types
    · obtain ⟨f, listed, inside⟩ := List.mem_flatMap.mp inFields
      cases spelled f listed with
      | named embedded _ => exact ih f listed embedded inside
      | embedded _ n spelled _ type =>
        rcases type with same | ⟨pos, same⟩
        · rw [same, parts, List.mem_singleton] at inside
          subst inside
          exact .named spelled (plain n rfl)
        · rw [same, parts, parts, List.mem_cons, List.mem_singleton] at inside
          rcases inside with rfl | rfl
          · exact .pointer (.named spelled (plain n rfl))
          · exact .named spelled (plain n rfl)
  | interface spelled params results embeds ihParams ihResults =>
    rw [parts, List.mem_cons, List.mem_append, methodParts_eq] at member
    rcases member with rfl | inMethods | inEmbeds
    · exact .interface spelled params results embeds
    · obtain ⟨m, listed, inMethod⟩ := List.mem_flatMap.mp inMethods
      rw [List.mem_append, paramParts_eq, paramParts_eq] at inMethod
      rcases inMethod with inParams | inResults
      · obtain ⟨p, among, inside⟩ := List.mem_flatMap.mp inParams
        exact ihParams m listed p among inside
      · obtain ⟨r, among, inside⟩ := List.mem_flatMap.mp inResults
        exact ihResults m listed r among inside
    · obtain ⟨n, listed, rfl⟩ := List.mem_map.mp inEmbeds
      exact .named (embeds n listed) (plain n rfl)

/-! ### Expressions without their places -/

/-- A position that stands for every other. -/
def nowhere : Position := ⟨0, 0⟩

def TypeName.bare (n : TypeName) : TypeName := { n with pos := nowhere }

mutual

/-- An expression without positions, docs and tags. -/
def TypeExpr.bare : TypeExpr → TypeExpr
  | .named name => .named name.bare
  | .pointer _ elem => .pointer nowhere elem.bare
  | .slice _ elem => .slice nowhere elem.bare
  | .array _ length elem => .array nowhere length elem.bare
  | .map _ key value => .map nowhere key.bare value.bare
  | .chan _ elem => .chan nowhere elem.bare
  | .func _ ⟨params, results⟩ => .func nowhere ⟨bareParams params, bareParams results⟩
  | .struct _ fields => .struct nowhere (bareFields fields)
  | .interface _ methods embeds => .interface nowhere (bareMethods methods) (embeds.map TypeName.bare)

def bareParams : List (Param TypeExpr) → List (Param TypeExpr)
  | [] => []
  | ⟨_, name, variadic, type⟩ :: rest => ⟨nowhere, name, variadic, type.bare⟩ :: bareParams rest

def bareFields : List (FieldDecl TypeExpr) → List (FieldDecl TypeExpr)
  | [] => []
  | ⟨_, name, type, _, embedded, _⟩ :: rest =>
    ⟨nowhere, name, type.bare, none, embedded, ""⟩ :: bareFields rest

def bareMethods : List (MethodDecl TypeExpr) → List (MethodDecl TypeExpr)
  | [] => []
  | ⟨_, name, ⟨params, results⟩, _⟩ :: rest =>
    ⟨nowhere, name, ⟨bareParams params, bareParams results⟩, ""⟩ :: bareMethods rest

end

end GoIdl.Syntax
