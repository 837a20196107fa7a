import GoIdl.Syntax.TypeExpr
import Mathlib.Data.List.Forall2

/-!
# Matching type expressions

Two type expressions match if they are the same up to positions, apart from expressions that stand
for each other. These may occur at any depth inside the types of named fields and of the parameters
and results of methods, and nowhere else.
-/

namespace GoIdl.Syntax

/-- The same name, and in the same place if places count. -/
structure TypeName.Alike (placed : Prop) (a b : TypeName) : Prop where
  qualifier : a.qualifier = b.qualifier
  name : a.name = b.name
  pos : placed → a.pos = b.pos

namespace TypeName.Alike

variable {placed : Prop} {a b : TypeName}

theorem refl (placed : Prop) (a : TypeName) : a.Alike placed a := ⟨rfl, rfl, fun _ => rfl⟩

theorem symm (alike : a.Alike placed b) : b.Alike placed a :=
  ⟨alike.qualifier.symm, alike.name.symm, fun counts => (alike.pos counts).symm⟩

end TypeName.Alike

section

variable (placed : Prop) (stands : TypeExpr → TypeExpr → Prop)

/-- Names that match among the embedded ones. -/
inductive MatchesEmbed (inside : Bool) (a b : TypeName) : Prop where
  | stands (here : inside = true) (standing : stands (.named a) (.named b))
  | alike (alike : a.Alike placed b)

mutual

/-- Whether expressions match where others may stand for them, if they are `inside`. -/
inductive Matches : Bool → TypeExpr → TypeExpr → Prop where
  | stands {a b : TypeExpr} (standing : stands a b) : Matches true a b
  | shape {inside : Bool} {a b : TypeExpr} (shape : SameShape inside a b) : Matches inside a b

/-- Expressions of the same form with matching parts. -/
inductive SameShape : Bool → TypeExpr → TypeExpr → Prop where
  | named {inside : Bool} {a b : TypeName} (alike : a.Alike placed b) :
      SameShape inside (.named a) (.named b)
  | pointer {inside : Bool} {pos pos' : Position} {a b : TypeExpr} (elem : Matches inside a b) :
      SameShape inside (.pointer pos a) (.pointer pos' b)
  | slice {inside : Bool} {pos pos' : Position} {a b : TypeExpr} (elem : Matches inside a b) :
      SameShape inside (.slice pos a) (.slice pos' b)
  | array {inside : Bool} {pos pos' : Position} {length : String} {a b : TypeExpr}
      (elem : Matches inside a b) : SameShape inside (.array pos length a) (.array pos' length b)
  | map {inside : Bool} {pos pos' : Position} {a b a' b' : TypeExpr} (key : Matches inside a b)
      (value : Matches inside a' b') : SameShape inside (.map pos a a') (.map pos' b b')
  | chan {inside : Bool} {pos pos' : Position} {a b : TypeExpr} (elem : Matches inside a b) :
      SameShape inside (.chan pos a) (.chan pos' b)
  | func {inside : Bool} {pos pos' : Position} {as bs as' bs' : List (Param TypeExpr)}
      (params : MatchesParams inside as bs) (results : MatchesParams inside as' bs') :
      SameShape inside (.func pos ⟨as, as'⟩) (.func pos' ⟨bs, bs'⟩)
  | struct {inside : Bool} {pos pos' : Position} {as bs : List (FieldDecl TypeExpr)}
      (fields : MatchesFields inside as bs) : SameShape inside (.struct pos as) (.struct pos' bs)
  | interface {inside : Bool} {pos pos' : Position} {as bs : List (MethodDecl TypeExpr)}
      {es fs : List TypeName} (methods : MatchesMethods inside as bs)
      (embeds : List.Forall₂ (MatchesEmbed placed stands inside) es fs) :
      SameShape inside (.interface pos as es) (.interface pos' bs fs)

/-- Parameters are told apart by their types; their names play no part. -/
inductive MatchesParams : Bool → List (Param TypeExpr) → List (Param TypeExpr) → Prop where
  | nil {inside : Bool} : MatchesParams inside [] []
  | cons {inside : Bool} {a b : Param TypeExpr} {as bs : List (Param TypeExpr)}
      (variadic : a.variadic = b.variadic) (pos : placed → a.pos = b.pos)
      (type : Matches inside a.type b.type) (rest : MatchesParams inside as bs) :
      MatchesParams inside (a :: as) (b :: bs)

/-- An embedded field goes by the name of its type, which may change with the type. -/
inductive MatchesFields : Bool → List (FieldDecl TypeExpr) → List (FieldDecl TypeExpr) → Prop where
  | nil {inside : Bool} : MatchesFields inside [] []
  | cons {inside : Bool} {a b : FieldDecl TypeExpr} {as bs : List (FieldDecl TypeExpr)}
      (embedded : a.embedded = b.embedded) (name : a.embedded && inside ∨ a.name = b.name)
      (tag : a.tag = b.tag) (doc : a.doc = b.doc) (pos : placed → a.pos = b.pos)
      (type : Matches (!a.embedded || inside) a.type b.type) (rest : MatchesFields inside as bs) :
      MatchesFields inside (a :: as) (b :: bs)

inductive MatchesMethods : Bool → List (MethodDecl TypeExpr) → List (MethodDecl TypeExpr) → Prop where
  | nil {inside : Bool} : MatchesMethods inside [] []
  | cons {inside : Bool} {a b : MethodDecl TypeExpr} {as bs : List (MethodDecl TypeExpr)}
      (name : a.name = b.name) (doc : a.doc = b.doc) (pos : placed → a.pos = b.pos)
      (params : MatchesParams true a.signature.params b.signature.params)
      (results : MatchesParams true a.signature.results b.signature.results)
      (rest : MatchesMethods inside as bs) : MatchesMethods inside (a :: as) (b :: bs)

end

end

variable {placed : Prop} {stands stands' : TypeExpr → TypeExpr → Prop} {inside inside' : Bool}
  {a b : TypeExpr}

/-! ### Every expression matches itself -/

mutual

theorem SameShape.refl (inside : Bool) (a : TypeExpr) : SameShape placed stands inside a a := by
  cases a with
  | named name => exact .named (.refl ..)
  | pointer pos elem => exact .pointer (.shape (SameShape.refl inside elem))
  | slice pos elem => exact .slice (.shape (SameShape.refl inside elem))
  | array pos length elem => exact .array (.shape (SameShape.refl inside elem))
  | map pos key value =>
    exact .map (.shape (SameShape.refl inside key)) (.shape (SameShape.refl inside value))
  | chan pos elem => exact .chan (.shape (SameShape.refl inside elem))
  | func pos signature =>
    obtain ⟨params, results⟩ := signature
    exact .func (MatchesParams.refl inside params) (MatchesParams.refl inside results)
  | struct pos fields => exact .struct (MatchesFields.refl inside fields)
  | interface pos methods embeds =>
    exact .interface (MatchesMethods.refl inside methods)
      (List.forall₂_same.mpr fun name _ => .alike (.refl placed name))

theorem MatchesParams.refl (inside : Bool) (params : List (Param TypeExpr)) :
    MatchesParams placed stands inside params params := by
  cases params with
  | nil => exact .nil
  | cons param rest =>
    obtain ⟨pos, name, variadic, type⟩ := param
    exact .cons rfl (fun _ => rfl) (.shape (SameShape.refl inside type)) (MatchesParams.refl inside rest)

theorem MatchesFields.refl (inside : Bool) (fields : List (FieldDecl TypeExpr)) :
    MatchesFields placed stands inside fields fields := by
  cases fields with
  | nil => exact .nil
  | cons field rest =>
    obtain ⟨pos, name, type, tag, embedded, doc⟩ := field
    exact .cons rfl (.inr rfl) rfl rfl (fun _ => rfl) (.shape (SameShape.refl _ type))
      (MatchesFields.refl inside rest)

theorem MatchesMethods.refl (inside : Bool) (methods : List (MethodDecl TypeExpr)) :
    MatchesMethods placed stands inside methods methods := by
  cases methods with
  | nil => exact .nil
  | cons method rest =>
    obtain ⟨pos, name, ⟨params, results⟩, doc⟩ := method
    exact .cons rfl rfl (fun _ => rfl) (MatchesParams.refl true params)
      (MatchesParams.refl true results) (MatchesMethods.refl inside rest)

end

/-! ### The other way round -/

theorem MatchesEmbed.flip {a b : TypeName} (embed : MatchesEmbed placed stands inside a b) :
    MatchesEmbed placed (flip stands) inside b a := by
  cases embed with
  | stands here standing => exact .stands here standing
  | alike alike => exact .alike alike.symm

mutual

theorem Matches.flip {inside : Bool} {a b : TypeExpr} (matched : Matches placed stands inside a b) :
    Matches placed (flip stands) inside b a := by
  match matched with
  | .stands standing => exact .stands standing
  | .shape shape => exact .shape shape.flip

theorem SameShape.flip {inside : Bool} {a b : TypeExpr} (shape : SameShape placed stands inside a b) :
    SameShape placed (flip stands) inside b a := by
  match shape with
  | .named alike => exact .named alike.symm
  | .pointer elem => exact .pointer elem.flip
  | .slice elem => exact .slice elem.flip
  | .array elem => exact .array elem.flip
  | .map key value => exact .map key.flip value.flip
  | .chan elem => exact .chan elem.flip
  | .func params results => exact .func params.flip results.flip
  | .struct fields => exact .struct fields.flip
  | .interface methods embeds =>
    exact .interface methods.flip ((embeds.imp fun _ _ embed => embed.flip).flip)

theorem MatchesParams.flip {inside : Bool} {as bs : List (Param TypeExpr)}
    (params : MatchesParams placed stands inside as bs) :
    MatchesParams placed (flip stands) inside bs as := by
  match params with
  | .nil => exact .nil
  | .cons variadic pos type rest =>
    exact .cons variadic.symm (fun counts => (pos counts).symm) type.flip rest.flip

theorem MatchesFields.flip {inside : Bool} {as bs : List (FieldDecl TypeExpr)}
    (fields : MatchesFields placed stands inside as bs) :
    MatchesFields placed (flip stands) inside bs as := by
  match fields with
  | .nil => exact .nil
  | .cons embedded name tag doc pos type rest =>
    exact .cons embedded.symm (name.imp (embedded ▸ ·) Eq.symm) tag.symm doc.symm
      (fun counts => (pos counts).symm) (embedded ▸ type.flip) rest.flip

theorem MatchesMethods.flip {inside : Bool} {as bs : List (MethodDecl TypeExpr)}
    (methods : MatchesMethods placed stands inside as bs) :
    MatchesMethods placed (flip stands) inside bs as := by
  match methods with
  | .nil => exact .nil
  | .cons name doc pos params results rest =>
    exact .cons name.symm doc.symm (fun counts => (pos counts).symm) params.flip results.flip rest.flip

end

/-! ### More may stand for each other -/

theorem MatchesEmbed.mono (more : ∀ a b, stands a b → stands' a b)
    (further : inside = true → inside' = true) {a b : TypeName}
    (embed : MatchesEmbed placed stands inside a b) : MatchesEmbed placed stands' inside' a b := by
  cases embed with
  | stands here standing => exact .stands (further here) (more _ _ standing)
  | alike alike => exact .alike alike

mutual

theorem Matches.mono {inside inside' : Bool} {a b : TypeExpr}
    (more : ∀ a b, stands a b → stands' a b) (further : inside = true → inside' = true)
    (matched : Matches placed stands inside a b) :
    Matches placed stands' inside' a b := by
  match matched with
  | .stands standing =>
    cases further rfl
    exact .stands (more _ _ standing)
  | .shape shape => exact .shape (shape.mono more further)

theorem SameShape.mono {inside inside' : Bool} {a b : TypeExpr}
    (more : ∀ a b, stands a b → stands' a b) (further : inside = true → inside' = true)
    (shape : SameShape placed stands inside a b) :
    SameShape placed stands' inside' a b := by
  match shape with
  | .named alike => exact .named alike
  | .pointer elem => exact .pointer (elem.mono more further)
  | .slice elem => exact .slice (elem.mono more further)
  | .array elem => exact .array (elem.mono more further)
  | .map key value => exact .map (key.mono more further) (value.mono more further)
  | .chan elem => exact .chan (elem.mono more further)
  | .func params results => exact .func (params.mono more further) (results.mono more further)
  | .struct fields => exact .struct (fields.mono more further)
  | .interface methods embeds =>
    exact .interface (methods.mono more further) (embeds.imp fun _ _ embed => embed.mono more further)

theorem MatchesParams.mono {inside inside' : Bool} {as bs : List (Param TypeExpr)}
    (more : ∀ a b, stands a b → stands' a b) (further : inside = true → inside' = true)
    (params : MatchesParams placed stands inside as bs) :
    MatchesParams placed stands' inside' as bs := by
  match params with
  | .nil => exact .nil
  | .cons variadic pos type rest =>
    exact .cons variadic pos (type.mono more further) (rest.mono more further)

theorem MatchesFields.mono {inside inside' : Bool} {as bs : List (FieldDecl TypeExpr)}
    (more : ∀ a b, stands a b → stands' a b) (further : inside = true → inside' = true)
    (fields : MatchesFields placed stands inside as bs) :
    MatchesFields placed stands' inside' as bs := by
  match fields with
  | .nil => exact .nil
  | .cons embedded name tag doc pos type rest =>
    refine .cons embedded (name.imp_left ?_) tag doc pos (type.mono more ?_) (rest.mono more further)
    · simp only [Bool.and_eq_true]
      exact And.imp_right further
    · simp only [Bool.or_eq_true]
      exact Or.imp_right further

theorem MatchesMethods.mono {inside inside' : Bool} {as bs : List (MethodDecl TypeExpr)}
    (more : ∀ a b, stands a b → stands' a b) (further : inside = true → inside' = true)
    (methods : MatchesMethods placed stands inside as bs) :
    MatchesMethods placed stands' inside' as bs := by
  match methods with
  | .nil => exact .nil
  | .cons name doc pos params results rest =>
    exact .cons name doc pos (params.mono more id) (results.mono more id) (rest.mono more further)

end

/-- What matches outside matches inside as well. -/
theorem Matches.within (matched : Matches placed stands inside a b) : Matches placed stands true a b :=
  matched.mono (fun _ _ => id) fun _ => rfl

/-- Outside nothing stands for anything else. -/
theorem Matches.outside (matched : Matches placed stands false a b) :
    SameShape placed stands false a b := by
  cases matched with
  | shape shape => exact shape

end GoIdl.Syntax
