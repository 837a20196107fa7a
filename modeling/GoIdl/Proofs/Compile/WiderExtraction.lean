import GoIdl.Proofs.Compile.TwinExtraction
import GoIdl.Proofs.Compile.Widening

/-!
# Extraction from wider packages

What is extracted from a package is extracted from a wider one as well: the sessions agree after every
step. Every object that is extracted takes one declaration off those that have not been registered, so
that recursion along fields does not run out of levels in either package.
-/

namespace GoIdl.Extract

open Syntax (TypeExpr TypeName Param FieldDecl MethodDecl Location)
open Resolve

variable {disk : Disk} {left : Nat} {extra : String} {p p' : Package} {ctx ctx' : Context}
  {d d' : DeclaredType} {u v : World}

/-! ### Docs and tags -/

theorem readDoc_widened (doc : String) (location : Location) :
    Mimics disk True (World.Deeper p left) Eq (readDoc doc location) (readDoc doc location) := by
  obtain ⟨⟨m, failure⟩, read⟩ : ∃ outcome, Metadata.upToFailure doc (some location) = outcome :=
    ⟨_, rfl⟩
  constructor
  · intro u u' deeper a v run
    rw [readDoc_run read] at run
    rw [readDoc_run read]
    cases failure with
    | some failure => cases run
    | none =>
      cases run
      exact ⟨m, _, rfl, rfl, deeper.session, deeper.room, deeper.declared, deeper.unregistered⟩
  · intro u u' deeper _ fault v run
    rw [readDoc_run read] at run
    rw [readDoc_run read]
    cases failure with
    | none => cases run
    | some failure =>
      cases run
      exact ⟨_, rfl⟩

theorem parseTag_widened {worlds : World → World → Prop} (tag : String) (location : Location)
    (path : ctx.package.path = ctx'.package.path) :
    Mimics disk True worlds Eq (parseTag tag location ctx) (parseTag tag location ctx') := by
  unfold parseTag
  split
  · exact .pure rfl
  · exact .fail fun _ => by rw [path]
  · exact .throw fun _ => rfl

/-! ### Registered objects -/

theorem typeIdOf_widened (widens : Widens extra p p') (kept : Kept extra p p' d d') :
    typeIdOf d = typeIdOf d' := by
  rw [typeIdOf, typeIdOf, widens.packagePath kept, kept.name]

/-- Registering a declaration of the package leaves fewer of them unregistered. -/
theorem unregistered_reserve {s t : Session} {name : String} {location : Option Location}
    (kept : Kept extra p p' d d') (reserved : s.reserve (typeIdOf d) name location = .ok (some t)) :
    p.unregistered t < p.unregistered s := by
  obtain ⟨fresh, -, rfl⟩ := Session.reserve_eq_some reserved
  obtain ⟨declaration, held, -⟩ := Option.map_eq_some_iff.mp kept.found
  have here : d.package = p := kept.context.package
  have id : typeIdOf d = p.path ++ "." ++ d.name := by rw [typeIdOf, here]
  rw [id] at fresh ⊢
  refine Package.unregistered_lt (fun other known => ?_) (Json.mem_of_find? held)
    (Json.find?_eq_none_iff.mpr fresh) ?_
  · rw [Session.object?, Json.find?_append, Option.isSome_or, Bool.or_eq_true]
    exact .inl known
  · rw [Session.object?, Json.find?_append, Json.find?_cons, if_pos rfl, Option.isSome_or,
      Option.isSome_some, Bool.or_true]

/-- What follows where a declaration is new runs in worlds with fewer unregistered ones. -/
theorem reserve_bind_widened (widens : Widens extra p p') (kept : Kept extra p p' d d')
    {c c' : Compile Unit}
    (fresh : ∀ fewer, fewer < left → Mimics disk True (World.Deeper p fewer) (fun _ _ => True) c c') :
    Mimics disk True (World.Deeper p left) (fun _ _ => True) (do if ← reserve d then c)
      (do if ← reserve d' then c') := by
  have location : some d.location = some d'.location := congrArg some kept.location
  have runs : ∀ {u u'}, World.Deeper p left u u' →
      (∃ error, (reserve d).runOn disk u = (.error error, u) ∧
        (reserve d').runOn disk u' = (.error error, u')) ∨
      ((reserve d).runOn disk u = (.ok false, u) ∧ (reserve d').runOn disk u' = (.ok false, u')) ∨
      ∃ v v' fewer, (reserve d).runOn disk u = (.ok true, v) ∧
        (reserve d').runOn disk u' = (.ok true, v') ∧ fewer < left ∧ World.Deeper p fewer v v' := by
    intro u u' deeper
    rw [reserve_run, reserve_run, ← typeIdOf_widened widens kept, ← kept.name, ← location,
      ← deeper.session]
    rcases reserved : u.session.reserve (typeIdOf d) d.name (some d.location) with error | _ | t
    · exact .inl ⟨_, rfl, rfl⟩
    · exact .inr (.inl ⟨rfl, rfl⟩)
    · have lower := unregistered_reserve kept reserved
      exact .inr (.inr ⟨_, _, p.unregistered t, rfl, rfl, lower.trans_le deeper.unregistered,
        rfl, deeper.room, deeper.declared, Nat.le_refl _⟩)
  constructor
  · intro u u' deeper a w run
    rw [Compile.runOn_bind] at run ⊢
    rcases runs deeper with ⟨error, here, there⟩ | ⟨here, there⟩ | ⟨v, v', fewer, here, there, less, deeper'⟩
    · rw [here] at run
      cases run
    · rw [here] at run
      rw [there]
      cases run
      exact ⟨_, _, rfl, trivial, deeper⟩
    · rw [here] at run
      rw [there]
      obtain ⟨b, w', ends, -, last⟩ := (fresh fewer less).ok deeper' run
      exact ⟨b, w', ends, trivial, last.mono (Nat.le_of_lt less)⟩
  · intro u u' deeper counts failure w run
    rw [Compile.runOn_bind] at run ⊢
    rcases runs deeper with ⟨error, here, there⟩ | ⟨here, there⟩ | ⟨v, v', fewer, here, there, less, deeper'⟩
    · rw [here] at run
      rw [there]
      cases run
      exact ⟨_, rfl⟩
    · rw [here] at run
      cases run
    · rw [here] at run
      rw [there]
      exact (fresh fewer less).failed deeper' counts run

/-! ### Fields and objects -/

/-- Lists are paired with themselves, and what holds of their entries is kept. -/
theorem each_same {α : Type} {holds : α → Prop} {xs : List α} (all : ∀ x ∈ xs, holds x) :
    List.Forall₂ (fun x y => x = y ∧ holds x) xs xs :=
  List.forall₂_same.mpr fun x member => ⟨rfl, all x member⟩

section

variable (widens : Widens extra p p')

include widens

section

variable {extract extract' : DeclaredType → Compile Unit}
  (extracts : ∀ d d', Kept extra p p' d d' →
    Mimics disk True (World.Deeper p left) (fun _ _ => True) (extract d) (extract' d'))

include extracts

theorem field_widened (alike : ContextsAlike True p p' ctx ctx') {f : FieldDecl TypeExpr}
    (avoids : Avoids extra f.type) :
    Mimics disk True (World.Deeper p left) Eq (field extract ctx f) (field extract' ctx' f) := by
  have located := alike.inFile (fun _ => (rfl : f.pos = f.pos)) trivial
  have path := widens.contextPath alike
  unfold field
  dsimp only
  rw [← located]
  refine .bind (.ensure rfl fun _ => by rw [path]) fun _ _ _ => ?_
  refine .bind (parseTag_widened _ _ path) fun tags _ same => ?_
  subst same
  refine .bind (readDoc_widened ..) fun m _ same => ?_
  subst same
  refine .bind (fieldType_widened widens extracts alike avoids _) fun type _ same => ?_
  subst same
  exact .pure rfl

theorem fillObject_widened (kept : Kept extra p p' d d') :
    Mimics disk True (World.Deeper p left) (fun _ _ => True) (fillObject extract d)
      (fillObject extract' d') := by
  unfold fillObject
  dsimp only
  rw [← typeIdOf_widened widens kept, ← kept.spec, ← widens.packagePath kept, ← kept.name, ← kept.location]
  refine .bind (readDoc_widened ..) fun m _ same => ?_
  subst same
  refine .bind World.Deeper.rootPath fun root _ same => ?_
  subst same
  have updates : ∀ (s : Session) (id : String) (change : Object → Object) (other : String),
      (s.object? other).isSome → ((s.updateObject id change).object? other).isSome := by
    intro s id change other known
    rw [Session.updateObject_object?, Option.isSome_map]
    exact known
  refine .bind (World.Deeper.modifySession fun s id known => updates s _ _ id known) fun _ _ _ => ?_
  refine .bind (World.Deeper.note ..) fun _ _ _ => ?_
  refine .bind (structOf_widened widens kept) fun _ _ behind => ?_
  cases behind with
  | none => exact .fail fun _ => rfl
  | some same =>
    obtain ⟨avoids, origins⟩ := same
    refine .forM (each_same avoids) fun f _ same => ?_
    obtain ⟨rfl, avoids⟩ := same
    refine .bind (field_widened widens extracts origins.context avoids) fun made _ same => ?_
    subst same
    exact World.Deeper.modifySession fun s id known => updates s _ _ id known

end

theorem objectWithin_widened {fuel m : Nat} (enough : left < fuel) (le : fuel ≤ m)
    (kept : Kept extra p p' d d') :
    Mimics disk True (World.Deeper p left) (fun _ _ => True) (objectWithin fuel d)
      (objectWithin m d') := by
  induction fuel generalizing left m d d' with
  | zero => exact absurd enough (Nat.not_lt_zero left)
  | succ fuel ih =>
    obtain ⟨m, rfl⟩ : ∃ k, m = k + 1 := ⟨m - 1, by omega⟩
    exact reserve_bind_widened widens kept fun fewer less =>
      fillObject_widened widens (fun _ _ kept => ih (by omega) (by omega) kept) kept

theorem object_widened (few : left ≤ p.scope.length) (kept : Kept extra p p' d d') :
    Mimics disk True (World.Deeper p left) (fun _ _ => True) (object d) (object d') :=
  .bind World.Deeper.depth fun _ _ deep => objectWithin_widened widens (by omega) deep.2 kept

/-! ### Methods -/

structure CollectedKept (extra : String) (p p' : Package) (c c' : Collected) : Prop where
  method : c.method = c'.method
  avoids : ∀ param ∈ c.method.signature.params ++ c.method.signature.results, Avoids extra param.type
  context : ContextsAlike True p p' c.context c'.context

structure EmbeddedKept (extra : String) (p p' : Package) (e e' : Embedded) : Prop where
  target : Kept extra p p' e.target e'.target
  methods : e.methods = e'.methods
  embeds : e.embeds = e'.embeds
  params : ∀ m ∈ e.methods, ∀ param ∈ m.signature.params ++ m.signature.results,
    Avoids extra param.type
  names : ∀ name ∈ e.embeds, name.qualifier = none → name.name ≠ extra
  context : ContextsAlike True p p' e.context e'.context

theorem embedded_widened (visiting : List (String × String)) {embed : TypeName}
    (other : embed.qualifier = none → embed.name ≠ extra) (alike : ContextsAlike True p p' ctx ctx') :
    Mimics disk True (World.Deeper p left)
      (fun e e' => EmbeddedKept extra p p' e e' ∧ ¬ visiting.contains e.target.key = true)
      (embedded visiting embed ctx) (embedded visiting embed ctx') := by
  have located := alike.inFile (fun _ => (rfl : embed.pos = embed.pos)) trivial
  have path := widens.contextPath alike
  unfold embedded
  dsimp only
  rw [← located, ← path]
  refine .bind (lookupDeclared_widened widens alike other) fun _ _ found => ?_
  cases found with
  | none => exact .fail fun _ => rfl
  | @some target _ kept =>
    dsimp only
    rw [← widens.key kept, ← kept.name]
    refine .bind (.ensured rfl fun _ => rfl) fun _ _ fresh => ?_
    have fresh : ¬ visiting.contains target.key = true := by simpa using fresh
    refine .bind (underlying_widened widens kept) fun _ _ behind => ?_
    cases behind with
    | nothing _ => exact .fail fun _ => rfl
    | @expr expr _ _ avoids origins =>
      cases expr with
      | interface pos methods embeds =>
        exact .pure ⟨⟨kept, rfl, rfl, avoids.param, avoids.embed, origins.context⟩, fresh⟩
      | _ => exact .fail fun _ => rfl

theorem methodsWithin_widened {fuel m : Nat} {visiting : List (String × String)}
    {methods : List (MethodDecl TypeExpr)} {embeds : List TypeName}
    (levels : Levels p visiting fuel) (le : fuel ≤ m) (alike : ContextsAlike True p p' ctx ctx')
    (params : ∀ m ∈ methods, ∀ param ∈ m.signature.params ++ m.signature.results,
      Avoids extra param.type)
    (names : ∀ name ∈ embeds, name.qualifier = none → name.name ≠ extra) :
    Mimics disk True (World.Deeper p left) (List.Forall₂ (CollectedKept extra p p'))
      (methodsWithin fuel visiting methods embeds ctx) (methodsWithin m visiting methods embeds ctx') := by
  induction fuel generalizing visiting methods embeds ctx ctx' m with
  | zero => exact absurd rfl levels.fuel_ne_zero
  | succ fuel ih =>
    obtain ⟨m, rfl⟩ : ∃ k, m = k + 1 := ⟨m - 1, by omega⟩
    have named : ∀ {c c'}, CollectedKept extra p p' c c' → c.method.name = c'.method.name :=
      fun same => congrArg MethodDecl.name same.method
    have start : List.Forall₂ (CollectedKept extra p p') (methods.map (⟨·, ctx⟩))
        (methods.map (⟨·, ctx'⟩)) := by
      rw [List.forall₂_map_left_iff, List.forall₂_map_right_iff, List.forall₂_same]
      exact fun m member => ⟨rfl, params m member, alike⟩
    refine .bind (.foldlM (each_same names) (addNew_forall₂ named .nil start)
      fun all all' embed _ before same => ?_) fun all all' gathered => .pure ?_
    · obtain ⟨rfl, other⟩ := same
      refine .bind (embedded_widened widens visiting other alike) fun e e' inside => ?_
      obtain ⟨inside, fresh⟩ := inside
      rw [← widens.key inside.target, ← inside.methods, ← inside.embeds]
      refine .bind (ih (levels.through inside.target fresh) (by omega) inside.context inside.params
        inside.names) fun _ _ more => .pure (addNew_forall₂ named before more)
    · refine sortBy_forall₂ (fun c c' same d d' same' => ?_) gathered
      rw [named same, named same']

theorem collectMethods_widened {methods : List (MethodDecl TypeExpr)} {embeds : List TypeName}
    (alike : ContextsAlike True p p' ctx ctx')
    (params : ∀ m ∈ methods, ∀ param ∈ m.signature.params ++ m.signature.results,
      Avoids extra param.type)
    (names : ∀ name ∈ embeds, name.qualifier = none → name.name ≠ extra) :
    Mimics disk True (World.Deeper p left) (List.Forall₂ (CollectedKept extra p p'))
      (collectMethods methods embeds ctx) (collectMethods methods embeds ctx') :=
  .bind World.Deeper.depth fun _ _ deep =>
    methodsWithin_widened widens (.start (by omega)) deep.2 alike params names

/-! ### Services -/

theorem paramType_widened (few : left ≤ p.scope.length) (alike : ContextsAlike True p p' ctx ctx')
    {param : Param TypeExpr} (avoids : Avoids extra param.type) :
    Mimics disk True (World.Deeper p left) Eq (paramType object param ctx)
      (paramType object param ctx') := by
  have located := alike.inFile (fun _ => (rfl : param.pos = param.pos)) trivial
  unfold paramType
  rw [← located]
  refine fieldType_widened widens (fun _ _ => object_widened widens few) alike ?_ _
  unfold typeOf
  split
  · exact avoids
  · exact avoids

theorem method_widened (few : left ≤ p.scope.length) (service : String) {c c' : Collected}
    (kept : CollectedKept extra p p' c c') :
    Mimics disk True (World.Deeper p left) Eq (method service c) (method service c') := by
  obtain ⟨m, ctx⟩ := c
  obtain ⟨_, ctx'⟩ := c'
  obtain ⟨rfl, avoids, alike⟩ := kept
  have located := alike.inFile (fun _ => (rfl : m.pos = m.pos)) trivial
  have path := widens.contextPath alike
  unfold method
  dsimp only at avoids located ⊢
  rw [← located, ← path]
  split
  · rename_i param result params results
    rw [params, results] at avoids
    refine .bind (readDoc_widened ..) fun doc _ same => ?_
    subst same
    refine .bind (paramType_widened widens few alike (avoids param (by simp))) fun input _ same => ?_
    subst same
    refine .bind (paramType_widened widens few alike (avoids result (by simp))) fun output _ same => ?_
    subst same
    have recorded : Mimics disk True (World.Deeper p left) (fun _ _ => True) (recordOutput service output)
        (recordOutput service output) := by
      unfold recordOutput
      split
      · exact World.Deeper.modifySession fun _ _ => id
      · exact .pure trivial
    exact .bind recorded fun _ _ _ => .bind (World.Deeper.note ..) fun _ _ _ => .pure rfl
  · exact .fail fun _ => rfl

theorem service_widened (few : left ≤ p.scope.length) (kept : Kept extra p p' d d')
    {methods : List (MethodDecl TypeExpr)} {embeds : List TypeName}
    (alike : ContextsAlike True p p' ctx ctx')
    (params : ∀ m ∈ methods, ∀ param ∈ m.signature.params ++ m.signature.results,
      Avoids extra param.type)
    (names : ∀ name ∈ embeds, name.qualifier = none → name.name ≠ extra) :
    Mimics disk True (World.Deeper p left) Eq (service d methods embeds ctx)
      (service d' methods embeds ctx') := by
  unfold service
  rw [← kept.spec, ← kept.name, ← kept.location]
  refine .bind (readDoc_widened ..) fun doc _ same => ?_
  subst same
  refine .bind (World.Deeper.note ..) fun _ _ _ => ?_
  refine .bind (collectMethods_widened widens alike params names) fun _ _ collected => ?_
  refine .bind (.mapM collected fun c c' kept => method_widened widens few d.name kept) fun made made' same => ?_
  rw [List.forall₂_eq_eq_eq] at same
  subst same
  exact .pure rfl

omit widens in
theorem addService_widened (made : Service) (excluded : Bool) :
    Mimics disk True (World.Deeper p left) (fun _ _ => True) (addService made excluded)
      (addService made excluded) := by
  have added : ∀ excluded, Mimics disk True (World.Deeper p left) (fun _ _ => True)
      (Compile.modifySession (·.addService made excluded))
      (Compile.modifySession (·.addService made excluded)) := fun excluded =>
    World.Deeper.modifySession fun s id known => by
      cases excluded <;> exact known
  unfold addService
  split
  · exact .bind (World.Deeper.note ..) fun _ _ _ => added true
  · exact added false

/-! ### Packages -/

theorem declaration_widened (few : left ≤ p.scope.length) (exclusions : List String)
    (kept : Kept extra p p' d d') :
    Mimics disk True (World.Deeper p left) (fun _ _ => True) (declaration exclusions d)
      (declaration exclusions d') := by
  unfold declaration
  rw [← kept.spec, ← kept.name]
  split
  · exact World.Deeper.note ..
  · refine .bind (underlying_widened widens kept) fun _ _ behind => ?_
    cases behind with
    | nothing _ => exact World.Deeper.note ..
    | @expr expr _ _ avoids origins =>
      cases expr with
      | interface pos methods embeds =>
        refine .bind (service_widened widens few kept origins.context avoids.param avoids.embed)
          fun made _ same => ?_
        subst same
        exact addService_widened made _
      | struct pos fields => exact object_widened widens few kept
      | _ => exact World.Deeper.note ..

end

end GoIdl.Extract
