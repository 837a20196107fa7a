import GoIdl.Compile.Extract
import GoIdl.Proofs.Package.Loading

/-!
# Resolving computations

A computation that only looks names up loads imports and does nothing else. Once all it needs has
been loaded it changes nothing, and it answers the same however much is loaded after that.
-/

namespace GoIdl

open Syntax (TypeExpr TypeName Param Signature FieldDecl MethodDecl SourceFile ImportSpec Location)

variable {α β : Type} {disk : Disk} {w w' : World} {l l' : Loader} {a b : α}

/-- Wherever `c` succeeds, `c'` does the same. -/
def Extends (c c' : Compile α) : Prop :=
  ∀ disk w a w', c.runOn disk w = (.ok a, w') → c'.runOn disk w = (.ok a, w')

/-- Computations that depend on the loader only and change it by imports only. -/
inductive Resolving : {α : Type} → Compile α → Prop where
  | pure {α : Type} (a : α) : Resolving (pure a)
  | throw {α : Type} (failure : Failure) : Resolving (throw failure : Compile α)
  | import (importer : Package) (path : String) (location : Location) :
      Resolving (Loading.loadImport importer path location)
  | bind {α β : Type} {c : Compile α} {f : α → Compile β} (first : Resolving c)
      (later : ∀ a, Resolving (f a)) : Resolving (c >>= f)
  /-- Recursion that more fuel does not change. -/
  | deep {α : Type} {f : Nat → Compile α} (each : ∀ n, Resolving (f n))
      (more : ∀ n m, n ≤ m → Extends (f n) (f m)) : Resolving (Compile.depth >>= f)

/-- Computations that look names up in what has been loaded or can be imported, without recursion
along declarations. -/
inductive Asking : {α : Type} → Compile α → Prop where
  | pure {α : Type} (a : α) : Asking (pure a)
  | fail {α : Type} (error : DefinitionError) : Asking (Compile.fail error : Compile α)
  | import (importer : Package) (path : String) (location : Location) :
      Asking (Loading.loadImport importer path location)
  | bind {α β : Type} {c : Compile α} {f : α → Compile β} (first : Asking c)
      (later : ∀ a, Asking (f a)) : Asking (c >>= f)

theorem Asking.resolving {c : Compile α} (asking : Asking c) : Resolving c := by
  induction asking with
  | pure a => exact .pure a
  | fail error => exact .throw _
  | «import» importer path location => exact .import importer path location
  | bind _ _ first later => exact .bind first later

theorem Asking.ensure (condition : Bool) (error : DefinitionError) :
    Asking (Compile.ensure condition error) := by
  unfold Compile.ensure
  split
  · exact .pure ()
  · exact .fail _

/-- `c` answers `a`, and loads nothing more, wherever all of `l` has been loaded. -/
def Yields (disk : Disk) (l : Loader) (c : Compile α) (a : α) : Prop :=
  ∀ u : World, l.Le u.loader → c.runOn disk u = (.ok a, u)

namespace Yields

variable {c : Compile α} {f : α → Compile β}

theorem mono (yields : Yields disk l c a) (le : l.Le l') : Yields disk l' c a :=
  fun u more => yields u (le.trans more)

theorem unique (first : Yields disk l c a) (second : Yields disk l c b) : a = b := by
  have one := first { loader := l } (.refl l)
  have two := second { loader := l } (.refl l)
  exact Except.ok.inj (Prod.mk.inj (one.symm.trans two)).1

theorem pure (a : α) : Yields disk l (pure a) a := fun _ _ => rfl

theorem bind {b : β} (first : Yields disk l c a) (later : Yields disk l (f a) b) :
    Yields disk l (c >>= f) b :=
  fun u more => Compile.bind_ok.mpr ⟨a, u, first u more, later u more⟩

end Yields

namespace Extends

variable {c c' : Compile α} {f f' : α → Compile β}

theorem refl (c : Compile α) : Extends c c := fun _ _ _ _ run => run

theorem throw (failure : Failure) (c : Compile α) : Extends (throw failure) c :=
  fun _ _ _ _ run => nomatch run

theorem bind (first : Extends c c') (later : ∀ a, Extends (f a) (f' a)) :
    Extends (c >>= f) (c' >>= f') := by
  intro disk w b w' run
  obtain ⟨a, v, run, rest⟩ := Compile.bind_ok.mp run
  exact Compile.bind_ok.mpr ⟨a, v, first disk w a v run, later a disk v b w' rest⟩

end Extends

namespace Resolving

variable {c : Compile α} {f : α → Compile β}

/-- A computation that resolves only loads, and is settled by what it has loaded. -/
theorem ok (resolving : Resolving c) (sound : w.loader.Sound) (run : c.runOn disk w = (.ok a, w')) :
    Grows w w' ∧ Yields disk w'.loader c a := by
  induction resolving generalizing w w' with
  | pure =>
    obtain ⟨rfl, rfl⟩ := Compile.pure_ok.mp run
    exact ⟨.refl sound, .pure _⟩
  | throw => cases run
  | «import» importer path location =>
    obtain ⟨grows, found⟩ := Loading.loadImport_ok sound run
    refine ⟨grows, fun u more => ?_⟩
    rw [Loading.loadImport, Compile.read_bind, Compile.loader_bind, more.byPath path a found]
    rfl
  | bind _ _ ihFirst ihLater =>
    obtain ⟨a, v, first, later⟩ := Compile.bind_ok.mp run
    obtain ⟨grows, settled⟩ := ihFirst sound first
    obtain ⟨grows', settled'⟩ := ihLater a grows.sound later
    exact ⟨grows.trans grows', (settled.mono grows'.le).bind settled'⟩
  | deep _ more ih =>
    rw [Compile.depth_bind] at run
    obtain ⟨grows, settled⟩ := ih _ sound run
    refine ⟨grows, fun u le => ?_⟩
    rw [Compile.depth_bind]
    have deeper := (grows.le.trans le).declared
    exact more _ _ (by omega) disk u _ u (settled u le)

theorem bind_yields {b : β} (first : Resolving c) (later : ∀ a, Resolving (f a)) (sound : l.Sound)
    (yields : Yields disk l (c >>= f) b) : ∃ a, Yields disk l c a ∧ Yields disk l (f a) b := by
  obtain ⟨a, v, here, rest⟩ := Compile.bind_ok.mp (yields { loader := l } (.refl l))
  obtain ⟨grows, settled⟩ := first.ok (w := { loader := l }) sound here
  obtain ⟨grows', settled'⟩ := (later a).ok grows.sound rest
  exact ⟨a, settled.mono grows'.le, settled'⟩

theorem ensure (condition : Bool) (error : DefinitionError) :
    Resolving (Compile.ensure condition error) := (Asking.ensure condition error).resolving

theorem foldlM {f : β → α → Compile β} (each : ∀ b a, Resolving (f b a)) (b : β) (xs : List α) :
    Resolving (xs.foldlM f b) := by
  induction xs generalizing b with
  | nil => exact .pure b
  | cons x rest ih => exact .bind (each b x) ih

end Resolving

theorem Extends.foldlM {f f' : β → α → Compile β} (each : ∀ b a, Extends (f b a) (f' b a)) (b : β)
    (xs : List α) : Extends (xs.foldlM f b) (xs.foldlM f' b) := by
  induction xs generalizing b with
  | nil => exact .refl _
  | cons x rest ih => exact .bind (each b x) ih

/-! ### Names -/

namespace Loading

open Asking

theorem importName_asks (importer : Package) (file : SourceFile) (spec : ImportSpec) :
    Asking (importName importer file spec) := by
  unfold importName
  split
  · exact .pure _
  · split
    · exact .bind (.import ..) fun _ => .pure _
    · exact .pure _

theorem exported_asks (target : Package) (name shown : String) (location : Location)
    (importer : Package) : Asking (exported target name shown location importer) := by
  refine .bind (.ensure ..) fun _ => ?_
  split
  · exact .pure _
  · exact .fail _

theorem resolveBy_asks (package : Package) (file : SourceFile) (qualifier name : String)
    (location : Location) (specs : List ImportSpec) :
    Asking (resolveBy package file qualifier name location specs) := by
  induction specs with
  | nil => exact .fail _
  | cons spec rest ih =>
    unfold resolveBy
    split
    · exact ih
    · refine .bind (importName_asks ..) fun _ => ?_
      split
      · exact ih
      · split
        · exact .bind (.import ..) fun _ => .bind (exported_asks ..) fun _ => .pure _
        · exact .pure _

theorem resolveDotted_asks (package : Package) (file : SourceFile) (name : String)
    (location : Location) (specs : List ImportSpec) :
    Asking (resolveDotted package file name location specs) := by
  induction specs with
  | nil => exact .pure _
  | cons spec rest ih =>
    unfold resolveDotted
    split
    · refine .bind (.import ..) fun _ => ?_
      split
      · exact .bind (exported_asks ..) fun _ => .pure _
      · exact ih
    · exact ih

theorem resolveName_asks (package : Package) (file : SourceFile) (name : String)
    (location : Location) : Asking (resolveName package file name location) := by
  unfold resolveName
  split
  · exact .pure _
  · refine .bind (resolveDotted_asks ..) fun _ => ?_
    split
    · exact .pure _
    · split
      · exact .pure _
      · exact .fail _

end Loading

namespace Resolve

theorem lookup_asks (name : TypeName) (ctx : Context) : Asking (lookup name ctx) := by
  unfold lookup
  dsimp only
  split
  · exact .bind (Loading.resolveBy_asks ..) fun _ => .pure _
  · exact .bind (Loading.resolveName_asks ..) fun _ => .pure _

theorem lookup_resolving (name : TypeName) (ctx : Context) : Resolving (lookup name ctx) :=
  (lookup_asks name ctx).resolving

theorem lookupDeclared_asks (name : TypeName) (ctx : Context) :
    Asking (lookupDeclared name ctx) := by
  refine .bind (lookup_asks ..) fun _ => ?_
  split <;> exact .pure _

theorem lookupDeclared_resolving (name : TypeName) (ctx : Context) :
    Resolving (lookupDeclared name ctx) := (lookupDeclared_asks name ctx).resolving

/-! ### Aliases and underlying types -/

theorem followAliases_resolving (fuel : Nat) (seen : List (String × String)) (expr : TypeExpr)
    (ctx : Context) : Resolving (followAliases fuel seen expr ctx) := by
  induction fuel generalizing seen expr ctx with
  | zero => exact .throw _
  | succ fuel ih =>
    unfold followAliases
    split
    · refine .bind (lookupDeclared_resolving ..) fun _ => ?_
      split
      · exact .pure _
      · split
        · exact .pure _
        · split
          · exact .throw _
          · exact ih ..
    · exact .pure _

theorem followAliases_extends {n m : Nat} (le : n ≤ m) (seen : List (String × String))
    (expr : TypeExpr) (ctx : Context) :
    Extends (followAliases n seen expr ctx) (followAliases m seen expr ctx) := by
  induction n generalizing m seen expr ctx with
  | zero => exact .throw _ _
  | succ n ih =>
    obtain ⟨m, rfl⟩ : ∃ k, m = k + 1 := ⟨m - 1, by omega⟩
    cases expr with
    | named name =>
      refine .bind (.refl _) fun found => ?_
      split
      · exact .refl _
      · split
        · exact .refl _
        · split
          · exact .refl _
          · exact ih (Nat.le_of_succ_le_succ le) _ _ _
    | _ => exact .refl _

theorem expandAliases_resolving (expr : TypeExpr) (ctx : Context) :
    Resolving (expandAliases expr ctx) :=
  .deep (fun fuel => followAliases_resolving fuel [] expr ctx)
    fun _ _ le => followAliases_extends le [] expr ctx

theorem followNames_resolving (fuel : Nat) (seen : List (String × String))
    (root current : DeclaredType) : Resolving (followNames fuel seen root current) := by
  induction fuel generalizing seen current with
  | zero => exact .throw _
  | succ fuel ih =>
    unfold followNames
    split
    · exact .throw _
    · split
      · refine .bind (lookupDeclared_resolving ..) fun _ => ?_
        split
        · exact .pure _
        · exact ih ..
      · exact .pure _

theorem followNames_extends {n m : Nat} (le : n ≤ m) (seen : List (String × String))
    (root current : DeclaredType) :
    Extends (followNames n seen root current) (followNames m seen root current) := by
  induction n generalizing m seen current with
  | zero => exact .throw _ _
  | succ n ih =>
    obtain ⟨m, rfl⟩ : ∃ k, m = k + 1 := ⟨m - 1, by omega⟩
    unfold followNames
    split
    · exact .refl _
    · split
      · refine .bind (.refl _) fun found => ?_
        split
        · exact .refl _
        · exact ih (Nat.le_of_succ_le_succ le) _ _
      · exact .refl _

theorem underlying_resolving (d : DeclaredType) : Resolving (underlying d) :=
  .deep (fun fuel => followNames_resolving fuel [] d d) fun _ _ le => followNames_extends le [] d d

theorem structOf_resolving (d : DeclaredType) : Resolving (structOf d) := by
  refine .bind (underlying_resolving d) fun _ => ?_
  split <;> exact .pure _

/-! ### Taking types apart -/

theorem sliceElem_resolving (expr : TypeExpr) (ctx : Context) :
    Resolving (sliceElem expr ctx) := by
  unfold sliceElem
  split
  · exact .bind (expandAliases_resolving ..) fun _ => .pure _
  · exact .pure _

theorem pointerElem_resolving (expr : TypeExpr) (ctx : Context) :
    Resolving (pointerElem expr ctx) := by
  unfold pointerElem
  split
  · exact .bind (expandAliases_resolving ..) fun _ => .pure _
  · exact .pure _

theorem peel_resolving (expr : TypeExpr) (ctx : Context) : Resolving (peel expr ctx) :=
  .bind (expandAliases_resolving ..) fun _ => .bind (sliceElem_resolving ..) fun _ =>
    .bind (pointerElem_resolving ..) fun _ => .pure _

theorem structNamed_resolving (expr : TypeExpr) (ctx : Context) :
    Resolving (structNamed expr ctx) := by
  unfold structNamed
  split
  · refine .bind (lookupDeclared_resolving ..) fun _ => ?_
    split
    · exact .bind (structOf_resolving _) fun _ => .pure _
    · exact .pure _
  · exact .pure _

theorem refuseStruct_resolving (p : Peeled) (location : Location) :
    Resolving (refuseStruct p location) := by
  unfold refuseStruct
  split
  · exact .throw _
  · exact .pure _

/-! ### Rendering -/

/-- Two ways to render aliases, the second of which succeeds where the first does. -/
structure Follows {α : Type} (c c' : Compile α) : Prop where
  left : Resolving c
  right : Resolving c'
  extending : Extends c c'

namespace Follows

variable {c c' : Compile α} {f f' : α → Compile β}

theorem refl (resolving : Resolving c) : Follows c c := ⟨resolving, resolving, .refl c⟩

theorem pure (a : α) : Follows (pure a) (pure a) := refl (.pure a)

theorem bind (first : Follows c c') (later : ∀ a, Follows (f a) (f' a)) :
    Follows (c >>= f) (c' >>= f') :=
  ⟨.bind first.left fun a => (later a).left, .bind first.right fun a => (later a).right,
    .bind first.extending fun a => (later a).extending⟩

end Follows

/-- What the names of an expression in `ctx` come to is put together, whatever aliases come to. -/
inductive Rendering (ctx : Context) :
    {α : Type} → ((DeclaredType → Compile Rendered) → Compile α) → Prop where
  | pure {α : Type} (a : α) : Rendering ctx fun _ => pure a
  | name (name : TypeName) : Rendering ctx fun ofAlias => renderName ofAlias ctx name
  | bind {α β : Type} {c : (DeclaredType → Compile Rendered) → Compile α}
      {f : α → (DeclaredType → Compile Rendered) → Compile β} (first : Rendering ctx c)
      (later : ∀ a, Rendering ctx (f a)) :
      Rendering ctx fun ofAlias => c ofAlias >>= fun a => f a ofAlias

mutual

def namesIn : TypeExpr → List TypeName
  | .named name => [name]
  | .pointer _ elem | .slice _ elem | .array _ _ elem | .chan _ elem => namesIn elem
  | .map _ key value => namesIn key ++ namesIn value
  | .func _ ⟨params, results⟩ => namesInParams params ++ namesInParams results
  | .struct _ fields => namesInFields fields
  | .interface _ methods embeds => namesInMethods methods ++ embeds

def namesInParams : List (Param TypeExpr) → List TypeName
  | [] => []
  | ⟨_, _, _, type⟩ :: rest => namesIn type ++ namesInParams rest

def namesInFields : List (FieldDecl TypeExpr) → List TypeName
  | [] => []
  | ⟨_, _, type, _, _, _⟩ :: rest => namesIn type ++ namesInFields rest

def namesInMethods : List (MethodDecl TypeExpr) → List TypeName
  | [] => []
  | ⟨_, _, ⟨params, results⟩, _⟩ :: rest =>
    namesInParams params ++ (namesInParams results ++ namesInMethods rest)

end

/-- `names` are rendered in `ctx` one after another, and nothing else is. -/
inductive Naming (ctx : Context) : List TypeName →
    {α : Type} → ((DeclaredType → Compile Rendered) → Compile α) → Prop where
  | pure {α : Type} (a : α) : Naming ctx [] fun _ => pure a
  | name (name : TypeName) : Naming ctx [name] fun ofAlias => renderName ofAlias ctx name
  | map {α β : Type} {names : List TypeName} {c : (DeclaredType → Compile Rendered) → Compile α}
      (naming : Naming ctx names c) (f : α → β) :
      Naming ctx names fun ofAlias => c ofAlias >>= fun a => pure (f a)
  | bind {α β : Type} {names more : List TypeName}
      {c : (DeclaredType → Compile Rendered) → Compile α}
      {f : α → (DeclaredType → Compile Rendered) → Compile β} (first : Naming ctx names c)
      (later : ∀ a, Naming ctx more (f a)) :
      Naming ctx (names ++ more) fun ofAlias => c ofAlias >>= fun a => f a ofAlias

theorem Naming.rendering {names : List TypeName} {ctx : Context}
    {c : (DeclaredType → Compile Rendered) → Compile α} (naming : Naming ctx names c) :
    Rendering ctx c := by
  induction naming with
  | pure a => exact .pure a
  | name name => exact .name name
  | map _ f ih => exact .bind ih fun _ => .pure _
  | bind _ _ first later => exact .bind first later

theorem renderNames_naming (ctx : Context) (names : List TypeName) :
    Naming ctx names fun ofAlias => renderNames ofAlias ctx names := by
  induction names with
  | nil => exact .pure _
  | cons name rest ih => exact .bind (.name name) fun _ => .map ih _

mutual

theorem renderWith_naming (ctx : Context) (expr : TypeExpr) :
    Naming ctx (namesIn expr) fun ofAlias => renderWith ofAlias ctx expr := by
  cases expr with
  | named name => exact .name name
  | pointer pos elem => exact .map (renderWith_naming ctx elem) _
  | slice pos elem => exact .map (renderWith_naming ctx elem) _
  | array pos length elem => exact .map (renderWith_naming ctx elem) _
  | map pos key value =>
    exact .bind (renderWith_naming ctx key) fun _ => .map (renderWith_naming ctx value) _
  | chan pos elem => exact .map (renderWith_naming ctx elem) _
  | func pos signature =>
    obtain ⟨params, results⟩ := signature
    exact .bind (renderParams_naming ctx params) fun _ => .map (renderResults_naming ctx results) _
  | struct pos fields => exact .map (renderFields_naming ctx fields) _
  | interface pos methods embeds =>
    exact .bind (renderMethods_naming ctx methods) fun _ => .map (renderNames_naming ctx embeds) _

theorem renderParams_naming (ctx : Context) (params : List (Param TypeExpr)) :
    Naming ctx (namesInParams params) fun ofAlias => renderParams ofAlias ctx params := by
  cases params with
  | nil => exact .pure _
  | cons param rest =>
    obtain ⟨pos, name, variadic, type⟩ := param
    exact .bind (renderWith_naming ctx type) fun _ => .map (renderParams_naming ctx rest) _

theorem renderResults_naming (ctx : Context) (results : List (Param TypeExpr)) :
    Naming ctx (namesInParams results) fun ofAlias => renderResults ofAlias ctx results := by
  cases results with
  | nil => exact .pure _
  | cons result rest =>
    obtain ⟨pos, name, variadic, type⟩ := result
    exact .bind (renderWith_naming ctx type) fun _ => .map (renderResults_naming ctx rest) _

theorem renderFields_naming (ctx : Context) (fields : List (FieldDecl TypeExpr)) :
    Naming ctx (namesInFields fields) fun ofAlias => renderFields ofAlias ctx fields := by
  cases fields with
  | nil => exact .pure _
  | cons field rest =>
    obtain ⟨pos, name, type, tag, embedded, doc⟩ := field
    exact .bind (renderWith_naming ctx type) fun _ => .map (renderFields_naming ctx rest) _

theorem renderMethods_naming (ctx : Context) (methods : List (MethodDecl TypeExpr)) :
    Naming ctx (namesInMethods methods) fun ofAlias => renderMethods ofAlias ctx methods := by
  cases methods with
  | nil => exact .pure _
  | cons method rest =>
    obtain ⟨pos, name, ⟨params, results⟩, doc⟩ := method
    exact .bind (renderParams_naming ctx params) fun _ =>
      .bind (renderResults_naming ctx results) fun _ => .map (renderMethods_naming ctx rest) _

end

theorem renderWith_rendering (ctx : Context) (expr : TypeExpr) :
    Rendering ctx fun ofAlias => renderWith ofAlias ctx expr := (renderWith_naming ctx expr).rendering

namespace Rendering

variable {ctx : Context} {c : (DeclaredType → Compile Rendered) → Compile α}
  {ofAlias ofAlias' : DeclaredType → Compile Rendered}

theorem follows (rendering : Rendering ctx c) (aliases : ∀ d, Follows (ofAlias d) (ofAlias' d)) :
    Follows (c ofAlias) (c ofAlias') := by
  induction rendering with
  | pure a => exact .pure a
  | name name =>
    refine .bind (.refl (lookup_resolving ..)) fun found => ?_
    split
    · exact .pure _
    · exact .pure _
    · split
      · exact aliases _
      · exact .pure _
  | bind _ _ first later => exact .bind first later

theorem resolving (rendering : Rendering ctx c) (aliases : ∀ d, Resolving (ofAlias d)) :
    Resolving (c ofAlias) := (rendering.follows fun d => .refl (aliases d)).left

end Rendering

theorem renderInside_resolving (fuel : Nat) (seen : List (String × String)) (ctx : Context)
    (expr : TypeExpr) : Resolving (renderInside fuel seen ctx expr) := by
  induction fuel generalizing seen ctx expr with
  | zero => exact .throw _
  | succ fuel ih =>
    have aliases : ∀ d : DeclaredType, Resolving (if seen.contains d.key then aliasCycle d
        else renderInside fuel (d.key :: seen) d.context d.spec.type) := by
      intro d
      split
      · exact .throw _
      · exact ih _ _ _
    exact (renderWith_rendering ctx expr).resolving aliases

theorem renderInside_extends {n m : Nat} (le : n ≤ m) (seen : List (String × String))
    (ctx : Context) (expr : TypeExpr) :
    Extends (renderInside n seen ctx expr) (renderInside m seen ctx expr) := by
  induction n generalizing m seen ctx expr with
  | zero => exact .throw _ _
  | succ n ih =>
    obtain ⟨m, rfl⟩ : ∃ k, m = k + 1 := ⟨m - 1, by omega⟩
    refine ((renderWith_rendering ctx expr).follows fun d => ?_).extending
    split
    · exact .refl (.throw _)
    · exact ⟨renderInside_resolving .., renderInside_resolving ..,
        ih (Nat.le_of_succ_le_succ le) _ _ _⟩

theorem render_resolving (expr : TypeExpr) (ctx : Context) : Resolving (render expr ctx) :=
  .deep (fun fuel => renderInside_resolving fuel [] ctx expr)
    fun _ _ le => renderInside_extends le [] ctx expr

end Resolve

/-! ### Methods -/

namespace Extract

theorem embedded_resolving (visiting : List (String × String)) (embed : TypeName)
    (ctx : Context) : Resolving (embedded visiting embed ctx) := by
  refine .bind (Resolve.lookupDeclared_resolving ..) fun _ => ?_
  split
  · exact .throw _
  · refine .bind (.ensure ..) fun _ => .bind (Resolve.underlying_resolving _) fun _ => ?_
    split
    · exact .pure _
    · exact .throw _

theorem methodsWithin_resolving (fuel : Nat) (visiting : List (String × String))
    (methods : List (MethodDecl TypeExpr)) (embeds : List TypeName) (ctx : Context) :
    Resolving (methodsWithin fuel visiting methods embeds ctx) := by
  induction fuel generalizing visiting methods embeds ctx with
  | zero => exact .throw _
  | succ fuel ih =>
    exact .bind (.foldlM (fun _ _ => .bind (embedded_resolving ..) fun _ =>
      .bind (ih ..) fun _ => .pure _) _ _) fun _ => .pure _

theorem methodsWithin_extends {n m : Nat} (le : n ≤ m) (visiting : List (String × String))
    (methods : List (MethodDecl TypeExpr)) (embeds : List TypeName) (ctx : Context) :
    Extends (methodsWithin n visiting methods embeds ctx)
      (methodsWithin m visiting methods embeds ctx) := by
  induction n generalizing m visiting methods embeds ctx with
  | zero => exact .throw _ _
  | succ n ih =>
    obtain ⟨m, rfl⟩ : ∃ k, m = k + 1 := ⟨m - 1, by omega⟩
    exact .bind (.foldlM (fun _ _ => .bind (.refl _) fun _ =>
      .bind (ih (Nat.le_of_succ_le_succ le) _ _ _ _) fun _ => .refl _) _ _) fun _ => .refl _

theorem collectMethods_resolving (methods : List (MethodDecl TypeExpr)) (embeds : List TypeName)
    (ctx : Context) : Resolving (collectMethods methods embeds ctx) :=
  .deep (fun fuel => methodsWithin_resolving fuel [] methods embeds ctx)
    fun _ _ le => methodsWithin_extends le [] methods embeds ctx

end Extract

end GoIdl
