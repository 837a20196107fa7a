import GoIdl.Proofs.Compile.Extraction
import GoIdl.Proofs.Text.Bounds

/-!
# Extraction without imports

A package that belongs to no module resolves every name by itself: nothing is loaded for it, and no
file is opened. What ends its extraction is then an error in the definitions, or a tag or doc of a
declaration of the package whose value is out of bounds.
-/

namespace GoIdl

open Syntax (TypeExpr TypeName Param Signature FieldDecl MethodDecl SourceFile ImportSpec TypeSpec
  Location EscapeFault)

/-! ### What a declaration is read for -/

def Syntax.TypeSpec.docs (spec : TypeSpec) : List String :=
  spec.doc :: match spec.type with
    | .struct _ fields => fields.map (·.doc)
    | .interface _ methods _ => methods.map (·.doc)
    | _ => []

def Syntax.TypeSpec.tags (spec : TypeSpec) : List String :=
  match spec.type with
  | .struct _ fields => fields.map fun f => f.tag.getD ""
  | _ => []

/-- A declaration in the scope of this package. -/
def DeclaredType.Of (p : Package) (d : DeclaredType) : Prop := ∃ name, p.lookup name = some d

theorem DeclaredType.Of.package {p : Package} {d : DeclaredType} (of : d.Of p) :
    d.package = p := by
  obtain ⟨_, found⟩ := of
  exact Package.lookup_package found

/-- What may end the extraction of a package without a module. -/
inductive Package.EndedBy (p : Package) : Failure → Prop
  | definition (error : DefinitionError) : p.EndedBy (.definition error)
  | tag {d : DeclaredType} {tag : String} {fault : EscapeFault} (declared : d.Of p)
      (tagged : tag ∈ d.spec.tags) (refused : Tag.split? tag = .error (.escape fault)) :
      p.EndedBy (.escape fault)
  | doc {d : DeclaredType} {doc : String} {location : Location} {m : Metadata} {failure : Failure}
      (declared : d.Of p) (documented : doc ∈ d.spec.docs)
      (refused : Metadata.upToFailure doc (some location) = (m, some failure)) : p.EndedBy failure
  | tooDeep : p.EndedBy .tooDeep

variable {α β : Type} {p : Package} {ctx : Context} {d : DeclaredType} {expr : TypeExpr}

/-- Whatever the state is, `c` answers only what `holds`, and ends otherwise only as the extraction
of `p` may. -/
structure Unaided (p : Package) (c : Compile α) (holds : α → Prop) : Prop where
  ok : ∀ disk u a v, c.runOn disk u = (.ok a, v) → holds a
  failed : ∀ disk u failure v, c.runOn disk u = (.error failure, v) → p.EndedBy failure

namespace Unaided

variable {c : Compile α} {f : α → Compile β} {holds : α → Prop} {holds' : β → Prop}

theorem pure {a : α} (here : holds a) : Unaided p (pure a : Compile α) holds where
  ok := fun _ _ _ _ run => by cases run; exact here
  failed := fun _ _ _ _ run => nomatch run

theorem throw {failure : Failure} (ended : p.EndedBy failure) :
    Unaided p (throw failure : Compile α) holds where
  ok := fun _ _ _ _ run => nomatch run
  failed := fun _ _ _ _ run => by cases run; exact ended

theorem fail (error : DefinitionError) : Unaided p (Compile.fail error : Compile α) holds :=
  throw (.definition error)

theorem bind (first : Unaided p c holds) (later : ∀ a, holds a → Unaided p (f a) holds') :
    Unaided p (c >>= f) holds' where
  ok := fun disk u b w run => by
    obtain ⟨a, v, here, run⟩ := Compile.bind_ok.mp run
    exact (later a (first.ok disk u a v here)).ok disk v b w run
  failed := fun disk u failure w run => by
    rw [Compile.runOn_bind] at run
    rcases here : c.runOn disk u with ⟨_ | a, v⟩
    · rw [here] at run
      cases run
      exact first.failed disk u _ _ here
    · rw [here] at run
      exact (later a (first.ok disk u a v here)).failed disk v failure w run

/-- A step that always succeeds. -/
theorem always {answer : Disk → World → α} {change : World → World}
    (runs : ∀ disk u, c.runOn disk u = (.ok (answer disk u), change u)) :
    Unaided p c fun _ => True where
  ok := fun _ _ _ _ _ => trivial
  failed := fun disk u _ _ run => nomatch (runs disk u).symm.trans run

theorem ensure (condition : Bool) (error : DefinitionError) :
    Unaided p (Compile.ensure condition error) fun _ => True := by
  unfold Compile.ensure
  split
  · exact .pure trivial
  · exact .fail _

theorem note (level : LogLevel) (source : LogSource) (message : String) :
    Unaided p (Compile.note level source message) fun _ => True := always fun _ _ => rfl

theorem modifySession (change : Session → Session) :
    Unaided p (Compile.modifySession change) fun _ => True := always fun _ _ => rfl

theorem deep {f : Nat → Compile α} (each : ∀ n, Unaided p (f n) holds) :
    Unaided p (Compile.depth >>= f) holds :=
  (always fun _ _ => Compile.runOn_depth).bind fun n _ => each n

theorem forM {f : α → Compile Unit} {xs : List α}
    (each : ∀ x ∈ xs, Unaided p (f x) fun _ => True) : Unaided p (xs.forM f) fun _ => True := by
  induction xs with
  | nil => exact .pure trivial
  | cons x rest ih =>
    exact (each x List.mem_cons_self).bind fun _ _ =>
      ih fun y member => each y (List.mem_cons_of_mem _ member)

theorem mapM {f : α → Compile β} {xs : List α}
    (each : ∀ x ∈ xs, Unaided p (f x) fun _ => True) : Unaided p (xs.mapM f) fun _ => True := by
  induction xs with
  | nil =>
    rw [List.mapM_nil]
    exact .pure trivial
  | cons x rest ih =>
    rw [List.mapM_cons]
    exact (each x List.mem_cons_self).bind fun _ _ =>
      (ih fun y member => each y (List.mem_cons_of_mem _ member)).bind fun _ _ => .pure trivial

theorem foldlM {f : β → α → Compile β} {b : β} (holds' : β → Prop) (xs : List α) (start : holds' b)
    (each : ∀ b x, holds' b → Unaided p (f b x) holds') : Unaided p (xs.foldlM f b) holds' := by
  induction xs generalizing b with
  | nil => exact .pure start
  | cons x rest ih => exact (each b x start).bind fun _ next => ih next

end Unaided

/-! ### Names -/

section

variable (alone : p.module = none)

include alone

theorem Package.importsFromModule_of_alone (path : String) : p.importsFromModule path = false := by
  simp [importsFromModule, alone]

namespace Loading

theorem importName_unaided (file : SourceFile) (spec : ImportSpec) :
    Unaided p (importName p file spec) fun _ => True := by
  unfold importName
  rw [Package.importsFromModule_of_alone alone]
  split <;> exact .pure trivial

theorem resolveBy_unaided (file : SourceFile) (qualifier name : String) (location : Location)
    (specs : List ImportSpec) :
    Unaided p (resolveBy p file qualifier name location specs) fun r => ∃ t, r = .external t := by
  induction specs with
  | nil => exact .fail _
  | cons spec rest ih =>
    unfold resolveBy
    rw [Package.importsFromModule_of_alone alone]
    split
    · exact ih
    · refine (importName_unaided alone file spec).bind fun _ _ => ?_
      split
      · exact ih
      · exact .pure ⟨_, rfl⟩

theorem resolveDotted_unaided (file : SourceFile) (name : String) (location : Location)
    (specs : List ImportSpec) :
    Unaided p (resolveDotted p file name location specs) (· = none) := by
  induction specs with
  | nil => exact .pure rfl
  | cons spec rest ih =>
    unfold resolveDotted
    rw [if_neg (by simp [Package.importsFromModule_of_alone alone])]
    exact ih

theorem resolveName_unaided (file : SourceFile) (name : String) (location : Location) :
    Unaided p (resolveName p file name location) fun found => ∀ d, found = some d → d.Of p := by
  unfold resolveName
  split
  · rename_i found
    refine .pure ?_
    rintro _ ⟨⟩
    exact ⟨name, found⟩
  · refine (resolveDotted_unaided alone file name location _).bind fun found none => ?_
    subst none
    dsimp only
    split
    · exact .pure (by simp)
    · exact .fail _

end Loading

namespace Resolve

variable (inside : ctx.package = p)

include inside

theorem lookup_unaided (name : TypeName) :
    Unaided p (lookup name ctx) fun found => ∀ d, found = some (.declared d) → d.Of p := by
  subst inside
  unfold lookup
  dsimp only
  split
  · refine (Loading.resolveBy_unaided alone ..).bind fun _ external => .pure ?_
    obtain ⟨t, rfl⟩ := external
    simp
  · refine (Loading.resolveName_unaided alone ..).bind fun found of => .pure fun d same => ?_
    obtain ⟨e, here, same⟩ := Option.map_eq_some_iff.mp same
    cases same
    exact of d here

theorem lookupDeclared_unaided (name : TypeName) :
    Unaided p (lookupDeclared name ctx) fun found => ∀ d, found = some d → d.Of p := by
  refine (lookup_unaided alone inside name).bind fun found of => ?_
  split
  · refine .pure ?_
    rintro _ ⟨⟩
    exact of _ rfl
  · exact .pure (by simp)

/-! ### Aliases and underlying types -/

theorem followAliases_unaided (fuel : Nat) (seen : List (String × String)) (expr : TypeExpr) :
    Unaided p (followAliases fuel seen expr ctx) fun out => out.2.package = p := by
  induction fuel generalizing seen expr ctx with
  | zero => exact .throw .tooDeep
  | succ fuel ih =>
    unfold followAliases
    split
    · refine (lookupDeclared_unaided alone inside _).bind fun found of => ?_
      split
      · exact .pure inside
      · split
        · exact .pure inside
        · split
          · exact .fail _
          · exact ih (of _ rfl).package _ _
    · exact .pure inside

theorem expandAliases_unaided (expr : TypeExpr) :
    Unaided p (expandAliases expr ctx) fun out => out.2.package = p :=
  .deep fun fuel => followAliases_unaided alone inside fuel [] expr

omit inside

/-- The type expression that is found is written in the declaration that holds it. -/
def Underlies (p : Package) (found : Option TypeExpr × DeclaredType) : Prop :=
  found.2.Of p ∧ ∀ expr, found.1 = some expr → found.2.spec.type = expr

theorem followNames_unaided {current : DeclaredType} (of : current.Of p) (fuel : Nat)
    (seen : List (String × String)) (root : DeclaredType) :
    Unaided p (followNames fuel seen root current) (Underlies p) := by
  induction fuel generalizing seen current with
  | zero => exact .throw .tooDeep
  | succ fuel ih =>
    unfold followNames
    split
    · exact .fail _
    · split
      · refine (lookupDeclared_unaided alone of.package _).bind fun found next => ?_
        split
        · exact .pure ⟨of, by simp⟩
        · exact ih (next _ rfl) _
      · exact .pure ⟨of, fun _ same => Option.some.inj same⟩

theorem underlying_unaided (of : d.Of p) : Unaided p (underlying d) (Underlies p) :=
  .deep fun fuel => followNames_unaided alone of fuel [] d

theorem structOf_unaided (of : d.Of p) :
    Unaided p (structOf d) fun found => ∀ fields origin, found = some (fields, origin) →
      origin.Of p ∧ ∃ pos, origin.spec.type = .struct pos fields := by
  refine (underlying_unaided alone of).bind fun found underlies => ?_
  split
  · refine .pure ?_
    rintro _ _ ⟨⟩
    exact ⟨underlies.1, _, underlies.2 _ rfl⟩
  · exact .pure (by simp)

/-! ### Taking types apart -/

include inside

theorem sliceElem_unaided (expr : TypeExpr) :
    Unaided p (sliceElem expr ctx) fun out => out.2.2.package = p := by
  unfold sliceElem
  split
  · exact (expandAliases_unaided alone inside _).bind fun _ within => .pure within
  · exact .pure inside

theorem pointerElem_unaided (expr : TypeExpr) :
    Unaided p (pointerElem expr ctx) fun out => out.2.2.package = p := by
  unfold pointerElem
  split
  · exact (expandAliases_unaided alone inside _).bind fun _ within => .pure within
  · exact .pure inside

theorem peel_unaided (expr : TypeExpr) :
    Unaided p (peel expr ctx) fun peeled =>
      peeled.shownIn.package = p ∧ peeled.coreIn.package = p :=
  (expandAliases_unaided alone inside expr).bind fun _ within =>
    (sliceElem_unaided alone within _).bind fun _ shown =>
      (pointerElem_unaided alone shown _).bind fun _ core => .pure ⟨shown, core⟩

theorem structNamed_unaided (expr : TypeExpr) :
    Unaided p (structNamed expr ctx) fun found => ∀ d, found = some d → d.Of p := by
  unfold structNamed
  split
  · refine (lookupDeclared_unaided alone inside _).bind fun found of => ?_
    split
    · refine (structOf_unaided alone (of _ rfl)).bind fun fields _ => .pure ?_
      split
      · rintro _ ⟨⟩
        exact of _ rfl
      · simp
    · exact .pure (by simp)
  · exact .pure (by simp)

/-! ### Rendering -/

/-- What is rendered is unaided where its aliases are. -/
theorem Rendering.unaided {c : (DeclaredType → Compile Rendered) → Compile α}
    {ofAlias : DeclaredType → Compile Rendered} (rendering : Rendering ctx c)
    (aliases : ∀ d : DeclaredType, d.Of p → Unaided p (ofAlias d) fun _ => True) :
    Unaided p (c ofAlias) fun _ => True := by
  induction rendering with
  | pure a => exact .pure trivial
  | name name =>
    refine (lookup_unaided alone inside name).bind fun found of => ?_
    split
    · exact .pure trivial
    · exact .pure trivial
    · split
      · exact aliases _ (of _ rfl)
      · exact .pure trivial
  | bind _ _ first later => exact first.bind fun a _ => later a

theorem renderInside_unaided (fuel : Nat) (seen : List (String × String)) (expr : TypeExpr) :
    Unaided p (renderInside fuel seen ctx expr) fun _ => True := by
  induction fuel generalizing seen ctx expr with
  | zero => exact .throw .tooDeep
  | succ fuel ih =>
    refine Rendering.unaided alone inside (renderWith_rendering ctx expr) fun d of => ?_
    split
    · exact .fail _
    · exact ih of.package _ _

theorem render_unaided (expr : TypeExpr) : Unaided p (render expr ctx) fun _ => True :=
  .deep fun fuel => renderInside_unaided alone inside fuel [] expr

/-! ### Field types -/

theorem fieldType_unaided {extract : DeclaredType → Compile Unit}
    (extracts : ∀ d : DeclaredType, d.Of p → Unaided p (extract d) fun _ => True)
    (expr : TypeExpr) (location : Location) :
    Unaided p (fieldType extract expr ctx location) fun _ => True := by
  refine (peel_unaided alone inside expr).bind fun peeled places => ?_
  obtain ⟨shown, core⟩ := places
  have refused : Unaided p (refuseStruct peeled location) fun _ => True := by
    unfold refuseStruct
    split
    · exact .fail _
    · exact .pure trivial
  refine refused.bind fun _ _ =>
    (structNamed_unaided alone core peeled.core).bind fun target of => ?_
  have extracted : Unaided p (target.forM extract) fun _ => True := by
    cases target with
    | none => exact .pure trivial
    | some d => exact extracts d (of d rfl)
  exact extracted.bind fun _ _ => (render_unaided alone shown peeled.shown).bind fun _ _ =>
    (Unaided.always fun _ _ => Compile.runOn_rootPath).bind fun _ _ =>
      (Unaided.modifySession _).bind fun _ _ => .pure trivial

end Resolve

/-! ### Objects -/

namespace Extract

open Resolve

omit alone in
theorem readDoc_unaided {doc : String} (of : d.Of p) (documented : doc ∈ d.spec.docs)
    (location : Location) : Unaided p (readDoc doc location) fun _ => True := by
  obtain ⟨⟨m, failure⟩, whole⟩ : ∃ read, read = Metadata.upToFailure doc (some location) := ⟨_, rfl⟩
  have run := readDoc_run whole.symm
  refine ⟨fun _ _ _ _ _ => trivial, fun disk u _ _ run' => ?_⟩
  cases failure with
  | none => exact nomatch (run disk u).symm.trans run'
  | some failure =>
    cases (run disk u).symm.trans run'
    exact .doc of documented whole.symm

omit alone in
theorem parseTag_unaided {tag : String} (of : d.Of p) (tagged : tag ∈ d.spec.tags)
    (location : Location) (ctx : Context) :
    Unaided p (parseTag tag location ctx) fun _ => True := by
  unfold parseTag
  split
  · exact .pure trivial
  · exact .fail _
  · rename_i failure other read
    rcases Tag.parse_refused read with ⟨error, rfl⟩ | ⟨fault, rfl, refused⟩
    · exact absurd rfl (other error)
    · exact .throw (.tag of tagged refused)

section

variable {extract : DeclaredType → Compile Unit}
  (extracts : ∀ d : DeclaredType, d.Of p → Unaided p (extract d) fun _ => True)

include extracts

theorem field_unaided {origin : DeclaredType} {pos : Syntax.Position}
    {fields : List (FieldDecl TypeExpr)} {f : FieldDecl TypeExpr} (of : origin.Of p)
    (struct : origin.spec.type = .struct pos fields) (member : f ∈ fields) :
    Unaided p (field extract origin.context f) fun _ => True := by
  have tagged : f.tag.getD "" ∈ origin.spec.tags := by
    rw [TypeSpec.tags, struct]
    exact List.mem_map_of_mem member
  have documented : f.doc ∈ origin.spec.docs := by
    rw [TypeSpec.docs, struct]
    exact List.mem_cons_of_mem _ (List.mem_map_of_mem member)
  exact (Unaided.ensure ..).bind fun _ _ =>
    (parseTag_unaided of tagged ..).bind fun _ _ =>
      (readDoc_unaided of documented _).bind fun _ _ =>
        (fieldType_unaided alone of.package extracts ..).bind fun _ _ => .pure trivial

theorem fillObject_unaided (of : d.Of p) : Unaided p (fillObject extract d) fun _ => True := by
  refine (readDoc_unaided of List.mem_cons_self _).bind fun _ _ =>
    (Unaided.always fun _ _ => Compile.runOn_rootPath).bind fun _ _ =>
      (Unaided.modifySession _).bind fun _ _ => (Unaided.note ..).bind fun _ _ =>
        (structOf_unaided alone of).bind fun shape behind => ?_
  cases shape with
  | none => exact .fail _
  | some shape =>
    obtain ⟨fields, origin⟩ := shape
    obtain ⟨declared, pos, struct⟩ := behind fields origin rfl
    exact .forM fun f member => (field_unaided alone extracts declared struct member).bind
      fun _ _ => .modifySession _

end

omit alone in
theorem reserve_unaided (d : DeclaredType) : Unaided p (reserve d) fun _ => True := by
  refine ⟨fun _ _ _ _ _ => trivial, fun disk u _ _ run => ?_⟩
  rw [reserve_run] at run
  split at run
  · cases run
    exact .definition _
  · cases run
  · cases run

theorem objectWithin_unaided (of : d.Of p) (fuel : Nat) :
    Unaided p (objectWithin fuel d) fun _ => True := by
  induction fuel generalizing d with
  | zero => exact .throw .tooDeep
  | succ fuel ih =>
    refine (reserve_unaided d).bind fun fresh _ => ?_
    split
    · exact fillObject_unaided alone (fun _ => ih) of
    · exact .pure trivial

theorem object_unaided (of : d.Of p) : Unaided p (object d) fun _ => True :=
  .deep fun fuel => objectWithin_unaided alone of fuel

/-! ### Services -/

/-- A method that is written in an interface of this package. -/
structure Collected.WrittenIn (p : Package) (c : Collected) : Prop where
  package : c.context.package = p
  documented : ∃ d : DeclaredType, d.Of p ∧ c.method.doc ∈ d.spec.docs

omit alone in
theorem writtenIn_of_interface {pos : Syntax.Position} {methods : List (MethodDecl TypeExpr)}
    {embeds : List TypeName} (of : d.Of p) (interface : d.spec.type = .interface pos methods embeds) :
    ∀ m ∈ methods, Collected.WrittenIn p ⟨m, d.context⟩ := by
  intro m member
  refine ⟨of.package, d, of, ?_⟩
  rw [TypeSpec.docs, interface]
  exact List.mem_cons_of_mem _ (List.mem_map_of_mem member)

theorem embedded_unaided (visiting : List (String × String)) (embed : TypeName)
    (inside : ctx.package = p) :
    Unaided p (embedded visiting embed ctx) fun e => e.context.package = p ∧
      ∀ m ∈ e.methods, Collected.WrittenIn p ⟨m, e.context⟩ := by
  refine (lookupDeclared_unaided alone inside embed).bind fun found of => ?_
  split
  · exact .fail _
  · refine (Unaided.ensure ..).bind fun _ _ =>
      (underlying_unaided alone (of _ rfl)).bind fun found underlies => ?_
    split
    · exact .pure ⟨underlies.1.package, writtenIn_of_interface underlies.1 (underlies.2 _ rfl)⟩
    · exact .fail _

theorem methodsWithin_unaided (inside : ctx.package = p) (fuel : Nat)
    (visiting : List (String × String)) {methods : List (MethodDecl TypeExpr)}
    (written : ∀ m ∈ methods, Collected.WrittenIn p ⟨m, ctx⟩) (embeds : List TypeName) :
    Unaided p (methodsWithin fuel visiting methods embeds ctx) fun all =>
      ∀ c ∈ all, c.WrittenIn p := by
  induction fuel generalizing ctx visiting methods embeds with
  | zero => exact .throw .tooDeep
  | succ fuel ih =>
    have own : ∀ c ∈ addNew [] (methods.map (⟨·, ctx⟩)), c.WrittenIn p := by
      intro c member
      obtain ⟨m, listed, rfl⟩ := List.mem_map.mp ((mem_addNew member).resolve_left (by simp))
      exact written m listed
    refine (Unaided.foldlM (fun all => ∀ c ∈ all, c.WrittenIn p) embeds own fun all embed held => ?_).bind fun all held =>
      .pure fun c member => held c (mem_sortBy.mp member)
    refine (embedded_unaided alone visiting embed inside).bind fun e placed => ?_
    refine (ih placed.1 _ placed.2 _).bind fun more others => .pure fun c member => ?_
    exact (mem_addNew member).elim (held c) (others c)

theorem collectMethods_unaided (inside : ctx.package = p) {methods : List (MethodDecl TypeExpr)}
    (written : ∀ m ∈ methods, Collected.WrittenIn p ⟨m, ctx⟩) (embeds : List TypeName) :
    Unaided p (collectMethods methods embeds ctx) fun all => ∀ c ∈ all, c.WrittenIn p :=
  .deep fun fuel => methodsWithin_unaided alone inside fuel [] written embeds

theorem method_unaided {c : Collected} (written : c.WrittenIn p) (service : String) :
    Unaided p (method service c) fun _ => True := by
  obtain ⟨inside, e, of, documented⟩ := written
  have typed : ∀ param, Unaided p (paramType object param c.context) fun _ => True := fun _ =>
    fieldType_unaided alone inside (fun _ => object_unaided alone) _ _
  unfold method
  dsimp only
  split
  · refine (readDoc_unaided of documented _).bind fun _ _ => (typed _).bind fun _ _ =>
      (typed _).bind fun output _ => ?_
    have recorded : Unaided p (recordOutput service output) fun _ => True := by
      unfold recordOutput
      split
      · exact .modifySession _
      · exact .pure trivial
    exact recorded.bind fun _ _ => (Unaided.note ..).bind fun _ _ => .pure trivial
  · exact .fail _

theorem service_unaided (of : d.Of p) (inside : ctx.package = p)
    {methods : List (MethodDecl TypeExpr)}
    (written : ∀ m ∈ methods, Collected.WrittenIn p ⟨m, ctx⟩) (embeds : List TypeName) :
    Unaided p (service d methods embeds ctx) fun _ => True :=
  (readDoc_unaided of List.mem_cons_self _).bind fun _ _ => (Unaided.note ..).bind fun _ _ =>
    (collectMethods_unaided alone inside written embeds).bind fun _ held =>
      (Unaided.mapM fun c member => method_unaided alone (held c member) _).bind fun _ _ =>
        .pure trivial

omit alone in
theorem addService_unaided (made : Service) (excluded : Bool) :
    Unaided p (addService made excluded) fun _ => True := by
  unfold addService
  split
  · exact (Unaided.note ..).bind fun _ _ => .modifySession _
  · exact .modifySession _

/-! ### Packages -/

theorem declaration_unaided (of : d.Of p) (exclusions : List String) :
    Unaided p (declaration exclusions d) fun _ => True := by
  unfold declaration
  split
  · exact .note ..
  · refine (underlying_unaided alone of).bind fun found underlies => ?_
    obtain ⟨declared, written⟩ := underlies
    split
    · have methods := writtenIn_of_interface declared (written _ rfl)
      exact (service_unaided alone of declared.package methods _).bind fun _ _ =>
        addService_unaided _ _
    · exact object_unaided alone of
    · exact .note ..

theorem package_unaided (exclusions : List String) :
    Unaided p (package exclusions p) fun _ => True := by
  refine (Unaided.modifySession _).bind fun _ _ => .forM fun name _ => ?_
  cases found : p.lookup name with
  | none => exact .pure trivial
  | some d => exact declaration_unaided alone ⟨name, found⟩ exclusions

end Extract

end

end GoIdl
