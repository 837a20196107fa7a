import GoIdl.Proofs.Compile.Extraction
import GoIdl.Proofs.Compile.Twins

/-!
# Extraction from twin packages

What is extracted from a package is extracted from its twin as well: the sessions agree after every
step, so that both end with the same services and objects.
-/

namespace GoIdl

open Syntax (TypeExpr TypeName Param FieldDecl MethodDecl Location Matches SameShape MatchesEmbed
  MatchesParams MatchesFields MatchesMethods)

variable {disk : Disk} {least : Nat} {strict : Prop} {stands : TypeExpr → TypeExpr → Prop} {p p' : Package}
  {ctx ctx' : Context} {d d' : DeclaredType} {location location' : Location}

/-! ### Docs and tags -/

namespace Metadata

/-- What has been gathered here and there, the places of what was passed over left aside. -/
structure GatheredAlike (g g' : Gathered) : Prop where
  prose : g.prose = g'.prose
  values : g.values = g'.values

theorem addLine_alike {g g' : Gathered} (alike : GatheredAlike g g') (place place' : Option Location)
    (line : List Char) :
    (∃ failure, addLine place g line = .error failure ∧ addLine place' g' line = .error failure) ∨
      ∃ h h', addLine place g line = .ok h ∧ addLine place' g' line = .ok h' ∧
        GatheredAlike h h' := by
  obtain ⟨prose, values, notes⟩ := g
  obtain ⟨_, _, notes'⟩ := g'
  obtain ⟨rfl, rfl⟩ := alike
  unfold addLine decode
  dsimp only
  split
  · exact .inr ⟨_, _, rfl, rfl, rfl, rfl⟩
  · rename_i key value _
    cases Json.read (String.ofList (Text.trim value)) with
    | ok json =>
      simp only [bind, Except.bind]
      split
      · exact .inr ⟨_, _, rfl, rfl, rfl, rfl⟩
      · exact .inr ⟨_, _, rfl, rfl, rfl, rfl⟩
    | error fault =>
      cases fault with
      | tooManyDigits count => exact .inl ⟨_, rfl, rfl⟩
      | _ => exact .inr ⟨_, _, rfl, rfl, rfl, rfl⟩

theorem addLines_alike {g g' : Gathered} (alike : GatheredAlike g g') (place place' : Option Location)
    (lines : List (List Char)) :
    GatheredAlike (addLines place g lines).1 (addLines place' g' lines).1 ∧
      (addLines place g lines).2 = (addLines place' g' lines).2 := by
  induction lines generalizing g g' with
  | nil => exact ⟨alike, rfl⟩
  | cons line rest ih =>
    unfold addLines
    rcases addLine_alike alike place place' line with ⟨failure, here, there⟩ | ⟨h, h', here, there, next⟩
    · rw [here, there]
      exact ⟨alike, rfl⟩
    · rw [here, there]
      exact ih next

theorem upToFailure_alike (doc : String) (place place' : Option Location) :
    let read := upToFailure doc place
    let read' := upToFailure doc place'
    read.1.description = read'.1.description ∧ read.1.values = read'.1.values ∧
      read.2 = read'.2 := by
  obtain ⟨gathered, failure⟩ := addLines_alike ⟨rfl, rfl⟩ place place' (linesOf doc)
  exact ⟨congrArg (fun prose => String.ofList (Text.joinWith ['\n'] prose)) gathered.prose,
    gathered.values, failure⟩

end Metadata

namespace Extract

open Resolve

theorem readDoc_mimics (doc : String) (location location' : Location) :
    Mimics disk strict (World.Alike least) (fun m m' => m.description = m'.description ∧ m.values = m'.values)
      (readDoc doc location) (readDoc doc location') := by
  obtain ⟨description, values, same⟩ :=
    Metadata.upToFailure_alike doc (some location) (some location')
  obtain ⟨⟨m, failure⟩, read⟩ : ∃ outcome, Metadata.upToFailure doc (some location) = outcome :=
    ⟨_, rfl⟩
  obtain ⟨⟨m', failure'⟩, read'⟩ : ∃ outcome, Metadata.upToFailure doc (some location') = outcome :=
    ⟨_, rfl⟩
  rw [read, read'] at description values same
  dsimp only at description values same
  subst same
  constructor
  · intro u u' alike a v run
    rw [readDoc_run read] at run
    rw [readDoc_run read']
    cases failure with
    | some failure => cases run
    | none =>
      cases run
      exact ⟨m', _, rfl, ⟨description, values⟩, alike.session, alike.declared, alike.enough⟩
  · intro u u' alike _ fault v run
    rw [readDoc_run read] at run
    rw [readDoc_run read']
    cases failure with
    | none => cases run
    | some failure =>
      cases run
      exact ⟨_, rfl⟩

theorem parseTag_mimics (tag : String) (located : strict → location = location')
    (path : ctx.package.path = ctx'.package.path) :
    Mimics disk strict (World.Alike least) Eq (parseTag tag location ctx) (parseTag tag location' ctx') := by
  unfold parseTag Tag.parse Tag.split
  rcases Tag.split? tag with (fault | fault) | pairs
  · refine .fail fun counts => ?_
    rw [located counts, path]
  · exact .throw fun _ => rfl
  · exact .pure rfl

/-! ### Fields -/

structure FieldsAlike (strict : Prop) (stands : TypeExpr → TypeExpr → Prop)
    (f f' : FieldDecl TypeExpr) : Prop where
  name : f.name = f'.name
  tag : f.tag = f'.tag
  doc : f.doc = f'.doc
  pos : strict → f.pos = f'.pos
  type : Matches strict stands true f.type f'.type

theorem fieldsAlike {fields fields' : List (FieldDecl TypeExpr)}
    (matched : MatchesFields strict stands false fields fields') :
    List.Forall₂ (FieldsAlike strict stands) fields fields' := by
  induction fields generalizing fields' with
  | nil =>
    cases matched
    exact .nil
  | cons f rest ih =>
    cases matched with
    | cons _ name tag doc pos type rest =>
      exact .cons ⟨name.resolve_left (by simp), tag, doc, pos, type.within⟩ (ih rest)

section

variable (readable : Readable disk least strict stands p p')
  {extract extract' : DeclaredType → Compile Unit}
  (extracts : ∀ d d', TypesAlike strict stands p p' d d' →
    Mimics disk strict (World.Alike least) (fun _ _ => True) (extract d) (extract' d'))

include readable extracts

theorem field_mimics (alike : ContextsAlike strict p p' ctx ctx') {f f' : FieldDecl TypeExpr}
    (same : FieldsAlike strict stands f f') :
    Mimics disk strict (World.Alike least) Eq (field extract ctx f) (field extract' ctx' f') := by
  have located := alike.inFile same.pos
  have path := readable.contextPath alike
  unfold field
  dsimp only
  rw [← same.name, ← same.tag, ← same.doc]
  refine .bind (.ensure rfl fun counts => ?_) fun _ _ _ => ?_
  · rw [located counts, path]
  refine .bind (parseTag_mimics _ located path) fun tags _ agreed => ?_
  subst agreed
  refine .bind (readDoc_mimics ..) fun m m' read => ?_
  refine .bind (fieldType_mimics readable extracts same.type alike located) fun type _ agreed => ?_
  subst agreed
  refine .pure ?_
  rw [describeField, describeField, read.1, read.2, same.name, same.tag]

theorem fillObject_mimics (alike : TypesAlike strict stands p p' d d') :
    Mimics disk strict (World.Alike least) (fun _ _ => True) (fillObject extract d) (fillObject extract' d') := by
  have id : typeIdOf d = typeIdOf d' := by
    rw [typeIdOf, typeIdOf, readable.packagePath alike, alike.name]
  unfold fillObject
  dsimp only
  rw [← id, ← alike.spec.doc, ← readable.packagePath alike, ← alike.name]
  refine .bind (readDoc_mimics ..) fun m m' read => ?_
  refine .bind .rootPath fun root _ agreed => ?_
  subst agreed
  rw [read.1, read.2]
  refine .bind (.modifySession fun _ => rfl) fun _ _ _ => ?_
  refine .bind (.note ..) fun _ _ _ => ?_
  refine .bind (structOf_mimics readable.toTwins alike) fun shape shape' behind => ?_
  cases behind with
  | none =>
    refine .fail fun counts => ?_
    rw [alike.location counts]
  | some same =>
    refine .forM (fieldsAlike same.fields) fun f f' alike => ?_
    refine .bind (field_mimics readable extracts same.origin.context alike) fun made _ agreed => ?_
    subst agreed
    exact .modifySession fun _ => rfl

end

/-! ### Objects -/

theorem reserve_alike (s : Session) (id name : String) (place place' : Option Location) :
    (∃ error error', s.reserve id name place = .error error ∧
        s.reserve id name place' = .error error' ∧ (place = place' → error = error')) ∨
      ∃ entered, s.reserve id name place = .ok entered ∧ s.reserve id name place' = .ok entered := by
  unfold Session.reserve
  split
  · exact .inr ⟨_, rfl, rfl⟩
  · split
    · exact .inl ⟨_, _, rfl, rfl, fun same => by rw [same]⟩
    · exact .inr ⟨_, rfl, rfl⟩

theorem typeIdOf_alike (twins : Twins strict stands p p')
    (alike : TypesAlike strict stands p p' d d') : typeIdOf d = typeIdOf d' := by
  rw [typeIdOf, typeIdOf, twins.packagePath alike, alike.name]

theorem reserve_mimics (twins : Twins strict stands p p')
    (alike : TypesAlike strict stands p p' d d') :
    Mimics disk strict (World.Alike least) Eq (reserve d) (reserve d') := by
  have id := typeIdOf_alike twins alike
  constructor
  · intro u u' worlds a v run
    rw [reserve_run] at run ⊢
    rw [← worlds.session, ← id, ← alike.name]
    rcases reserve_alike u.session (typeIdOf d) d.name (some d.location) (some d'.location) with
      ⟨_, _, here, -⟩ | ⟨_ | t, here, there⟩
    · rw [here] at run
      cases run
    · rw [here] at run
      rw [there]
      cases run
      exact ⟨_, _, rfl, rfl, worlds⟩
    · rw [here] at run
      rw [there]
      cases run
      exact ⟨_, _, rfl, rfl, rfl, worlds.declared, worlds.enough⟩
  · intro u u' worlds counts failure v run
    rw [reserve_run] at run ⊢
    rw [← worlds.session, ← id, ← alike.name]
    rcases reserve_alike u.session (typeIdOf d) d.name (some d.location) (some d'.location) with
      ⟨_, _, here, there, same⟩ | ⟨_ | _, here, -⟩
    · rw [here] at run
      rw [there, ← same (congrArg some (alike.location counts))]
      cases run
      exact ⟨_, rfl⟩
    · rw [here] at run
      cases run
    · rw [here] at run
      cases run

theorem objectWithin_mimics (readable : Readable disk least strict stands p p') (fuel : Nat)
    (alike : TypesAlike strict stands p p' d d') :
    Mimics disk strict (World.Alike least) (fun _ _ => True) (objectWithin fuel d) (objectWithin fuel d') := by
  induction fuel generalizing d d' with
  | zero => exact .throw fun _ => rfl
  | succ fuel ih =>
    refine .bind (reserve_mimics readable.toTwins alike) fun fresh _ agreed => ?_
    subst agreed
    cases fresh with
    | false => exact .pure trivial
    | true => exact fillObject_mimics readable (fun _ _ alike => ih alike) alike

theorem object_mimics (readable : Readable disk least strict stands p p') :
    ∀ d d', TypesAlike strict stands p p' d d' →
      Mimics disk strict (World.Alike least) (fun _ _ => True) (object d) (object d') := by
  intro d d' alike
  refine .bind .depth fun fuel _ agreed => ?_
  subst agreed
  exact objectWithin_mimics readable fuel alike

/-! ### Methods -/

structure MethodsAlike (strict : Prop) (stands : TypeExpr → TypeExpr → Prop)
    (m m' : MethodDecl TypeExpr) : Prop where
  name : m.name = m'.name
  doc : m.doc = m'.doc
  pos : strict → m.pos = m'.pos
  params : MatchesParams strict stands true m.signature.params m'.signature.params
  results : MatchesParams strict stands true m.signature.results m'.signature.results

theorem methodsAlike {methods methods' : List (MethodDecl TypeExpr)}
    (matched : MatchesMethods strict stands false methods methods') :
    List.Forall₂ (MethodsAlike strict stands) methods methods' := by
  induction methods generalizing methods' with
  | nil =>
    cases matched
    exact .nil
  | cons m rest ih =>
    cases matched with
    | cons name doc pos params results rest =>
      exact .cons ⟨name, doc, pos, params, results⟩ (ih rest)

/-- Names that are embedded outside of everything are the same. -/
theorem embedsAlike {embeds embeds' : List TypeName}
    (matched : List.Forall₂ (MatchesEmbed strict stands false) embeds embeds') :
    List.Forall₂ (TypeName.Alike strict) embeds embeds' := by
  refine matched.imp fun _ _ embed => ?_
  cases embed with
  | stands here _ => cases here
  | alike same => exact same

structure CollectedAlike (strict : Prop) (stands : TypeExpr → TypeExpr → Prop) (p p' : Package)
    (c c' : Collected) : Prop where
  method : MethodsAlike strict stands c.method c'.method
  context : ContextsAlike strict p p' c.context c'.context

structure EmbeddedAlike (strict : Prop) (stands : TypeExpr → TypeExpr → Prop) (p p' : Package)
    (e e' : Embedded) : Prop where
  target : TypesAlike strict stands p p' e.target e'.target
  methods : MatchesMethods strict stands false e.methods e'.methods
  embeds : List.Forall₂ (MatchesEmbed strict stands false) e.embeds e'.embeds
  context : ContextsAlike strict p p' e.context e'.context

/-- Methods that are paired with methods of the same name are entered as these are. -/
theorem addNew_forall₂ {rel : Collected → Collected → Prop}
    (named : ∀ {c c'}, rel c c' → c.method.name = c'.method.name) {into into' more more' : List Collected}
    (start : List.Forall₂ rel into into') (added : List.Forall₂ rel more more') :
    List.Forall₂ rel (addNew into more) (addNew into' more') := by
  have taken : ∀ {all all' : List Collected} {c c' : Collected}, List.Forall₂ rel all all' → rel c c' →
      (all.any (·.method.name == c.method.name)) = all'.any (·.method.name == c'.method.name) := by
    intro all all' c c' paired same
    induction paired with
    | nil => rfl
    | cons here _ ih => rw [List.any_cons, List.any_cons, ih, named here, named same]
  unfold addNew
  induction added generalizing into into' with
  | nil => exact start
  | cons here _ ih =>
    refine ih ?_
    dsimp only
    rw [taken start here]
    split
    · exact start
    · exact List.rel_append start (.cons here .nil)

theorem addNew_alike {into into' more more' : List Collected}
    (start : List.Forall₂ (CollectedAlike strict stands p p') into into')
    (added : List.Forall₂ (CollectedAlike strict stands p p') more more') :
    List.Forall₂ (CollectedAlike strict stands p p') (addNew into more) (addNew into' more') :=
  addNew_forall₂ (fun same => same.method.name) start added

theorem embedded_mimics (twins : Twins strict stands p p') (visiting : List (String × String))
    {embed embed' : TypeName} (same : embed.Alike strict embed')
    (alike : ContextsAlike strict p p' ctx ctx') :
    Mimics disk strict (World.Alike least) (EmbeddedAlike strict stands p p') (embedded visiting embed ctx)
      (embedded visiting embed' ctx') := by
  have located := alike.inFile same.pos
  have path := twins.contextPath alike
  have text : embed.text = embed'.text := by
    rw [TypeName.text, TypeName.text, same.qualifier, same.name]
  unfold embedded
  dsimp only
  rw [← text]
  refine .bind (lookupDeclared_mimics twins alike same) fun _ _ found => ?_
  cases found with
  | none =>
    refine .fail fun counts => ?_
    rw [located counts, path]
  | some found =>
    dsimp only
    rw [← twins.key found, ← found.name]
    refine .bind (.ensure rfl fun counts => ?_) fun _ _ _ => ?_
    · rw [located counts, path]
    refine .bind (underlying_mimics twins found) fun behind behind' types => ?_
    obtain ⟨type, origin⟩ := behind
    obtain ⟨type', origin'⟩ := behind'
    obtain ⟨shapes, origins⟩ := types
    have refused : Mimics disk strict (World.Alike least) (EmbeddedAlike strict stands p p')
        (Compile.fail { cause := .embedNotInterface embed.text
                        location := some (embed.pos.inFile ctx.file.path)
                        package := some ctx.package.path })
        (Compile.fail { cause := .embedNotInterface embed.text
                        location := some (embed'.pos.inFile ctx'.file.path)
                        package := some ctx'.package.path }) := by
      refine .fail fun counts => ?_
      rw [located counts, path]
    cases shapes with
    | none => exact refused
    | some shape =>
      cases shape with
      | interface methods embeds => exact .pure ⟨found, methods, embeds, origins.context⟩
      | _ => exact refused

theorem methodsWithin_mimics (twins : Twins strict stands p p') (fuel : Nat)
    (visiting : List (String × String)) {methods methods' : List (MethodDecl TypeExpr)}
    {embeds embeds' : List TypeName} (alike : ContextsAlike strict p p' ctx ctx')
    (own : MatchesMethods strict stands false methods methods')
    (inner : List.Forall₂ (MatchesEmbed strict stands false) embeds embeds') :
    Mimics disk strict (World.Alike least) (List.Forall₂ (CollectedAlike strict stands p p'))
      (methodsWithin fuel visiting methods embeds ctx)
      (methodsWithin fuel visiting methods' embeds' ctx') := by
  induction fuel generalizing visiting methods methods' embeds embeds' ctx ctx' with
  | zero => exact .throw fun _ => rfl
  | succ fuel ih =>
    have start : List.Forall₂ (CollectedAlike strict stands p p')
        (methods.map (⟨·, ctx⟩)) (methods'.map (⟨·, ctx'⟩)) := by
      rw [List.forall₂_map_left_iff, List.forall₂_map_right_iff]
      exact (methodsAlike own).imp fun _ _ same => ⟨same, alike⟩
    refine .bind (.foldlM (embedsAlike inner) (addNew_alike .nil start)
      fun all all' embed embed' before same => ?_) fun all all' gathered => .pure ?_
    · refine .bind (embedded_mimics twins visiting same alike) fun e e' inside => ?_
      rw [← twins.key inside.target]
      exact .bind (ih _ inside.context inside.methods inside.embeds) fun _ _ more =>
        .pure (addNew_alike before more)
    · refine sortBy_forall₂ (fun c c' same d d' same' => ?_) gathered
      rw [same.method.name, same'.method.name]

theorem collectMethods_mimics (twins : Twins strict stands p p')
    {methods methods' : List (MethodDecl TypeExpr)} {embeds embeds' : List TypeName}
    (alike : ContextsAlike strict p p' ctx ctx')
    (own : MatchesMethods strict stands false methods methods')
    (inner : List.Forall₂ (MatchesEmbed strict stands false) embeds embeds') :
    Mimics disk strict (World.Alike least) (List.Forall₂ (CollectedAlike strict stands p p'))
      (collectMethods methods embeds ctx) (collectMethods methods' embeds' ctx') := by
  refine .bind .depth fun fuel _ agreed => ?_
  subst agreed
  exact methodsWithin_mimics twins fuel [] alike own inner

/-! ### Services -/

theorem paramType_mimics (readable : Readable disk least strict stands p p')
    (alike : ContextsAlike strict p p' ctx ctx') {param param' : Param TypeExpr}
    (variadic : param.variadic = param'.variadic) (pos : strict → param.pos = param'.pos)
    (type : Matches strict stands true param.type param'.type) :
    Mimics disk strict (World.Alike least) Eq (paramType object param ctx) (paramType object param' ctx') := by
  refine fieldType_mimics readable (object_mimics readable) ?_ alike (alike.inFile pos)
  unfold typeOf
  rw [← variadic]
  split
  · exact .shape (.slice type)
  · exact type

theorem method_mimics (readable : Readable disk least strict stands p p') (service : String)
    {c c' : Collected} (same : CollectedAlike strict stands p p' c c') :
    Mimics disk strict (World.Alike least) Eq (method service c) (method service c') := by
  obtain ⟨⟨pos, name, ⟨params, results⟩, doc⟩, ctx⟩ := c
  obtain ⟨⟨pos', _, ⟨params', results'⟩, _⟩, ctx'⟩ := c'
  obtain ⟨⟨rfl, rfl, place, takes, answers⟩, alike⟩ := same
  have located := alike.inFile place
  have refused : Mimics disk strict (World.Alike least) (@Eq Method)
      (Compile.fail { cause := .invalidSignature service name
                      location := some (pos.inFile ctx.file.path)
                      package := some ctx.package.path })
      (Compile.fail { cause := .invalidSignature service name
                      location := some (pos'.inFile ctx'.file.path)
                      package := some ctx'.package.path }) := by
    refine .fail fun counts => ?_
    dsimp only at located
    rw [located counts, readable.contextPath alike]
  dsimp only at takes answers
  cases takes with
  | nil => exact refused
  | cons variadic pos type rest =>
    cases rest with
    | cons => exact refused
    | nil =>
      cases answers with
      | nil => exact refused
      | cons variadic' pos' type' rest' =>
        cases rest' with
        | cons => exact refused
        | nil =>
          refine .bind (readDoc_mimics ..) fun m m' read => ?_
          refine .bind (paramType_mimics readable alike variadic pos type) fun input _ agreed => ?_
          subst agreed
          refine .bind (paramType_mimics readable alike variadic' pos' type')
            fun output _ agreed => ?_
          subst agreed
          have recorded : Mimics disk strict (World.Alike least) (fun _ _ => True) (recordOutput service output)
              (recordOutput service output) := by
            unfold recordOutput
            split
            · exact .modifySession fun _ => rfl
            · exact .pure trivial
          refine .bind recorded fun _ _ _ => .bind (.note ..) fun _ _ _ => .pure ?_
          rw [read.1, read.2]

theorem service_mimics (readable : Readable disk least strict stands p p')
    (alike : TypesAlike strict stands p p' d d') {methods methods' : List (MethodDecl TypeExpr)}
    {embeds embeds' : List TypeName} (place : ContextsAlike strict p p' ctx ctx')
    (own : MatchesMethods strict stands false methods methods')
    (inner : List.Forall₂ (MatchesEmbed strict stands false) embeds embeds') :
    Mimics disk strict (World.Alike least) Eq (service d methods embeds ctx) (service d' methods' embeds' ctx') := by
  unfold service
  rw [← alike.spec.doc, ← alike.name]
  refine .bind (readDoc_mimics ..) fun m m' read => .bind (.note ..) fun _ _ _ => ?_
  refine .bind (collectMethods_mimics readable.toTwins place own inner) fun _ _ collected => ?_
  refine .bind (.mapM collected fun c c' same => method_mimics readable d.name same)
    fun made made' same => .pure ?_
  have same : made = made' := by rwa [List.forall₂_eq_eq_eq] at same
  rw [same, read.1, read.2]

theorem addService_mimics (made : Service) (excluded : Bool) :
    Mimics disk strict (World.Alike least) (fun _ _ => True) (addService made excluded) (addService made excluded) := by
  unfold addService
  split
  · exact .bind (.note ..) fun _ _ _ => .modifySession fun _ => rfl
  · exact .modifySession fun _ => rfl

/-! ### Packages -/

theorem declaration_mimics (readable : Readable disk least strict stands p p') (exclusions : List String)
    (alike : TypesAlike strict stands p p' d d') :
    Mimics disk strict (World.Alike least) (fun _ _ => True) (declaration exclusions d) (declaration exclusions d') := by
  unfold declaration
  rw [← alike.spec.isAlias, ← alike.name]
  split
  · exact .note ..
  · refine .bind (underlying_mimics readable.toTwins alike) fun behind behind' types => ?_
    obtain ⟨type, origin⟩ := behind
    obtain ⟨type', origin'⟩ := behind'
    obtain ⟨shapes, origins⟩ := types
    cases shapes with
    | none => exact .note ..
    | some shape =>
      cases shape with
      | interface methods embeds =>
        refine .bind (service_mimics readable alike origins.context methods embeds)
          fun made _ agreed => ?_
        subst agreed
        exact addService_mimics made _
      | struct fields => exact object_mimics readable d d' alike
      | _ => exact .note ..

theorem package_mimics (readable : Readable disk least strict stands p p') (exclusions : List String) :
    Mimics disk strict (World.Alike least) (fun _ _ => True) (package exclusions p) (package exclusions p') := by
  unfold package
  rw [← readable.path, ← readable.name, ← readable.names]
  refine .bind (.modifySession fun _ => rfl) fun _ _ _ => ?_
  refine .forM (List.forall₂_same.mpr fun name _ => (rfl : name = name)) fun name _ agreed => ?_
  subst agreed
  rcases readable.lookup_cases name with ⟨unknown, unknown'⟩ | ⟨d, d', found, found', alike⟩
  · rw [unknown, unknown']
    exact .pure trivial
  · rw [found, found']
    exact declaration_mimics readable exclusions alike

end Extract

end GoIdl
