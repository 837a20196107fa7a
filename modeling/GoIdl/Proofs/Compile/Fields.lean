import GoIdl.Proofs.Compile.Peeling

/-!
# What a field is

The description of a field is settled by its declaration and the packages that have been loaded, up
to the names of packages, which depend on the root package.
-/

namespace GoIdl

open Syntax (TypeExpr TypeName FieldDecl Position Location)

variable {disk : Disk} {w w' : World} {l l' : Loader} {ctx : Context} {expr : TypeExpr}
  {d e : DeclaredType} {location : Location}

namespace Resolve

/-- A type expression as it is resolved, before it is described for a root package. -/
structure Shape where
  peeled : Peeled
  target : Option DeclaredType
  rendered : Rendered

def Shape.type (s : Shape) (root : String) : FieldType :=
  describe root s.peeled.multiple s.peeled.optional s.target.isSome s.rendered

/-- The shape of a type expression that is no struct without a name. -/
structure HasShape (disk : Disk) (l : Loader) (expr : TypeExpr) (ctx : Context) (s : Shape) :
    Prop where
  peeled : Yields disk l (peel expr ctx) s.peeled
  named : ∀ pos fields, s.peeled.core ≠ .struct pos fields
  target : Yields disk l (structNamed s.peeled.core s.peeled.coreIn) s.target
  rendered : Yields disk l (render s.peeled.shown s.peeled.shownIn) s.rendered

namespace HasShape

variable {s t : Shape}

theorem mono (shape : HasShape disk l expr ctx s) (le : l.Le l') : HasShape disk l' expr ctx s :=
  ⟨shape.peeled.mono le, shape.named, shape.target.mono le, shape.rendered.mono le⟩

theorem unique (first : HasShape disk l expr ctx s) (second : HasShape disk l expr ctx t) :
    s = t := by
  obtain ⟨p, target, rendered⟩ := s
  obtain ⟨p', target', rendered'⟩ := t
  obtain rfl : p = p' := first.peeled.unique second.peeled
  obtain rfl : target = target' := first.target.unique second.target
  obtain rfl : rendered = rendered' := first.rendered.unique second.rendered
  rfl

theorem leadsTo_iff (shape : HasShape disk l expr ctx s) (sound : l.Sound) :
    LeadsTo disk l expr ctx d ↔ s.target = some d := by
  rw [Resolve.leadsTo_iff sound]
  constructor
  · rintro ⟨p, peeled, named⟩
    cases shape.peeled.unique peeled
    exact shape.target.unique named
  · intro same
    exact ⟨s.peeled, shape.peeled, same ▸ shape.target⟩

/-- What is shown of a type that leads to a struct is the name of the struct, perhaps behind a
star. -/
theorem rendered_struct (shape : HasShape disk l expr ctx s) (sound : l.Sound)
    (context : ctx.package ∈ l.packages) (target : s.target = some d) :
    s.rendered = .ofDeclared d ∨ s.rendered = .plain "*" ++ .ofDeclared d := by
  obtain ⟨whole, wholeIn, expanded, sliced, pointed⟩ := yields_peel sound shape.peeled
  obtain ⟨name, core, read, _⟩ := yields_structNamed sound (target ▸ shape.target)
  have wholeKnown := expandAliases_known sound context expanded
  have shownPlain : ∀ name d, s.peeled.shown = .named name →
      Yields disk l (lookupDeclared name s.peeled.shownIn) (some d) → d.spec.isAlias = false := by
    generalize s.peeled.shown = shown, s.peeled.shownIn = shownIn at sliced
    cases sliced with
    | slice inside => exact (expandAliases_known sound wholeKnown.1 inside).2
    | plain => exact wholeKnown.2
  have shownKnown := sliced.known sound wholeKnown.1
  have plain : d.spec.isAlias = false := by
    have pointed' := pointed
    generalize s.peeled.shown = shown, s.peeled.shownIn = shownIn, s.peeled.core = core',
      s.peeled.coreIn = coreIn at pointed' shownPlain shownKnown core read
    cases pointed' with
    | pointer inside => exact (expandAliases_known sound shownKnown inside).2 name d core read
    | plain => exact shownPlain name d core read
  rw [core] at pointed
  exact render_struct sound pointed read plain shape.rendered

theorem known (shape : HasShape disk l expr ctx s) (sound : l.Sound)
    (context : ctx.package ∈ l.packages) (target : s.target = some d) : d.Known l :=
  ((shape.leadsTo_iff sound).mpr target).known sound context

/-- The description of a type that leads to a struct carries its identifier. -/
theorem typeId (shape : HasShape disk l expr ctx s) (sound : l.Sound)
    (context : ctx.package ∈ l.packages) (target : s.target = some d) (root : String) :
    (s.type root).typeId = Extract.typeIdOf d :=
  describe_typeId sound (shape.known sound context target)
    (shape.rendered_struct sound context target) ..

theorem bareObjectName (shape : HasShape disk l expr ctx s) (sound : l.Sound)
    (context : ctx.package ∈ l.packages) (target : s.target = some d) (root : String) :
    (s.type root).bareObjectName = d.name :=
  withoutStars_bare sound (shape.known sound context target)
    (shape.rendered_struct sound context target)

theorem isObject (s : Shape) (root : String) : (s.type root).isObject = s.target.isSome := rfl

end HasShape

end Resolve

/-! ### Docs and tags -/

namespace Extract

def noteEntry : Metadata.Note → LogEntry
  | .skipped error => ⟨.info, .resolvingMetadata, s!"(skipping) {error.message}"⟩
  | .repeated key =>
    ⟨.debug, .resolvingMetadata, s!"metadata {Text.quoted key} repeated; keeping first value"⟩

theorem notes_runOn (notes : List Metadata.Note) (w : World) :
    (notes.forM noteOf).runOn disk w =
      (.ok (), { w with log := w.log ++ notes.map noteEntry }) := by
  induction notes generalizing w with
  | nil => rw [List.map_nil, List.append_nil]; rfl
  | cons note rest ih =>
    have one : (noteOf note).runOn disk w = (.ok (), { w with log := w.log ++ [noteEntry note] }) := by
      cases note <;> rfl
    refine Compile.bind_ok.mpr ⟨(), _, one, (ih _).trans ?_⟩
    rw [List.map_cons, List.append_assoc, List.singleton_append]

/-- What is passed over is noted, also if a later line fails. -/
theorem readDoc_run {doc : String} {m : Metadata} {failure : Option Failure}
    (read : Metadata.upToFailure doc (some location) = (m, failure)) (disk : Disk) (w : World) :
    (readDoc doc location).runOn disk w =
      (failure.elim (.ok m) .error, { w with log := w.log ++ m.notes.map noteEntry }) := by
  unfold readDoc
  rw [read]
  dsimp only
  rw [Compile.runOn_bind, notes_runOn]
  cases failure <;> rfl

theorem readDoc_log {doc : String} {m : Metadata}
    (run : (readDoc doc location).runOn disk w = (.ok m, w')) :
    Metadata.upToFailure doc (some location) = (m, none) ∧
      w' = { w with log := w.log ++ m.notes.map noteEntry } := by
  obtain ⟨⟨m', failure⟩, whole⟩ : ∃ outcome, outcome = Metadata.upToFailure doc (some location) :=
    ⟨_, rfl⟩
  rw [readDoc_run whole.symm] at run
  cases failure with
  | none =>
    cases run
    exact ⟨whole.symm, rfl⟩
  | some failure => cases run

theorem readDoc_ok {doc : String} {m : Metadata}
    (run : (readDoc doc location).runOn disk w = (.ok m, w')) :
    Metadata.upToFailure doc (some location) = (m, none) ∧ ∃ log, w' = { w with log } :=
  ⟨(readDoc_log run).1, _, (readDoc_log run).2⟩

theorem readDoc_runOn {doc : String} {m : Metadata}
    (whole : Metadata.upToFailure doc (some location) = (m, none)) (disk : Disk) (w : World) :
    ∃ log, (readDoc doc location).runOn disk w = (.ok m, { w with log }) :=
  ⟨_, readDoc_run whole disk w⟩

theorem parseTag_ok {tag : String} {tags : List (String × FieldTag)} :
    (parseTag tag location ctx).runOn disk w = (.ok tags, w') ↔
      Tag.parse tag (some location) = .ok tags ∧ w' = w := by
  unfold parseTag
  split
  · rename_i read
    rw [read, Compile.pure_ok]
    simp [eq_comm]
  · rename_i read
    simp [read]
  · rename_i read
    simp [read]

/-! ### Fields -/

/-- The field that a declaration is described by for a root package. -/
def IsFieldOf (disk : Disk) (l : Loader) (root : String) (ctx : Context) (f : FieldDecl TypeExpr)
    (field : Field) : Prop :=
  ∃ tags doc shape,
    isExported f.name = true ∧
      Tag.parse (f.tag.getD "") (some (f.pos.inFile ctx.file.path)) = .ok tags ∧
      Metadata.upToFailure f.doc (some (f.pos.inFile ctx.file.path)) = (doc, none) ∧
      Resolve.HasShape disk l f.type ctx shape ∧
      field = describeField f tags doc (shape.type root)

namespace IsFieldOf

variable {root : String} {f : FieldDecl TypeExpr} {field other : Field}

theorem mono (described : IsFieldOf disk l root ctx f field) (le : l.Le l') :
    IsFieldOf disk l' root ctx f field := by
  obtain ⟨tags, doc, shape, exported, parsed, read, shaped, same⟩ := described
  exact ⟨tags, doc, shape, exported, parsed, read, shaped.mono le, same⟩

theorem unique (first : IsFieldOf disk l root ctx f field)
    (second : IsFieldOf disk l root ctx f other) : field = other := by
  obtain ⟨tags, doc, shape, _, parsed, read, shaped, rfl⟩ := first
  obtain ⟨tags', doc', shape', _, parsed', read', shaped', rfl⟩ := second
  cases parsed.symm.trans parsed'
  cases read.symm.trans read'
  cases shaped.unique shaped'
  rfl

end IsFieldOf

end Extract

end GoIdl
