import GoIdl.Compile.Run
import GoIdl.Proofs.Compile.Ending
import GoIdl.Proofs.Compile.Objects
import GoIdl.Proofs.Text.Bounds

/-!
# Extraction ends

Extraction registers a declaration before it reads its fields, so that no declaration is come
through twice and recursion does not run out of levels. The log tells how often the fields of a
struct have been set about: once at most, however the extraction ends.
-/

namespace GoIdl.Extract

open Syntax (TypeExpr TypeName Param FieldDecl MethodDecl Location IsIdentifier)
open Resolve Session

variable {α β : Type} {disk : Disk} {base : List LogEntry} {u v w : World} {l : Loader}
  {ctx : Context} {expr : TypeExpr} {d e : DeclaredType} {n : Nat} {location : Location}
  {exclusions : List String} {p : Package} {roots : List Package} {entry : LogEntry}

/-- The note that is made before the fields of a struct are read. -/
def objectNote (d : DeclaredType) : LogEntry :=
  ⟨.debug, .extracting, s!"object {d.name} ({typeIdOf d})"⟩

theorem isWord_space : Text.isWord ' ' = false := by decide +kernel

theorem typeIdOf_eq_of_note (sound : l.Sound) (known : d.Known l) (known' : e.Known l)
    (same : objectNote d = objectNote e) : typeIdOf d = typeIdOf e := by
  have chars := congrArg (fun note : LogEntry => note.message.toList.drop 7) same
  have shown : ∀ d : DeclaredType, (objectNote d).message.toList.drop 7 =
      d.name.toList ++ ' ' :: '(' :: ((typeIdOf d).toList ++ [')']) := by
    intro d
    have text : (objectNote d).message = "object " ++ d.name ++ " (" ++ typeIdOf d ++ ")" := rfl
    rw [text]
    simp
  rw [shown, shown] at chars
  obtain ⟨-, rest⟩ := append_cons_inj ((known.identifier sound).not_mem isWord_space)
    ((known'.identifier sound).not_mem isWord_space) chars
  exact String.toList_injective (List.append_cancel_right (List.cons.inj rest).2)

/-! ### Worlds on the way -/

/-- All registered objects have been declared. Since the log was `base`, no object has been noted
twice, and those that have been noted are registered. -/
structure Orderly (base : List LogEntry) (u : World) : Prop where
  sound : u.loader.Sound
  ids : (Json.keys u.session.objects).Nodup
  declared : ∀ id ∈ Json.keys u.session.objects, ∃ d : DeclaredType, d.Known u.loader ∧ typeIdOf d = id
  once : ∀ d, u.log.count (objectNote d) ≤ base.count (objectNote d) + 1
  noted : ∀ d, base.count (objectNote d) < u.log.count (objectNote d) →
    ∃ e : DeclaredType, e.Known u.loader ∧ objectNote e = objectNote d ∧
      typeIdOf e ∈ Json.keys u.session.objects

/-- From `u` on packages have been loaded and paid for, and objects may have been registered. -/
structure Advances (disk : Disk) (base : List LogEntry) (u v : World) : Prop extends
    Orderly base v where
  le : u.loader.Le v.loader
  budget : v.loader.budget disk ≤ u.loader.budget disk
  objects : u.session.objects.length ≤ v.session.objects.length

namespace Orderly

theorem refl (orderly : Orderly base u) : Advances disk base u u :=
  ⟨orderly, .refl _, Nat.le_refl _, Nat.le_refl _⟩

theorem onward (orderly : Orderly base u) (onward : Onward disk u v)
    (log : ∀ d, v.log.count (objectNote d) = u.log.count (objectNote d)) : Advances disk base u v where
  sound := onward.sound
  ids := by rw [onward.session]; exact orderly.ids
  declared := fun id listed => by
    rw [onward.session] at listed
    obtain ⟨d, known, same⟩ := orderly.declared id listed
    exact ⟨d, known.mono onward.le, same⟩
  once := fun d => by rw [log d]; exact orderly.once d
  noted := fun d more => by
    rw [log d] at more
    obtain ⟨e, known, same, listed⟩ := orderly.noted d more
    exact ⟨e, known.mono onward.le, same, by rw [onward.session]; exact listed⟩
  le := onward.le
  budget := onward.budget
  objects := by rw [onward.session]

/-- The session may change beside the registered objects. -/
theorem session (orderly : Orderly base u) {s : Session}
    (keys : Json.keys s.objects = Json.keys u.session.objects) :
    Advances disk base u { u with session := s } where
  sound := orderly.sound
  ids := by rw [keys]; exact orderly.ids
  declared := by rw [keys]; exact orderly.declared
  once := orderly.once
  noted := by rw [keys]; exact orderly.noted
  le := .refl _
  budget := Nat.le_refl _
  objects := by
    have same := congrArg List.length keys
    rw [Json.keys, Json.keys, List.length_map, List.length_map] at same
    exact same.ge

theorem logs (orderly : Orderly base u) {more : List LogEntry}
    (others : ∀ d, objectNote d ∉ more) : Advances disk base u { u with log := u.log ++ more } := by
  refine orderly.onward ⟨grows_of_loader (.refl _) orderly.sound, Nat.le_refl _⟩ fun d => ?_
  show (u.log ++ more).count (objectNote d) = _
  rw [List.count_append, List.count_eq_zero_of_not_mem (others d), Nat.add_zero]

/-- A struct that is registered may be noted, if it has not been. -/
theorem note (orderly : Orderly base u) (known : d.Known u.loader)
    (registered : typeIdOf d ∈ Json.keys u.session.objects)
    (unnoted : u.log.count (objectNote d) ≤ base.count (objectNote d)) :
    Advances disk base u { u with log := u.log ++ [objectNote d] } where
  sound := orderly.sound
  ids := orderly.ids
  declared := orderly.declared
  once := fun e => by
    show (u.log ++ [objectNote d]).count (objectNote e) ≤ _
    rw [List.count_append, List.count_singleton]
    split
    · rename_i same
      rw [← beq_iff_eq.mp same]
      exact Nat.succ_le_succ unnoted
    · exact orderly.once e
  noted := fun e more => by
    by_cases same : objectNote d = objectNote e
    · exact ⟨d, known, same, registered⟩
    · have kept : (u.log ++ [objectNote d]).count (objectNote e) = u.log.count (objectNote e) := by
        rw [List.count_append, List.count_singleton, if_neg (mt beq_iff_eq.mp same), Nat.add_zero]
      exact orderly.noted e (kept ▸ more)
  le := .refl _
  budget := Nat.le_refl _
  objects := Nat.le_refl _

theorem length_le (orderly : Orderly base u) : u.session.objects.length ≤ u.loader.declared := by
  have among : Json.keys u.session.objects ⊆ declaredIds u.loader := by
    intro id listed
    obtain ⟨d, known, rfl⟩ := orderly.declared id listed
    exact mem_declaredIds known
  have few := orderly.ids.length_le_of_subset among
  rwa [length_declaredIds, Json.keys, List.length_map] at few

end Orderly

namespace Advances

theorem trans (first : Advances disk base u v) (second : Advances disk base v w) :
    Advances disk base u w where
  toOrderly := second.toOrderly
  le := first.le.trans second.le
  budget := second.budget.trans first.budget
  objects := first.objects.trans second.objects

theorem spare (advances : Advances disk base u v)
    (spare : u.loader.budget disk < n + u.session.objects.length) :
    v.loader.budget disk < n + v.session.objects.length := by
  have budget := advances.budget
  have objects := advances.objects
  omega

end Advances

/-- However `c` ends in `u`, it has noted no object twice, and if it fails, the input accounts for
it. -/
structure Ends (disk : Disk) (base : List LogEntry) (u : World) (c : Compile α) : Prop where
  ok : ∀ a v, c.runOn disk u = (.ok a, v) → Advances disk base u v
  failed : ∀ failure v, c.runOn disk u = (.error failure, v) →
    failure.OfInput ∧ ∀ d, v.log.count (objectNote d) ≤ base.count (objectNote d) + 1

namespace Ends

variable {c : Compile α} {f : α → Compile β}

/-- A computation that is over after one step. -/
theorem done {a : α} (run : c.runOn disk u = (.ok a, v)) (advances : Advances disk base u v) :
    Ends disk base u c where
  ok := fun _ _ run' => by cases run.symm.trans run'; exact advances
  failed := fun _ _ run' => nomatch run.symm.trans run'

theorem pure (orderly : Orderly base u) (a : α) : Ends disk base u (pure a : Compile α) :=
  done (Compile.runOn_pure a) orderly.refl

theorem throw (orderly : Orderly base u) {failure : Failure} (ofInput : failure.OfInput) :
    Ends disk base u (throw failure : Compile α) where
  ok := fun _ _ run => nomatch run
  failed := fun _ _ run => by cases run; exact ⟨ofInput, orderly.once⟩

theorem fail (orderly : Orderly base u) (error : DefinitionError) :
    Ends disk base u (Compile.fail error : Compile α) := throw orderly trivial

theorem bind (first : Ends disk base u c)
    (later : ∀ a v, c.runOn disk u = (.ok a, v) → Advances disk base u v → Ends disk base v (f a)) :
    Ends disk base u (c >>= f) where
  ok := fun b w run => by
    obtain ⟨a, v, here, run⟩ := Compile.bind_ok.mp run
    have advances := first.ok a v here
    exact advances.trans ((later a v here advances).ok b w run)
  failed := fun failure w run => by
    rw [Compile.runOn_bind] at run
    generalize here : c.runOn disk u = outcome at run
    obtain ⟨_ | a, v⟩ := outcome
    · cases run
      exact first.failed _ _ here
    · exact (later a v here (first.ok a v here)).failed failure w run

/-- A step that is taken whatever the state is. -/
theorem step {a : α} (run : c.runOn disk u = (.ok a, v)) (advances : Advances disk base u v)
    (later : Ends disk base v (f a)) : Ends disk base u (c >>= f) :=
  (done run advances).bind fun _ _ run' _ => by cases run.symm.trans run'; exact later

theorem of_resolving (orderly : Orderly base u) (resolving : Resolving c) (ends : EndsAt disk u c) :
    Ends disk base u c := by
  obtain ⟨more, log, loading⟩ := resolving.notes disk u
  have same : ∀ d, (c.runOn disk u).2.log.count (objectNote d) = u.log.count (objectNote d) := by
    intro d
    have absent : objectNote d ∉ more := fun member => nomatch loading _ member
    rw [log, List.count_append, List.count_eq_zero_of_not_mem absent, Nat.add_zero]
  refine ⟨fun a v run => ?_, fun failure v run => ?_⟩
  · rw [run] at same
    exact orderly.onward ⟨(resolving.ok orderly.sound run).1, resolving.budget run⟩ same
  · rw [EndsAt, run] at ends
    rw [run] at same
    exact ⟨ends.ofInput failure rfl, fun d => by rw [same d]; exact orderly.once d⟩

/-- What a computation that resolves answers is settled. -/
theorem resolve (orderly : Orderly base u) (resolving : Resolving c) (ends : EndsAt disk u c)
    (later : ∀ a v, Advances disk base u v → Yields disk v.loader c a → Ends disk base v (f a)) :
    Ends disk base u (c >>= f) :=
  (of_resolving orderly resolving ends).bind fun a v run advances =>
    later a v advances (resolving.ok orderly.sound run).2

theorem forM {f : α → Compile Unit} {xs : List α} (orderly : Orderly base u)
    (each : ∀ x ∈ xs, ∀ v, Advances disk base u v → Ends disk base v (f x)) :
    Ends disk base u (xs.forM f) := by
  induction xs generalizing u with
  | nil => exact .pure orderly ()
  | cons x rest ih =>
    refine (each x List.mem_cons_self u orderly.refl).bind fun _ v _ advances => ?_
    exact ih advances.toOrderly fun y member v' advances' =>
      each y (List.mem_cons_of_mem _ member) v' (advances.trans advances')

theorem mapM {f : α → Compile β} {xs : List α} (orderly : Orderly base u)
    (each : ∀ x ∈ xs, ∀ v, Advances disk base u v → Ends disk base v (f x)) :
    Ends disk base u (xs.mapM f) := by
  induction xs generalizing u with
  | nil =>
    rw [List.mapM_nil]
    exact .pure orderly _
  | cons x rest ih =>
    rw [List.mapM_cons]
    refine (each x List.mem_cons_self u orderly.refl).bind fun _ v _ advances => ?_
    refine (ih advances.toOrderly fun y member v' advances' =>
      each y (List.mem_cons_of_mem _ member) v' (advances.trans advances')).bind fun _ _ _ after => ?_
    exact .pure after.toOrderly _

end Ends

/-! ### Docs and tags -/

theorem upToFailure_ofInput {doc : String} {location : Option Location} {m : Metadata}
    {failure : Failure} (read : Metadata.upToFailure doc location = (m, some failure)) :
    failure.OfInput := by
  obtain ⟨count, rfl, _⟩ := Metadata.upToFailure_refused read
  trivial

theorem objectNote_not_mem (d : DeclaredType) (notes : List Metadata.Note) :
    objectNote d ∉ notes.map noteEntry := by
  intro member
  obtain ⟨note, _, same⟩ := List.mem_map.mp member
  cases note <;> cases congrArg LogEntry.source same

theorem readDoc_ends (orderly : Orderly base u) (doc : String) (location : Location) :
    Ends disk base u (readDoc doc location) := by
  obtain ⟨⟨m, failure⟩, whole⟩ : ∃ read, read = Metadata.upToFailure doc (some location) := ⟨_, rfl⟩
  have run := readDoc_run whole.symm disk u
  have advances : Advances disk base u { u with log := u.log ++ m.notes.map noteEntry } :=
    orderly.logs fun d => objectNote_not_mem d m.notes
  cases failure with
  | none => exact .done run advances
  | some failure =>
    refine ⟨fun _ _ run' => (nomatch run.symm.trans run'), fun _ _ run' => ?_⟩
    cases run.symm.trans run'
    exact ⟨upToFailure_ofInput whole.symm, advances.once⟩

theorem parseTag_ends (orderly : Orderly base u) (tag : String) (location : Location)
    (ctx : Context) : Ends disk base u (parseTag tag location ctx) := by
  unfold parseTag
  split
  · exact .pure orderly _
  · exact .fail orderly _
  · rename_i failure other read
    rcases Tag.parse_refused read with ⟨error, rfl⟩ | ⟨fault, rfl, _⟩
    · exact absurd rfl (other error)
    · exact .throw orderly trivial

/-! ### Types and fields -/

/-- With `n` levels of recursion left, extracting a declaration ends. -/
def Takes (disk : Disk) (base : List LogEntry) (n : Nat) (extract : DeclaredType → Compile Unit) :
    Prop :=
  ∀ d u, Orderly base u → d.Known u.loader →
    u.loader.budget disk < n + u.session.objects.length → Ends disk base u (extract d)

section

variable {extract : DeclaredType → Compile Unit} (takes : Takes disk base n extract)
  (orderly : Orderly base u) (context : ctx.package ∈ u.loader.packages)
  (spare : u.loader.budget disk < n + u.session.objects.length)

include takes orderly context spare

theorem fieldType_ends : Ends disk base u (fieldType extract expr ctx location) := by
  refine .resolve orderly (peel_resolving ..) (peel_ends orderly.sound context)
    fun p u₁ at₁ peeled => ?_
  refine .resolve at₁.toOrderly (refuseStruct_resolving ..) (refuseStruct_ends ..)
    fun _ u₂ step₂ _ => ?_
  have at₂ := at₁.trans step₂
  have places := peel_known at₂.sound (at₂.le.mem context) (peeled.mono step₂.le)
  refine .resolve at₂.toOrderly (structNamed_resolving ..) (structNamed_ends at₂.sound places.2)
    fun target u₃ step₃ named => ?_
  have at₃ := at₂.trans step₃
  have extracted : Ends disk base u₃ (target.forM extract) := by
    cases target with
    | none => exact .pure at₃.toOrderly ()
    | some d =>
      exact takes d u₃ at₃.toOrderly
        (structNamed_known at₃.sound (step₃.le.mem places.2) named) (at₃.spare spare)
  refine extracted.bind fun _ u₄ _ step₄ => ?_
  have shown := (step₃.trans step₄).le.mem places.1
  refine .resolve step₄.toOrderly (render_resolving ..) (render_ends step₄.sound shown)
    fun rendered u₅ step₅ _ => ?_
  refine .step (Compile.runOn_rootPath (w := u₅)) step₅.toOrderly.refl ?_
  obtain ⟨imports, same⟩ :=
    u₅.session.registerImports_eq (rendered.packages u₅.session.rootPath)
  have changed : Advances disk base u₅ { u₅ with session := { u₅.session with imports } } :=
    step₅.toOrderly.session rfl
  have run : (Compile.modifySession
      (·.registerImports (rendered.packages u₅.session.rootPath))).runOn disk u₅ = _ :=
    congrArg (fun session => (Except.ok (), { u₅ with session })) same
  exact .step run changed (.pure changed.toOrderly _)

theorem field_ends (f : FieldDecl TypeExpr) : Ends disk base u (field extract ctx f) := by
  refine .resolve orderly (.ensure ..) (Asking.ensure ..).ends fun _ u₁ at₁ _ => ?_
  refine (parseTag_ends at₁.toOrderly _ _ _).bind fun tags u₂ _ step₂ => ?_
  refine (readDoc_ends step₂.toOrderly _ _).bind fun doc u₃ _ step₃ => ?_
  have at₃ := (at₁.trans step₂).trans step₃
  exact (fieldType_ends takes at₃.toOrderly (at₃.le.mem context) (at₃.spare spare)).bind
    fun _ _ _ after => .pure after.toOrderly _

end

/-! ### Objects -/

/-- A struct is noted once it has been registered, if it has not been noted before. -/
theorem fillObject_ends {extract : DeclaredType → Compile Unit} (takes : Takes disk base n extract)
    (orderly : Orderly base u) (known : d.Known u.loader)
    (spare : u.loader.budget disk < n + u.session.objects.length)
    (registered : typeIdOf d ∈ Json.keys u.session.objects)
    (unnoted : u.log.count (objectNote d) ≤ base.count (objectNote d)) :
    Ends disk base u (fillObject extract d) := by
  refine (readDoc_ends orderly _ _).bind fun doc u₁ read at₁ => ?_
  obtain ⟨-, documented⟩ := readDoc_log read
  have unnoted₁ : u₁.log.count (objectNote d) ≤ base.count (objectNote d) := by
    rw [documented, List.count_append, List.count_eq_zero_of_not_mem (objectNote_not_mem d _)]
    exact unnoted
  have registered₁ : typeIdOf d ∈ Json.keys u₁.session.objects := by rw [documented]; exact registered
  refine .step (Compile.runOn_rootPath (w := u₁)) at₁.toOrderly.refl ?_
  obtain ⟨change, changed⟩ : ∃ change : Object → Object, change = fun o => { o with
    comment := doc.description, metadata := doc.values
    imported := d.package.path != u₁.session.rootPath } := ⟨_, rfl⟩
  have keys := u₁.session.keys_updateObject (typeIdOf d) change
  have step₂ : Advances disk base u₁
      { u₁ with session := u₁.session.updateObject (typeIdOf d) change } := at₁.toOrderly.session keys
  have step₃ : Advances disk base _ _ :=
    step₂.toOrderly.note (known.mono at₁.le) (keys ▸ registered₁) unnoted₁
  subst changed
  refine .step rfl step₂ (.step rfl step₃ ?_)
  have at₃ := (at₁.trans step₂).trans step₃
  refine .resolve at₃.toOrderly (structOf_resolving d) (structOf_ends at₃.sound (known.mono at₃.le))
    fun shape u₄ step₄ behind => ?_
  have at₄ := at₃.trans step₄
  cases shape with
  | none => exact .fail at₄.toOrderly _
  | some shape =>
    obtain ⟨fields, origin⟩ := shape
    have context := (structOf_known at₄.sound (known.mono at₄.le) behind).package
    refine .forM at₄.toOrderly fun f _ v step => ?_
    refine (field_ends takes step.toOrderly (step.le.mem context)
      ((at₄.trans step).spare spare) f).bind fun field v' _ after => ?_
    exact .done rfl (after.toOrderly.session (v'.session.keys_updateObject ..))

theorem Orderly.reserved (orderly : Orderly base u) {d : DeclaredType} {t : Session}
    (known : d.Known u.loader) {location : Option Syntax.Location}
    (outcome : u.session.reserve (typeIdOf d) d.name location = .ok (some t)) :
    Advances disk base u { u with session := t } ∧ typeIdOf d ∈ Json.keys t.objects ∧
      t.objects.length = u.session.objects.length + 1 := by
  obtain ⟨fresh, -, entered⟩ := Session.reserve_eq_some outcome
  have keys : Json.keys t.objects = Json.keys u.session.objects ++ [typeIdOf d] := by
    rw [entered, Json.keys, List.map_append]
    rfl
  have longer : t.objects.length = u.session.objects.length + 1 := by
    rw [entered, List.length_append, List.length_singleton]
  refine ⟨?_, keys ▸ List.mem_append_right _ (List.mem_singleton_self _), longer⟩
  exact {
    sound := orderly.sound
    ids := by
      rw [keys, ← List.concat_eq_append]
      exact orderly.ids.concat fresh
    declared := fun id listed => by
      rw [keys] at listed
      rcases List.mem_append.mp listed with old | new
      · exact orderly.declared id old
      · exact ⟨d, known, (List.mem_singleton.mp new).symm⟩
    once := orderly.once
    noted := fun e more => by
      obtain ⟨e', known', same, listed⟩ := orderly.noted e more
      exact ⟨e', known', same, keys ▸ List.mem_append_left _ listed⟩
    le := .refl _
    budget := Nat.le_refl _
    objects := by rw [longer]; exact Nat.le_succ _ }

theorem objectWithin_takes (fuel : Nat) : Takes disk base fuel (objectWithin fuel) := by
  induction fuel with
  | zero =>
    intro d u orderly _ spare
    have few := orderly.length_le
    have budget := u.loader.declared_le_budget disk
    omega
  | succ fuel ih =>
    intro d u orderly known spare
    rcases outcome : u.session.reserve (typeIdOf d) d.name (some d.location) with error | _ | t
    · have run : (reserve d).runOn disk u = (.error (.definition error), u) := by
        rw [reserve_run, outcome]
      refine Ends.bind ⟨fun _ _ run' => (nomatch run.symm.trans run'), fun _ _ run' => ?_⟩
        fun _ _ run' => (nomatch run.symm.trans run')
      cases run.symm.trans run'
      exact ⟨trivial, orderly.once⟩
    · have run : (reserve d).runOn disk u = (.ok false, u) := by
        rw [reserve_run, outcome]
      exact .step run orderly.refl (.pure orderly ())
    · have run : (reserve d).runOn disk u = (.ok true, { u with session := t }) := by
        rw [reserve_run, outcome]
      obtain ⟨advances, registered, longer⟩ := Orderly.reserved orderly known outcome
      -- what has been noted is registered, which `d` was not
      have unnoted : u.log.count (objectNote d) ≤ base.count (objectNote d) := by
        by_contra more
        obtain ⟨e, known', same, listed⟩ := orderly.noted d (Nat.lt_of_not_le more)
        rw [typeIdOf_eq_of_note orderly.sound known' known same] at listed
        exact (Session.reserve_eq_some outcome).1 listed
      refine .step run advances (fillObject_ends ih advances.toOrderly known ?_ registered unnoted)
      show u.loader.budget disk < fuel + t.objects.length
      omega

theorem object_takes (n : Nat) : Takes disk base n object := by
  intro d u orderly known _
  have spare : u.loader.budget disk <
      u.loader.declared + disk.size + 2 + u.session.objects.length := by
    have bound := u.loader.budget_le disk
    omega
  exact .step Compile.runOn_depth orderly.refl (objectWithin_takes _ d u orderly known spare)

/-! ### Services -/

theorem paramType_ends (orderly : Orderly base u) (context : ctx.package ∈ u.loader.packages)
    (param : Param TypeExpr) : Ends disk base u (paramType object param ctx) :=
  fieldType_ends (object_takes (u.loader.budget disk + 1)) orderly context (by omega)

theorem note_ends (orderly : Orderly base u) {level : LogLevel} {source : LogSource}
    {message : String} (other : ∀ d, objectNote d ≠ ⟨level, source, message⟩) :
    Ends disk base u (Compile.note level source message) :=
  .done rfl (orderly.logs fun d member => other d (List.mem_singleton.mp member))

theorem objectNote_ne {message : String} (other : message.toList.head? ≠ some 'o')
    (d : DeclaredType) (level : LogLevel) (source : LogSource) :
    objectNote d ≠ ⟨level, source, message⟩ := by
  rintro same
  have text : (objectNote d).message = "object " ++ d.name ++ " (" ++ typeIdOf d ++ ")" := rfl
  rw [same] at text
  dsimp only at text
  rw [text] at other
  simp at other

theorem method_ends {service : String} {c : Collected} (orderly : Orderly base u)
    (context : c.context.package ∈ u.loader.packages) :
    Ends disk base u (method service c) := by
  unfold method
  dsimp only
  split
  · refine (readDoc_ends orderly _ _).bind fun doc u₁ _ at₁ => ?_
    refine (paramType_ends at₁.toOrderly (at₁.le.mem context) _).bind fun input u₂ _ step₂ => ?_
    have at₂ := at₁.trans step₂
    refine (paramType_ends at₂.toOrderly (at₂.le.mem context) _).bind fun output u₃ _ step₃ => ?_
    have recorded : Ends disk base u₃ (recordOutput service output) := by
      unfold recordOutput
      split
      · exact .done rfl (step₃.toOrderly.session rfl)
      · exact .pure step₃.toOrderly ()
    refine recorded.bind fun _ u₄ _ step₄ => ?_
    exact (note_ends step₄.toOrderly fun d => objectNote_ne (by simp [toString]) d _ _).bind
      fun _ _ _ after => .pure after.toOrderly _
  · exact .fail orderly _

theorem service_ends {methods : List (MethodDecl TypeExpr)} {embeds : List TypeName}
    (orderly : Orderly base u) (context : ctx.package ∈ u.loader.packages) :
    Ends disk base u (service d methods embeds ctx) := by
  refine (readDoc_ends orderly _ _).bind fun doc u₁ _ at₁ => ?_
  refine (note_ends at₁.toOrderly fun d => objectNote_ne (by simp [toString]) d _ _).bind fun _ u₂ _ step₂ => ?_
  have at₂ := at₁.trans step₂
  refine .resolve at₂.toOrderly (collectMethods_resolving ..)
    (collectMethods_ends at₂.sound (at₂.le.mem context)) fun collected u₃ step₃ gathered => ?_
  have at₃ := at₂.trans step₃
  have places := collectMethods_known at₃.sound (at₃.le.mem context) gathered
  refine (Ends.mapM at₃.toOrderly fun c member v step => ?_).bind fun _ _ _ after =>
    .pure after.toOrderly _
  exact method_ends step.toOrderly (step.le.mem (places c member))

theorem addService_ends (orderly : Orderly base u) (made : Service) (excluded : Bool) :
    Ends disk base u (addService made excluded) := by
  cases excluded with
  | false => exact .done rfl (orderly.session rfl)
  | true =>
    refine (note_ends orderly fun d => objectNote_ne (by simp [toString]) d _ _).bind fun _ u₁ _ at₁ => ?_
    exact .done rfl (at₁.toOrderly.session rfl)

/-! ### Packages -/

theorem declaration_ends (orderly : Orderly base u) (known : d.Known u.loader) :
    Ends disk base u (declaration exclusions d) := by
  unfold declaration
  split
  · exact note_ends orderly fun d => objectNote_ne (by simp [toString]) d _ _
  · refine .resolve orderly (underlying_resolving d) (underlying_ends orderly.sound known)
      fun found u₁ at₁ behind => ?_
    have known₁ := known.mono at₁.le
    split
    · have origin := underlying_known at₁.sound known₁ behind
      exact (service_ends at₁.toOrderly origin.package).bind fun made _ _ after =>
        addService_ends after.toOrderly made _
    · exact object_takes (u₁.loader.budget disk + 1) d u₁ at₁.toOrderly known₁ (by omega)
    · exact note_ends at₁.toOrderly fun d => objectNote_ne (by simp [toString]) d _ _

theorem package_ends (orderly : Orderly base u) (member : p ∈ u.loader.packages) :
    Ends disk base u (package exclusions p) := by
  have named : Advances disk base u { u with session :=
      { u.session with rootPath := p.path, packageName := p.name } } := orderly.session rfl
  refine .step rfl named (.forM named.toOrderly fun name _ v step => ?_)
  cases found : p.lookup name with
  | none => exact .pure step.toOrderly ()
  | some d => exact declaration_ends step.toOrderly (.of_lookup step.sound (step.le.mem member) found)

theorem packages_ends (orderly : Orderly base u) (member : ∀ p ∈ roots, p ∈ u.loader.packages) :
    Ends disk base u (roots.forM (package exclusions)) :=
  .forM orderly fun p listed _ step => package_ends step.toOrderly (step.le.mem (member p listed))

/-- In an empty session nothing has been registered or noted. -/
theorem orderly_start (sound : w.loader.Sound) (session : w.session = {}) : Orderly w.log w where
  sound := sound
  ids := by rw [session]; exact List.nodup_nil
  declared := by rw [session]; simp [Json.keys]
  once := fun d => Nat.le_succ _
  noted := fun d more => absurd more (Nat.lt_irrefl _)

/-- What is noted while the definition is assembled is not about the fields of a struct. -/
theorem objectNote_not_mem_finalize (d : DeclaredType) (s : Session) (options : Options) :
    objectNote d ∉ (s.finalize options.packageName options.params).notes := by
  intro member
  rcases List.mem_append.mp member with removed | replaced
  · obtain ⟨_, _, same⟩ := List.mem_map.mp removed
    cases congrArg LogEntry.source same
  · obtain ⟨o, _, same⟩ := List.mem_filterMap.mp replaced
    split at same
    · cases congrArg LogEntry.source (Option.some.inj same)
    · cases same

/-- From all loaded packages the extraction of root packages ends with a definition, or with a
failure that the input accounts for. However it ends, it has set about the fields of each struct at
most once. -/
theorem extraction_ends (loaded : Loaded disk w) (member : ∀ p ∈ roots, p ∈ w.loader.packages)
    (exclusions : List String) (options : Options) :
    ∃ outcome v, (do roots.forM (package exclusions); Compile.finalize options).runOn disk w =
        (outcome, v) ∧
      (∀ failure, outcome = .error failure → failure.OfInput) ∧
      ∀ d, v.log.count (objectNote d) ≤ w.log.count (objectNote d) + 1 := by
  have grows := loaded.grows
  have extracted : Ends disk w.log w (roots.forM (package exclusions)) :=
    packages_ends (orderly_start grows.sound grows.session) member
  rcases run : (roots.forM (package exclusions)).runOn disk w with ⟨failure | ⟨⟩, u⟩
  · obtain ⟨ofInput, once⟩ := extracted.failed failure u run
    exact ⟨.error failure, u, by rw [Compile.runOn_bind, run],
      fun _ same => Except.error.inj same ▸ ofInput, once⟩
  · refine ⟨.ok _, _, by rw [Compile.runOn_bind, run]; rfl, fun _ same => (nomatch same),
      fun d => ?_⟩
    rw [List.count_append, List.count_eq_zero_of_not_mem (objectNote_not_mem_finalize d _ options)]
    exact (extracted.ok () u run).once d

/-- Two structs refer to each other, one of them to itself as well, and an alias to itself. -/
def entangled : List (String × String) :=
  [("a.go",
    "package a; type A = *A; type N struct\x7b Next *N; Other O \x7d; type O struct\x7b Back []N \x7d")]

theorem extraction_ends_entangled :
    ∃ p w, (Loading.loadSources entangled).runOn ⟨[], []⟩ {} = (.ok p, w) ∧
      ∃ outcome v, (do [p].forM (package []); Compile.finalize {}).runOn ⟨[], []⟩ w =
          (outcome, v) ∧
        (∀ failure, outcome = .error failure → failure.OfInput) ∧
        ∀ d, v.log.count (objectNote d) ≤ w.log.count (objectNote d) + 1 := by
  have loads : ((Loading.loadSources entangled).runOn ⟨[], []⟩ {}).1.isOk = true := by
    decide +kernel
  rcases loading : (Loading.loadSources entangled).runOn ⟨[], []⟩ {} with ⟨_ | p, w⟩
  · rw [loading] at loads
    cases loads
  · have loaded := (Loading.loadSources_ok .empty loading).2
    exact ⟨p, w, rfl,
      extraction_ends (.sources .start loading) (by simpa using loaded) [] {}⟩

/-- A field with a tag whose value names a character beyond the last one. -/
def beyondLast : List (String × String) :=
  [("a.go", "package a; type T struct\x7bF int `json:\"\\U00110000\"`\x7d")]

def isDefinitionError : Failure → Bool
  | .definition _ => true
  | _ => false

/-- Extraction may fail without an error in the definitions: a character that does not exist is not
refused where the tag is read. -/
theorem extraction_lets_escape_through :
    ∃ p w failure, (Loading.loadSources beyondLast).runOn ⟨[], []⟩ {} = (.ok p, w) ∧
      ((do [p].forM (package []); Compile.finalize {}).runOn ⟨[], []⟩ w).1 = .error failure ∧
      isDefinitionError failure = false := by
  have shape : ((Loading.loadSources beyondLast).runOn ⟨[], []⟩ {}).1.toOption.any (fun p =>
      let world := ((Loading.loadSources beyondLast).runOn ⟨[], []⟩ {}).2
      let outcome := ((do [p].forM (package []); Compile.finalize {}).runOn ⟨[], []⟩ world).1
      (outcome.map fun _ => ()).mapError isDefinitionError == .error false) = true := by
    decide +kernel
  rcases loading : (Loading.loadSources beyondLast).runOn ⟨[], []⟩ {} with ⟨_ | p, w⟩
  · rw [loading] at shape
    cases shape
  · simp only [loading, Except.toOption, Option.any_some, beq_iff_eq] at shape
    rcases outcome : ((do [p].forM (package []); Compile.finalize {}).runOn ⟨[], []⟩ w).1 with
      failure | definition
    · rw [outcome] at shape
      exact ⟨p, w, failure, rfl, outcome, Except.error.inj shape⟩
    · rw [outcome] at shape
      cases shape

end GoIdl.Extract
