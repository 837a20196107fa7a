import GoIdl.Proofs.Compile.Known

/-!
# Objects behind types

A type expression leads to a declaration if, aliases being expanded before, between and after, at
most one slice and at most one pointer stand before the name of a struct. The description of such a
type carries the identifier of that declaration, whatever the root package.
-/

namespace GoIdl.Resolve

open Syntax (TypeExpr TypeName FieldDecl Position Location)

variable {disk : Disk} {l l' : Loader} {ctx ctx' : Context} {expr expr' : TypeExpr}
  {d e : DeclaredType} {p : Peeled}

/-- The expression inside a slice, its aliases expanded, or the expression itself. -/
inductive Unsliced (disk : Disk) (l : Loader) :
    TypeExpr → Context → TypeExpr → Context → Prop where
  | slice {pos : Position} {elem expr : TypeExpr} {ctx ctx' : Context}
      (inside : Yields disk l (expandAliases elem ctx) (expr, ctx')) :
      Unsliced disk l (.slice pos elem) ctx expr ctx'
  | plain {expr : TypeExpr} {ctx : Context} (plain : ∀ pos elem, expr ≠ .slice pos elem) :
      Unsliced disk l expr ctx expr ctx

/-- The expression behind a pointer, its aliases expanded, or the expression itself. -/
inductive Unpointed (disk : Disk) (l : Loader) :
    TypeExpr → Context → TypeExpr → Context → Prop where
  | pointer {pos : Position} {elem expr : TypeExpr} {ctx ctx' : Context}
      (inside : Yields disk l (expandAliases elem ctx) (expr, ctx')) :
      Unpointed disk l (.pointer pos elem) ctx expr ctx'
  | plain {expr : TypeExpr} {ctx : Context} (plain : ∀ pos elem, expr ≠ .pointer pos elem) :
      Unpointed disk l expr ctx expr ctx

/-- A declaration whose underlying type is a struct. -/
def IsStruct (disk : Disk) (l : Loader) (d : DeclaredType) : Prop :=
  ∃ fields origin, Yields disk l (structOf d) (some (fields, origin))

/-- The struct that a type expression is about. -/
def LeadsTo (disk : Disk) (l : Loader) (expr : TypeExpr) (ctx : Context) (d : DeclaredType) :
    Prop :=
  ∃ whole wholeIn shown shownIn name coreIn,
    Yields disk l (expandAliases expr ctx) (whole, wholeIn) ∧
      Unsliced disk l whole wholeIn shown shownIn ∧
      Unpointed disk l shown shownIn (.named name) coreIn ∧
      Yields disk l (lookupDeclared name coreIn) (some d) ∧ IsStruct disk l d

/-! ### Taking types apart -/

theorem yields_sliceElem {multiple : Bool}
    (yields : Yields disk l (sliceElem expr ctx) (multiple, expr', ctx')) (sound : l.Sound) :
    Unsliced disk l expr ctx expr' ctx' := by
  unfold sliceElem at yields
  split at yields
  · obtain ⟨⟨elem, elemIn⟩, inside, yields⟩ :=
      Resolving.bind_yields (expandAliases_resolving ..) (fun _ => .pure _) sound yields
    cases yields_pure yields
    exact .slice inside
  · rename_i other
    cases yields_pure yields
    exact .plain other

theorem Unsliced.yields (unsliced : Unsliced disk l expr ctx expr' ctx') :
    ∃ multiple, Yields disk l (sliceElem expr ctx) (multiple, expr', ctx') := by
  cases unsliced with
  | slice inside => exact ⟨true, inside.bind (.pure _)⟩
  | plain plain =>
    refine ⟨false, ?_⟩
    unfold sliceElem
    split
    · exact absurd rfl (plain _ _)
    · exact .pure _

theorem yields_pointerElem {optional : Bool}
    (yields : Yields disk l (pointerElem expr ctx) (optional, expr', ctx')) (sound : l.Sound) :
    Unpointed disk l expr ctx expr' ctx' := by
  unfold pointerElem at yields
  split at yields
  · obtain ⟨⟨elem, elemIn⟩, inside, yields⟩ :=
      Resolving.bind_yields (expandAliases_resolving ..) (fun _ => .pure _) sound yields
    cases yields_pure yields
    exact .pointer inside
  · rename_i other
    cases yields_pure yields
    exact .plain other

theorem Unpointed.yields (unpointed : Unpointed disk l expr ctx expr' ctx') :
    ∃ optional, Yields disk l (pointerElem expr ctx) (optional, expr', ctx') := by
  cases unpointed with
  | pointer inside => exact ⟨true, inside.bind (.pure _)⟩
  | plain plain =>
    refine ⟨false, ?_⟩
    unfold pointerElem
    split
    · exact absurd rfl (plain _ _)
    · exact .pure _

theorem yields_peel (sound : l.Sound) (yields : Yields disk l (peel expr ctx) p) :
    ∃ whole wholeIn, Yields disk l (expandAliases expr ctx) (whole, wholeIn) ∧
      Unsliced disk l whole wholeIn p.shown p.shownIn ∧
      Unpointed disk l p.shown p.shownIn p.core p.coreIn := by
  obtain ⟨⟨whole, wholeIn⟩, expanded, yields⟩ := Resolving.bind_yields (expandAliases_resolving ..)
    (fun _ => .bind (sliceElem_resolving ..) fun _ => .bind (pointerElem_resolving ..) fun _ => .pure _)
    sound yields
  obtain ⟨⟨multiple, shown, shownIn⟩, sliced, yields⟩ :=
    Resolving.bind_yields (sliceElem_resolving ..)
      (fun _ => .bind (pointerElem_resolving ..) fun _ => .pure _) sound yields
  obtain ⟨⟨optional, core, coreIn⟩, pointed, yields⟩ :=
    Resolving.bind_yields (pointerElem_resolving ..) (fun _ => .pure _) sound yields
  cases yields_pure yields
  exact ⟨whole, wholeIn, expanded, yields_sliceElem sliced sound, yields_pointerElem pointed sound⟩

theorem peel_yields {whole shown core : TypeExpr} {wholeIn shownIn coreIn : Context}
    (expanded : Yields disk l (expandAliases expr ctx) (whole, wholeIn))
    (sliced : Unsliced disk l whole wholeIn shown shownIn)
    (pointed : Unpointed disk l shown shownIn core coreIn) :
    ∃ p, Yields disk l (peel expr ctx) p ∧ p.core = core ∧ p.coreIn = coreIn := by
  obtain ⟨multiple, shownAt⟩ := sliced.yields
  obtain ⟨optional, coreAt⟩ := pointed.yields
  exact ⟨⟨multiple, optional, shown, shownIn, core, coreIn⟩,
    expanded.bind (shownAt.bind (coreAt.bind (.pure _))), rfl, rfl⟩

theorem yields_structNamed (sound : l.Sound)
    (yields : Yields disk l (structNamed expr ctx) (some d)) :
    ∃ name, expr = .named name ∧ Yields disk l (lookupDeclared name ctx) (some d) ∧
      IsStruct disk l d := by
  unfold structNamed at yields
  split at yields
  · rename_i name
    obtain ⟨found, read, yields⟩ := Resolving.bind_yields (lookupDeclared_resolving ..)
      (fun _ => by
        split
        · exact .bind (structOf_resolving _) fun _ => .pure _
        · exact .pure _) sound yields
    split at yields
    · obtain ⟨shape, behind, yields⟩ :=
        Resolving.bind_yields (structOf_resolving _) (fun _ => .pure _) sound yields
      have same := yields_pure yields
      cases shape with
      | none => cases same
      | some shape =>
        cases same
        exact ⟨name, rfl, read, shape.1, shape.2, behind⟩
    · cases yields_pure yields
  · cases yields_pure yields

theorem structNamed_yields {name : TypeName}
    (read : Yields disk l (lookupDeclared name ctx) (some d)) (isStruct : IsStruct disk l d) :
    Yields disk l (structNamed (.named name) ctx) (some d) := by
  obtain ⟨fields, origin, behind⟩ := isStruct
  exact read.bind (behind.bind (.pure _))

theorem leadsTo_iff (sound : l.Sound) :
    LeadsTo disk l expr ctx d ↔
      ∃ p, Yields disk l (peel expr ctx) p ∧ Yields disk l (structNamed p.core p.coreIn) (some d) := by
  constructor
  · rintro ⟨whole, wholeIn, shown, shownIn, name, coreIn, expanded, sliced, pointed, read, isStruct⟩
    obtain ⟨p, peeled, core, coreIn'⟩ := peel_yields expanded sliced pointed
    refine ⟨p, peeled, ?_⟩
    rw [core, coreIn']
    exact structNamed_yields read isStruct
  · rintro ⟨p, peeled, named⟩
    obtain ⟨whole, wholeIn, expanded, sliced, pointed⟩ := yields_peel sound peeled
    obtain ⟨name, core, read, isStruct⟩ := yields_structNamed sound named
    rw [core] at pointed
    exact ⟨whole, wholeIn, p.shown, p.shownIn, name, p.coreIn, expanded, sliced, pointed, read, isStruct⟩

theorem refuseStruct_yields {location : Location} {a : Unit}
    (yields : Yields disk l (refuseStruct p location) a) (pos : Position)
    (fields : List (FieldDecl TypeExpr)) : p.core ≠ .struct pos fields := by
  intro same
  unfold refuseStruct at yields
  rw [same] at yields
  exact (yields_throw yields).elim

theorem IsStruct.mono (isStruct : IsStruct disk l d) (le : l.Le l') : IsStruct disk l' d := by
  obtain ⟨fields, origin, yields⟩ := isStruct
  exact ⟨fields, origin, yields.mono le⟩

theorem Unsliced.mono (unsliced : Unsliced disk l expr ctx expr' ctx') (le : l.Le l') :
    Unsliced disk l' expr ctx expr' ctx' := by
  cases unsliced with
  | slice inside => exact .slice (inside.mono le)
  | plain other => exact .plain other

theorem Unpointed.mono (unpointed : Unpointed disk l expr ctx expr' ctx') (le : l.Le l') :
    Unpointed disk l' expr ctx expr' ctx' := by
  cases unpointed with
  | pointer inside => exact .pointer (inside.mono le)
  | plain other => exact .plain other

theorem LeadsTo.mono (leads : LeadsTo disk l expr ctx d) (le : l.Le l') :
    LeadsTo disk l' expr ctx d := by
  obtain ⟨whole, wholeIn, shown, shownIn, name, coreIn, expanded, sliced, pointed, read, isStruct⟩ :=
    leads
  exact ⟨whole, wholeIn, shown, shownIn, name, coreIn, expanded.mono le, sliced.mono le,
    pointed.mono le, read.mono le, isStruct.mono le⟩

/-! ### Known places -/

theorem Unsliced.known (unsliced : Unsliced disk l expr ctx expr' ctx') (sound : l.Sound)
    (context : ctx.package ∈ l.packages) : ctx'.package ∈ l.packages := by
  cases unsliced with
  | slice inside => exact (expandAliases_known sound context inside).1
  | plain => exact context

theorem Unpointed.known (unpointed : Unpointed disk l expr ctx expr' ctx') (sound : l.Sound)
    (context : ctx.package ∈ l.packages) : ctx'.package ∈ l.packages := by
  cases unpointed with
  | pointer inside => exact (expandAliases_known sound context inside).1
  | plain => exact context

theorem peel_known (sound : l.Sound) (context : ctx.package ∈ l.packages)
    (yields : Yields disk l (peel expr ctx) p) :
    p.shownIn.package ∈ l.packages ∧ p.coreIn.package ∈ l.packages := by
  obtain ⟨whole, wholeIn, expanded, sliced, pointed⟩ := yields_peel sound yields
  have shown := sliced.known sound (expandAliases_known sound context expanded).1
  exact ⟨shown, pointed.known sound shown⟩

theorem structNamed_known (sound : l.Sound) (context : ctx.package ∈ l.packages)
    (yields : Yields disk l (structNamed expr ctx) (some d)) : d.Known l := by
  obtain ⟨name, _, read, _⟩ := yields_structNamed sound yields
  exact lookupDeclared_known sound context read

theorem LeadsTo.known (leads : LeadsTo disk l expr ctx d) (sound : l.Sound)
    (context : ctx.package ∈ l.packages) : d.Known l := by
  obtain ⟨p, peeled, named⟩ := (leadsTo_iff sound).mp leads
  exact structNamed_known sound (peel_known sound context peeled).2 named

/-! ### Rendering -/

/-- The name of a declaration, as a rendered type. -/
def Rendered.ofDeclared (d : DeclaredType) : Rendered :=
  .typeName d.name d.package.name d.package.path

namespace Rendered

theorem bare_ofDeclared (d : DeclaredType) : (ofDeclared d).bare = d.name := by
  simp [ofDeclared, typeName, bare, Part.bare, String.join]

theorem bare_append (a b : Rendered) : (a ++ b).bare = a.bare ++ b.bare := by
  show String.join ((a.parts ++ b.parts).map Part.bare) = _
  rw [List.map_append, String.join_append]
  rfl

theorem packages_ofDeclared (root : String) (d : DeclaredType) :
    (ofDeclared d).packages root =
      if d.package.path = root then [] else [(d.package.path, d.package.name)] := by
  by_cases here : d.package.path = root <;> simp [ofDeclared, typeName, packages, Part.package?, here]

/-- What is shown of a struct names its package, unless that is the root package. -/
theorem packages_struct {r : Rendered} (rendered : r = .ofDeclared d ∨ r = .plain "*" ++ .ofDeclared d)
    (root : String) :
    r.packages root = if d.package.path = root then [] else [(d.package.path, d.package.name)] := by
  rcases rendered with rfl | rfl <;> exact packages_ofDeclared root d

end Rendered

theorem render_named {fuel : Nat} {seen : List (String × String)} {name : TypeName} {r : Rendered}
    (sound : l.Sound) (read : Yields disk l (lookupDeclared name ctx) (some d))
    (plain : d.spec.isAlias = false)
    (yields : Yields disk l (renderInside fuel seen ctx (.named name)) r) :
    r = .ofDeclared d := by
  cases fuel with
  | zero => exact (yields_throw yields).elim
  | succ fuel =>
    have expected : Yields disk l (renderInside (fuel + 1) seen ctx (.named name)) (.ofDeclared d) := by
      refine (yields_lookupDeclared sound read).bind ?_
      simp only [plain]
      exact .pure _
    exact yields.unique expected

theorem render_followed {n m : Nat} {followed seen : List (String × String)} {r : Rendered}
    (sound : l.Sound) (follows : Yields disk l (followAliases n followed expr ctx) (expr', ctx'))
    (yields : Yields disk l (renderInside m seen ctx expr) r) :
    ∃ m seen, Yields disk l (renderInside m seen ctx' expr') r := by
  induction n generalizing m followed seen expr ctx with
  | zero => exact (yields_throw follows).elim
  | succ n ih =>
    unfold followAliases at follows
    split at follows
    · rename_i first
      obtain ⟨found, here, follows⟩ := Resolving.bind_yields (lookupDeclared_resolving ..)
        (fun _ => by
          split
          · exact .pure _
          · split
            · exact .pure _
            · split
              · exact .throw _
              · exact followAliases_resolving ..) sound follows
      split at follows
      · cases yields_pure follows
        exact ⟨m, seen, yields⟩
      · rename_i target
        split at follows
        · cases yields_pure follows
          exact ⟨m, seen, yields⟩
        · rename_i isAlias
          split at follows
          · exact (yields_throw follows).elim
          · cases m with
            | zero => exact (yields_throw yields).elim
            | succ m =>
              have aliased : target.spec.isAlias = true := by simpa using isAlias
              obtain ⟨type, found, yields⟩ := Resolving.bind_yields (lookup_resolving ..)
                (fun _ => by
                  split
                  · exact .pure _
                  · exact .pure _
                  · split
                    · dsimp only
                      split
                      · exact .throw _
                      · exact renderInside_resolving ..
                    · exact .pure _) sound yields
              cases found.unique (yields_lookupDeclared sound here)
              simp only [aliased, if_true] at yields
              split at yields
              · exact (yields_throw yields).elim
              · exact ih follows yields
    · cases yields_pure follows
      exact ⟨m, seen, yields⟩

theorem render_struct {name : TypeName} {shown : TypeExpr} {shownIn coreIn : Context} {r : Rendered}
    (sound : l.Sound) (pointed : Unpointed disk l shown shownIn (.named name) coreIn)
    (read : Yields disk l (lookupDeclared name coreIn) (some d)) (plain : d.spec.isAlias = false)
    (yields : Yields disk l (render shown shownIn) r) :
    r = .ofDeclared d ∨ r = .plain "*" ++ .ofDeclared d := by
  obtain ⟨fuel, yields⟩ := yields_deep (renderInside_resolving · [] shownIn shown) sound yields
  cases pointed with
  | plain => exact Or.inl (render_named sound read plain yields)
  | @pointer pos elem _ _ _ inside =>
    obtain ⟨n, follows⟩ := yields_deep (followAliases_resolving · [] elem shownIn) sound inside
    cases fuel with
    | zero => exact (yields_throw yields).elim
    | succ fuel =>
      have inner : Resolving (renderInside (fuel + 1) [] shownIn elem) := renderInside_resolving ..
      obtain ⟨behind, rendered, yields⟩ := Resolving.bind_yields inner (fun _ => .pure _) sound yields
      cases yields_pure yields
      obtain ⟨_, _, rendered⟩ := render_followed sound follows rendered
      have same : behind = .ofDeclared d := render_named sound read plain rendered
      exact Or.inr (by rw [same])

theorem withoutStars_of_starless {s : String} (starless : '*' ∉ s.toList) : withoutStars s = s := by
  have kept : s.toList.dropWhile (· == '*') = s.toList := by
    cases chars : s.toList with
    | nil => rfl
    | cons c rest =>
      have first : c ≠ '*' := by
        rintro rfl
        exact starless (by rw [chars]; exact List.mem_cons_self)
      simp [first]
  rw [withoutStars, kept, String.ofList_toList]

theorem withoutStars_bare {r : Rendered} (sound : l.Sound) (known : d.Known l)
    (rendered : r = .ofDeclared d ∨ r = .plain "*" ++ .ofDeclared d) :
    withoutStars r.bare = d.name := by
  have starless := (known.identifier sound).not_mem isWord_star
  have star : ∀ s : String, withoutStars ("*" ++ s) = withoutStars s := by
    intro s
    simp [withoutStars]
  rcases rendered with rfl | rfl
  · rw [Rendered.bare_ofDeclared, withoutStars_of_starless starless]
  · rw [Rendered.bare_append, Rendered.bare_ofDeclared]
    exact (star d.name).trans (withoutStars_of_starless starless)

/-- The description of a struct carries the identifier of its declaration. -/
theorem describe_typeId {r : Rendered} (sound : l.Sound) (known : d.Known l)
    (rendered : r = .ofDeclared d ∨ r = .plain "*" ++ .ofDeclared d) (root : String)
    (multiple optional isObject : Bool) :
    (describe root multiple optional isObject r).typeId = Extract.typeIdOf d := by
  have path := (sound.wellFormed _ known.package).path
  have bare := withoutStars_bare sound known rendered
  have packages := Rendered.packages_struct rendered root
  simp only [describe, bare, packages, Extract.typeIdOf]
  by_cases here : d.package.path = root
  · simp [here]
  · simp [here, path]

end GoIdl.Resolve
