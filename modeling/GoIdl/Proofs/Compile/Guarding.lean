import GoIdl.Proofs.Compile.Resolving
import GoIdl.Proofs.Compile.Twins

/-!
# Going through aliases

Following aliases and rendering go through an expression in one way: whatever is done at an alias is
done with what it stands for, but never inside itself. The guard against that only turns away what
would not end without it.
-/

namespace GoIdl.Resolve

open Syntax (TypeExpr TypeName Matches SameShape)

variable {α : Type} {disk : Disk} {strict : Prop} {worlds : World → World → Prop}
  {stands leaf : TypeExpr → TypeExpr → Prop} {p p' : Package} {ctx ctx' : Context}
  {expr expr' : TypeExpr}

/-- A way through an expression; the first argument tells what is done at an alias. -/
abbrev Visit (α : Type) : Type := (DeclaredType → Compile α) → Context → TypeExpr → Compile α

/-- Through an expression inside the aliases `seen`. -/
def guarded (visit : Visit α) (fuel : Nat) (seen : List (String × String)) (ctx : Context)
    (expr : TypeExpr) : Compile α :=
  match fuel with
  | 0 => throw .tooDeep
  | fuel + 1 =>
    visit (fun d =>
      if seen.contains d.key then aliasCycle d
      else guarded visit fuel (d.key :: seen) d.context d.spec.type) ctx expr

/-- Through an expression without a guard, at most `levels` deep. -/
def unguarded (visit : Visit α) (levels : Nat) (ctx : Context) (expr : TypeExpr) : Compile α :=
  match levels with
  | 0 => throw .tooDeep
  | levels + 1 => visit (fun d => unguarded visit levels d.context d.spec.type) ctx expr

/-- To the first expression that is no alias. -/
def head : Visit (TypeExpr × Context) := fun ofAlias ctx expr =>
  match expr with
  | .named name => do
    match ← lookupDeclared name ctx with
    | none => return (expr, ctx)
    | some d => if !d.spec.isAlias then return (expr, ctx) else ofAlias d
  | _ => pure (expr, ctx)

theorem renderInside_eq (fuel : Nat) (seen : List (String × String)) (ctx : Context)
    (expr : TypeExpr) : renderInside fuel seen ctx expr = guarded renderWith fuel seen ctx expr := by
  induction fuel generalizing seen ctx expr with
  | zero => rfl
  | succ fuel ih => simp only [renderInside, guarded, ih]

theorem followAliases_eq (fuel : Nat) (seen : List (String × String)) (expr : TypeExpr)
    (ctx : Context) : followAliases fuel seen expr ctx = guarded head fuel seen ctx expr := by
  induction fuel generalizing seen ctx expr with
  | zero => rfl
  | succ fuel ih =>
    cases expr with
    | named name =>
      refine bind_congr fun found => ?_
      cases found with
      | none => rfl
      | some d => simp only [ih]
    | _ => rfl

/-! ### Ways through twin packages -/

/-- How answers are related: in which packages, and what may stand for what. -/
abbrev Likeness (α : Type) : Type :=
  Prop → (TypeExpr → TypeExpr → Prop) → Package → Package → α → α → Prop

/-- A way that does the same in twin packages where the same is done at aliases. -/
structure Regular (disk : Disk) (rel : Likeness α) (visit : Visit α) : Prop where
  follows : ∀ {ofAlias ofAlias'}, (∀ d, Follows (ofAlias d) (ofAlias' d)) → ∀ ctx expr,
    Follows (visit ofAlias ctx expr) (visit ofAlias' ctx expr)
  mimics : ∀ {strict worlds stands leaf p p' ofAlias ofAlias' ctx ctx' expr expr'},
    Twins strict stands p p' →
    (∀ d d', TypesAlike strict stands p p' d d' →
      Mimics disk strict worlds (rel strict stands p p') (ofAlias d) (ofAlias' d')) →
    (∀ a b, leaf a b → stands a b) →
    (∀ a b, leaf a b → Mimics disk strict worlds (rel strict stands p p') (visit ofAlias ctx a)
      (visit ofAlias' ctx' b)) →
    ContextsAlike strict p p' ctx ctx' → Matches strict leaf true expr expr' →
    Mimics disk strict worlds (rel strict stands p p') (visit ofAlias ctx expr)
      (visit ofAlias' ctx' expr')
  atAlias : ∀ {ofAlias ctx name d},
    (∀ u, (lookupDeclared name ctx).runOn disk u = (.ok (some d), u)) → d.spec.isAlias = true →
    ∀ u, (visit ofAlias ctx (.named name)).runOn disk u = (ofAlias d).runOn disk u

theorem renderWith_regular : Regular disk (fun _ _ _ _ => Eq) renderWith where
  follows aliases ctx expr := (renderWith_rendering ctx expr).follows aliases
  mimics twins aliases _ standing alike matched :=
    renderWith_mimics ⟨renderName_mimics twins aliases alike, standing⟩ matched
  atAlias found isAlias u := by
    obtain ⟨resolved, v, asked, declared⟩ := Compile.bind_ok.mp (found u)
    show (lookup _ _ >>= _).runOn disk u = _
    rw [Compile.runOn_bind, asked]
    cases resolved with
    | none => cases declared
    | some resolved =>
      cases resolved with
      | external t => cases declared
      | declared d =>
        cases declared
        simp [isAlias]

theorem head_regular : Regular disk PlacedAlike head where
  follows aliases ctx expr := by
    cases expr with
    | named name =>
      refine .bind (.refl (lookupDeclared_resolving ..)) fun found => ?_
      split
      · exact .pure _
      · split
        · exact .pure _
        · exact aliases _
    | _ => exact .pure _
  mimics twins aliases within standing alike matched := by
    cases matched with
    | stands stand => exact standing _ _ stand
    | shape shape =>
      have kept := shape.mono within id
      cases shape with
      | named same =>
        refine .bind (lookupDeclared_mimics twins alike same) fun _ _ found => ?_
        cases found with
        | none => exact .pure ⟨kept, alike⟩
        | some found =>
          dsimp only
          rw [← found.spec.isAlias]
          split
          · exact .pure ⟨kept, alike⟩
          · exact aliases _ _ found
      | _ => exact .pure ⟨kept, alike⟩
  atAlias found isAlias u := by
    show (lookupDeclared _ _ >>= _).runOn disk u = _
    rw [Compile.runOn_bind, found u]
    simp [isAlias]

section

variable {rel : Likeness α} {visit : Visit α} (regular : Regular disk rel visit)

include regular

/-! ### In step -/

section

variable (twins : Twins strict Nothing p p') (alike : ContextsAlike strict p p' ctx ctx')
  (matched : Matches strict Nothing true expr expr')

include twins alike matched

theorem guarded_mimics (fuel : Nat) (seen : List (String × String)) :
    Mimics disk strict worlds (rel strict Nothing p p') (guarded visit fuel seen ctx expr)
      (guarded visit fuel seen ctx' expr') := by
  induction fuel generalizing seen ctx ctx' expr expr' with
  | zero => exact .throw fun _ => rfl
  | succ fuel ih =>
    refine regular.mimics twins (fun d d' same => ?_) (fun _ _ => id) (fun _ _ => False.elim) alike
      matched
    rw [← twins.key same]
    split
    · refine .fail fun counts => ?_
      rw [same.location counts, same.name, twins.packagePath same]
    · exact ih same.context same.type _

theorem unguarded_mimics (levels : Nat) :
    Mimics disk strict worlds (rel strict Nothing p p') (unguarded visit levels ctx expr)
      (unguarded visit levels ctx' expr') := by
  induction levels generalizing ctx ctx' expr expr' with
  | zero => exact .throw fun _ => rfl
  | succ levels ih =>
    exact regular.mimics twins (fun d d' same => ih same.context same.type) (fun _ _ => id)
      (fun _ _ => False.elim) alike matched

end

/-! ### With and without the guard -/

theorem unguarded_follows {n m : Nat} (le : n ≤ m) (ctx : Context) (expr : TypeExpr) :
    Follows (unguarded visit n ctx expr) (unguarded visit m ctx expr) := by
  induction n generalizing m ctx expr with
  | zero =>
    have resolving : ∀ m ctx expr, Resolving (unguarded visit m ctx expr) := by
      intro m
      induction m with
      | zero => exact fun _ _ => .throw _
      | succ m ih => exact fun ctx expr => (regular.follows (fun d => .refl (ih _ _)) ctx expr).left
    exact ⟨.throw _, resolving m ctx expr, .throw _ _⟩
  | succ n ih =>
    obtain ⟨m, rfl⟩ : ∃ k, m = k + 1 := ⟨m - 1, by omega⟩
    exact regular.follows (fun d => ih (Nat.le_of_succ_le_succ le) _ _) ctx expr

/-- The guard only turns away. -/
theorem guarded_follows (fuel : Nat) (seen : List (String × String)) (ctx : Context)
    (expr : TypeExpr) :
    Follows (guarded visit fuel seen ctx expr) (unguarded visit fuel ctx expr) := by
  induction fuel generalizing seen ctx expr with
  | zero => exact .refl (.throw _)
  | succ fuel ih =>
    refine regular.follows (fun d => ?_) ctx expr
    split
    · exact ⟨.throw _, (ih [] _ _).right, .throw _ _⟩
    · exact ih _ _ _

/-- With so many levels one gets through what `d` stands for. -/
def Through (disk : Disk) (visit : Visit α) (levels : Nat) (d : DeclaredType) : Prop :=
  ∃ u a v, (unguarded visit levels d.context d.spec.type).runOn disk u = (.ok a, v)

omit regular in
theorem not_through_zero (d : DeclaredType) : ¬ Through disk visit 0 d := by
  rintro ⟨u, a, v, run⟩
  cases run

theorem Through.mono {n m : Nat} {d : DeclaredType} (through : Through disk visit n d) (le : n ≤ m) :
    Through disk visit m d := by
  obtain ⟨u, a, v, run⟩ := through
  exact ⟨u, a, v, (unguarded_follows regular le _ _).extending disk u a v run⟩

/-- The aliases around an expression, which cannot be got through with so many levels. -/
structure Around (disk : Disk) (visit : Visit α) (p : Package) (levels : Nat)
    (seen : List (String × String)) : Prop where
  distinct : seen.Nodup
  stuck : ∀ key ∈ seen, ∃ d : DeclaredType, p.lookup d.name = some d ∧ d.key = key ∧
    ¬ Through disk visit levels d

omit regular in
theorem Around.length_le {levels : Nat} {seen : List (String × String)}
    (around : Around disk visit p levels seen) : seen.length ≤ p.scope.length := by
  have among : seen ⊆ p.scope.map fun entry => (p.path, entry.1) := by
    intro key member
    obtain ⟨d, found, rfl, -⟩ := around.stuck key member
    have here : d.package = p := Package.lookup_package found
    obtain ⟨declaration, held, -⟩ := Option.map_eq_some_iff.mp found
    exact List.mem_map.mpr ⟨_, Json.mem_of_find? held, by rw [DeclaredType.key, here]⟩
  have few := around.distinct.length_le_of_subset among
  rwa [List.length_map] at few

/-- What ends without the guard it lets through: an alias inside itself would take fewer levels than
it takes. -/
theorem unguarded_mimicked (twins : Twins False Nothing p p) (levels fuel : Nat)
    (seen : List (String × String)) (alike : ContextsAlike False p p ctx ctx')
    (matched : Matches False Nothing true expr expr') (around : Around disk visit p levels seen)
    (enough : p.scope.length < fuel + seen.length) :
    Mimics disk False worlds (rel False Nothing p p) (unguarded visit (levels + 1) ctx expr)
      (guarded visit fuel seen ctx' expr') := by
  induction levels using Nat.strong_induction_on generalizing fuel seen ctx ctx' expr expr' with
  | _ levels ih =>
  obtain ⟨fuel, rfl⟩ : ∃ k, fuel = k + 1 := by
    have few := around.length_le
    exact ⟨fuel - 1, by omega⟩
  refine regular.mimics twins (fun d d' same => ?_) (fun _ _ => id) (fun _ _ => False.elim) alike
    matched
  have one : d = d' := by
    have found := same.found
    rw [same.name, same.found'] at found
    exact (Option.some.inj found).symm
  subst one
  by_cases through : Through disk visit levels d
  · have outside : d.key ∉ seen := by
      intro inside
      obtain ⟨e, found, key, stuck⟩ := around.stuck d.key inside
      have name : e.name = d.name := congrArg Prod.snd key
      rw [name, same.found] at found
      exact stuck (Option.some.inj found ▸ through)
    rw [if_neg (mt List.contains_iff_mem.mp outside)]
    -- the fewest levels that get through `d`
    have exists_levels : ∃ n, Through disk visit n d := ⟨levels, through⟩
    classical
    obtain ⟨fewer, fewest⟩ : ∃ fewer, Nat.find exists_levels = fewer + 1 := by
      refine Nat.exists_eq_succ_of_ne_zero fun zero => ?_
      exact not_through_zero d (zero ▸ Nat.find_spec exists_levels)
    have done : Through disk visit (fewer + 1) d := fewest ▸ Nat.find_spec exists_levels
    have le : fewer + 1 ≤ levels := fewest ▸ Nat.find_min' exists_levels through
    have inner := ih fewer le fuel (d.key :: seen) same.context same.type
      ⟨List.nodup_cons.mpr ⟨outside, around.distinct⟩, fun key member => by
        rcases List.mem_cons.mp member with rfl | member
        · exact ⟨d, same.found, rfl, Nat.find_min exists_levels (by omega)⟩
        · obtain ⟨e, found, key, stuck⟩ := around.stuck key member
          exact ⟨e, found, key, fun early => stuck (early.mono regular (by omega))⟩⟩
      (by rw [List.length_cons]; omega)
    refine ⟨fun {u u'} related {a v} run => inner.ok related ?_, fun _ counts => counts.elim⟩
    obtain ⟨u₀, a₀, v₀, run₀⟩ := done
    have elsewhere : Mimics disk False (fun w w' => w = u₀ ∧ w' = u) (rel False Nothing p p) _ _ :=
      unguarded_mimics regular twins same.context same.type (fewer + 1)
    obtain ⟨b, v', here, -⟩ := elsewhere.ok ⟨rfl, rfl⟩ run₀
    have again := (unguarded_follows regular le _ _).extending disk u b v' here
    rw [run] at again
    cases again
    exact here
  · exact .never fun u a v run => through ⟨u, a, v, run⟩

/-- The guard lets through whatever ends without it, with the same answer. -/
theorem guarded_of_unguarded (twins : Twins False Nothing p p) {levels fuel : Nat} {u v : World}
    {a : α} (alike : ContextsAlike False p p ctx ctx) (enough : p.scope.length < fuel)
    (run : (unguarded visit levels ctx expr).runOn disk u = (.ok a, v)) :
    (guarded visit fuel [] ctx expr).runOn disk u = (.ok a, v) := by
  have run := (unguarded_follows regular (Nat.le_succ levels) _ _).extending disk u a v run
  have passes : Mimics disk False (fun _ _ => True) (rel False Nothing p p) _ _ :=
    unguarded_mimicked regular twins levels fuel [] alike (.shape (.refl _ expr))
      ⟨List.nodup_nil, nofun⟩ enough
  obtain ⟨b, v', passed, -⟩ := passes.ok trivial run
  have free := (guarded_follows regular fuel [] ctx expr).extending disk u b v' passed
  have most := (unguarded_follows regular (Nat.le_max_left fuel (levels + 1)) _ _).extending
    disk u b v' free
  have most' := (unguarded_follows regular (Nat.le_max_right fuel (levels + 1)) _ _).extending
    disk u a v run
  rw [most] at most'
  cases most'
  exact passed

end

/-- Twins in which nothing stands for anything else are gone through in step. -/
theorem readable_in_step {least : Nat} (twins : Twins strict Nothing p p') :
    Readable disk least strict Nothing p p' where
  toTwins := twins
  expands matched alike := by
    refine .bind .depth fun fuel _ agreed => ?_
    subst agreed
    rw [followAliases_eq, followAliases_eq]
    exact guarded_mimics head_regular twins alike matched fuel []
  renders matched alike := by
    refine .bind .depth fun fuel _ agreed => ?_
    subst agreed
    rw [renderInside_eq, renderInside_eq]
    exact guarded_mimics renderWith_regular twins alike matched fuel []

end GoIdl.Resolve
