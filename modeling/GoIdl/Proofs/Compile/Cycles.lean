import GoIdl.Proofs.Compile.Failing
import GoIdl.Proofs.Compile.Guarding
import Mathlib.Order.WellFounded

/-!
# Cycles of aliases and of named types

What follows aliases or named types remembers the declarations that it has come through, and refuses
to come through one again. Where all names resolve, in packages with distinct paths, it refuses
exactly what would never end: a declaration that is met again leads back to itself, and whatever has
been got through has no way on without an end.
-/

namespace GoIdl

open Syntax (TypeExpr TypeName)

/-! ### Ways without an end -/

section

variable {ν : Type} {step : ν → ν → Prop} {a b : ν}

/-- From `a` on there is a way that never ends. -/
def Endless (step : ν → ν → Prop) (a : ν) : Prop :=
  ∃ way : Nat → ν, way 0 = a ∧ ∀ n, step (way n) (way (n + 1))

/-- Every way from `a` on ends. -/
def Ends (step : ν → ν → Prop) (a : ν) : Prop := Acc (fun next now => step now next) a

theorem endless_iff_not_ends : Endless step a ↔ ¬ Ends step a :=
  (not_acc_iff_exists_descending_chain (r := fun next now => step now next)).symm

theorem Ends.along (ends : Ends step a) (path : Relation.ReflTransGen step a b) : Ends step b := by
  induction path with
  | refl => exact ends
  | tail _ last ih => exact ih.inv last

theorem Ends.not_cycle (ends : Ends step a) : ¬ Relation.TransGen step a a := by
  induction ends with
  | intro a _ ih =>
    intro cycle
    obtain ⟨b, first, back⟩ := Relation.TransGen.head'_iff.mp cycle
    exact ih b first (Relation.TransGen.tail' back first)

theorem endless_of_cycle (path : Relation.ReflTransGen step a b)
    (cycle : Relation.TransGen step b b) : Endless step a :=
  endless_iff_not_ends.mpr fun ends => (ends.along path).not_cycle cycle

theorem Ends.mono {step' : ν → ν → Prop} (ends : Ends step a) (fewer : ∀ x y, step' x y → step x y) :
    Ends step' a :=
  Subrelation.accessible (fun {y x} => fewer x y) ends

/-! ### What has been come through -/

variable {key : ν → String × String} {good here there : ν → Prop} {seen : List (String × String)}

/-- What has been come through, by key: it is `good`, and it leads to something that is `here`. -/
def Trail (key : ν → String × String) (good : ν → Prop) (step : ν → ν → Prop) (here : ν → Prop)
    (seen : List (String × String)) : Prop :=
  ∀ k ∈ seen, ∃ a b, good a ∧ key a = k ∧ Relation.ReflTransGen step a b ∧ here b

namespace Trail

theorem nil : Trail key good step here [] := fun _ none => absurd none List.not_mem_nil

/-- What is met again leads to where it is met. -/
theorem meets (trail : Trail key good step here seen) (next : ∀ b, here b → step b a)
    (met : key a ∈ seen) : ∃ c, good c ∧ key c = key a ∧ Relation.TransGen step c a := by
  obtain ⟨c, b, known, same, path, at_⟩ := trail (key a) met
  exact ⟨c, known, same, Relation.TransGen.tail' path (next b at_)⟩

theorem through (trail : Trail key good step here seen) (known : good a)
    (next : ∀ b, here b → step b a) (arrived : there a) :
    Trail key good step there (key a :: seen) := by
  intro k member
  rcases List.mem_cons.mp member with rfl | before
  · exact ⟨a, a, known, rfl, .refl, arrived⟩
  · obtain ⟨c, b, known', same, path, at_⟩ := trail k before
    exact ⟨c, a, known', same, path.tail (next b at_), arrived⟩

theorem mono {good' : ν → Prop} {step' : ν → ν → Prop} (trail : Trail key good step here seen)
    (better : ∀ a, good a → good' a) (more : ∀ a b, step a b → step' a b)
    (still : ∀ b, here b → there b) : Trail key good' step' there seen := by
  intro k member
  obtain ⟨a, b, known, same, path, at_⟩ := trail k member
  exact ⟨a, b, better a known, same, Relation.ReflTransGen.mono more _ _ path, still b at_⟩

end Trail

end

/-! ### Refusing exactly -/

variable {α : Type} {disk : Disk} {l : Loader} {u v : World} {c : Compile α} {kind : String → Cause}
  {ctx : Context} {expr : TypeExpr} {d e : DeclaredType} {seen : List (String × String)} {fuel : Nat}

/-- An error of a kind that names a declaration. -/
def Failure.Of (kind : String → Cause) (failure : Failure) : Prop :=
  ∃ error name, failure = .definition error ∧ error.cause = kind name

theorem Failure.not_of {error : DefinitionError} {kind : String → Cause}
    (other : ∀ name, error.cause ≠ kind name) : ¬ (Failure.definition error).Of kind := by
  rintro ⟨_, name, same, cause⟩
  cases same
  exact other name cause

/-- `c` ends with an error of the kind. -/
def Raises (disk : Disk) (u : World) (c : Compile α) (kind : String → Cause) : Prop :=
  ∃ failure v, c.runOn disk u = (.error failure, v) ∧ failure.Of kind

/-- `c` is refused with an error of the kind exactly if `bad`, and answers otherwise. -/
structure RefusesExactly (disk : Disk) (u : World) (c : Compile α) (kind : String → Cause)
    (bad : Prop) : Prop where
  raises : Raises disk u c kind ↔ bad
  returns : (∃ a v, c.runOn disk u = (.ok a, v)) ↔ ¬ bad

theorem RefusesExactly.intro {bad : Prop} (resolving : Resolving c) (sound : u.loader.Sound)
    {tells : Failure → World → Prop} (fails : FailsAs disk u c tells)
    (accounts : ∀ failure v, Grows u v → tells failure v → failure.Of kind ∧ bad)
    (passes : ∀ a v, Grows u v → Yields disk v.loader c a → ¬ bad) :
    RefusesExactly disk u c kind bad := by
  rcases fails.outcome resolving sound with
    ⟨a, v, run, grows, settled⟩ | ⟨failure, v, run, grows, told⟩
  · have fine := passes a v grows settled
    refine ⟨⟨?_, fun here => absurd here fine⟩, fun _ => fine, fun _ => ⟨a, v, run⟩⟩
    rintro ⟨failure, v', run', -⟩
    cases run.symm.trans run'
  · obtain ⟨of, here⟩ := accounts failure v grows told
    refine ⟨⟨fun _ => here, fun _ => ⟨failure, v, run, of⟩⟩, ?_, fun fine => absurd here fine⟩
    rintro ⟨a, v', run'⟩
    cases run.symm.trans run'

/-- Where no two packages share a path, declarations are told apart by their keys. -/
theorem DeclaredType.Known.eq_of_key (known : d.Known l) (known' : e.Known l)
    (paths : (l.packages.map (·.path)).Nodup) (same : d.key = e.key) : d = e := by
  obtain ⟨path, name⟩ := Prod.mk.inj same
  have package : d.package = e.package :=
    List.inj_on_of_nodup_map paths known.package known'.package path
  exact known.eq_of_package_eq known' package name

namespace Resolve

theorem aliasCycle_of (d : DeclaredType) (u : World) :
    FailsAs disk u (aliasCycle d : Compile α) fun failure _ => failure.Of .aliasCycle :=
  .fail ⟨_, d.name, rfl, rfl⟩

theorem yields_lookupDeclared_some {name : TypeName}
    (yields : Yields disk l (lookup name ctx) (some (.declared d))) :
    Yields disk l (lookupDeclared name ctx) (some d) :=
  yields.bind (.pure _)

theorem yields_lookupDeclared_none {name : TypeName} {found : Option ResolvedType}
    (yields : Yields disk l (lookup name ctx) found) (other : ∀ d, found ≠ some (.declared d)) :
    Yields disk l (lookupDeclared name ctx) none := by
  refine yields.bind ?_
  split
  · exact absurd rfl (other _)
  · exact .pure _

/-! ### Aliases that expressions lead to -/

/-- One of the names stands for the alias `d`. -/
structure LeadsToAlias (disk : Disk) (l : Loader) (names : List TypeName) (ctx : Context)
    (d : DeclaredType) : Prop where
  isAlias : d.spec.isAlias = true
  named : ∃ name ∈ names, Yields disk l (lookupDeclared name ctx) (some d)

/-- What the alias `d` stands for leads to the alias `e`, by the names that count in it. -/
def AliasStep (disk : Disk) (l : Loader) (names : TypeExpr → List TypeName) (d e : DeclaredType) :
    Prop :=
  LeadsToAlias disk l (names d.spec.type) d.context e

/-- Where one comes to from an expression along aliases. -/
inductive ComesTo (disk : Disk) (l : Loader) (names : TypeExpr → List TypeName) (expr : TypeExpr)
    (ctx : Context) : TypeExpr → Context → Prop where
  | here : ComesTo disk l names expr ctx expr ctx
  | through {expr' : TypeExpr} {ctx' : Context} {d : DeclaredType} :
      ComesTo disk l names expr ctx expr' ctx' → LeadsToAlias disk l (names expr') ctx' d →
        ComesTo disk l names expr ctx d.spec.type d.context

/-- All names resolve that one comes to from an expression along aliases. -/
def NamesResolve (disk : Disk) (l : Loader) (names : TypeExpr → List TypeName) (expr : TypeExpr)
    (ctx : Context) : Prop :=
  ∀ expr' ctx', ComesTo disk l names expr ctx expr' ctx' → ∀ name ∈ names expr',
    ∃ found, Yields disk l (lookup name ctx') found

/-- The alias can be come to from an expression, along other aliases. -/
def Reaches (disk : Disk) (l : Loader) (names : TypeExpr → List TypeName) (expr : TypeExpr)
    (ctx : Context) (d : DeclaredType) : Prop :=
  ∃ first, LeadsToAlias disk l (names expr) ctx first ∧
    Relation.ReflTransGen (AliasStep disk l names) first d

theorem reaches_of_comesTo {names : TypeExpr → List TypeName} {expr' : TypeExpr} {ctx' : Context}
    (came : ComesTo disk l names expr ctx expr' ctx') (leads : LeadsToAlias disk l (names expr') ctx' d) :
    Reaches disk l names expr ctx d := by
  induction came generalizing d with
  | here => exact ⟨d, leads, .refl⟩
  | through _ before ih =>
    obtain ⟨first, start, path⟩ := ih before
    exact ⟨first, start, path.tail leads⟩

theorem LeadsToAlias.mono {l' : Loader} {names : List TypeName}
    (leads : LeadsToAlias disk l names ctx d) (le : l.Le l') : LeadsToAlias disk l' names ctx d := by
  obtain ⟨name, listed, found⟩ := leads.named
  exact ⟨leads.isAlias, name, listed, found.mono le⟩

theorem LeadsToAlias.known {names : List TypeName} (leads : LeadsToAlias disk l names ctx d)
    (sound : l.Sound) (context : ctx.package ∈ l.packages) : d.Known l := by
  obtain ⟨name, -, found⟩ := leads.named
  exact lookupDeclared_known sound context found

/-! ### Ways through expressions and the names on them -/

/-- A way through expressions on which exactly `names` are looked up: once these resolve, it fails
only inside the aliases among them, and it gets through none of these without its answer. -/
structure Heeds (disk : Disk) (visit : Visit α) (names : TypeExpr → List TypeName) : Prop where
  resolving : ∀ {ofAlias : DeclaredType → Compile α}, (∀ d, Resolving (ofAlias d)) →
    ∀ ctx expr, Resolving (visit ofAlias ctx expr)
  fails : ∀ {ofAlias : DeclaredType → Compile α} {l : Loader} {u : World} {ctx expr tells},
    l.Le u.loader → u.loader.Sound → (∀ d, Resolving (ofAlias d)) →
    (∀ name ∈ names expr, ∃ found, Yields disk l (lookup name ctx) found) →
    (∀ d v, Onward disk u v → LeadsToAlias disk l (names expr) ctx d →
      FailsAs disk v (ofAlias d) tells) → FailsAs disk u (visit ofAlias ctx expr) tells
  passes : ∀ {ofAlias : DeclaredType → Compile α} {l : Loader} {ctx expr a d}, l.Sound →
    (∀ d, Resolving (ofAlias d)) → Yields disk l (visit ofAlias ctx expr) a →
    LeadsToAlias disk l (names expr) ctx d → ∃ b, Yields disk l (ofAlias d) b

section

variable {ofAlias : DeclaredType → Compile Rendered} {names : List TypeName}
  {f : (DeclaredType → Compile Rendered) → Compile α}

theorem Naming.fails {tells : Failure → World → Prop} (naming : Naming ctx names f)
    (le : l.Le u.loader) (onward : Onward disk u v) (resolving : ∀ d, Resolving (ofAlias d))
    (resolve : ∀ name ∈ names, ∃ found, Yields disk l (lookup name ctx) found)
    (aliases : ∀ d v, Onward disk u v → LeadsToAlias disk l names ctx d →
      FailsAs disk v (ofAlias d) tells) : FailsAs disk v (f ofAlias) tells := by
  induction naming generalizing v with
  | pure a => exact .pure a
  | name name =>
    obtain ⟨found, settled⟩ := resolve name List.mem_cons_self
    refine .settled (settled v (le.trans onward.le)) ?_
    split
    · exact .pure _
    · exact .pure _
    · rename_i d
      by_cases isAlias : d.spec.isAlias = true
      · rw [if_pos isAlias]
        exact aliases d v onward ⟨isAlias, name, List.mem_cons_self, yields_lookupDeclared_some settled⟩
      · rw [if_neg isAlias]
        exact .pure _
  | map _ f ih => exact (ih onward resolve aliases).bind fun _ _ _ => .pure _
  | bind first _ ihFirst ihLater =>
    obtain ⟨resolveFirst, resolveLater⟩ := List.forall_mem_append.mp resolve
    have aliasesFirst := fun d v onward (leads : LeadsToAlias disk l _ ctx d) => aliases d v onward
      ⟨leads.isAlias, leads.named.imp fun _ => And.imp_left (List.mem_append_left _)⟩
    have aliasesLater := fun d v onward (leads : LeadsToAlias disk l _ ctx d) => aliases d v onward
      ⟨leads.isAlias, leads.named.imp fun _ => And.imp_left (List.mem_append_right _)⟩
    refine (ihFirst onward resolveFirst aliasesFirst).bind fun a v' run => ?_
    have resolvingFirst := first.rendering.resolving resolving
    have next : Onward disk v v' :=
      ⟨(resolvingFirst.ok onward.sound run).1, resolvingFirst.budget run⟩
    exact ihLater a (onward.trans next) resolveLater aliasesLater

theorem Naming.passes {a : α} (naming : Naming ctx names f) (sound : l.Sound)
    (resolving : ∀ d, Resolving (ofAlias d)) (yields : Yields disk l (f ofAlias) a)
    (leads : LeadsToAlias disk l names ctx d) : ∃ b, Yields disk l (ofAlias d) b := by
  induction naming with
  | pure a =>
    obtain ⟨_, none, _⟩ := leads.named
    exact absurd none List.not_mem_nil
  | name name =>
    obtain ⟨_, only, stands⟩ := leads.named
    cases List.mem_singleton.mp only
    obtain ⟨found, settled, yields⟩ := Resolving.bind_yields (lookup_resolving ..)
      (fun _ => by
        split
        · exact .pure _
        · exact .pure _
        · split
          · exact resolving _
          · exact .pure _) sound yields
    cases settled.unique (yields_lookupDeclared sound stands)
    dsimp only at yields
    rw [if_pos leads.isAlias] at yields
    exact ⟨_, yields⟩
  | map naming f ih =>
    obtain ⟨b, yields, -⟩ := Resolving.bind_yields (naming.rendering.resolving resolving)
      (fun _ => .pure _) sound yields
    exact ih yields leads
  | bind first later ihFirst ihLater =>
    obtain ⟨b, yieldsFirst, yieldsLater⟩ :=
      Resolving.bind_yields (first.rendering.resolving resolving)
        (fun b => (later b).rendering.resolving resolving) sound yields
    obtain ⟨name, listed, stands⟩ := leads.named
    rcases List.mem_append.mp listed with early | late
    · exact ihFirst yieldsFirst ⟨leads.isAlias, name, early, stands⟩
    · exact ihLater b yieldsLater ⟨leads.isAlias, name, late, stands⟩

end

theorem renderWith_heeds : Heeds disk renderWith namesIn where
  resolving resolving ctx expr := (renderWith_rendering ctx expr).resolving resolving
  fails le sound resolving resolve aliases :=
    (renderWith_naming _ _).fails le (.refl sound) resolving resolve aliases
  passes sound resolving yields leads :=
    (renderWith_naming _ _).passes sound resolving yields leads

/-- The name that an expression is, if it is one. -/
def headNames : TypeExpr → List TypeName
  | .named name => [name]
  | _ => []

theorem head_resolving {ofAlias : DeclaredType → Compile (TypeExpr × Context)}
    (resolving : ∀ d, Resolving (ofAlias d)) (ctx : Context) (expr : TypeExpr) :
    Resolving (head ofAlias ctx expr) := by
  unfold head
  split
  · refine .bind (lookupDeclared_resolving ..) fun found => ?_
    split
    · exact .pure _
    · split
      · exact .pure _
      · exact resolving _
  · exact .pure _

theorem head_heeds : Heeds disk head headNames where
  resolving := head_resolving
  fails {_ _ u _ _ _} le sound _ resolve aliases := by
    unfold head
    split
    · rename_i name
      obtain ⟨found, settled⟩ := resolve name List.mem_cons_self
      by_cases declared : ∃ d, found = some (.declared d)
      · obtain ⟨d, rfl⟩ := declared
        have stands := yields_lookupDeclared_some settled
        refine .settled (stands u le) ?_
        by_cases isAlias : d.spec.isAlias = true
        · simp only [isAlias, Bool.not_true, Bool.false_eq_true, if_false]
          exact aliases d u (.refl sound) ⟨isAlias, name, List.mem_cons_self, stands⟩
        · simp only [isAlias, Bool.not_false, if_true]
          exact .pure _
      · have stands := yields_lookupDeclared_none settled fun d same => declared ⟨d, same⟩
        exact .settled (stands u le) (.pure _)
    · exact .pure _
  passes sound resolving yields leads := by
    unfold head at yields
    obtain ⟨name, listed, stands⟩ := leads.named
    split at yields
    · cases List.mem_singleton.mp listed
      obtain ⟨found, settled, yields⟩ := Resolving.bind_yields (lookupDeclared_resolving ..)
        (fun found => by
          split
          · exact .pure _
          · split
            · exact .pure _
            · exact resolving _) sound yields
      cases settled.unique stands
      simp only [leads.isAlias, Bool.not_true, Bool.false_eq_true, if_false] at yields
      exact ⟨_, yields⟩
    · rename_i other
      exact absurd listed (by unfold headNames; split <;> simp_all)

/-! ### Ways with a guard -/

section

variable {visit : Visit α} {names : TypeExpr → List TypeName} (heeds : Heeds disk visit names)

include heeds

theorem guarded_resolving (fuel : Nat) (seen : List (String × String)) (ctx : Context)
    (expr : TypeExpr) : Resolving (guarded visit fuel seen ctx expr) := by
  induction fuel generalizing seen ctx expr with
  | zero => exact .throw _
  | succ fuel ih =>
    refine heeds.resolving (fun d => ?_) ctx expr
    split
    · exact .throw _
    · exact ih _ _ _

/-- The guard turns away only aliases that lead to themselves. -/
theorem guarded_fails {root : TypeExpr} {rootIn : Context} (sound : l.Sound)
    (paths : (l.packages.map (·.path)).Nodup) (resolve : NamesResolve disk l names root rootIn)
    (came : ComesTo disk l names root rootIn expr ctx) (context : ctx.package ∈ l.packages)
    (le : l.Le u.loader) (sound' : u.loader.Sound) (spare : Spare disk u.loader seen fuel)
    (trail : Trail DeclaredType.key (·.Known l) (AliasStep disk l names)
      (fun d => d.spec.type = expr ∧ d.context = ctx) seen) :
    FailsAs disk u (guarded visit fuel seen ctx expr) fun failure _ => failure.Of .aliasCycle ∧
      ∃ d, Reaches disk l names root rootIn d ∧ Relation.TransGen (AliasStep disk l names) d d := by
  induction fuel generalizing u seen ctx expr with
  | zero => exact absurd rfl spare.fuel_ne_zero
  | succ fuel ih =>
    refine heeds.fails le sound' (fun d => ?_) (resolve expr ctx came) fun d v onward leads => ?_
    · split
      · exact .throw _
      · exact guarded_resolving heeds _ _ _ _
    · have known := leads.known sound context
      have next : ∀ e : DeclaredType, e.spec.type = expr ∧ e.context = ctx →
          AliasStep disk l names e d := by
        rintro e ⟨rfl, rfl⟩
        exact leads
      by_cases met : d.key ∈ seen
      · rw [if_pos (List.contains_iff_mem.mpr met)]
        obtain ⟨e, known', same, cycle⟩ := trail.meets next met
        cases known'.eq_of_key known paths same
        have reaches := reaches_of_comesTo came leads
        exact fun failure v' run => ⟨aliasCycle_of d v failure v' run, d, reaches, cycle⟩
      · have fresh : seen.contains d.key = false :=
          eq_false_of_ne_true (mt List.contains_iff_mem.mp met)
        rw [if_neg (mt List.contains_iff_mem.mp met)]
        exact ih (came.through leads) known.package (le.trans onward.le) onward.sound
          ((spare.onward onward).through (known.mono (le.trans onward.le)) fresh)
          (trail.through known next ⟨rfl, rfl⟩)

/-- What has been got through leads to no way without an end. -/
theorem guarded_ends {a : α} (sound : l.Sound)
    (yields : Yields disk l (guarded visit fuel seen ctx expr) a)
    (leads : LeadsToAlias disk l (names expr) ctx d) : Ends (AliasStep disk l names) d := by
  induction fuel generalizing seen ctx expr d a with
  | zero => exact (yields_throw yields).elim
  | succ fuel ih =>
    obtain ⟨b, inside⟩ := heeds.passes sound (fun e => by
      split
      · exact .throw _
      · exact guarded_resolving heeds _ _ _ _) yields leads
    split at inside
    · exact (yields_throw inside).elim
    · exact ⟨d, fun e next => ih inside next⟩

variable (sound : l.Sound) (paths : (l.packages.map (·.path)).Nodup)
  (context : ctx.package ∈ l.packages) (resolve : NamesResolve disk l names expr ctx)
  (le : l.Le u.loader) (sound' : u.loader.Sound)

include sound paths context resolve le sound'

theorem guarded_refuses {bad : Prop}
    (resolving : Resolving (Compile.depth >>= fun fuel => guarded visit fuel [] ctx expr))
    (of_cycle : ∀ d, Reaches disk l names expr ctx d →
      Relation.TransGen (AliasStep disk l names) d d → bad)
    (of_ends : (∀ d, LeadsToAlias disk l (names expr) ctx d → Ends (AliasStep disk l names) d) →
      ¬ bad) :
    RefusesExactly disk u (Compile.depth >>= fun fuel => guarded visit fuel [] ctx expr) .aliasCycle
      bad := by
  refine .intro resolving sound' (.deep (guarded_fails heeds sound paths resolve .here context le sound'
    (.start disk _) .nil)) ?_ fun a v grows yields => ?_
  · rintro failure v - ⟨of, d, reaches, cycle⟩
    exact ⟨of, of_cycle d reaches cycle⟩
  · obtain ⟨fuel, yields⟩ :=
      yields_deep (guarded_resolving heeds · [] ctx expr) grows.sound yields
    have more := le.trans grows.le
    exact of_ends fun d leads => (guarded_ends heeds grows.sound yields (leads.mono more)).mono
      fun _ _ step => LeadsToAlias.mono step more

end

section

variable (sound : l.Sound) (paths : (l.packages.map (·.path)).Nodup)
  (le : l.Le u.loader) (sound' : u.loader.Sound)

include sound paths le sound'

/-- Following aliases is refused exactly if it would never end. -/
theorem expandAliases_refuses (context : ctx.package ∈ l.packages)
    (resolve : NamesResolve disk l headNames expr ctx) :
    RefusesExactly disk u (expandAliases expr ctx) .aliasCycle
      (∃ d, LeadsToAlias disk l (headNames expr) ctx d ∧ Endless (AliasStep disk l headNames) d) := by
  have resolving := expandAliases_resolving expr ctx
  have same : expandAliases expr ctx = Compile.depth >>= fun fuel => guarded head fuel [] ctx expr :=
    bind_congr fun fuel => followAliases_eq fuel [] expr ctx
  rw [same] at resolving ⊢
  refine guarded_refuses head_heeds sound paths context resolve le sound' resolving ?_ ?_
  · rintro d ⟨first, leads, path⟩ cycle
    exact ⟨first, leads, endless_of_cycle path cycle⟩
  · rintro ends ⟨d, leads, endless⟩
    exact endless_iff_not_ends.mp endless (ends d leads)

/-- Rendering is refused exactly if an alias that it comes to stands for something with itself in
it. -/
theorem render_refuses (context : ctx.package ∈ l.packages)
    (resolve : NamesResolve disk l namesIn expr ctx) :
    RefusesExactly disk u (render expr ctx) .aliasCycle
      (∃ d, Reaches disk l namesIn expr ctx d ∧
        Relation.TransGen (AliasStep disk l namesIn) d d) := by
  have resolving := render_resolving expr ctx
  have same : render expr ctx = Compile.depth >>= fun fuel => guarded renderWith fuel [] ctx expr :=
    bind_congr fun fuel => renderInside_eq fuel [] ctx expr
  rw [same] at resolving ⊢
  refine guarded_refuses renderWith_heeds sound paths context resolve le sound' resolving ?_ ?_
  · exact fun d reaches cycle => ⟨d, reaches, cycle⟩
  · rintro ends ⟨d, ⟨first, leads, path⟩, cycle⟩
    exact ((ends first leads).along path).not_cycle cycle

end

/-! ### Named types -/

/-- The type of the declaration is a name, and the name stands for the next. -/
def NameStep (disk : Disk) (l : Loader) (d e : DeclaredType) : Prop :=
  ∃ name, d.spec.type = .named name ∧ Yields disk l (lookupDeclared name d.context) (some e)

/-- The names resolve that declarations are of which one comes to from `d`. -/
def RightsResolve (disk : Disk) (l : Loader) (d : DeclaredType) : Prop :=
  ∀ e, Relation.ReflTransGen (NameStep disk l) d e → ∀ name, e.spec.type = .named name →
    ∃ found, Yields disk l (lookup name e.context) found

theorem NameStep.mono {l' : Loader} (step : NameStep disk l d e) (le : l.Le l') :
    NameStep disk l' d e := by
  obtain ⟨name, shape, found⟩ := step
  exact ⟨name, shape, found.mono le⟩

theorem followNames_fails {root current : DeclaredType} (sound : l.Sound)
    (paths : (l.packages.map (·.path)).Nodup) (resolve : RightsResolve disk l root)
    (came : Relation.ReflTransGen (NameStep disk l) root current) (known : current.Known l)
    (le : l.Le u.loader) (sound' : u.loader.Sound) (spare : Spare disk u.loader seen fuel)
    (trail : Trail DeclaredType.key (·.Known l) (NameStep disk l) (NameStep disk l · current) seen) :
    FailsAs disk u (followNames fuel seen root current) fun failure _ =>
      failure.Of .typeCycle ∧ Endless (NameStep disk l) root := by
  induction fuel generalizing u seen current with
  | zero => exact absurd rfl spare.fuel_ne_zero
  | succ fuel ih =>
    unfold followNames
    by_cases met : current.key ∈ seen
    · rw [if_pos (List.contains_iff_mem.mpr met)]
      obtain ⟨e, known', same, cycle⟩ := trail.meets (fun _ => id) met
      cases known'.eq_of_key known paths same
      exact .fail ⟨⟨_, root.name, rfl, rfl⟩, endless_of_cycle came cycle⟩
    · have fresh : seen.contains current.key = false :=
        eq_false_of_ne_true (mt List.contains_iff_mem.mp met)
      rw [if_neg (mt List.contains_iff_mem.mp met)]
      split
      · rename_i name shape
        obtain ⟨found, settled⟩ := resolve current came name shape
        by_cases declared : ∃ next, found = some (.declared next)
        · obtain ⟨next, rfl⟩ := declared
          have stands := yields_lookupDeclared_some settled
          have step : NameStep disk l current next := ⟨name, shape, stands⟩
          refine .settled (stands u le) ?_
          exact ih (came.tail step) (lookupDeclared_known sound known.package stands) le sound'
            (spare.through (known.mono le) fresh) (trail.through known (fun _ => id) step)
        · have stands := yields_lookupDeclared_none settled fun d same => declared ⟨d, same⟩
          exact .settled (stands u le) (.pure _)
      · exact .pure _

theorem followNames_ends_at {root current : DeclaredType} {a : Option TypeExpr × DeclaredType}
    (sound : l.Sound) (yields : Yields disk l (followNames fuel seen root current) a) :
    Ends (NameStep disk l) current := by
  induction fuel generalizing seen current with
  | zero => exact (yields_throw yields).elim
  | succ fuel ih =>
    unfold followNames at yields
    split at yields
    · exact (yields_throw yields).elim
    · refine ⟨current, fun next step => ?_⟩
      obtain ⟨name, shape, stands⟩ := step
      split at yields
      · rename_i name' shape'
        cases shape.symm.trans shape'
        obtain ⟨found, settled, yields⟩ := Resolving.bind_yields (lookupDeclared_resolving ..)
          (fun _ => by
            split
            · exact .pure _
            · exact followNames_resolving ..) sound yields
        cases settled.unique stands
        exact ih yields
      · rename_i other
        exact absurd shape (other name)

/-- Looking for the type behind a declaration is refused exactly if it would never end. -/
theorem underlying_refuses (sound : l.Sound) (paths : (l.packages.map (·.path)).Nodup)
    (le : l.Le u.loader) (sound' : u.loader.Sound) (known : d.Known l)
    (resolve : RightsResolve disk l d) :
    RefusesExactly disk u (underlying d) .typeCycle (Endless (NameStep disk l) d) := by
  refine .intro (underlying_resolving d) sound' (.deep (followNames_fails sound paths resolve .refl
    known le sound' (.start disk _) .nil)) (fun _ _ _ => id) fun a v grows yields => ?_
  obtain ⟨fuel, yields⟩ := yields_deep (followNames_resolving · [] d d) grows.sound yields
  have ends := (followNames_ends_at grows.sound yields).mono
    fun _ _ step => NameStep.mono step (le.trans grows.le)
  exact fun endless => endless_iff_not_ends.mp endless ends

end Resolve

end GoIdl
