import GoIdl.Proofs.Compile.Cycles

/-!
# Embedded interfaces

Interfaces embed interfaces, each of them under the declaration that a name stands for. Collecting
the methods of an interface goes through all that it embeds, at any depth. It is stopped by a name
that stands for no interface, or by a declaration inside itself.
-/

namespace GoIdl.Extract

open Syntax (TypeExpr TypeName MethodDecl Position)
open Resolve

variable {α : Type} {disk : Disk} {l l' : Loader} {u v : World} {i j root : Embedded} {name : TypeName}
  {ctx : Context} {visiting : List (String × String)} {fuel : Nat}

/-! ### What names denote -/

/-- What computations are taken to answer. -/
abbrev Reading : Type 1 := (α : Type) → Compile α → α → Prop

/-- Answers in a world, whatever has to be loaded for them. -/
def readIn (disk : Disk) (v : World) : Reading := fun _ c a => ∃ w, c.runOn disk v = (.ok a, w)

/-- Answers in all worlds that know at least what `l` knows. -/
def settledBy (disk : Disk) (l : Loader) : Reading := fun _ c a => Yields disk l c a

/-- There is one answer at most. -/
def Reading.Functional (r : Reading) : Prop := ∀ {α : Type} {c : Compile α} {a b : α}, r α c a →
  r α c b → a = b

/-- The interface is what is behind the declaration, and is written where the latter leads. -/
def Behind (r : Reading) (i : Embedded) : Prop :=
  ∃ pos origin, r _ (underlying i.target) (some (.interface pos i.methods i.embeds), origin) ∧
    i.context = origin.context

/-- The name stands for a declaration with an interface behind it. -/
structure Denotes (r : Reading) (name : TypeName) (ctx : Context) (i : Embedded) : Prop where
  declared : r _ (lookupDeclared name ctx) (some i.target)
  behind : Behind r i

/-- `i` embeds `j` under a name. -/
def Embeds (r : Reading) (i j : Embedded) : Prop := ∃ name ∈ i.embeds, Denotes r name i.context j

theorem readIn_functional (disk : Disk) (v : World) : (readIn disk v).Functional := by
  rintro α c a b ⟨_, first⟩ ⟨_, second⟩
  cases first.symm.trans second
  rfl

theorem settledBy_functional (disk : Disk) (l : Loader) : (settledBy disk l).Functional :=
  fun first second => first.unique second

theorem readIn_of_settledBy {c : Compile α} {a : α} (settled : settledBy disk l α c a)
    (le : l.Le v.loader) : readIn disk v α c a :=
  ⟨v, settled v le⟩

theorem Behind.unique {r : Reading} (functional : r.Functional) (first : Behind r i)
    (second : Behind r j) (same : i.target = j.target) : i = j := by
  obtain ⟨target, methods, embeds, context⟩ := i
  obtain ⟨target', methods', embeds', context'⟩ := j
  dsimp only at same
  subst same
  obtain ⟨_, origin, behind, rfl⟩ := first
  obtain ⟨_, origin', behind', rfl⟩ := second
  cases functional behind behind'
  rfl

theorem Denotes.unique {r : Reading} (functional : r.Functional) (first : Denotes r name ctx i)
    (second : Denotes r name ctx j) : i = j :=
  first.behind.unique functional second.behind
    (Option.some.inj (functional first.declared second.declared))

theorem Behind.imp {r r' : Reading} (behind : Behind r i) (more : ∀ {α c a}, r α c a → r' α c a) :
    Behind r' i := by
  obtain ⟨pos, origin, here, same⟩ := behind
  exact ⟨pos, origin, more here, same⟩

theorem Denotes.imp {r r' : Reading} (denotes : Denotes r name ctx i)
    (more : ∀ {α c a}, r α c a → r' α c a) : Denotes r' name ctx i :=
  ⟨more denotes.declared, denotes.behind.imp more⟩

theorem Embeds.mono (embeds : Embeds (settledBy disk l) i j) (le : l.Le l') :
    Embeds (settledBy disk l') i j := by
  obtain ⟨name, listed, denotes⟩ := embeds
  exact ⟨name, listed, denotes.imp fun settled => Yields.mono settled le⟩

theorem reached_mono (reached : Relation.ReflTransGen (Embeds (settledBy disk l)) i j)
    (le : l.Le l') : Relation.ReflTransGen (Embeds (settledBy disk l')) i j :=
  Relation.ReflTransGen.mono (fun _ _ step => Embeds.mono step le) _ _ reached

/-- Every name in the interfaces that one comes to from `root` denotes an interface. -/
def AllDenote (r : Reading) (root : Embedded) : Prop :=
  ∀ i, Relation.ReflTransGen (Embeds r) root i → ∀ name ∈ i.embeds, ∃ j, Denotes r name i.context j

/-- It is settled what the name stands for and what is behind that, be it an interface or not. -/
def Settled (disk : Disk) (l : Loader) (name : TypeName) (ctx : Context) : Prop :=
  ∃ found, Yields disk l (lookupDeclared name ctx) found ∧
    ∀ d, found = some d → ∃ behind, Yields disk l (underlying d) behind

/-- All names are settled in the interfaces that one comes to from `root`. -/
def AllSettled (disk : Disk) (l : Loader) (root : Embedded) : Prop :=
  ∀ i, Relation.ReflTransGen (Embeds (settledBy disk l)) root i → ∀ name ∈ i.embeds,
    Settled disk l name i.context

theorem Settled.mono (settled : Settled disk l name ctx) (le : l.Le l') : Settled disk l' name ctx := by
  obtain ⟨found, stands, more⟩ := settled
  exact ⟨found, stands.mono le, fun d same => (more d same).imp fun _ behind => behind.mono le⟩

theorem AllDenote.settled (denote : AllDenote (settledBy disk l) root) : AllSettled disk l root := by
  intro i reached name listed
  obtain ⟨j, declared, _, _, behind, _⟩ := denote i reached name listed
  refine ⟨_, declared, fun d same => ?_⟩
  cases same
  exact ⟨_, behind⟩

namespace AllSettled

theorem along (settled : AllSettled disk l root)
    (reached : Relation.ReflTransGen (Embeds (settledBy disk l)) root i) : AllSettled disk l i :=
  fun j path => settled j (reached.trans path)

/-- Names denote no other interfaces when more is loaded. -/
theorem denotes (settled : AllSettled disk l i) (le : l.Le l') (listed : name ∈ i.embeds)
    (later : Denotes (settledBy disk l') name i.context j) :
    Denotes (settledBy disk l) name i.context j := by
  obtain ⟨found, stands, more⟩ := settled i .refl name listed
  obtain ⟨pos, origin, behind, same⟩ := later.behind
  cases (stands.mono le).unique later.declared
  obtain ⟨_, settled'⟩ := more _ rfl
  cases (settled'.mono le).unique behind
  exact ⟨stands, pos, origin, settled', same⟩

/-- Loading more brings nothing into reach that was not. -/
theorem reached (settled : AllSettled disk l root) (le : l.Le l')
    (reached : Relation.ReflTransGen (Embeds (settledBy disk l')) root i) :
    Relation.ReflTransGen (Embeds (settledBy disk l)) root i := by
  induction reached with
  | refl => exact .refl
  | tail _ last ih =>
    obtain ⟨name, listed, later⟩ := last
    exact ih.tail ⟨name, listed, (settled.along ih).denotes le listed later⟩

end AllSettled

theorem Behind.known (behind : Behind (settledBy disk l) i) (sound : l.Sound)
    (known : i.target.Known l) : i.context.package ∈ l.packages := by
  obtain ⟨_, origin, found, same⟩ := behind
  rw [same]
  exact (underlying_known sound known found).package

theorem Denotes.known (denotes : Denotes (settledBy disk l) name ctx i) (sound : l.Sound)
    (context : ctx.package ∈ l.packages) : i.target.Known l ∧ i.context.package ∈ l.packages := by
  have known := lookupDeclared_known sound context denotes.declared
  exact ⟨known, denotes.behind.known sound known⟩

theorem reached_known (sound : l.Sound) (context : root.context.package ∈ l.packages)
    (reached : Relation.ReflTransGen (Embeds (settledBy disk l)) root i) :
    i.context.package ∈ l.packages := by
  induction reached with
  | refl => exact context
  | tail _ last ih =>
    obtain ⟨_, _, denotes⟩ := last
    exact (denotes.known sound ih).2

theorem embedded_denotes (sound : l.Sound) (yields : Yields disk l (embedded visiting name ctx) i) :
    Denotes (settledBy disk l) name ctx i := by
  obtain ⟨read, _, pos, origin, place, behind⟩ := embedded_yields sound yields
  exact ⟨read, pos, origin, behind, place⟩

/-! ### What has been collected -/

/-- What an interface embeds whose methods have been collected has been collected too. -/
theorem methodsWithin_inside {all : List Collected} (sound : l.Sound)
    (yields : Yields disk l (methodsWithin (fuel + 1) visiting i.methods i.embeds i.context) all)
    (listed : name ∈ i.embeds) :
    ∃ j more, Denotes (settledBy disk l) name i.context j ∧
      Yields disk l (methodsWithin fuel (j.target.key :: visiting) j.methods j.embeds j.context)
        more := by
  obtain ⟨parts, each, -⟩ := methodsWithin_parts sound yields
  obtain ⟨⟨j, more⟩, -, inside, collected⟩ := exists_right_of_forall₂ each listed
  exact ⟨j, more, embedded_denotes sound inside, collected⟩

/-- From an interface whose methods have been collected no way along embedded interfaces goes on
without an end. -/
theorem methodsWithin_ends_at {all : List Collected} (sound : l.Sound)
    (yields : Yields disk l (methodsWithin fuel visiting i.methods i.embeds i.context) all) :
    Ends (Embeds (settledBy disk l)) i := by
  induction fuel generalizing visiting i all with
  | zero => exact (yields_throw yields).elim
  | succ fuel ih =>
    refine ⟨i, fun j embeds => ?_⟩
    obtain ⟨name, listed, denotes⟩ := embeds
    obtain ⟨k, more, found, collected⟩ := methodsWithin_inside sound yields listed
    cases found.unique (settledBy_functional disk l) denotes
    exact ih collected

/-- All names denote interfaces that one comes to from such an interface. -/
theorem methodsWithin_denote {all : List Collected} (sound : l.Sound)
    (yields : Yields disk l (methodsWithin fuel visiting i.methods i.embeds i.context) all) :
    AllDenote (settledBy disk l) i := by
  induction fuel generalizing visiting i all with
  | zero => exact (yields_throw yields).elim
  | succ fuel ih =>
    intro j reached name listed
    rcases Relation.ReflTransGen.cases_head reached with rfl | ⟨k, ⟨name', listed', denotes⟩, path⟩
    · obtain ⟨k, _, found, _⟩ := methodsWithin_inside sound yields listed
      exact ⟨k, found⟩
    · obtain ⟨k', more, found, collected⟩ := methodsWithin_inside sound yields listed'
      cases found.unique (settledBy_functional disk l) denotes
      exact ih collected j path name listed

/-! ### What stops collecting -/

/-- Collecting the methods of `root` has been stopped in some interface that has been come to: there
a name stands for a declaration that has been come through on the way, or it denotes no interface. -/
inductive Stopped (disk : Disk) (root : Embedded) (failure : Failure) (v : World) : Prop where
  | cycle {a i : Embedded} {name : TypeName} {d : DeclaredType}
      (of : failure.Of .interfaceCycle)
      (reached : Relation.TransGen (Embeds (settledBy disk v.loader)) root a)
      (path : Relation.ReflTransGen (Embeds (settledBy disk v.loader)) a i) (listed : name ∈ i.embeds)
      (stands : Yields disk v.loader (lookupDeclared name i.context) (some d))
      (again : d.key = a.target.key)
  | unresolved {i : Embedded} {name : TypeName}
      (reached : Relation.ReflTransGen (Embeds (settledBy disk v.loader)) root i)
      (listed : name ∈ i.embeds) (nothing : ∀ j, ¬ Denotes (readIn disk v) name i.context j)
      (other : Settled disk v.loader name i.context → ¬ failure.Of .interfaceCycle)

/-- The interfaces around `i`, which is among what `root` embeds. -/
abbrev Around (disk : Disk) (l : Loader) (root i : Embedded) (visiting : List (String × String)) :
    Prop :=
  Trail (·.target.key) (Relation.TransGen (Embeds (settledBy disk l)) root)
    (Embeds (settledBy disk l)) (· = i) visiting

theorem Around.mono (around : Around disk l root i visiting) (le : l.Le l') :
    Around disk l' root i visiting :=
  have more : ∀ a b, Embeds (settledBy disk l) a b → Embeds (settledBy disk l') a b :=
    fun _ _ step => step.mono le
  Trail.mono around (fun _ => Relation.TransGen.mono more root _) more fun _ => id

theorem behind_fails {target : DeclaredType} {error : DefinitionError} (sound : v.loader.Sound)
    (reached : Relation.ReflTransGen (Embeds (settledBy disk v.loader)) root i)
    (listed : name ∈ i.embeds) (known : target.Known v.loader)
    (stands : Yields disk v.loader (lookupDeclared name i.context) (some target))
    (cause : ∀ name, error.cause ≠ .interfaceCycle name) :
    FailsAs disk v (do
      match ← underlying target with
      | (some (.interface _ methods embeds), origin) =>
        return (⟨target, methods, embeds, origin.context⟩ : Embedded)
      | _ => Compile.fail error) (Stopped disk root) := by
  refine .bind (fun failure w run => ?_) fun shape w run => ?_
  · obtain ⟨grows, again⟩ := underlying_fails_again sound known run
    refine .unresolved (reached_mono reached grows.le) listed (fun j denotes => ?_) fun settled => ?_
    · cases readIn_functional disk w (readIn_of_settledBy stands grows.le) denotes.declared
      obtain ⟨_, _, ⟨_, found⟩, _⟩ := denotes.behind
      cases again.symm.trans found
    · obtain ⟨_, stands', more⟩ := settled
      cases (stands.mono grows.le).unique stands'
      obtain ⟨_, behind⟩ := more target rfl
      cases again.symm.trans (behind w (.refl _))
  · obtain ⟨grows, shown⟩ := (underlying_resolving target).ok sound run
    split
    · exact .pure _
    · rename_i other
      refine .fail (.unresolved (reached_mono reached grows.le) listed (fun j denotes => ?_) fun _ =>
        Failure.not_of cause)
      cases readIn_functional disk w (readIn_of_settledBy stands grows.le) denotes.declared
      obtain ⟨_, _, found, _⟩ := denotes.behind
      cases readIn_functional disk w (readIn_of_settledBy shown (.refl _)) found
      exact other _ _ _ _ rfl

theorem embedded_fails (sound : u.loader.Sound) (context : i.context.package ∈ u.loader.packages)
    (reached : Relation.ReflTransGen (Embeds (settledBy disk u.loader)) root i)
    (listed : name ∈ i.embeds) (around : Around disk u.loader root i visiting) :
    FailsAs disk u (embedded visiting name i.context) (Stopped disk root) := by
  refine FailsAs.bind (fun failure v run => ?_) fun found v run => ?_
  · obtain ⟨grows, again⟩ := (lookupDeclared_asks name i.context).fails_again sound run
    refine .unresolved (reached_mono reached grows.le) listed (fun j denotes => ?_) fun settled => ?_
    · obtain ⟨w, found⟩ := denotes.declared
      cases again.symm.trans found
    · obtain ⟨found, stands, -⟩ := settled
      cases again.symm.trans (stands v (.refl _))
  · obtain ⟨grows, stands⟩ := (lookupDeclared_resolving name i.context).ok sound run
    have come := reached_mono reached grows.le
    cases found with
    | none =>
      refine .fail (.unresolved come listed (fun j denotes => ?_) fun _ =>
        Failure.not_of fun _ same => by cases same)
      cases readIn_functional disk v (readIn_of_settledBy stands (.refl _)) denotes.declared
    | some target =>
      dsimp only
      by_cases met : target.key ∈ visiting
      · rw [List.contains_iff_mem.mpr met]
        obtain ⟨a, b, passed, same, path, rfl⟩ := around.mono grows.le _ met
        intro failure w failed
        cases failed
        exact .cycle ⟨_, target.name, rfl, rfl⟩ passed path listed stands same.symm
      · have outside : visiting.contains target.key = false :=
          eq_false_of_ne_true (mt List.contains_iff_mem.mp met)
        rw [outside]
        have known := lookupDeclared_known grows.sound (grows.le.mem context) stands
        exact FailsAs.settled (a := ()) rfl
          (behind_fails grows.sound come listed known stands fun _ same => by cases same)

theorem methodsWithin_fails (sound : u.loader.Sound)
    (context : i.context.package ∈ u.loader.packages)
    (reached : Relation.ReflTransGen (Embeds (settledBy disk u.loader)) root i)
    (spare : Spare disk u.loader visiting fuel) (around : Around disk u.loader root i visiting) :
    FailsAs disk u (methodsWithin fuel visiting i.methods i.embeds i.context) (Stopped disk root) := by
  induction fuel generalizing u visiting i with
  | zero => exact absurd rfl spare.fuel_ne_zero
  | succ fuel ih =>
    -- By induction on the names that are left: each starts in the world that those before it leave.
    have gather : ∀ (names : List TypeName) (into : List Collected) (v : World), names ⊆ i.embeds →
        Onward disk u v → FailsAs disk v (names.foldlM (addEmbedded fuel visiting i.context) into)
          (Stopped disk root) := by
      intro names
      induction names with
      | nil => exact fun into _ _ _ => .pure into
      | cons name rest ihRest =>
        intro into v subset onward
        obtain ⟨listed, later⟩ := List.cons_subset.mp subset
        have here := onward.le.mem context
        have come := reached_mono reached onward.le
        have inside : FailsAs disk v (addEmbedded fuel visiting i.context into name)
            (Stopped disk root) := by
          refine (embedded_fails onward.sound here come listed (around.mono onward.le)).bind
            fun e w run => ?_
          have resolving := embedded_resolving visiting name i.context
          obtain ⟨grows, yields⟩ := resolving.ok onward.sound run
          have all := onward.trans ⟨grows, resolving.budget run⟩
          obtain ⟨known, target, fresh⟩ := embedded_known grows.sound (grows.le.mem here) yields
          have step : Embeds (settledBy disk w.loader) i e :=
            ⟨name, listed, embedded_denotes grows.sound yields⟩
          have passed : Relation.TransGen (Embeds (settledBy disk w.loader)) root e :=
            .tail' (reached_mono come grows.le) step
          have around' : Around disk w.loader root e (e.target.key :: visiting) :=
            (around.mono all.le).through passed (fun b same => same ▸ step) rfl
          -- The key is new on this way, so one level of fuel is spent on one declaration.
          have spare' : Spare disk w.loader (e.target.key :: visiting) fuel :=
            (spare.onward all).through target fresh
          exact (ih grows.sound known passed.to_reflTransGen spare' around').bind fun _ _ _ => .pure _
        have resolving := addEmbedded_resolving fuel visiting i.context into name
        refine inside.bind fun next w run => ihRest next w later (onward.trans ?_)
        exact ⟨(resolving.ok onward.sound run).1, resolving.budget run⟩
    rw [methodsWithin_succ]
    exact (gather i.embeds _ u (fun _ => id) (.refl sound)).bind fun _ _ _ => .pure _

/-- Where collecting the methods of an interface fails, something among what it embeds accounts for
it. -/
theorem collectMethods_fails (sound : u.loader.Sound)
    (context : i.context.package ∈ u.loader.packages) :
    FailsAs disk u (collectMethods i.methods i.embeds i.context) (Stopped disk i) :=
  .deep (methodsWithin_fails sound context .refl (.start disk _) .nil)

end GoIdl.Extract
