import GoIdl.Proofs.Compile.Alone
import GoIdl.Proofs.Compile.Embedding

/-!
# Recursive declarations

Aliases, named types and embedded interfaces are each refused exactly where following them would
never end. Diamonds, and aliases that occur more than once, are no reason to refuse anything.
-/

namespace GoIdl

open Syntax (TypeExpr TypeName MethodDecl Position)
open Resolve

variable {disk : Disk} {l : Loader} {u v : World} {i root : Embedded} {name : TypeName} {ctx : Context}
  {d : DeclaredType}

namespace Extract

/-- An interface inside itself can be come to from `root`. -/
def EmbedsCycle (r : Reading) (root : Embedded) : Prop :=
  ∃ i, Relation.ReflTransGen (Embeds r) root i ∧ Relation.TransGen (Embeds r) i i

/-- Whatever stops collecting is a cycle, or a name that denotes no interface. -/
theorem Stopped.accounted {failure : Failure} (stopped : Stopped disk root failure v) (sound : l.Sound)
    (paths : (l.packages.map (·.path)).Nodup) (context : root.context.package ∈ l.packages)
    (settled : AllSettled disk l root) (le : l.Le v.loader) :
    failure.Of .interfaceCycle ∧ EmbedsCycle (settledBy disk l) root ∨
      ¬ failure.Of .interfaceCycle ∧ ¬ AllDenote (settledBy disk l) root := by
  cases stopped with
  | @cycle a i name d of reached path listed stands again =>
    obtain ⟨b, before, _, listed', around⟩ := Relation.TransGen.tail'_iff.mp reached
    have first := settled.reached le before
    have denotes := (settled.along first).denotes le listed' around
    have come : Relation.ReflTransGen (Embeds (settledBy disk l)) root a :=
      first.tail ⟨_, listed', denotes⟩
    have inside := (settled.along come).reached le path
    have there := come.trans inside
    obtain ⟨found, stands', -⟩ := settled i there name listed
    cases (stands'.mono le).unique stands
    have known := (denotes.known sound (reached_known sound context first)).1
    have known' := lookupDeclared_known sound (reached_known sound context there) stands'
    -- No two packages share a path, so the declaration met again is the one come through.
    have same : d = a.target := known'.eq_of_key known paths again
    have last : Embeds (settledBy disk l) i a := ⟨name, listed, same ▸ stands', denotes.behind⟩
    exact .inl ⟨of, a, come, .tail' inside last⟩
  | unresolved reached listed nothing other =>
    have here := settled.reached le reached
    refine .inr ⟨other ((settled _ here _ listed).mono le), fun denote => ?_⟩
    obtain ⟨j, denotes⟩ := denote _ here _ listed
    exact nothing j (denotes.imp fun settled => readIn_of_settledBy settled le)

/-- Collecting the methods of `i` is refused for a cycle only if there is one, and it answers exactly
if there is none and all names denote interfaces. -/
structure CollectsExactly (disk : Disk) (l : Loader) (u : World) (i : Embedded) : Prop where
  raises : Raises disk u (collectMethods i.methods i.embeds i.context) .interfaceCycle →
    EmbedsCycle (settledBy disk l) i
  returns : (∃ all v, (collectMethods i.methods i.embeds i.context).runOn disk u = (.ok all, v)) ↔
    AllDenote (settledBy disk l) i ∧ ¬ EmbedsCycle (settledBy disk l) i
  refuses : AllDenote (settledBy disk l) i →
    RefusesExactly disk u (collectMethods i.methods i.embeds i.context) .interfaceCycle
      (EmbedsCycle (settledBy disk l) i)

/-- What has been collected comes from interfaces only, and from none inside itself. -/
theorem collectMethods_passes {all : List Collected} (sound : v.loader.Sound) (le : l.Le v.loader)
    (settled : AllSettled disk l i)
    (yields : Yields disk v.loader (collectMethods i.methods i.embeds i.context) all) :
    AllDenote (settledBy disk l) i ∧ ¬ EmbedsCycle (settledBy disk l) i := by
  obtain ⟨fuel, yields⟩ :=
    yields_deep (methodsWithin_resolving · [] i.methods i.embeds i.context) sound yields
  constructor
  · intro j reached name listed
    obtain ⟨k, later⟩ := methodsWithin_denote sound yields j (reached_mono reached le) name listed
    exact ⟨k, (settled.along reached).denotes le listed later⟩
  · rintro ⟨j, reached, cycle⟩
    have ends := methodsWithin_ends_at sound yields
    have more : ∀ a b, Embeds (settledBy disk l) a b → Embeds (settledBy disk v.loader) a b :=
      fun _ _ step => step.mono le
    exact (ends.along (reached_mono reached le)).not_cycle (Relation.TransGen.mono more _ _ cycle)

theorem collectMethods_exact (sound : l.Sound) (paths : (l.packages.map (·.path)).Nodup)
    (le : l.Le u.loader) (sound' : u.loader.Sound) (context : i.context.package ∈ l.packages)
    (settled : AllSettled disk l i) : CollectsExactly disk l u i := by
  have resolving := collectMethods_resolving i.methods i.embeds i.context
  have fails : FailsAs disk u (collectMethods i.methods i.embeds i.context) (Stopped disk i) :=
    collectMethods_fails sound' (le.mem context)
  have refuses : AllDenote (settledBy disk l) i →
      RefusesExactly disk u (collectMethods i.methods i.embeds i.context) .interfaceCycle
        (EmbedsCycle (settledBy disk l) i) := by
    intro denote
    refine .intro resolving sound' fails (fun failure v grows stopped => ?_) fun all v grows yields =>
      (collectMethods_passes grows.sound (le.trans grows.le) settled yields).2
    rcases stopped.accounted sound paths context settled (le.trans grows.le) with told | ⟨_, other⟩
    · exact told
    · exact absurd denote other
  refine ⟨?_, ⟨?_, fun ⟨denote, ends⟩ => (refuses denote).returns.mpr ends⟩, refuses⟩
  · rintro ⟨failure, v, run, of⟩
    rcases fails.outcome resolving sound' with ⟨_, _, run', -⟩ | ⟨failure', v', run', grows, stopped⟩
    · cases run.symm.trans run'
    · cases run.symm.trans run'
      rcases stopped.accounted sound paths context settled (le.trans grows.le) with told | ⟨other, _⟩
      · exact told.2
      · exact absurd of other
  · rintro ⟨all, v, run⟩
    obtain ⟨grows, yields⟩ := resolving.ok sound' run
    exact collectMethods_passes grows.sound (le.trans grows.le) settled yields

end Extract

/-- Among loaded packages with distinct paths, where the names on the way resolve, following aliases,
looking for the type behind a declaration and rendering are refused exactly where they would never
end, and answer otherwise. Collecting methods is refused as a cycle only where it would never end. It
answers exactly where it ends and all names stand for interfaces; where they do, it is refused as a
cycle exactly where it would never end. -/
theorem recursion_refused_exactly (sound : l.Sound) (paths : (l.packages.map (·.path)).Nodup)
    (le : l.Le u.loader) (sound' : u.loader.Sound) :
    (∀ expr ctx, ctx.package ∈ l.packages → NamesResolve disk l headNames expr ctx →
      RefusesExactly disk u (expandAliases expr ctx) .aliasCycle
        (∃ d, LeadsToAlias disk l (headNames expr) ctx d ∧
          Endless (AliasStep disk l headNames) d)) ∧
    (∀ d, d.Known l → RightsResolve disk l d →
      RefusesExactly disk u (underlying d) .typeCycle (Endless (NameStep disk l) d)) ∧
    (∀ expr ctx, ctx.package ∈ l.packages → NamesResolve disk l namesIn expr ctx →
      RefusesExactly disk u (render expr ctx) .aliasCycle
        (∃ d, Reaches disk l namesIn expr ctx d ∧
          Relation.TransGen (AliasStep disk l namesIn) d d)) ∧
    ∀ i : Extract.Embedded, i.context.package ∈ l.packages → Extract.AllSettled disk l i →
      Extract.CollectsExactly disk l u i :=
  ⟨fun _ _ context resolve => expandAliases_refuses sound paths le sound' context resolve,
    fun _ known resolve => underlying_refuses sound paths le sound' known resolve,
    fun _ _ context resolve => render_refuses sound paths le sound' context resolve,
    fun _ context settled =>
      Extract.collectMethods_exact sound paths le sound' context settled⟩

/-! ### Declarations that stand for themselves -/

/-- What leads to nothing but itself, leads to itself only. -/
theorem eq_of_reached {ν : Type} {step : ν → ν → Prop} {a b : ν} (only : ∀ b, step a b → b = a)
    (reached : Relation.ReflTransGen step a b) : b = a := by
  induction reached with
  | refl => rfl
  | tail _ last ih => exact only _ (ih ▸ last)

namespace Resolve

theorem lookup_own (plain : name.qualifier = none) (found : ctx.package.lookup name.name = some d) :
    Yields disk l (lookup name ctx) (some (.declared d)) := by
  intro u _
  rw [lookup]
  simp only [plain, Loading.resolveName, found]
  rfl

theorem underlying_own (other : ∀ name, d.spec.type ≠ .named name) :
    Yields disk l (underlying d) (some d.spec.type, d) := by
  intro u _
  rw [underlying, Compile.depth_bind, followNames]
  split
  · rename_i met
    cases met
  · split
    · rename_i name shape
      exact absurd shape (other name)
    · rfl

/-- The type of a declaration is its own name. -/
structure SelfNamed (d : DeclaredType) (name : TypeName) : Prop where
  shape : d.spec.type = .named name
  plain : name.qualifier = none
  found : d.package.lookup name.name = some d

namespace SelfNamed

variable (self : SelfNamed d name)

include self

theorem looksUp : Yields disk l (lookup name d.context) (some (.declared d)) :=
  lookup_own self.plain self.found

theorem stands : Yields disk l (lookupDeclared name d.context) (some d) :=
  yields_lookupDeclared_some self.looksUp

theorem nameStep : NameStep disk l d d := ⟨name, self.shape, self.stands⟩

theorem rightsResolve : RightsResolve disk l d := by
  intro e reached name' shape
  have same : e = d := by
    refine eq_of_reached (fun e step => ?_) reached
    obtain ⟨name'', shape', stands⟩ := step
    cases self.shape.symm.trans shape'
    exact Option.some.inj (stands.unique self.stands)
  subst same
  cases self.shape.symm.trans shape
  exact ⟨_, self.looksUp⟩

variable {names : TypeExpr → List TypeName} (only : names (.named name) = [name])

include only

theorem comesTo {expr : TypeExpr} (came : ComesTo disk l names (.named name) d.context expr ctx) :
    expr = .named name ∧ ctx = d.context := by
  induction came with
  | here => exact ⟨rfl, rfl⟩
  | through _ leads ih =>
    obtain ⟨rfl, rfl⟩ := ih
    obtain ⟨name', listed, stands⟩ := leads.named
    cases List.mem_singleton.mp (only ▸ listed)
    cases stands.unique self.stands
    exact ⟨self.shape, rfl⟩

theorem namesResolve : NamesResolve disk l names (.named name) d.context := by
  intro expr ctx came name' listed
  obtain ⟨rfl, rfl⟩ := self.comesTo only came
  cases List.mem_singleton.mp (only ▸ listed)
  exact ⟨_, self.looksUp⟩

theorem leads (isAlias : d.spec.isAlias = true) :
    LeadsToAlias disk l (names (.named name)) d.context d :=
  ⟨isAlias, name, by rw [only]; exact List.mem_singleton_self name, self.stands⟩

theorem aliasStep (isAlias : d.spec.isAlias = true) : AliasStep disk l names d d := by
  rw [AliasStep, self.shape]
  exact self.leads only isAlias

end SelfNamed

end Resolve

namespace Extract

variable {pos : Position} {methods : List (MethodDecl TypeExpr)} {e : DeclaredType}

theorem embeds_own (plain : name.qualifier = none) (found : d.package.lookup name.name = some e) :
    Embeds (settledBy disk l) ⟨d, methods, [name], d.context⟩ i ↔
      i.target = e ∧ Behind (settledBy disk l) i := by
  have stands : Yields disk l (lookupDeclared name d.context) (some e) :=
    yields_lookupDeclared_some (lookup_own plain found)
  constructor
  · rintro ⟨name', listed, denotes⟩
    cases List.mem_singleton.mp listed
    exact ⟨Option.some.inj (denotes.declared.unique stands), denotes.behind⟩
  · rintro ⟨same, behind⟩
    exact ⟨name, List.mem_singleton_self name, same ▸ stands, behind⟩

/-- The interface of a declaration is behind it. -/
theorem behind_own {embeds : List TypeName} (shape : d.spec.type = .interface pos methods embeds) :
    Behind (settledBy disk l) ⟨d, methods, embeds, d.context⟩ := by
  have behind : Yields disk l (underlying d) (some d.spec.type, d) :=
    underlying_own fun name named => nomatch shape.symm.trans named
  exact ⟨pos, d, shape ▸ behind, rfl⟩

end Extract

/-- Whether a type is this name. -/
def isJust (text : String) : TypeExpr → Bool
  | .named name => name.qualifier.isNone && name.name == text
  | _ => false

/-- Whether a type is an interface that embeds this name and nothing else. -/
def embedsJust (text : String) : TypeExpr → Bool
  | .interface _ [] [name] => name.qualifier.isNone && name.name == text
  | _ => false

theorem exists_selfNamed {p : Package} {text : String} (found : p.lookup text = some d)
    (just : isJust text d.spec.type = true) : ∃ name, SelfNamed d name := by
  have own := Package.lookup_package found
  subst own
  cases shape : d.spec.type with
  | named name =>
    rw [shape] at just
    obtain ⟨plain, same⟩ := Bool.and_eq_true_iff.mp just
    exact ⟨name, shape, Option.isNone_iff_eq_none.mp plain, (beq_iff_eq.mp same) ▸ found⟩
  | _ =>
    rw [shape] at just
    cases just

theorem exists_of_embedsJust {text : String} {expr : TypeExpr} (just : embedsJust text expr = true) :
    ∃ pos name, expr = .interface pos [] [name] ∧ name.qualifier = none ∧ name.name = text := by
  unfold embedsJust at just
  split at just
  · rename_i pos name
    obtain ⟨plain, same⟩ := Bool.and_eq_true_iff.mp just
    exact ⟨pos, name, rfl, Option.isNone_iff_eq_none.mp plain, beq_iff_eq.mp same⟩
  · cases just

/-- A package of texts that passes a check. -/
theorem exists_loaded (disk : Disk) (sources : List (String × String)) (check : Package → Bool)
    (holds : (((Loading.loadSources sources).runOn disk {}).1.toOption.any check) = true) :
    ∃ p u, (Loading.loadSources sources).runOn disk {} = (.ok p, u) ∧ u.loader.Sound ∧
      u.loader.packages = [p] ∧ check p = true := by
  obtain ⟨p, loaded, checked⟩ := (Option.any_eq_true _ _).mp holds
  rcases run : (Loading.loadSources sources).runOn disk {} with ⟨_ | q, u⟩
  · rw [run] at loaded
    cases loaded
  · rw [run] at loaded
    cases loaded
    obtain ⟨_, _, _, alone⟩ := Loading.loadSources_eq_ok run
    exact ⟨p, u, rfl, (Loading.loadSources_ok .empty run).1.sound, alone.packages, checked⟩

/-- An alias, a named type and an interface, each of which is what it is itself. -/
def selves : List (String × String) :=
  [("a.go", "package a; type A = A; type N N; type I interface\x7b I \x7d")]

/-- What is written in `selves` is refused. -/
theorem recursion_refused_selves : ∃ p u a n i pos name,
    (Loading.loadSources selves).runOn ⟨[], []⟩ {} = (.ok p, u) ∧
      p.lookup "A" = some a ∧ p.lookup "N" = some n ∧ p.lookup "I" = some i ∧
      i.spec.type = .interface pos [] [name] ∧
      Raises ⟨[], []⟩ u (expandAliases a.spec.type a.context) .aliasCycle ∧
      Raises ⟨[], []⟩ u (underlying n) .typeCycle ∧
      Raises ⟨[], []⟩ u (render a.spec.type a.context) .aliasCycle ∧
      Raises ⟨[], []⟩ u (Extract.collectMethods [] [name] i.context) .interfaceCycle := by
  obtain ⟨p, u, run, sound, alone, checked⟩ := exists_loaded ⟨[], []⟩ selves
    (fun p => ((p.lookup "A").any fun d => d.spec.isAlias && isJust "A" d.spec.type) &&
      ((p.lookup "N").any (isJust "N" ·.spec.type) &&
        (p.lookup "I").any (embedsJust "I" ·.spec.type))) (by decide +kernel)
  simp only [Bool.and_eq_true, Option.any_eq_true] at checked
  obtain ⟨⟨a, foundA, isAlias, justA⟩, ⟨n, foundN, justN⟩, i, foundI, justI⟩ := checked
  obtain ⟨nameA, selfA⟩ := exists_selfNamed foundA justA
  obtain ⟨nameN, selfN⟩ := exists_selfNamed foundN justN
  obtain ⟨pos, nameI, shapeI, plainI, textI⟩ := exists_of_embedsJust justI
  have member : p ∈ u.loader.packages := by simp [alone]
  have paths : (u.loader.packages.map (·.path)).Nodup := by simp [alone]
  have here : ∀ {text : String} {d : DeclaredType}, p.lookup text = some d →
      d.package ∈ u.loader.packages := fun found => Package.lookup_package found ▸ member
  obtain ⟨expanding, looking, rendering, collecting⟩ :
      _ ∧ _ ∧ _ ∧ ∀ i : Extract.Embedded, i.context.package ∈ u.loader.packages →
        Extract.AllSettled ⟨[], []⟩ u.loader i → Extract.CollectsExactly ⟨[], []⟩ u.loader u i :=
    recursion_refused_exactly sound paths (.refl _) sound
  have aliasOf : ∀ names : TypeExpr → List TypeName, names (.named nameA) = [nameA] →
      NamesResolve ⟨[], []⟩ u.loader names a.spec.type a.context ∧
        LeadsToAlias ⟨[], []⟩ u.loader (names a.spec.type) a.context a ∧
        AliasStep ⟨[], []⟩ u.loader names a a := fun names only =>
    ⟨selfA.shape ▸ selfA.namesResolve only, selfA.shape ▸ selfA.leads only isAlias,
      selfA.aliasStep only isAlias⟩
  refine ⟨p, u, a, n, i, pos, nameI, run, foundA, foundN, foundI, shapeI, ?_, ?_, ?_, ?_⟩
  · obtain ⟨resolve, leads, step⟩ := aliasOf headNames rfl
    exact (expanding _ _ (here foundA) resolve).raises.mpr
      ⟨a, leads, endless_of_cycle .refl (.single step)⟩
  · exact (looking n (.of_lookup sound member foundN) selfN.rightsResolve).raises.mpr
      (endless_of_cycle .refl (.single selfN.nameStep))
  · obtain ⟨resolve, leads, step⟩ := aliasOf namesIn rfl
    exact (rendering _ _ (here foundA) resolve).raises.mpr ⟨a, ⟨a, leads, .refl⟩, .single step⟩
  · have own : i.package.lookup nameI.name = some i := by
      rw [textI, Package.lookup_package foundI, foundI]
    let root : Extract.Embedded := ⟨i, [], [nameI], i.context⟩
    have behind : Extract.Behind (Extract.settledBy ⟨[], []⟩ u.loader) root :=
      Extract.behind_own shapeI
    have step : Extract.Embeds (Extract.settledBy ⟨[], []⟩ u.loader) root root :=
      (Extract.embeds_own plainI own).mpr ⟨rfl, behind⟩
    have only : ∀ j, Extract.Embeds (Extract.settledBy ⟨[], []⟩ u.loader) root j → j = root := by
      intro j embeds
      obtain ⟨same, behind'⟩ := (Extract.embeds_own plainI own).mp embeds
      exact behind'.unique (Extract.settledBy_functional _ _) behind same
    have denote : Extract.AllDenote (Extract.settledBy ⟨[], []⟩ u.loader) root := by
      intro j reached name listed
      cases eq_of_reached only reached
      obtain ⟨name', listed', denotes⟩ := step
      cases List.mem_singleton.mp listed
      cases List.mem_singleton.mp listed'
      exact ⟨root, denotes⟩
    exact ((collecting root (here foundI) denote.settled).refuses denote).raises.mpr
      ⟨root, .refl, .single step⟩

/-- An interface that embeds a struct. -/
def structInside : List (String × String) :=
  [("a.go", "package a; type S interface\x7b T \x7d; type T struct\x7b\x7d")]

def isStruct : TypeExpr → Bool
  | .struct _ _ => true
  | _ => false

/-- It is not enough that names resolve and that no interface is inside itself: an interface that
embeds a struct is refused. -/
theorem struct_embedded_refused :
    ¬ ∀ (disk : Disk) (l : Loader) (u : World) (i : Extract.Embedded), l.Sound →
      (l.packages.map (·.path)).Nodup → l.Le u.loader → u.loader.Sound →
      i.context.package ∈ l.packages →
      (∀ j, Relation.ReflTransGen (Extract.Embeds (Extract.settledBy disk l)) i j →
        ∀ name ∈ j.embeds, ∃ found, Yields disk l (lookup name j.context) found) →
      ¬ Extract.EmbedsCycle (Extract.settledBy disk l) i →
      ∃ all v, (Extract.collectMethods i.methods i.embeds i.context).runOn disk u = (.ok all, v) := by
  intro returns
  obtain ⟨p, u, run, sound, alone, checked⟩ := exists_loaded ⟨[], []⟩ structInside
    (fun p => (p.lookup "S").any (embedsJust "T" ·.spec.type) &&
      (p.lookup "T").any (isStruct ·.spec.type)) (by decide +kernel)
  simp only [Bool.and_eq_true, Option.any_eq_true] at checked
  obtain ⟨⟨s, foundS, justS⟩, t, foundT, justT⟩ := checked
  obtain ⟨pos, name, shape, plain, text⟩ := exists_of_embedsJust justS
  have package : s.package = p := Package.lookup_package foundS
  have found : s.package.lookup name.name = some t := by rw [package, text, foundT]
  let root : Extract.Embedded := ⟨s, [], [name], s.context⟩
  have nothing : ∀ l j, ¬ Extract.Embeds (Extract.settledBy ⟨[], []⟩ l) root j := by
    intro l j embeds
    obtain ⟨same, _, _, behind, _⟩ := (Extract.embeds_own plain found).mp embeds
    have own : Yields ⟨[], []⟩ l (underlying t) (some t.spec.type, t) :=
      underlying_own fun name named => by simp [named, isStruct] at justT
    rw [same] at behind
    obtain ⟨interface, -⟩ := Prod.mk.inj (own.unique behind)
    simp [Option.some.inj interface, isStruct] at justT
  have only : ∀ {j}, Relation.ReflTransGen (Extract.Embeds (Extract.settledBy ⟨[], []⟩ u.loader)) root j →
      j = root := eq_of_reached fun j embeds => (nothing _ j embeds).elim
  obtain ⟨all, v, collected⟩ := returns ⟨[], []⟩ u.loader u root sound (by simp [alone]) (.refl _) sound
    (by simp [alone, root, DeclaredType.context, package])
    (fun j reached name' listed => by
      cases only reached
      cases List.mem_singleton.mp listed
      exact ⟨_, lookup_own plain found⟩)
    fun ⟨j, reached, cycle⟩ => by
      obtain ⟨_, first, _⟩ := Relation.TransGen.head'_iff.mp (only reached ▸ cycle)
      exact nothing _ _ first
  obtain ⟨grows, yields⟩ := (Extract.collectMethods_resolving ..).ok sound collected
  obtain ⟨fuel, yields⟩ :=
    yields_deep (Extract.methodsWithin_resolving · [] root.methods root.embeds root.context) grows.sound
      yields
  obtain ⟨j, denotes⟩ :=
    Extract.methodsWithin_denote grows.sound yields root .refl name (List.mem_singleton_self name)
  exact nothing _ j ⟨name, List.mem_singleton_self name, denotes⟩

end GoIdl
