import GoIdl.Proofs.Compile.Methods
import GoIdl.Proofs.Compile.Worlds

/-!
# Signatures of methods

Every method that is collected from a declaration of a root package has one parameter and one result,
or nothing is compiled. Whether a service is excluded does not count, since it is extracted first.
-/

namespace GoIdl

open Syntax (TypeExpr TypeName MethodDecl Position)

variable {α : Type} {disk : Disk} {l l' : Loader} {u v w : World} {d : DeclaredType} {ctx : Context}
  {p : Package} {exclusions : List String}

/-- However a computation ends, what follows starts from a consistent world. -/
theorem Walks.keeps {c : Compile α} {outcome : Except Failure α} (walks : Walks disk u c)
    (consistent : u.Consistent) (run : c.runOn disk u = (outcome, v)) :
    v.Consistent ∧ u.loader.Le v.loader := by
  rw [Walks, run] at walks
  exact World.steps_keep walks consistent

namespace Extract

open Resolve

/-! ### One service -/

def Collected.OneToOne (c : Collected) : Prop :=
  c.method.signature.params.length = 1 ∧ c.method.signature.results.length = 1

instance (c : Collected) : Decidable c.OneToOne := inferInstanceAs (Decidable (_ ∧ _))

theorem method_oneToOne {service : String} {c : Collected} {made : Method}
    (run : (method service c).runOn disk u = (.ok made, v)) : c.OneToOne := by
  obtain ⟨_, _, _, _, _, _, _, params, results, -⟩ := method_run run
  exact ⟨congrArg List.length params, congrArg List.length results⟩

/-- All methods that are collected have one parameter and one result. -/
def CollectsOneToOne (disk : Disk) (l : Loader) (methods : List (MethodDecl TypeExpr))
    (embeds : List TypeName) (ctx : Context) : Prop :=
  ∃ all, Yields disk l (collectMethods methods embeds ctx) all ∧ ∀ c ∈ all, c.OneToOne

theorem service_oneToOne {methods : List (MethodDecl TypeExpr)} {embeds : List TypeName}
    {made : Service} (consistent : u.Consistent) (context : ctx.package ∈ u.loader.packages)
    (run : (service d methods embeds ctx).runOn disk u = (.ok made, v)) :
    CollectsOneToOne disk v.loader methods embeds ctx := by
  obtain ⟨doc, u₁, read, run⟩ := Compile.bind_ok.mp run
  obtain ⟨kept₁, le₁⟩ := (readDoc_walks _ _ u).keeps consistent read
  obtain ⟨_, u₂, noted, run⟩ := Compile.bind_ok.mp run
  obtain ⟨kept₂, le₂⟩ := (Walks.note ..).keeps kept₁ noted
  obtain ⟨all, u₃, collects, run⟩ := Compile.bind_ok.mp run
  obtain ⟨kept₃, le₃⟩ := ((collectMethods_resolving methods embeds ctx).walks u₂).keeps kept₂ collects
  obtain ⟨-, collects⟩ := (collectMethods_resolving methods embeds ctx).ok kept₂.sound collects
  have places := collectMethods_known kept₃.sound ((le₁.trans (le₂.trans le₃)).mem context) collects
  obtain ⟨made, v', each, run⟩ := Compile.bind_ok.mp run
  obtain ⟨-, rfl⟩ := Compile.pure_ok.mp run
  obtain ⟨-, le, simple⟩ := Compile.mapM_ok
    (fun v => v.Consistent ∧ ∀ c ∈ all, c.context.package ∈ v.loader.packages)
    (fun v v' => v.loader.Le v'.loader) (fun _ c _ => c.OneToOne) (fun v _ => .refl _)
    (fun first second => first.trans second) (fun _ simple => simple)
    (fun c member m v v' ⟨kept, known⟩ run => by
      obtain ⟨kept', le⟩ := (method_walks kept (known c member)).keeps kept run
      exact ⟨⟨kept', fun c member => le.mem (known c member)⟩, le, method_oneToOne run⟩)
    ⟨kept₃, places⟩ each
  refine ⟨all, collects.mono le, fun c member => ?_⟩
  obtain ⟨_, _, oneToOne⟩ := exists_right_of_forall₂ simple member
  exact oneToOne

/-! ### Declarations -/

/-- What is behind a declaration is settled; if it is an interface, so are its methods. -/
def Served (disk : Disk) (d : DeclaredType) (l : Loader) : Prop :=
  d.spec.isAlias = false → ∃ shape origin, Yields disk l (underlying d) (shape, origin) ∧
    ∀ pos methods embeds, shape = some (.interface pos methods embeds) →
      CollectsOneToOne disk l methods embeds origin.context

theorem Served.mono (served : Served disk d l) (le : l.Le l') : Served disk d l' := by
  intro plain
  obtain ⟨shape, origin, behind, methods⟩ := served plain
  refine ⟨shape, origin, behind.mono le, fun pos own embeds same => ?_⟩
  obtain ⟨all, collects, oneToOne⟩ := methods pos own embeds same
  exact ⟨all, collects.mono le, oneToOne⟩

theorem declaration_served (consistent : u.Consistent) (known : d.Known u.loader)
    (run : (declaration exclusions d).runOn disk u = (.ok (), v)) : Served disk d v.loader := by
  intro plain
  unfold declaration at run
  rw [plain] at run
  obtain ⟨⟨shape, origin⟩, u₁, read, run⟩ := Compile.bind_ok.mp run
  obtain ⟨kept₁, le₁⟩ := ((underlying_resolving d).walks u).keeps consistent read
  obtain ⟨-, behind⟩ := (underlying_resolving d).ok consistent.sound read
  have known₁ := known.mono le₁
  split at run
  · rename_i same
    cases same
    obtain ⟨made, u₂, extracted, run⟩ := Compile.bind_ok.mp run
    have context := (underlying_known kept₁.sound known₁ behind).package
    obtain ⟨_, le₂⟩ := (service_walks kept₁ context).keeps kept₁ extracted
    have oneToOne := service_oneToOne kept₁ context extracted
    rw [(addService_ok run).1]
    refine ⟨_, origin, behind.mono le₂, fun pos methods embeds same => ?_⟩
    cases same
    exact oneToOne
  · rename_i same
    cases same
    obtain ⟨_, le₂⟩ := (object_walks d u₁ kept₁ known₁).keeps kept₁ run
    exact ⟨_, origin, behind.mono le₂, fun pos methods embeds same => nomatch same⟩
  · rename_i other _
    obtain ⟨_, le₂⟩ := (Walks.note ..).keeps kept₁ run
    exact ⟨shape, origin, behind.mono le₂, fun pos methods embeds same =>
      (other pos methods embeds origin (congrArg (·, origin) same)).elim⟩

theorem forM_served {α : Type} {f : α → Compile Unit} {xs : List α} (of : α → DeclaredType → Prop)
    (consistent : u.Consistent)
    (each : ∀ x ∈ xs, ∀ v v', v.Consistent → u.loader.Le v.loader → (f x).runOn disk v = (.ok (), v') →
      v'.Consistent ∧ v.loader.Le v'.loader ∧ ∀ d, of x d → Served disk d v'.loader)
    (run : (xs.forM f).runOn disk u = (.ok (), v)) :
    v.Consistent ∧ u.loader.Le v.loader ∧ ∀ x ∈ xs, ∀ d, of x d → Served disk d v.loader := by
  have ends := Compile.forM_ok (f := f) (fun rest v => rest ⊆ xs ∧ v.Consistent ∧
      u.loader.Le v.loader ∧ ∀ x ∈ xs, x ∈ rest ∨ ∀ d, of x d → Served disk d v.loader)
    (fun x rest v v' ⟨subset, kept, le, done⟩ run => by
      obtain ⟨listed, others⟩ := List.cons_subset.mp subset
      obtain ⟨kept', le', served⟩ := each x listed v v' kept le run
      refine ⟨others, kept', le.trans le', fun y member => ?_⟩
      rcases done y member with pending | done
      · rcases List.mem_cons.mp pending with rfl | later
        · exact .inr served
        · exact .inl later
      · exact .inr fun d leads => (done d leads).mono le')
    ⟨fun _ => id, consistent, .refl _, fun x member => .inl member⟩ run
  obtain ⟨-, kept, le, done⟩ := ends
  exact ⟨kept, le, fun x member => (done x member).resolve_left List.not_mem_nil⟩

/-! ### Packages -/

theorem package_served (consistent : u.Consistent) (member : p ∈ u.loader.packages)
    (run : (package exclusions p).runOn disk u = (.ok (), v)) :
    v.Consistent ∧ u.loader.Le v.loader ∧
      ∀ d, (∃ name, p.lookup name = some d) → Served disk d v.loader := by
  obtain ⟨_, u₁, entered, run⟩ := Compile.bind_ok.mp run
  have enters : Walks disk u (Compile.modifySession fun s =>
      { s with rootPath := p.path, packageName := p.name }) :=
    .single (.call (.enter u.session p.path p.name) rfl)
  obtain ⟨kept₁, le₁⟩ := enters.keeps consistent entered
  obtain ⟨kept, le, served⟩ := forM_served (fun name d => p.lookup name = some d) kept₁
    (fun name _ v v' kept le run => by
      cases found : p.lookup name with
      | none =>
        rw [found] at run
        cases run
        exact ⟨kept, .refl _, fun d same => nomatch same⟩
      | some d =>
        rw [found] at run
        have known : d.Known v.loader := .of_lookup kept.sound ((le₁.trans le).mem member) found
        obtain ⟨kept', le'⟩ := (declaration_walks kept known).keeps kept run
        refine ⟨kept', le', fun d' same => ?_⟩
        cases same
        exact declaration_served kept known run) run
  exact ⟨kept, le₁.trans le, fun d ⟨name, found⟩ => served name (mem_names found) d found⟩

end Extract

/-! ### Whole compilations -/

namespace Compile

variable {input : Input} {options : Options}

theorem load_walks (input : Input) : Walks disk {} input.load := by
  cases input with
  | patterns given => exact .single (.load given)
  | sources texts =>
    have loads : Walks disk {} (Loading.loadSources texts) := .single (.sources texts)
    exact loads.bind .empty fun _ _ _ _ _ => .pure _

theorem load_known {roots : List Package} (loaded : input.load.runOn disk {} = (.ok roots, u)) :
    ∀ p ∈ roots, p ∈ u.loader.packages := by
  cases input with
  | patterns given => exact (Loading.load_ok .empty loaded).2
  | sources texts =>
    obtain ⟨p, w, read, run⟩ := bind_ok.mp loaded
    obtain ⟨rfl, rfl⟩ := pure_ok.mp run
    have known := (Loading.loadSources_ok .empty read).2
    simpa using known

theorem extract_served {count : Nat}
    (run : (extract exclusions input).runOn disk {} = (.ok count, v)) :
    ∃ roots w, input.load.runOn disk {} = (.ok roots, w) ∧ v.Consistent ∧
      ∀ p ∈ roots, ∀ name d, p.lookup name = some d → Extract.Served disk d v.loader := by
  obtain ⟨roots, w, f, loaded, _, _, known, each, package⟩ := extract_loads run
  obtain ⟨kept, _⟩ := (load_walks input).keeps .empty loaded
  obtain ⟨kept', _, served⟩ := Extract.forM_served (f := f)
    (fun p d => ∃ name, p.lookup name = some d) kept
    (fun p listed v v' kept le run => by
      obtain ⟨log, run⟩ := package p v v' run
      exact Extract.package_served (u := { v with log }) { kept with } (le.mem (known p listed)) run)
    each
  exact ⟨roots, w, loaded, kept', fun p listed name d found => served p listed d ⟨name, found⟩⟩

end Compile

namespace Extract

variable {input : Compile.Input} {options : Options} {i : Embedded} {all : List Collected}
  {roots : List Package} {name : String}

/-- A compilation fails if a method of a root package has not one parameter and one result. -/
theorem compile_fails {outcome : Except Failure Compiled} {c : Collected}
    (run : (Compile.compile input options).runOn disk {} = (outcome, v))
    (loaded : input.load.runOn disk {} = (.ok roots, u)) (listed : p ∈ roots)
    (found : p.lookup name = some d) (plain : d.spec.isAlias = false) (target : i.target = d)
    (behind : Behind (readIn disk v) i)
    (collects : (collectMethods i.methods i.embeds i.context).runOn disk v = (.ok all, w))
    (member : c ∈ all) (other : ¬ c.OneToOne) : ∃ failure, outcome = .error failure := by
  cases outcome with
  | error failure => exact ⟨failure, rfl⟩
  | ok compiled =>
    obtain ⟨count, v', extracted, _, loader⟩ := Compile.compile_ends run
    obtain ⟨roots', u', loaded', _, served⟩ := Compile.extract_served extracted
    cases loaded.symm.trans loaded'
    obtain ⟨shape, origin, behind', methods⟩ := served p listed name d found plain
    obtain ⟨pos, origin', within, place⟩ := behind
    rw [← loader] at behind' methods
    rw [target] at within
    -- What was settled when the declaration was extracted is what is read at the end.
    cases readIn_functional disk v (readIn_of_settledBy behind' (.refl _)) within
    obtain ⟨all', collects', oneToOne⟩ := methods pos i.methods i.embeds rfl
    rw [← place] at collects'
    cases (collects' v (.refl _)).symm.trans collects
    exact absurd (oneToOne c member) other

/-- Collecting methods is exact. Where all names that an interface comes to denote interfaces and none
of these is inside itself, as far as the path of the package and the name tell declarations apart,
exactly the methods are collected that the interface has, each name once and in order, each method
with the place where it is written. And if any method of a declaration in a root package, that is no
alias, has not one parameter and one result, the compilation fails, whatever is excluded. -/
theorem methods_collected_exactly (disk : Disk) :
    (∀ (w v : World) (i : Embedded) (outcome : Except Failure (List Collected)), w.loader.Sound →
      i.target.Known w.loader → Behind (settledBy disk w.loader) i →
      (collectMethods i.methods i.embeds i.context).runOn disk w = (outcome, v) →
      AllDenote (readIn disk v) i → Acyclic (·.target.key) (readIn disk v) i →
      ∃ all, outcome = .ok all ∧ Collects (readIn disk v) i all ∧
        ∀ c ∈ all, ∃ e, e.Known v.loader ∧ c.WrittenBy e) ∧
    ∀ (input : Compile.Input) (options : Options) (outcome : Except Failure Compiled) (v : World)
      (roots : List Package) (u : World) (p : Package) (name : String) (d : DeclaredType)
      (i : Embedded) (all : List Collected) (w : World) (c : Collected),
      (Compile.compile input options).runOn disk {} = (outcome, v) →
      input.load.runOn disk {} = (.ok roots, u) → p ∈ roots → p.lookup name = some d →
      d.spec.isAlias = false → i.target = d → Behind (readIn disk v) i →
      (collectMethods i.methods i.embeds i.context).runOn disk v = (.ok all, w) → c ∈ all →
      ¬ c.OneToOne → ∃ failure, outcome = .error failure :=
  ⟨fun _ _ _ _ sound known behind run denote acyclic =>
      collectMethods_answers sound known behind run denote acyclic,
    fun _ _ _ _ _ _ _ _ _ _ _ _ _ run loaded listed found plain target behind collects member other =>
      compile_fails run loaded listed found plain target behind collects member other⟩

/-! ### Trials -/

/-- The interface behind a declaration of a package, read in a world. -/
def inRoots? (disk : Disk) (v : World) (roots : List Package) (index : Nat) (name : String) :
    Option (Package × DeclaredType × Embedded) := do
  let p ← roots[index]?
  let d ← p.lookup name
  return (p, d, ← behind? disk v d)

theorem inRoots?_ok {index : Nat} (found : inRoots? disk v roots index name = some (p, d, i)) :
    p ∈ roots ∧ p.lookup name = some d ∧ i.target = d ∧ behind? disk v d = some i := by
  simp only [inRoots?, Option.bind_eq_bind, Option.bind_eq_some_iff] at found
  obtain ⟨p', listed, d', declared, i', behind, same⟩ := found
  cases same
  exact ⟨List.mem_of_getElem? listed, declared, (behind_of_behind? behind).1, behind⟩

/-- Collects the methods of a declaration of what is loaded, and checks what comes of it. -/
def collectedPasses (disk : Disk) (input : Compile.Input) (index : Nat) (name : String)
    (check : Embedded → Except Failure (List Collected) → World → Bool) : Bool :=
  match input.load.runOn disk {} with
  | (.ok roots, u) => (inRoots? disk u roots index name).any fun (_, d, i) =>
    let w := ((Resolve.underlying d).runOn disk u).2
    let ran := (collectMethods i.methods i.embeds i.context).runOn disk w
    check i ran.1 ran.2
  | _ => false

theorem exists_collected (disk : Disk) (input : Compile.Input) (index : Nat) (name : String)
    (check : Embedded → Except Failure (List Collected) → World → Bool)
    (passes : collectedPasses disk input index name check = true) :
    ∃ w v i outcome, w.loader.Sound ∧ i.target.Known w.loader ∧
      Behind (settledBy disk w.loader) i ∧
      (collectMethods i.methods i.embeds i.context).runOn disk w = (outcome, v) ∧
      check i outcome v = true := by
  unfold collectedPasses at passes
  split at passes
  · rename_i roots u loaded
    obtain ⟨⟨p, d, i⟩, found, passes⟩ := (Option.any_eq_true _ _).mp passes
    obtain ⟨listed, declared, rfl, behind⟩ := inRoots?_ok found
    obtain ⟨kept, _⟩ := (Compile.load_walks input).keeps .empty loaded
    have known : i.target.Known u.loader :=
      .of_lookup kept.sound (Compile.load_known loaded p listed) declared
    obtain ⟨-, pos, origin, ⟨w, read⟩, place⟩ := behind_of_behind? behind
    obtain ⟨grows, settled⟩ := (Resolve.underlying_resolving _).ok kept.sound read
    dsimp only at passes
    rw [read] at passes
    exact ⟨w, _, i, _, grows.sound, known.mono grows.le, ⟨pos, origin, settled, place⟩, rfl, passes⟩
  · cases passes

/-- Compiles, collects the methods of a declaration in the world that is left, and checks both. -/
def compiledPasses (disk : Disk) (input : Compile.Input) (options : Options) (index : Nat)
    (name : String) (check : DeclaredType → Except Failure Compiled → List Collected → Bool) : Bool :=
  let ran := (Compile.compile input options).runOn disk {}
  match (input.load.runOn disk {}).1 with
  | .ok roots => (inRoots? disk ran.2 roots index name).any fun (_, d, i) =>
    match ((collectMethods i.methods i.embeds i.context).runOn disk ran.2).1 with
    | .ok all => check d ran.1 all
    | .error _ => false
  | .error _ => false

theorem exists_compiled (disk : Disk) (input : Compile.Input) (options : Options) (index : Nat)
    (name : String) (check : DeclaredType → Except Failure Compiled → List Collected → Bool)
    (passes : compiledPasses disk input options index name check = true) :
    ∃ outcome v roots u p d i all w, (Compile.compile input options).runOn disk {} = (outcome, v) ∧
      input.load.runOn disk {} = (.ok roots, u) ∧ p ∈ roots ∧ p.lookup name = some d ∧
      i.target = d ∧ Behind (readIn disk v) i ∧
      (collectMethods i.methods i.embeds i.context).runOn disk v = (.ok all, w) ∧
      check d outcome all = true := by
  unfold compiledPasses at passes
  dsimp only at passes
  split at passes
  · rename_i roots loaded
    obtain ⟨⟨p, d, i⟩, found, passes⟩ := (Option.any_eq_true _ _).mp passes
    obtain ⟨listed, declared, target, behind⟩ := inRoots?_ok found
    split at passes
    · rename_i all collects
      exact ⟨_, _, roots, _, p, d, i, all, _, rfl, Prod.ext loaded rfl, listed, declared, target,
        (behind_of_behind? behind).2, Prod.ext collects rfl, passes⟩
    · cases passes
  · cases passes

/-- An interface that embeds another one; the latter has a method without a result. -/
def shadowing : Compile.Input := .sources [("a.go",
  "package a; type S interface\x7b T; M(I) I \x7d; type T interface\x7b M(I); N() \x7d; type I struct\x7b\x7d")]

/-- The names of methods, and whether each has one parameter and one result. -/
def oneToOnes (all : List Collected) : List (String × Bool) :=
  all.map fun c => (c.method.name, decide c.OneToOne)

/-- The interface takes its own method of a name that the one it embeds has too; the compilation fails
for the other method, although both are excluded. -/
theorem methods_collected_exactly_shadowing :
    (∃ w v i all, (collectMethods i.methods i.embeds i.context).runOn ⟨[], []⟩ w = (.ok all, v) ∧
      Collects (readIn ⟨[], []⟩ v) i all ∧ i.target.name = "S" ∧
      oneToOnes all = [("M", true), ("N", false)]) ∧
    ∃ failure v, (Compile.compile shadowing { exclusions := ["S", "T"] }).runOn ⟨[], []⟩ {} =
      (.error failure, v) := by
  obtain ⟨collecting, compiling⟩ := methods_collected_exactly ⟨[], []⟩
  constructor
  · obtain ⟨w, v, i, outcome, sound, known, behind, run, passes⟩ :=
      exists_collected ⟨[], []⟩ shadowing 0 "S"
        (fun i outcome v => explores (·.target.key) ⟨[], []⟩ v 3 [] i &&
          (i.target.name == "S" && (outcome.toOption.map oneToOnes).any
            (· == [("M", true), ("N", false)])))
        (by decide +kernel)
    obtain ⟨explored, passes⟩ := Bool.and_eq_true_iff.mp passes
    obtain ⟨named, methods⟩ := Bool.and_eq_true_iff.mp passes
    obtain ⟨denote, acyclic, _⟩ := explores_ok explored
    obtain ⟨all, rfl, collects, _⟩ := collecting w v i outcome sound known behind run denote acyclic
    exact ⟨w, v, i, all, run, collects, beq_iff_eq.mp named, beq_iff_eq.mp methods⟩
  · obtain ⟨outcome, v, roots, u, p, d, i, all, w, run, loaded, listed, found, target, behind, collects,
      passes⟩ := exists_compiled ⟨[], []⟩ shadowing { exclusions := ["S", "T"] } 0 "S"
        (fun d _ all => !d.spec.isAlias && all.any fun c => !decide c.OneToOne) (by decide +kernel)
    obtain ⟨plain, passes⟩ := Bool.and_eq_true_iff.mp passes
    obtain ⟨c, member, other⟩ := List.any_eq_true.mp passes
    obtain ⟨failure, rfl⟩ := compiling shadowing { exclusions := ["S", "T"] } outcome v roots u p "S" d i
      all w c run loaded listed found (by simpa using plain) target behind collects member
      (by simpa using other)
    exact ⟨failure, v, run⟩

/-- Of a directory one file declares a type, and another one, which has to be named, a type of the same
name that embeds the former by way of another directory. -/
def twins : Disk :=
  ⟨[("go.mod", .file (Text.encode "module m\n".toList)),
    ("d", .dir [
      ("a.go", .file (Text.encode "package d; type T interface\x7b\x7d".toList)),
      ("b_test.go", .file (Text.encode
        "package d; import \"m/e\"; type S interface\x7b T \x7d; type T interface\x7b e.E \x7d".toList))]),
    ("e", .dir [("e.go", .file (Text.encode
      "package e; import \"m/d\"; type E interface\x7b d.T \x7d".toList))])], []⟩

/-- An alias of an interface whose method has neither a parameter nor a result. -/
def aliased : Compile.Input :=
  .sources [("a.go", "package a; type A = interface\x7b M() \x7d")]

/-- Different declarations in packages that share a path are not told apart by collecting, and aliases
of interfaces are not looked into by extracting. -/
theorem methods_not_collected_exactly :
    (¬ ∀ (disk : Disk) (w v : World) (i : Embedded) (outcome : Except Failure (List Collected)),
      w.loader.Sound → i.target.Known w.loader → Behind (settledBy disk w.loader) i →
      (collectMethods i.methods i.embeds i.context).runOn disk w = (outcome, v) →
      AllDenote (readIn disk v) i →
      (∀ a, Relation.ReflTransGen (Embeds (readIn disk v)) i a →
        ¬ Relation.TransGen (Embeds (readIn disk v)) a a) →
      ∃ all, outcome = .ok all) ∧
    ¬ ∀ (disk : Disk) (input : Compile.Input) (options : Options) (outcome : Except Failure Compiled)
      (v : World) (roots : List Package) (u : World) (p : Package) (name : String) (d : DeclaredType)
      (i : Embedded) (all : List Collected) (w : World) (c : Collected),
      (Compile.compile input options).runOn disk {} = (outcome, v) →
      input.load.runOn disk {} = (.ok roots, u) → p ∈ roots → p.lookup name = some d →
      i.target = d → Behind (readIn disk v) i →
      (collectMethods i.methods i.embeds i.context).runOn disk v = (.ok all, w) → c ∈ all →
      ¬ c.OneToOne → ∃ failure, outcome = .error failure := by
  constructor
  · intro answers
    obtain ⟨w, v, i, outcome, sound, known, behind, run, passes⟩ :=
      exists_collected twins (.patterns ["d", "d/b_test.go"]) 1 "S"
        (fun i outcome v => explores (fun j => (j.target.package.serial, j.target.name)) twins v 4 [] i &&
          outcome.toOption.isNone) (by decide +kernel)
    obtain ⟨explored, failed⟩ := Bool.and_eq_true_iff.mp passes
    obtain ⟨denote, acyclic, _⟩ := explores_ok explored
    obtain ⟨all, rfl⟩ := answers twins w v i outcome sound known behind run denote fun a reached cycle =>
      acyclic a a (Relation.TransGen.trans_right reached cycle) cycle rfl
    cases failed
  · intro fails
    obtain ⟨outcome, v, roots, u, p, d, i, all, w, run, loaded, listed, found, target, behind, collects,
      passes⟩ := exists_compiled ⟨[], []⟩ aliased {} 0 "A"
        (fun _ outcome all => outcome.toOption.isSome && all.any fun c => !decide c.OneToOne)
        (by decide +kernel)
    obtain ⟨compiled, passes⟩ := Bool.and_eq_true_iff.mp passes
    obtain ⟨c, member, other⟩ := List.any_eq_true.mp passes
    obtain ⟨failure, rfl⟩ := fails ⟨[], []⟩ aliased {} outcome v roots u p "A" d i all w c run loaded
      listed found target behind collects member (by simpa using other)
    cases compiled

end Extract

end GoIdl
