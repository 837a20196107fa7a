import GoIdl.Proofs.Compile.Packages
import Mathlib.Data.Set.Pairwise.List

/-!
# Declared services

Every root package makes one service for each interface that it declares. Nothing is asked of the
names: packages that declare interfaces of one name make services of one name.
-/

namespace GoIdl.Extract

open Resolve Session

variable {disk : Disk} {u v w : World} {l l' : Loader} {p : Package} {roots : List Package}
  {d : DeclaredType} {exclusions made made' : List String} {serves serves' : Loader → String → Prop}

/-- A service is made of a declaration: it is no alias, and an interface stands behind it. -/
def MakesService (disk : Disk) (l : Loader) (d : DeclaredType) : Prop :=
  d.spec.isAlias = false ∧ ∃ pos methods embeds origin,
    Yields disk l (underlying d) (some (.interface pos methods embeds), origin)

def Serves (disk : Disk) (l : Loader) (p : Package) (name : String) : Prop :=
  ∃ d, p.lookup name = some d ∧ MakesService disk l d

theorem serves_iff {name : String} (found : p.lookup name = some d) :
    Serves disk l p name ↔ MakesService disk l d := by
  constructor
  · rintro ⟨_, declared, makes⟩
    cases found.symm.trans declared
    exact makes
  · exact fun makes => ⟨d, found, makes⟩

/-- From `u` on, services have been made by these names, and those excluded have been set aside. The
names are those that `serves` tells, whatever may be loaded later. -/
structure Makes (exclusions made : List String) (serves : Loader → String → Prop) (u v : World) :
    Prop where
  retained : v.session.services.map (·.name) =
    u.session.services.map (·.name) ++ made.filter fun name => !exclusions.contains name
  names : ∀ l name, v.loader.Le l → l.Sound → (name ∈ made ↔ serves l name)

namespace Makes

theorem nothing (services : v.session.services = u.session.services)
    (none : ∀ l name, v.loader.Le l → l.Sound → ¬ serves l name) : Makes exclusions [] serves u v where
  retained := by rw [services, List.filter_nil, List.append_nil]
  names := fun l name le sound => iff_of_false List.not_mem_nil (none l name le sound)

theorem trans (first : Makes exclusions made serves u v) (second : Makes exclusions made' serves' v w)
    (le : v.loader.Le w.loader) :
    Makes exclusions (made ++ made') (fun l name => serves l name ∨ serves' l name) u w where
  retained := by rw [second.retained, first.retained, List.filter_append, List.append_assoc]
  names := fun l name more sound => by
    rw [List.mem_append, first.names l name (le.trans more) sound, second.names l name more sound]

theorem imp (makes : Makes exclusions made serves u v)
    (same : ∀ l name, v.loader.Le l → l.Sound → (serves l name ↔ serves' l name)) :
    Makes exclusions made serves' u v where
  retained := makes.retained
  names := fun l name le sound => (makes.names l name le sound).trans (same l name le sound)

/-- What has been done to other parts of a session before does not count. -/
theorem of_services {u' : World} (makes : Makes exclusions made serves u v)
    (services : u.session.services = u'.session.services) : Makes exclusions made serves u' v where
  retained := by rw [makes.retained, services]
  names := makes.names

end Makes

/-! ### Declarations -/

theorem declaration_makes (sound : u.loader.Sound) (known : d.Known u.loader)
    (registry : u.session.Registry)
    (run : (declaration exclusions d).runOn disk u = (.ok (), v)) :
    ∃ made, made.Sublist [d.name] ∧
      Makes exclusions made (fun l name => name = d.name ∧ MakesService disk l d) u v := by
  cases declaration_visits sound run with
  | skipped isAlias grows =>
    refine ⟨[], List.nil_sublist _, .nothing (by rw [grows.session]) ?_⟩
    rintro l name _ _ ⟨_, plain, _⟩
    rw [plain] at isAlias
    cases isAlias
  | @service u' _ _ _ _ plain grows behind run =>
    obtain ⟨service, v', extracted, run⟩ := Compile.bind_ok.mp run
    obtain ⟨name, frame, _, _, _, _, added, _⟩ := service_ok grows.sound
      (underlying_known grows.sound (known.mono grows.le) behind).package
      (by rw [grows.session]; exact registry) extracted
    obtain ⟨loader, ended⟩ := addService_ok run
    -- An excluded service is made as well; it is `retained` that leaves its name out.
    refine ⟨[d.name], List.Sublist.refl _, ?_, fun l other le _ => ?_⟩
    · have services : v'.session.services = u.session.services := by
        rw [frame.services, grows.session]
      rw [ended, Session.addService, ← services, List.filter_singleton]
      cases exclusions.contains d.name
      · simp [name]
      · simp
    · rw [loader] at le
      have makes : MakesService disk l d := ⟨plain, _, _, _, _, behind.mono (added.le.trans le)⟩
      rw [List.mem_singleton]
      exact (and_iff_left makes).symm
  | object plain grows behind run =>
    obtain ⟨extraction, _⟩ := object_extracts d _ v grows.sound (known.mono grows.le)
      (by rw [grows.session]; exact registry) run
    refine ⟨[], List.nil_sublist _,
      .nothing (extraction.frame.services.trans (by rw [grows.session])) ?_⟩
    rintro l name le _ ⟨_, _, _, _, _, _, isInterface⟩
    cases (behind.mono (extraction.le.trans le)).unique isInterface
  | other grows behind notInterface _ =>
    refine ⟨[], List.nil_sublist _, .nothing (by rw [grows.session]) ?_⟩
    rintro l name le _ ⟨_, _, pos, methods, embeds, _, isInterface⟩
    cases (behind.mono le).unique isInterface
    exact notInterface pos methods embeds rfl

/-! ### Packages -/

/-- The names by which services are made are among the names whose declarations are extracted. -/
theorem names_make {names : List String} (sound : u.loader.Sound) (member : p ∈ u.loader.packages)
    (registry : u.session.Registry) (serviced : Serviced exclusions u.session)
    (run : (names.forM fun name => (p.lookup name).forM (declaration exclusions)).runOn disk u =
      (.ok (), v)) :
    ∃ made, made.Sublist names ∧
      Makes exclusions made (fun l name => name ∈ names ∧ Serves disk l p name) u v := by
  induction names generalizing u with
  | nil =>
    obtain ⟨_, rfl⟩ := Compile.pure_ok.mp run
    exact ⟨[], List.nil_sublist _, .nothing rfl (by simp)⟩
  | cons name rest ih =>
    rcases names_run_cons run with ⟨absent, later⟩ | ⟨d, u₁, found, first, later⟩
    · obtain ⟨made, sublist, makes⟩ := ih sound member registry serviced later
      refine ⟨made, sublist.cons name, makes.imp fun l other _ _ => ?_⟩
      rw [List.mem_cons, or_and_right, iff_or_self]
      rintro ⟨rfl, d, declared, _⟩
      cases absent.symm.trans declared
    · have known : d.Known u.loader := .of_lookup sound member found
      have here := declaration_ok sound known registry serviced first
      obtain ⟨one, single, makes⟩ := declaration_makes sound known registry first
      obtain ⟨made, sublist, others⟩ := ih here.added.sound (here.added.le.mem member)
        here.added.registry here.serviced later
      have after := names_ok here.added.sound (here.added.le.mem member) here.added.registry
        here.serviced later
      have named : d.name = name := ((sound.wellFormed p member).lookup_name found).1
      rw [named] at single
      refine ⟨one ++ made, single.append sublist, (makes.trans others after.added.le).imp ?_⟩
      intro l other _ _
      have serves : other = d.name ∧ MakesService disk l d ↔ other = name ∧ Serves disk l p other := by
        rw [named]
        exact and_congr_right fun same => by rw [same, serves_iff found]
      rw [serves, List.mem_cons, or_and_right]

theorem mem_names_of_serves {name : String} (serves : Serves disk l p name) : name ∈ p.names := by
  obtain ⟨_, found, _⟩ := serves
  exact mem_names found

theorem names_nodup (formed : p.WellFormed) : p.names.Nodup :=
  (sortBy_perm _).nodup_iff.mpr formed.distinct

theorem package_makes (sound : u.loader.Sound) (member : p ∈ u.loader.packages)
    (registry : u.session.Registry) (serviced : Serviced exclusions u.session)
    (run : (package exclusions p).runOn disk u = (.ok (), v)) :
    ∃ made, made.Nodup ∧ Makes exclusions made (fun l => Serves disk l p) u v := by
  rw [package, Compile.modifySession_bind] at run
  have registry' : Session.Registry { u.session with rootPath := p.path, packageName := p.name } :=
    registry.step (.enter u.session p.path p.name)
  obtain ⟨made, sublist, makes⟩ := names_make (u := { u with
    session := { u.session with rootPath := p.path, packageName := p.name } })
    sound member registry' (serviced.mono rfl rfl rfl fun _ => id) run
  have entered : Makes exclusions made (fun l name => name ∈ p.names ∧ Serves disk l p name) u v :=
    makes.of_services rfl
  refine ⟨made, (names_nodup (sound.wellFormed p member)).sublist sublist,
    entered.imp fun l name _ _ => ?_⟩
  exact and_iff_right_of_imp mem_names_of_serves

/-- The packages declare no service by a common name, excluded services aside. -/
def Apart (disk : Disk) (l : Loader) (exclusions : List String) (p q : Package) : Prop :=
  ∀ name, Serves disk l p name → Serves disk l q name → name ∈ exclusions

theorem disjoint_iff_apart
    (ofFirst : ∀ name, name ∈ made ↔ Serves disk l p name)
    (ofOthers : ∀ name, name ∈ made' ↔ ∃ q ∈ roots, Serves disk l q name) :
    (made.filter fun name => !exclusions.contains name).Disjoint
        (made'.filter fun name => !exclusions.contains name) ↔
      ∀ q ∈ roots, Apart disk l exclusions p q := by
  simp only [Apart, List.Disjoint, List.mem_filter, ofFirst, ofOthers, Bool.not_eq_true',
    List.contains_eq_mem, decide_eq_false_iff_not]
  constructor
  · intro disjoint q listed name first second
    by_contra kept
    exact disjoint ⟨first, kept⟩ ⟨⟨q, listed, second⟩, kept⟩
  · rintro apart name ⟨first, kept⟩ ⟨⟨q, listed, second⟩, _⟩
    exact kept (apart q listed name first second)

/-- The names of retained services repeat exactly if packages share one. -/
theorem packages_make {f : Package → Compile Unit} (sound : u.loader.Sound)
    (member : ∀ p ∈ roots, p ∈ u.loader.packages) (registry : u.session.Registry)
    (serviced : Serviced exclusions u.session)
    (run : (roots.forM f).runOn disk u = (.ok (), v))
    (each : ∀ p u v, (f p).runOn disk u = (.ok (), v) →
      ∃ log, (package exclusions p).runOn disk { u with log } = (.ok (), v)) :
    ∃ made, Makes exclusions made (fun l name => ∃ p ∈ roots, Serves disk l p name) u v ∧
      ∀ l, v.loader.Le l → l.Sound →
        ((made.filter fun name => !exclusions.contains name).Nodup ↔
          roots.Pairwise (Apart disk l exclusions)) := by
  induction roots generalizing u with
  | nil =>
    obtain ⟨_, rfl⟩ := Compile.pure_ok.mp run
    exact ⟨[], .nothing rfl (by simp), fun _ _ _ => iff_of_true List.nodup_nil .nil⟩
  | cons p rest ih =>
    obtain ⟨_, u₁, first, later⟩ := Compile.bind_ok.mp run
    obtain ⟨log, first⟩ := each p u u₁ first
    have here := member p List.mem_cons_self
    obtain ⟨added, serviced₁, _⟩ := package_ok (u := { u with log }) sound here registry serviced first
    obtain ⟨one, once, makes⟩ := package_makes (u := { u with log }) sound here registry serviced first
    have listed : ∀ q ∈ rest, q ∈ u₁.loader.packages := fun q listed =>
      added.le.mem (member q (List.mem_cons_of_mem _ listed))
    obtain ⟨added', _, _⟩ := packages_ok added.sound listed added.registry serviced₁ later each
    obtain ⟨made, others, repeats⟩ := ih added.sound listed added.registry serviced₁ later
    have before : Makes exclusions one (fun l => Serves disk l p) u u₁ := makes.of_services rfl
    -- Within a package names are distinct, so that a name repeats only across packages.
    refine ⟨one ++ made, (before.trans others added'.le).imp fun l name _ _ => ?_, fun l le sound' => ?_⟩
    · rw [List.exists_mem_cons_iff]
    · have ofFirst := fun name => makes.names l name (added'.le.trans le) sound'
      have ofOthers := fun name => others.names l name le sound'
      rw [List.filter_append, List.nodup_append', repeats l le sound', List.pairwise_cons,
        disjoint_iff_apart ofFirst ofOthers, and_iff_right (once.filter _), and_comm]

theorem Serves.ne_empty (formed : p.WellFormed) {name : String} (serves : Serves disk l p name) :
    name ≠ "" := by
  obtain ⟨_, found, _⟩ := serves
  exact (formed.lookup_name found).2.ne_empty

end GoIdl.Extract

/-! ### Definitions -/

namespace GoIdl.Compile

open Extract

variable {disk : Disk} {v : World} {input : Input} {options : Options} {compiled : Compiled}

/-- The loaded packages make the services of a session, each one by each name by which it declares
one. -/
theorem extract_makes {exclusions : List String} {count : Nat}
    (run : (extract exclusions input).runOn disk {} = (.ok count, v)) :
    ∃ roots w, ∃ made : List String, input.load.runOn disk {} = (.ok roots, w) ∧ roots.Nodup ∧
      (∀ p ∈ roots, p.WellFormed) ∧
      v.session.services.map (·.name) = made.filter (fun name => !exclusions.contains name) ∧
      (∀ name, name ∈ made ↔ ∃ p ∈ roots, Serves disk v.loader p name) ∧
      ((made.filter fun name => !exclusions.contains name).Nodup ↔
        roots.Pairwise (Apart disk v.loader exclusions)) := by
  obtain ⟨roots, w, f, loaded, grows, distinct, known, each, package⟩ := extract_loads run
  have session : w.session = {} := grows.session
  have registry : w.session.Registry := by rw [session]; exact .empty "" ""
  have serviced : w.session.Serviced exclusions := by rw [session]; exact .empty "" ""
  obtain ⟨added, _, _⟩ := packages_ok grows.sound known registry serviced each package
  obtain ⟨made, makes, repeats⟩ := packages_make grows.sound known registry serviced each package
  have retained := makes.retained
  rw [session, List.map_nil, List.nil_append] at retained
  exact ⟨roots, w, made, loaded, distinct, fun p listed => grows.sound.wellFormed p (known p listed),
    retained, fun name => makes.names v.loader name (.refl _) added.sound,
    repeats v.loader (.refl _) added.sound⟩

theorem apart_exclusionsOf {l : Loader} {p q : Package} (formed : p.WellFormed) :
    Apart disk l (exclusionsOf options) p q ↔ Apart disk l options.exclusions p q :=
  forall_congr' fun _ => forall_congr' fun serves =>
    imp_congr_right fun _ => mem_exclusionsOf (serves.ne_empty formed)

/-- The services of a definition ascend by their names, which are those by which the loaded packages
declare services, the excluded ones left out. They ascend strictly exactly if no two packages
declare services by one name that is not excluded. -/
theorem services_ascend (run : (compile input options).runOn disk {} = (.ok compiled, v)) :
    ∃ roots w, input.load.runOn disk {} = (.ok roots, w) ∧
      compiled.definition.services.Pairwise (fun a b => a.name ≤ b.name) ∧
      (∀ name, name ∈ compiled.definition.services.map (·.name) ↔
        (∃ p ∈ roots, Serves disk v.loader p name) ∧ name ∉ options.exclusions) ∧
      (compiled.definition.services.Pairwise (fun a b => a.name < b.name) ↔
        ∀ p ∈ roots, ∀ q ∈ roots, p ≠ q → Apart disk v.loader options.exclusions p q) := by
  obtain ⟨count, w, extracted, definition, loader⟩ := compile_ends run
  obtain ⟨roots, start, made, loaded, distinct, formed, retained, served, repeats⟩ :=
    extract_makes extracted
  rw [← loader] at served repeats
  have services : compiled.definition.services =
      sortBy (fun a b => stringLe a.name b.name) w.session.services := by
    rw [definition]
    rfl
  rw [services]
  refine ⟨roots, start, loaded, ?_, fun name => ?_, ?_⟩
  · refine (sortBy_sorted (fun a b => stringLe_total a.name b.name)
      (fun a b c => stringLe_trans a.name b.name c.name) _).imp fun le => ?_
    exact of_decide_eq_true le
  · rw [((sortBy_perm _).map _).mem_iff, retained, List.mem_filter, served]
    refine and_congr_right fun ⟨p, listed, serves⟩ => ?_
    rw [Bool.not_eq_true', ← Bool.not_eq_true, List.contains_iff_mem,
      mem_exclusionsOf (serves.ne_empty (formed p listed))]
  · have symm : Std.Symm (Apart disk v.loader (exclusionsOf options)) :=
      ⟨fun _ _ apart name first second => apart name second first⟩
    rw [sortBy_name_strict_iff Service.name, retained, repeats, ← List.Nodup.pairwise_coe distinct]
    refine forall_congr' fun p => forall_congr' fun listed => forall_congr' fun q => ?_
    exact forall_congr' fun _ => imp_congr_right fun _ => apart_exclusionsOf (formed p listed)

/-- A directory with one file that declares one service. -/
def serviceDisk : Disk :=
  ⟨[("d", .dir [("a.go",
    .file (Text.encode "package d; type S interface\x7b\x7d".toList))])], []⟩

/-- The directory, and its only file once more. -/
def repeated : Input := .patterns ["d", "d/a.go"]

theorem repeated_names :
    ∃ compiled v, (compile repeated {}).runOn serviceDisk {} = (.ok compiled, v) ∧
      compiled.definition.services.map (·.name) = ["S", "S"] := by
  have names : (match ((compile repeated {}).runOn serviceDisk {}).1 with
      | .ok compiled => compiled.definition.services.map (·.name)
      | .error _ => []) = ["S", "S"] := by
    decide +kernel
  rcases run : (compile repeated {}).runOn serviceDisk {} with ⟨_ | compiled, v⟩
  · simp [run] at names
  · rw [run] at names
    exact ⟨compiled, v, rfl, names⟩

theorem not_strict_of_names {services : List Service} {name : String}
    (names : services.map (·.name) = [name, name]) :
    ¬ services.Pairwise fun a b => a.name < b.name := by
  intro strict
  have ascending := List.pairwise_map.mpr strict
  rw [names, List.pairwise_pair] at ascending
  exact String.lt_irrefl name ascending

/-- The packages that the directory and the file lead to declare services by one name. -/
theorem services_ascend_repeated :
    ∃ roots w, ∃ v : World, repeated.load.runOn serviceDisk {} = (.ok roots, w) ∧
      ∃ p ∈ roots, ∃ q ∈ roots, p ≠ q ∧ ¬ Apart serviceDisk v.loader [] p q := by
  obtain ⟨compiled, v, run, names⟩ := repeated_names
  obtain ⟨roots, w, loaded, _, _, strict⟩ := services_ascend run
  refine ⟨roots, w, v, loaded, ?_⟩
  by_contra apart
  push Not at apart
  exact not_strict_of_names names (strict.mpr apart)

/-- Services may share a name. -/
theorem services_not_strict :
    ¬ ∀ disk given options compiled v,
      (compile (.patterns given) options).runOn disk {} = (.ok compiled, v) →
        compiled.definition.services.Pairwise fun a b => a.name < b.name := by
  intro strict
  obtain ⟨compiled, v, run, names⟩ := repeated_names
  exact not_strict_of_names names (strict _ _ _ compiled v run)

end GoIdl.Compile
