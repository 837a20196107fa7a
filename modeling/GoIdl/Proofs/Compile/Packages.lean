import GoIdl.Proofs.Compile.Services

/-!
# Extracting root packages

What extracting root packages one after another adds is what their declarations lead to, and all
that they lead to has been added. An object is described for the first package that leads to it.
-/

namespace GoIdl.Extract

open Resolve Session

variable {disk : Disk} {u v w : World} {l l' : Loader} {p : Package} {roots : List Package}
  {d e : DeclaredType} {exclusions : List String}

/-- The structs that extraction starts from in a package. -/
def StartsIn (disk : Disk) (l : Loader) (p : Package) (e : DeclaredType) : Prop :=
  ∃ name d, p.lookup name = some d ∧ Starts disk l d e

theorem StartsIn.mono (starts : StartsIn disk l p e) (le : l.Le l') : StartsIn disk l' p e := by
  obtain ⟨name, d, found, starts⟩ := starts
  exact ⟨name, d, found, starts.mono le⟩

/-! ### One package -/

theorem mem_names {name : String} (found : p.lookup name = some d) : name ∈ p.names := by
  obtain ⟨declaration, listed, _⟩ := Option.map_eq_some_iff.mp found
  exact mem_sortBy.mpr (List.mem_map.mpr ⟨_, Json.mem_of_find? listed, rfl⟩)

/-- A name without a declaration is passed over. -/
theorem names_run_cons {name : String} {rest : List String} {f : DeclaredType → Compile Unit}
    (run : ((name :: rest).forM fun name => (p.lookup name).forM f).runOn disk u = (.ok (), v)) :
    p.lookup name = none ∧
        (rest.forM fun name => (p.lookup name).forM f).runOn disk u = (.ok (), v) ∨
      ∃ d u₁, p.lookup name = some d ∧ (f d).runOn disk u = (.ok (), u₁) ∧
        (rest.forM fun name => (p.lookup name).forM f).runOn disk u₁ = (.ok (), v) := by
  obtain ⟨_, u₁, first, later⟩ := Compile.bind_ok.mp run
  dsimp only at first
  cases found : p.lookup name with
  | none =>
    rw [found] at first
    obtain ⟨_, rfl⟩ := Compile.pure_ok.mp first
    exact .inl ⟨rfl, later⟩
  | some d =>
    rw [found] at first
    exact .inr ⟨d, u₁, rfl, first, later⟩

/-- The structs that extraction starts from at the declarations behind a list of names. -/
def StartsAt (disk : Disk) (names : List String) (p : Package) (l : Loader) (e : DeclaredType) : Prop :=
  ∃ name ∈ names, ∃ d, p.lookup name = some d ∧ Starts disk l d e

/-- The declarations behind a list of names are extracted one after another. -/
theorem names_ok {names : List String} (sound : u.loader.Sound) (member : p ∈ u.loader.packages)
    (registry : u.session.Registry) (serviced : Serviced exclusions u.session)
    (run : (names.forM fun name => (p.lookup name).forM (declaration exclusions)).runOn disk u =
      (.ok (), v)) :
    Declares disk exclusions (StartsAt disk names p) u v := by
  induction names generalizing u with
  | nil =>
    obtain ⟨_, rfl⟩ := Compile.pure_ok.mp run
    exact .of_grows (.refl sound) registry serviced (by simp [StartsAt])
  | cons name rest ih =>
    rcases names_run_cons run with ⟨absent, later⟩ | ⟨d, u₁, found, first, later⟩
    · have same : StartsAt disk (name :: rest) p = StartsAt disk rest p := by
        funext l e
        simp [StartsAt, absent]
      rw [same]
      exact ih sound member registry serviced later
    · have here := declaration_ok sound (.of_lookup sound member found) registry serviced first
      have after := ih here.added.sound (here.added.le.mem member) here.added.registry here.serviced later
      refine ⟨here.added.andThen after.added (fun e starts => ?_) (fun e starts => ?_) (fun _ => id)
        fun _ same => same.trans here.rootPath, after.rootPath.trans here.rootPath, after.serviced, ?_⟩
      · exact ⟨name, List.mem_cons_self, d, found, starts.mono after.added.le⟩
      · obtain ⟨name', listed, starts⟩ := starts
        exact ⟨name', List.mem_cons_of_mem _ listed, starts⟩
      · rintro l e le sound' ⟨name', listed, d', found', starts⟩
        rcases List.mem_cons.mp listed with rfl | later
        · cases found.symm.trans found'
          exact here.covers.mono after.added.le after.added.registered l e le sound' starts
        · exact after.covers l e le sound' ⟨name', later, d', found', starts⟩

theorem package_ok (sound : u.loader.Sound) (member : p ∈ u.loader.packages)
    (registry : u.session.Registry) (serviced : Serviced exclusions u.session)
    (run : (package exclusions p).runOn disk u = (.ok (), v)) :
    Additions disk (· = p.path) none (StartsIn disk v.loader p) u v ∧
      Serviced exclusions v.session ∧ Covers v fun l => StartsIn disk l p := by
  rw [package, Compile.modifySession_bind] at run
  have registry' : Session.Registry { u.session with rootPath := p.path, packageName := p.name } :=
    registry.step (.enter u.session p.path p.name)
  have serviced' :
      Serviced exclusions { u.session with rootPath := p.path, packageName := p.name } :=
    serviced.mono rfl rfl rfl fun _ => id
  have declares := names_ok (u := { u with
    session := { u.session with rootPath := p.path, packageName := p.name } })
    sound member registry' serviced' run
  have entered : Additions disk (· = p.path) none (StartsIn disk v.loader p) u
      { u with session := { u.session with rootPath := p.path, packageName := p.name } } :=
    .of_objects (.refl _) sound registry' fun _ => rfl
  refine ⟨entered.trans (declares.added.imp ?_ fun _ => id) (by simp), declares.serviced, ?_⟩
  · rintro e ⟨name, _, d, found, starts⟩
    exact ⟨name, d, found, starts⟩
  · rintro l e le sound' ⟨name, d, found, starts⟩
    exact declares.covers l e le sound' ⟨name, mem_names found, d, found, starts⟩

/-! ### All packages -/

theorem packages_ok {f : Package → Compile Unit} (sound : u.loader.Sound)
    (member : ∀ p ∈ roots, p ∈ u.loader.packages) (registry : u.session.Registry)
    (serviced : Serviced exclusions u.session)
    (run : (roots.forM f).runOn disk u = (.ok (), v))
    (each : ∀ p u v, (f p).runOn disk u = (.ok (), v) →
      ∃ log, (package exclusions p).runOn disk { u with log } = (.ok (), v)) :
    Additions disk (fun root => ∃ p ∈ roots, root = p.path) none
        (fun e => ∃ p ∈ roots, StartsIn disk v.loader p e) u v ∧
      Serviced exclusions v.session ∧ Covers v fun l e => ∃ p ∈ roots, StartsIn disk l p e := by
  induction roots generalizing u with
  | nil =>
    obtain ⟨_, rfl⟩ := Compile.pure_ok.mp run
    exact ⟨.of_objects (.refl _) sound registry fun _ => rfl, serviced, by simp [Covers]⟩
  | cons p rest ih =>
    obtain ⟨_, u₁, first, later⟩ := Compile.bind_ok.mp run
    obtain ⟨log, first⟩ := each p u u₁ first
    obtain ⟨noted, serviced₁, covers⟩ := package_ok (u := { u with log }) sound
      (member p List.mem_cons_self) registry serviced first
    have added := noted.logs u.log u₁.log
    obtain ⟨added', serviced', covers'⟩ := ih added.sound
      (fun q listed => added.le.mem (member q (List.mem_cons_of_mem _ listed))) added.registry
      serviced₁ later
    refine ⟨added.andThen added' (fun e starts => ?_) (fun e starts => ?_)
      (fun _ same => ⟨p, List.mem_cons_self, same⟩) (fun _ from' => ?_), serviced', ?_⟩
    · exact ⟨p, List.mem_cons_self, starts.mono added'.le⟩
    · obtain ⟨q, listed, starts⟩ := starts
      exact ⟨q, List.mem_cons_of_mem _ listed, starts⟩
    · obtain ⟨q, listed, same⟩ := from'
      exact ⟨q, List.mem_cons_of_mem _ listed, same⟩
    · rintro l e le sound' ⟨q, listed, starts⟩
      rcases List.mem_cons.mp listed with rfl | later
      · exact covers.mono added'.le added'.registered l e le sound' starts
      · exact covers' l e le sound' ⟨q, later, starts⟩

theorem Additions.allComplete {roots : String → Prop} {seeds : DeclaredType → Prop}
    (added : Additions disk roots none seeds w v) (empty : w.session = {}) :
    AllComplete disk v.loader v.session := by
  intro id o found
  obtain ⟨_, d, root, _, _, same, _, complete⟩ := added.made id o (by rw [empty]; rfl) found
  exact ⟨d, root, same, complete⟩

end GoIdl.Extract

/-! ### Whole compilations -/

namespace GoIdl.Compile

variable {disk : Disk} {v : World} {input : Input} {options : Options} {exclusions : List String}

/-- Loads the packages whose declarations are extracted. -/
def Input.load : Input → Compile (List Package)
  | .patterns given => Loading.load given
  | .sources texts => do
    let package ← Loading.loadSources texts
    return [package]

/-- Root packages are loaded, then they are extracted one after another. -/
theorem extract_loads {count : Nat}
    (run : (extract exclusions input).runOn disk {} = (.ok count, v)) :
    ∃ roots w, ∃ f : Package → Compile Unit, input.load.runOn disk {} = (.ok roots, w) ∧ Grows {} w ∧
      roots.Nodup ∧ (∀ p ∈ roots, p ∈ w.loader.packages) ∧
      (roots.forM f).runOn disk w = (.ok (), v) ∧
      ∀ p u v, (f p).runOn disk u = (.ok (), v) →
        ∃ log, (Extract.package exclusions p).runOn disk { u with log } = (.ok (), v) := by
  have start : Loader.Sound ({} : World).loader := .empty
  cases input with
  | patterns given =>
    obtain ⟨packages, w, loaded, run⟩ := bind_ok.mp run
    obtain ⟨grows, known⟩ := Loading.load_ok start loaded
    obtain ⟨_, v', each, run⟩ := bind_ok.mp run
    obtain ⟨_, rfl⟩ := pure_ok.mp run
    exact ⟨packages, w, _, loaded, grows, Loading.load_nodup loaded, known, each,
      fun p u v run => ⟨_, run⟩⟩
  | sources texts =>
    obtain ⟨package, w, loaded, run⟩ := bind_ok.mp run
    obtain ⟨grows, known⟩ := Loading.loadSources_ok start loaded
    obtain ⟨_, v', each, run⟩ := bind_ok.mp run
    obtain ⟨_, rfl⟩ := pure_ok.mp run
    exact ⟨[package], w, Extract.package exclusions, bind_ok.mpr ⟨package, w, loaded, rfl⟩, grows,
      List.nodup_singleton _, by simpa using known, bind_ok.mpr ⟨(), v, each, rfl⟩, fun p u v run => ⟨u.log, run⟩⟩

/-- After a session has been extracted nothing is loaded any more. -/
theorem compile_ends {compiled : Compiled}
    (run : (compile input options).runOn disk {} = (.ok compiled, v)) :
    ∃ count w, (extract (exclusionsOf options) input).runOn disk {} = (.ok count, w) ∧
      compiled.definition = (w.session.finalize options.packageName options.params).definition ∧
      v.loader = w.loader := by
  obtain ⟨count, w, extracted, run⟩ := bind_ok.mp run
  refine ⟨count, w, extracted, ?_⟩
  cases run
  exact ⟨rfl, rfl⟩

/-- A compilation extracts a session and finalizes it. -/
theorem compile_ok {compiled : Compiled}
    (run : (compile input options).runOn disk {} = (.ok compiled, v)) :
    ∃ count w, (extract (exclusionsOf options) input).runOn disk {} = (.ok count, w) ∧
      compiled.definition = (w.session.finalize options.packageName options.params).definition := by
  obtain ⟨count, w, extracted, same, _⟩ := compile_ends run
  exact ⟨count, w, extracted, same⟩

theorem mem_exclusionsOf {name : String} (named : name ≠ "") :
    name ∈ exclusionsOf options ↔ name ∈ options.exclusions := by
  simp [exclusionsOf, named]

end GoIdl.Compile

namespace GoIdl.Extract

open Session

variable {disk : Disk} {v : World} {exclusions : List String}

/-- From an empty session on, what the loaded packages start from has been extracted. -/
theorem extract_adds {input : Compile.Input} {count : Nat}
    (run : (Compile.extract exclusions input).runOn disk {} = (.ok count, v)) :
    ∃ roots w, input.load.runOn disk {} = (.ok roots, w) ∧ (∀ p ∈ roots, p ∈ v.loader.packages) ∧
      w.session = {} ∧
      Additions disk (fun root => ∃ p ∈ roots, root = p.path) none
        (fun e => ∃ p ∈ roots, StartsIn disk v.loader p e) w v ∧
      Serviced exclusions v.session ∧ Covers v fun l e => ∃ p ∈ roots, StartsIn disk l p e := by
  obtain ⟨roots, w, f, loaded, grows, _, known, each, package⟩ := Compile.extract_loads run
  have session : w.session = {} := grows.session
  obtain ⟨added, serviced, covers⟩ := packages_ok grows.sound known
    (by rw [session]; exact .empty "" "") (by rw [session]; exact .empty "" "") each package
  exact ⟨roots, w, loaded, fun p listed => added.le.mem (known p listed), session, added, serviced,
    covers⟩

/-- From an empty session on, complete objects have been extracted. -/
theorem extract_ok {input : Compile.Input} {count : Nat}
    (run : (Compile.extract exclusions input).runOn disk {} = (.ok count, v)) :
    v.session.Registry ∧ Serviced exclusions v.session ∧ AllComplete disk v.loader v.session := by
  obtain ⟨_, _, _, _, session, added, serviced, _⟩ := extract_adds run
  exact ⟨added.registry, serviced, added.allComplete session⟩

end GoIdl.Extract
