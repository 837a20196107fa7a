import GoIdl.Proofs.Package.Loading

/-!
# What loading leaves behind

Loading may fail half way. Whatever its outcome, what was known before is known as before, everything
that can be looked up has been formed, and a package that belongs to a module has its path there.
-/

namespace GoIdl

open Syntax (SourceFile Location)
open Disk (Path)

variable {α β : Type} {disk : Disk} {u v w : World} {p importer : Package}

/-! ### Packages of modules -/

/-- A package that belongs to a module has a path in it. -/
def Package.Placed (p : Package) : Prop := ∀ m, p.module = some m → m.contains p.path = true

theorem GoModule.contains_packagePathOf (m : GoModule) (below : List String) :
    m.contains (m.packagePathOf below) = true := by
  unfold contains remainder? packagePathOf
  by_cases top : below.isEmpty = true
  · simp [top]
  · have inside : m.path.toList ++ ['/'] <+: (m.path ++ "/" ++ "/".intercalate below).toList := by
      simp
    rw [if_neg top]
    dsimp only
    split
    · rfl
    · rw [if_pos (List.isPrefixOf_iff_prefix.mpr inside)]
      rfl

namespace Loading

theorem moduleAt?_root {directory : Path} {m : GoModule}
    (found : moduleAt? disk directory = .ok (some m)) : m.root = directory := by
  unfold moduleAt? at found
  obtain ⟨isFile, _, found⟩ := bind_eq_ok.mp found
  split at found
  · obtain ⟨text, _, found⟩ := bind_eq_ok.mp found
    split at found <;> cases found
    rfl
  · cases found

theorem firstModule_root {directories : List Path} {m : GoModule}
    (found : firstModule disk directories = .ok (some m)) : m.root ∈ directories := by
  induction directories with
  | nil => cases found
  | cons directory rest ih =>
    obtain ⟨here, read, found⟩ := bind_eq_ok.mp found
    split at found
    · cases found
      rw [moduleAt?_root read]
      exact List.mem_cons_self
    · exact List.mem_cons_of_mem _ (ih found)

theorem below?_of_mem_selfAndParents {base place : Path} (above : base ∈ place.selfAndParents) :
    ∃ names, base.below? place = some names := by
  obtain ⟨n, _, rfl⟩ := List.mem_map.mp above
  refine ⟨_, if_pos ⟨rfl, ?_⟩⟩
  exact List.isPrefixOf_iff_prefix.mpr (List.take_prefix n place.names)

theorem pathIn_contains {directory : Path} {m : GoModule}
    (found : findModule disk directory = .ok (some m)) :
    ∃ path, pathIn disk (some directory) (some m) = some path ∧ m.contains path = true := by
  obtain ⟨names, below⟩ := below?_of_mem_selfAndParents (firstModule_root found)
  refine ⟨m.packagePathOf names, ?_, m.contains_packagePathOf names⟩
  show m.packagePath? (disk.resolve directory) = _
  rw [GoModule.packagePath?, below, Option.map_some]

end Loading

/-! ### Worlds that loading leaves -/

/-- From `u` on only packages have been loaded, each of them in its module. -/
structure Enlarges (u v : World) : Prop extends Grows u v where
  placed : ∀ p ∈ v.loader.packages, p ∈ u.loader.packages ∨ p.Placed

namespace Enlarges

theorem refl (sound : u.loader.Sound) : Enlarges u u := ⟨.refl sound, fun _ => .inl⟩

theorem trans (first : Enlarges u v) (second : Enlarges v w) : Enlarges u w where
  toGrows := first.toGrows.trans second.toGrows
  placed := fun p member => (second.placed p member).elim (first.placed p) .inr

/-- A step that forms no package. -/
theorem of_grows (grows : Grows u v) (packages : v.loader.packages = u.loader.packages) :
    Enlarges u v := ⟨grows, fun _ member => .inl (packages ▸ member)⟩

end Enlarges

/-- Whatever the outcome of `c` in `u`, it leaves what loading leaves. -/
def Leaves (disk : Disk) (u : World) (c : Compile α) : Prop := Enlarges u (c.runOn disk u).2

namespace Leaves

variable {c : Compile α} {f : α → Compile β}

theorem same {outcome : Except Failure α} (sound : u.loader.Sound)
    (run : c.runOn disk u = (outcome, u)) : Leaves disk u c := by
  rw [Leaves, run]
  exact .refl sound

theorem pure (sound : u.loader.Sound) (a : α) : Leaves disk u (pure a : Compile α) := .refl sound

theorem fail (sound : u.loader.Sound) (error : DefinitionError) :
    Leaves disk u (Compile.fail error : Compile α) := .refl sound

theorem ofExcept (sound : u.loader.Sound) (outcome : Except Failure α) :
    Leaves disk u (Compile.ofExcept outcome) := by
  cases outcome <;> exact .refl sound

theorem ensure (sound : u.loader.Sound) (condition : Bool) (error : DefinitionError) :
    Leaves disk u (Compile.ensure condition error) := by
  cases condition <;> exact .refl sound

theorem note (sound : u.loader.Sound) (level : LogLevel) (source : LogSource) (message : String) :
    Leaves disk u (Compile.note level source message) :=
  .of_grows (grows_of_loader (.refl _) sound) rfl

theorem bind (first : Leaves disk u c)
    (later : ∀ a v, c.runOn disk u = (.ok a, v) → Enlarges u v → Leaves disk v (f a)) :
    Leaves disk u (c >>= f) := by
  rw [Leaves, Compile.runOn_bind]
  rw [Leaves] at first
  generalize run : c.runOn disk u = outcome at first
  obtain ⟨_ | a, v⟩ := outcome
  · exact first
  · exact first.trans (later a v run first)

theorem mapM {f : α → Compile β} {xs : List α} (sound : u.loader.Sound)
    (each : ∀ x v, v.loader.Sound → Leaves disk v (f x)) : Leaves disk u (xs.mapM f) := by
  induction xs generalizing u with
  | nil => exact .pure sound _
  | cons x rest ih =>
    rw [List.mapM_cons]
    refine (each x u sound).bind fun _ v _ first => ?_
    exact (ih first.sound).bind fun _ v' _ later => .pure later.sound _

theorem forM {f : α → Compile Unit} {xs : List α} (sound : u.loader.Sound)
    (each : ∀ x v, v.loader.Sound → Leaves disk v (f x)) : Leaves disk u (xs.forM f) := by
  induction xs generalizing u with
  | nil => exact .pure sound _
  | cons x rest ih => exact (each x u sound).bind fun _ v _ first => ih first.sound

end Leaves

/-! ### Loading -/

namespace Loading

open Leaves

theorem form_leaves {files : List SourceFile} {path : Option String} {directory : Option Path}
    {module : Option GoModule} (sound : u.loader.Sound) (named : ∀ file ∈ files, file.Named)
    (given : ∀ s, path = some s → s ≠ "")
    (placed : ∀ m, module = some m → ∃ s, path = some s ∧ m.contains s = true) :
    Leaves disk u (form files path directory module) := by
  cases formed : Package.ofFiles u.loader.packages.length files path directory module with
  | error error => exact .same sound (by rw [form_run, formed])
  | ok p =>
    have run : (form files path directory module).runOn disk u = (.ok p,
        { u with loader := { u.loader with packages := u.loader.packages ++ [p] } }) := by
      rw [form_run, formed]
    have made : p.Placed := by
      intro m belongs
      rw [(Package.ofFiles_given formed).2.2.2] at belongs
      obtain ⟨s, given, inside⟩ := placed m belongs
      rw [(Package.ofFiles_ok formed).2.1, given, Option.getD_some]
      exact inside
    rw [Leaves, run]
    refine ⟨(form_ok sound named given run).1, fun q member => ?_⟩
    rcases List.mem_append.mp member with old | new
    · exact .inl old
    · rw [List.mem_singleton.mp new]
      exact .inr made

theorem readFiles_leaves {read : α → Except Failure SourceFile} (sound : u.loader.Sound)
    (items : List α) : Leaves disk u (items.mapM fun item => Compile.ofExcept (read item)) :=
  .same sound (Compile.runOn_mapM_ofExcept read items)

theorem loadSources_leaves (sources : List (String × String)) (sound : u.loader.Sound) :
    Leaves disk u (loadSources sources) := by
  refine (Leaves.ensure sound _ _).bind fun _ v _ checked => ?_
  refine (readFiles_leaves checked.sound sources).bind fun files v₁ read at₁ => ?_
  obtain ⟨_, named⟩ := readFiles_ok (fun source : String × String => Syntax.Source.read source.1 source.2)
    (fun _ _ => Syntax.Source.read_named) read
  refine (form_leaves at₁.sound named (by simp) (by simp)).bind fun p v₂ _ at₂ => ?_
  exact (Leaves.note at₂.sound _ _ _).bind fun _ v₃ _ at₃ => .pure at₃.sound _

theorem moduleOf_outcome (directory : Option Path) (disk : Disk) (u : World) :
    ((moduleOf directory).runOn disk u).2 = u := by
  unfold moduleOf
  cases directory with
  | none => rfl
  | some d =>
    show ((Compile.ofExcept (findModule disk d)).runOn disk u).2 = u
    cases findModule disk d <;> rfl

theorem moduleOf_placed {directory : Option Path} {m : GoModule}
    (run : (moduleOf directory).runOn disk u = (.ok (some m), v)) :
    ∃ path, pathIn disk directory (some m) = some path ∧ m.contains path = true := by
  cases directory with
  | none => cases run
  | some d => exact pathIn_contains (Compile.ofExcept_ok.mp run).1

theorem formFiles_leaves (paths : List Path) (directory : Option Path) (sound : u.loader.Sound) :
    Leaves disk u (formFiles paths directory) := by
  rw [formFiles, Leaves, Compile.read_bind]
  refine (readFiles_leaves sound paths).bind fun files v read at₁ => ?_
  obtain ⟨_, named⟩ := readFiles_ok (readFile disk) (fun _ _ => readFile_named) read
  refine (Leaves.same at₁.sound
    (Prod.ext rfl (moduleOf_outcome directory disk v))).bind fun module v₁ found at₂ => ?_
  obtain ⟨_, modules⟩ := moduleOf_ok found
  refine (form_leaves at₂.sound named (fun _ given => pathIn_ne_empty given modules)
    fun m belongs => by subst belongs; exact moduleOf_placed found).bind fun p v₂ formed at₃ => ?_
  obtain ⟨_, member⟩ :=
    form_ok at₂.sound named (fun _ given => pathIn_ne_empty given modules) formed
  rw [Leaves, Compile.modifyLoader_bind, Compile.note_bind]
  refine .of_grows (grows_enterPath at₃.sound member) ?_
  dsimp only [Compile.runOn_pure]
  split <;> rfl

theorem loadDirectory_leaves (directory : Path) (sound : u.loader.Sound) :
    Leaves disk u (loadDirectory directory) := by
  rw [loadDirectory, Leaves, Compile.read_bind]
  refine (Leaves.ofExcept sound _).bind fun _ v _ at₁ => ?_
  refine (Leaves.ensure at₁.sound _ _).bind fun _ v₁ _ at₂ => ?_
  rw [Leaves, Compile.loader_bind]
  split
  · exact Leaves.pure at₂.sound _
  · refine (Leaves.ensure at₂.sound _ _).bind fun _ v₂ _ at₃ => ?_
    refine (formFiles_leaves _ _ at₃.sound).bind fun p v₃ formed at₄ => ?_
    exact .of_grows (grows_enterDirectory at₄.sound (formFiles_ok at₃.sound formed).2 _) rfl

theorem loadFiles_leaves (paths : List Path) (sound : u.loader.Sound) :
    Leaves disk u (loadFiles paths) := by
  rw [loadFiles, Leaves, Compile.read_bind]
  refine Leaves.bind (.forM sound fun path v sound => ?_) fun _ v _ checked =>
    formFiles_leaves _ _ checked.sound
  exact (Leaves.ofExcept sound _).bind fun _ _ _ read => .ensure read.sound _ _

theorem loadTree_leaves (pattern : String) (sound : u.loader.Sound) :
    Leaves disk u (loadTree pattern) := by
  rw [loadTree, Leaves, Compile.read_bind]
  refine (Leaves.ofExcept sound _).bind fun _ v _ at₁ => ?_
  refine (Leaves.ensure at₁.sound _ _).bind fun _ v₁ _ at₂ => ?_
  refine (Leaves.mapM at₂.sound fun directory v sound =>
    loadDirectory_leaves directory sound).bind fun _ v₂ _ at₃ => ?_
  exact (Leaves.ensure at₃.sound _ _).bind fun _ v₃ _ at₄ => .pure at₄.sound _

theorem loadPatterns_leaves (files : List Path) (filesLoaded : Bool) (patterns : List String)
    (sound : u.loader.Sound) : Leaves disk u (loadPatterns files filesLoaded patterns) := by
  induction patterns generalizing u filesLoaded with
  | nil => exact .pure sound _
  | cons pattern rest ih =>
    have next : ∀ (loaded : Bool) (before : List Package) (v : World), v.loader.Sound →
        Leaves disk v (do return before ++ (← loadPatterns files loaded rest)) :=
      fun loaded before v sound => (ih loaded sound).bind fun _ v' _ later => .pure later.sound _
    unfold loadPatterns
    split
    · split
      · exact ih _ sound
      · exact (loadFiles_leaves files sound).bind fun p v _ at₁ => next true [p] v at₁.sound
    · exact (loadTree_leaves pattern sound).bind fun tree v _ at₁ =>
        next filesLoaded tree v at₁.sound
    · exact (loadDirectory_leaves _ sound).bind fun p v _ at₁ => next filesLoaded [p] v at₁.sound

theorem load_leaves (patterns : List String) (sound : u.loader.Sound) :
    Leaves disk u (load patterns) :=
  (Leaves.ensure sound _ _).bind fun _ _ _ at₁ =>
    (loadPatterns_leaves _ _ _ at₁.sound).bind fun _ _ _ at₂ => .pure at₂.sound _

/-! ### Imports -/

theorem loadImport_leaves (importer : Package) (path : String) (location : Location)
    (sound : u.loader.Sound) : Leaves disk u (loadImport importer path location) := by
  rw [loadImport, Leaves, Compile.read_bind, Compile.loader_bind]
  split
  · exact Leaves.pure sound _
  · rename_i absent
    split
    · exact Leaves.fail sound _
    · rename_i module _
      refine (Leaves.ofExcept sound _).bind fun _ v tested _ => ?_
      obtain ⟨_, rfl⟩ := Compile.ofExcept_ok.mp tested
      refine (Leaves.ensure sound _ _).bind fun _ v checked _ => ?_
      obtain ⟨_, rfl⟩ := Compile.ensure_ok.mp checked
      have loading : Leaves disk v (loadDirectory (module.directoryFor path)) :=
        loadDirectory_leaves _ sound
      rw [Leaves] at loading
      rw [Leaves, Compile.runOn_bind]
      generalize loaded : (loadDirectory _).runOn disk v = outcome at loading
      obtain ⟨_ | p, v'⟩ := outcome
      · exact loading
      · obtain ⟨grows, member⟩ := loadDirectory_ok sound loaded
        exact ⟨grows_enterImport grows absent member, loading.placed⟩

end Loading

end GoIdl
