import GoIdl.Package.Loading
import GoIdl.Proofs.Compile.Running
import GoIdl.Proofs.Package.Scope

/-!
# Loaded packages

Loading only adds to the packages that are known: what an import path led to, it leads to for good.
Every package that a path leads to has been formed from files that were read.
-/

namespace GoIdl

open Syntax (SourceFile Location)
open Disk (Path)

variable {disk : Disk} {w w' v : World} {l l' l'' : Loader} {p importer : Package}

/-! ### Loaders -/

/-- `l'` knows what `l` knows. -/
structure Loader.Le (l l' : Loader) : Prop where
  byPath : ∀ path p, Json.find? path l.byPath = some p → Json.find? path l'.byPath = some p
  packages : l.packages <+: l'.packages

/-- All packages that can be looked up have been formed, and from files that were read. -/
structure Loader.Sound (l : Loader) : Prop where
  byPath : ∀ path p, Json.find? path l.byPath = some p → p ∈ l.packages
  byDirectory : ∀ key p, l.byDirectory.lookup key = some p → p ∈ l.packages
  wellFormed : ∀ p ∈ l.packages, p.WellFormed

namespace Loader

theorem Le.refl (l : Loader) : l.Le l := ⟨fun _ _ found => found, List.prefix_refl _⟩

theorem Le.trans (first : l.Le l') (second : l'.Le l'') : l.Le l'' :=
  ⟨fun path p found => second.byPath path p (first.byPath path p found),
    first.packages.trans second.packages⟩

theorem Le.mem (le : l.Le l') (member : p ∈ l.packages) : p ∈ l'.packages :=
  le.packages.subset member

theorem Le.declared (le : l.Le l') : l.declared ≤ l'.declared := by
  obtain ⟨more, grown⟩ := le.packages
  rw [Loader.declared, Loader.declared, ← grown]
  induction l.packages with
  | nil => exact Nat.zero_le _
  | cons p rest ih =>
    rw [List.cons_append, List.foldr_cons, List.foldr_cons]
    exact Nat.add_le_add_left ih _

theorem Sound.empty : Loader.Sound {} where
  byPath := by simp
  byDirectory := by simp
  wellFormed := by simp

end Loader

/-- From `w` on only packages have been loaded. -/
structure Grows (w w' : World) : Prop where
  le : w.loader.Le w'.loader
  sound : w'.loader.Sound
  session : w'.session = w.session

namespace Grows

theorem refl (sound : w.loader.Sound) : Grows w w := ⟨.refl _, sound, rfl⟩

theorem trans (first : Grows w v) (second : Grows v w') : Grows w w' :=
  ⟨first.le.trans second.le, second.sound, second.session.trans first.session⟩

end Grows

theorem grows_of_loader {log : List LogEntry} (le : w.loader.Le l) (sound : l.Sound) :
    Grows w { w with loader := l, log } := ⟨le, sound, rfl⟩

namespace Loading

/-! ### Modules -/

theorem moduleAt?_path {directory : Path} {m : GoModule}
    (found : moduleAt? disk directory = .ok (some m)) : m.path ≠ "" := by
  unfold moduleAt? at found
  obtain ⟨isFile, _, found⟩ := bind_eq_ok.mp found
  split at found
  · obtain ⟨text, _, found⟩ := bind_eq_ok.mp found
    split at found
    · rename_i path read
      cases found
      exact GoModule.pathOfText?_ne_empty read
    · cases found
  · cases found

theorem firstModule_path {directories : List Path} {m : GoModule}
    (found : firstModule disk directories = .ok (some m)) : m.path ≠ "" := by
  induction directories with
  | nil => cases found
  | cons directory rest ih =>
    obtain ⟨here, read, found⟩ := bind_eq_ok.mp found
    split at found
    · cases found
      exact moduleAt?_path read
    · exact ih found

theorem moduleOf_ok {directory : Option Path} {m : Option GoModule}
    (run : (moduleOf directory).runOn disk w = (.ok m, w')) :
    w' = w ∧ ∀ found, m = some found → found.path ≠ "" := by
  unfold moduleOf at run
  split at run
  · obtain ⟨_, _, here, run⟩ := Compile.bind_ok.mp run
    cases here
    obtain ⟨read, same⟩ := Compile.ofExcept_ok.mp run
    refine ⟨same, ?_⟩
    rintro found rfl
    exact firstModule_path read
  · cases run
    exact ⟨rfl, by simp⟩

theorem pathIn_ne_empty {directory : Option Path} {m : Option GoModule} {path : String}
    (found : pathIn disk directory m = some path) (module : ∀ g, m = some g → g.path ≠ "") :
    path ≠ "" := by
  unfold pathIn at found
  obtain ⟨g, given, found⟩ := Option.bind_eq_some_iff.mp found
  obtain ⟨d, _, found⟩ := Option.bind_eq_some_iff.mp found
  obtain ⟨below, _, rfl⟩ := Option.map_eq_some_iff.mp found
  exact GoModule.packagePathOf_ne_empty (module g given) below

/-! ### Source files -/

theorem sourceNames_eq (entries : List (String × Disk.Node)) :
    (entries.filterMap fun (name, node) =>
      if node.isRegular && isSourceName name then some name else none) =
        (entries.filter fun (name, node) => node.isRegular && isSourceName name).map (·.1) := by
  induction entries with
  | nil => rfl
  | cons entry rest ih =>
    rw [List.filterMap_cons, List.filter_cons, ih]
    dsimp only
    by_cases source : (entry.2.isRegular && isSourceName entry.1) = true
    · rw [if_pos source, if_pos source]
      rfl
    · rw [if_neg source, if_neg source]

/-! ### Forming packages -/

theorem form_run (files : List SourceFile) (path : Option String) (directory : Option Path)
    (module : Option GoModule) (disk : Disk) (w : World) :
    (form files path directory module).runOn disk w =
      match Package.ofFiles w.loader.packages.length files path directory module with
      | .ok p => (.ok p, { w with loader := { w.loader with packages := w.loader.packages ++ [p] } })
      | .error error => (.error (.definition error), w) := by
  rw [form, Compile.loader_bind]
  dsimp only
  rcases Package.ofFiles w.loader.packages.length files path directory module with _ | _ <;> rfl

theorem form_ok {files : List SourceFile} {path : Option String} {directory : Option Path}
    {module : Option GoModule} (sound : w.loader.Sound) (named : ∀ file ∈ files, file.Named)
    (given : ∀ s, path = some s → s ≠ "")
    (run : (form files path directory module).runOn disk w = (.ok p, w')) :
    Grows w w' ∧ p ∈ w'.loader.packages := by
  rw [form, Compile.loader_bind] at run
  obtain ⟨formed, outcome, run⟩ := Compile.ofDefinition_bind_ok.mp run
  rw [Compile.modifyLoader_bind] at run
  obtain ⟨rfl, rfl⟩ := Compile.pure_ok.mp run
  have kept : ∀ {q : Package}, q ∈ w.loader.packages → q ∈ w.loader.packages ++ [p] :=
    List.mem_append_left _
  refine ⟨grows_of_loader ⟨fun _ _ found => found, List.prefix_append _ _⟩
    ⟨fun path p found => kept (sound.byPath path p found),
      fun key p found => kept (sound.byDirectory key p found), ?_⟩, List.mem_append_right _ (by simp)⟩
  intro p member
  rcases List.mem_append.mp member with old | new
  · exact sound.wellFormed p old
  · cases List.mem_singleton.mp new
    exact Package.ofFiles_wellFormed named given outcome

theorem grows_enterPath {log : List LogEntry} (sound : w.loader.Sound)
    (member : p ∈ w.loader.packages) :
    Grows w { w with
      loader := if (Json.find? p.path w.loader.byPath).isSome then w.loader
        else { w.loader with byPath := w.loader.byPath ++ [(p.path, p)] }
      log } := by
  split
  · exact grows_of_loader (.refl _) sound
  · rename_i free
    have free : p.path ∉ Json.keys w.loader.byPath := fun known => free (Json.find?_isSome_iff.mpr known)
    refine grows_of_loader ⟨fun path q found => ?_, List.prefix_refl _⟩
      ⟨fun path q found => ?_, sound.byDirectory, sound.wellFormed⟩
    · exact (Json.find?_append_new free).mpr (.inl found)
    · rcases (Json.find?_append_new free).mp found with old | ⟨-, rfl⟩
      · exact sound.byPath path q old
      · exact member

theorem grows_enterDirectory (sound : w.loader.Sound) (member : p ∈ w.loader.packages)
    (key : Path) :
    Grows w { w with
      loader := { w.loader with byDirectory := w.loader.byDirectory ++ [(key, p)] } } := by
  refine grows_of_loader ⟨fun _ _ found => found, List.prefix_refl _⟩
    ⟨sound.byPath, fun other q found => ?_, sound.wellFormed⟩
  rw [List.lookup_append] at found
  cases old : w.loader.byDirectory.lookup other with
  | some q' =>
    rw [old] at found
    cases found
    exact sound.byDirectory other q old
  | none =>
    rw [old, Option.none_or, List.lookup_cons] at found
    split at found
    · cases found
      exact member
    · cases found

theorem readFiles_ok {α : Type} (read : α → Except Failure SourceFile) {items : List α}
    {files : List SourceFile} (named : ∀ item file, read item = .ok file → file.Named)
    (run : (items.mapM fun item => Compile.ofExcept (read item)).runOn disk w = (.ok files, w')) :
    w' = w ∧ ∀ file ∈ files, file.Named := by
  induction items generalizing w files with
  | nil =>
    cases run
    exact ⟨rfl, by simp⟩
  | cons item rest ih =>
    rw [List.mapM_cons] at run
    obtain ⟨file, first, run⟩ := Compile.ofExcept_bind_ok.mp run
    obtain ⟨more, v, later, run⟩ := Compile.bind_ok.mp run
    obtain ⟨rfl, rfl⟩ := Compile.pure_ok.mp run
    obtain ⟨same, others⟩ := ih later
    exact ⟨same, List.forall_mem_cons.mpr ⟨named item file first, others⟩⟩

theorem readFile_named {path : Path} {file : SourceFile} (read : readFile disk path = .ok file) :
    file.Named := by
  obtain ⟨text, _, read⟩ := bind_eq_ok.mp read
  exact Syntax.Source.ofPath_named read

theorem loadSources_ok {sources : List (String × String)} (sound : w.loader.Sound)
    (run : (loadSources sources).runOn disk w = (.ok p, w')) :
    Grows w w' ∧ p ∈ w'.loader.packages := by
  unfold loadSources at run
  obtain ⟨_, run⟩ := Compile.ensure_bind_ok.mp run
  obtain ⟨files, _, read, run⟩ := Compile.bind_ok.mp run
  obtain ⟨same, named⟩ := readFiles_ok
    (fun source : String × String => Syntax.Source.read source.1 source.2)
    (fun _ _ => Syntax.Source.read_named) read
  rw [same] at run
  obtain ⟨package, v, formed, run⟩ := Compile.bind_ok.mp run
  obtain ⟨grows, member⟩ := form_ok sound named (by simp) formed
  rw [Compile.note_bind] at run
  obtain ⟨rfl, rfl⟩ := Compile.pure_ok.mp run
  exact ⟨⟨grows.le, grows.sound, grows.session⟩, member⟩

theorem formFiles_steps {paths : List Path} {directory : Option Path}
    (run : (formFiles paths directory).runOn disk w = (.ok p, w')) :
    ∃ files module v log, paths.mapM (readFile disk) = .ok files ∧
      (moduleOf directory).runOn disk w = (.ok module, w) ∧
      (form files (pathIn disk directory module) directory module).runOn disk w = (.ok p, v) ∧
      w' = { v with
        loader := if (Json.find? p.path v.loader.byPath).isSome then v.loader
          else { v.loader with byPath := v.loader.byPath ++ [(p.path, p)] }
        log } := by
  rw [formFiles, Compile.read_bind] at run
  obtain ⟨files, _, read, run⟩ := Compile.bind_ok.mp run
  rw [Compile.runOn_mapM_ofExcept] at read
  obtain ⟨read, same⟩ := Prod.mk.inj read
  rw [← same] at run
  obtain ⟨module, _, found, run⟩ := Compile.bind_ok.mp run
  rw [(moduleOf_ok found).1] at run found
  obtain ⟨package, v, formed, run⟩ := Compile.bind_ok.mp run
  rw [Compile.modifyLoader_bind, Compile.note_bind] at run
  obtain ⟨rfl, rfl⟩ := Compile.pure_ok.mp run
  exact ⟨files, module, v, _, read, found, formed, rfl⟩

theorem formFiles_ok {paths : List Path} {directory : Option Path} (sound : w.loader.Sound)
    (run : (formFiles paths directory).runOn disk w = (.ok p, w')) :
    Grows w w' ∧ p ∈ w'.loader.packages := by
  obtain ⟨files, module, v, log, read, found, formed, rfl⟩ := formFiles_steps run
  have named : ∀ file ∈ files, file.Named := by
    intro file given
    obtain ⟨_, _, read⟩ := exists_left_of_forall₂ (mapM_eq_ok.mp read) given
    exact readFile_named read
  have modules := (moduleOf_ok found).2
  obtain ⟨grows, member⟩ :=
    form_ok sound named (fun _ found => pathIn_ne_empty found modules) formed
  exact ⟨grows.trans (grows_enterPath grows.sound member), by dsimp only; split <;> exact member⟩

theorem loadDirectory_new {directory : Path} (isDir : disk.isDir directory = .ok true)
    (new : w.loader.byDirectory.lookup (disk.resolve directory) = none) :
    (loadDirectory directory).runOn disk w =
      (do
        Compile.ensure (!(sourceFiles disk directory).isEmpty) { cause := .noFiles directory.text }
        let package ← formFiles (sourceFiles disk directory) (some directory)
        Compile.modifyLoader fun l =>
          { l with byDirectory := l.byDirectory ++ [(disk.resolve directory, package)] }
        return package : Compile Package).runOn disk w := by
  rw [loadDirectory, Compile.read_bind, Compile.runOn_bind, isDir]
  simp only [Compile.ofExcept, Compile.runOn_pure]
  rw [Compile.runOn_bind]
  simp only [Compile.ensure, if_true, Compile.runOn_pure, Compile.loader_bind, new]

/-- A directory leads to the package it is entered with, or to a new one of its files. -/
theorem loadDirectory_cases {directory : Path}
    (run : (loadDirectory directory).runOn disk w = (.ok p, w')) :
    disk.isDir directory = .ok true ∧
      (w.loader.byDirectory.lookup (disk.resolve directory) = some p ∧ w' = w ∨
        w.loader.byDirectory.lookup (disk.resolve directory) = none ∧
          ∃ v, (formFiles (sourceFiles disk directory) (some directory)).runOn disk w = (.ok p, v) ∧
            w' = { v with loader := { v.loader with
              byDirectory := v.loader.byDirectory ++ [(disk.resolve directory, p)] } }) := by
  rw [loadDirectory, Compile.read_bind] at run
  obtain ⟨isDir, answer, run⟩ := Compile.ofExcept_bind_ok.mp run
  obtain ⟨isDirectory, run⟩ := Compile.ensure_bind_ok.mp run
  rw [isDirectory] at answer
  refine ⟨answer, ?_⟩
  rw [Compile.loader_bind] at run
  split at run
  · rename_i known found
    cases run
    exact .inl ⟨found, rfl⟩
  · rename_i unknown
    obtain ⟨_, run⟩ := Compile.ensure_bind_ok.mp run
    obtain ⟨package, v, formed, run⟩ := Compile.bind_ok.mp run
    rw [Compile.modifyLoader_bind] at run
    obtain ⟨rfl, rfl⟩ := Compile.pure_ok.mp run
    exact .inr ⟨unknown, v, formed, rfl⟩

theorem loadDirectory_ok {directory : Path} (sound : w.loader.Sound)
    (run : (loadDirectory directory).runOn disk w = (.ok p, w')) :
    Grows w w' ∧ p ∈ w'.loader.packages := by
  obtain ⟨-, ⟨found, rfl⟩ | ⟨-, v, formed, rfl⟩⟩ := loadDirectory_cases run
  · exact ⟨.refl sound, sound.byDirectory _ _ found⟩
  · obtain ⟨grows, member⟩ := formFiles_ok sound formed
    exact ⟨grows.trans (grows_enterDirectory grows.sound member _), member⟩

theorem loadFiles_ok {paths : List Path} (sound : w.loader.Sound)
    (run : (loadFiles paths).runOn disk w = (.ok p, w')) :
    Grows w w' ∧ p ∈ w'.loader.packages := by
  rw [loadFiles, Compile.read_bind] at run
  obtain ⟨_, v, checked, run⟩ := Compile.bind_ok.mp run
  have same : v = w := by
    refine Compile.forM_ok (fun _ u => u = w) ?_ rfl checked
    intro path rest u u' same checked
    obtain ⟨_, _, checked⟩ := Compile.ofExcept_bind_ok.mp checked
    exact (Compile.ensure_ok.mp checked).2.trans same
  rw [same] at run
  exact formFiles_ok sound run

/-! ### Patterns -/

theorem loadTree_ok {pattern : String} {packages : List Package} (sound : w.loader.Sound)
    (run : (loadTree pattern).runOn disk w = (.ok packages, w')) :
    Grows w w' ∧ ∀ p ∈ packages, p ∈ w'.loader.packages := by
  rw [loadTree, Compile.read_bind] at run
  obtain ⟨_, _, run⟩ := Compile.ofExcept_bind_ok.mp run
  obtain ⟨_, run⟩ := Compile.ensure_bind_ok.mp run
  obtain ⟨loaded, v, each, run⟩ := Compile.bind_ok.mp run
  obtain ⟨_, run⟩ := Compile.ensure_bind_ok.mp run
  obtain ⟨rfl, rfl⟩ := Compile.pure_ok.mp run
  obtain ⟨-, grows, all⟩ := Compile.mapM_ok (fun v => v.loader.Sound) Grows
    (fun v _ p => p ∈ v.loader.packages) (fun _ => .refl) .trans (fun grows => grows.le.mem)
    (fun _ _ p v v' sound run =>
      have loaded := loadDirectory_ok sound run
      ⟨loaded.1.sound, loaded.1, loaded.2⟩) sound each
  refine ⟨grows, fun p member => ?_⟩
  obtain ⟨_, _, known⟩ := exists_left_of_forall₂ all member
  exact known

theorem loadPatterns_ok {files : List Path} {filesLoaded : Bool} {patterns : List String}
    {packages : List Package} (sound : w.loader.Sound)
    (run : (loadPatterns files filesLoaded patterns).runOn disk w = (.ok packages, w')) :
    Grows w w' ∧ ∀ p ∈ packages, p ∈ w'.loader.packages := by
  induction patterns generalizing w filesLoaded packages with
  | nil =>
    obtain ⟨rfl, rfl⟩ := Compile.pure_ok.mp run
    exact ⟨.refl sound, by simp⟩
  | cons pattern rest ih =>
    have one : ∀ {c : Compile Package} {loaded : Bool},
        (∀ p v, c.runOn disk w = (.ok p, v) → Grows w v ∧ p ∈ v.loader.packages) →
        (do let p ← c; return p :: (← loadPatterns files loaded rest) : Compile _).runOn disk w =
          (.ok packages, w') → Grows w w' ∧ ∀ p ∈ packages, p ∈ w'.loader.packages := by
      intro c loaded first run
      obtain ⟨p, v, here, run⟩ := Compile.bind_ok.mp run
      obtain ⟨more, _, later, run⟩ := Compile.bind_ok.mp run
      obtain ⟨rfl, rfl⟩ := Compile.pure_ok.mp run
      obtain ⟨grows, known⟩ := first p v here
      obtain ⟨grows', others⟩ := ih grows.sound later
      exact ⟨grows.trans grows', List.forall_mem_cons.mpr ⟨grows'.le.mem known, others⟩⟩
    unfold loadPatterns at run
    split at run
    · split at run
      · exact ih sound run
      · exact one (fun _ _ => loadFiles_ok sound) run
    · obtain ⟨tree, v, here, run⟩ := Compile.bind_ok.mp run
      obtain ⟨more, _, later, run⟩ := Compile.bind_ok.mp run
      obtain ⟨rfl, rfl⟩ := Compile.pure_ok.mp run
      obtain ⟨grows, known⟩ := loadTree_ok sound here
      obtain ⟨grows', others⟩ := ih grows.sound later
      refine ⟨grows.trans grows', fun p member => ?_⟩
      rcases List.mem_append.mp member with inTree | after
      · exact grows'.le.mem (known p inTree)
      · exact others p after
    · exact one (fun _ _ => loadDirectory_ok sound) run

/-- The packages that are not among those seen, and of each the first. -/
def unseen (seen : List Nat) : List Package → List Package
  | [] => []
  | p :: rest =>
    if p.serial ∈ seen then unseen seen rest else p :: unseen (seen ++ [p.serial]) rest

theorem uniquePackages_eq (packages : List Package) : uniquePackages packages = unseen [] packages := by
  have collect : ∀ (rest first : List Package),
      rest.foldl (fun seen p => if seen.any (·.serial == p.serial) then seen else seen ++ [p])
        first = first ++ unseen (first.map (·.serial)) rest := by
    intro rest
    induction rest with
    | nil => exact fun first => (List.append_nil first).symm
    | cons p rest ih =>
      intro first
      have known : first.any (·.serial == p.serial) = true ↔ p.serial ∈ first.map (·.serial) := by
        simp only [List.any_eq_true, beq_iff_eq, List.mem_map]
      rw [List.foldl_cons, ih, unseen]
      by_cases old : p.serial ∈ first.map (·.serial)
      · rw [if_pos (known.mpr old), if_pos old]
      · rw [if_neg (mt known.mp old), if_neg old, List.map_append, List.append_assoc]
        rfl
  exact collect packages []

theorem unseen_sublist (seen : List Nat) (packages : List Package) :
    (unseen seen packages).Sublist packages := by
  induction packages generalizing seen with
  | nil => exact .slnil
  | cons p rest ih =>
    rw [unseen]
    split
    · exact (ih seen).cons p
    · exact (ih _).cons_cons p

theorem unseen_nodup (seen : List Nat) (packages : List Package) :
    ((unseen seen packages).map (·.serial)).Nodup ∧
      ∀ p ∈ unseen seen packages, p.serial ∉ seen := by
  induction packages generalizing seen with
  | nil => exact ⟨List.nodup_nil, nofun⟩
  | cons p rest ih =>
    rw [unseen]
    split
    · exact ih seen
    · rename_i fresh
      obtain ⟨distinct, new⟩ := ih (seen ++ [p.serial])
      have later : ∀ q ∈ unseen (seen ++ [p.serial]) rest, q.serial ∉ seen ∧ q.serial ≠ p.serial := by
        intro q listed
        simpa using new q listed
      rw [List.map_cons, List.nodup_cons, List.mem_map, List.forall_mem_cons]
      refine ⟨⟨?_, distinct⟩, fresh, fun q listed => (later q listed).1⟩
      rintro ⟨q, listed, same⟩
      exact (later q listed).2 same

theorem unseen_of_distinct {seen : List Nat} {packages : List Package}
    (distinct : (packages.map (·.serial)).Nodup) (new : ∀ p ∈ packages, p.serial ∉ seen) :
    unseen seen packages = packages := by
  induction packages generalizing seen with
  | nil => rfl
  | cons p rest ih =>
    obtain ⟨first, distinct⟩ := List.nodup_cons.mp distinct
    obtain ⟨here, later⟩ := List.forall_mem_cons.mp new
    rw [unseen, if_neg here, ih distinct]
    intro q listed
    rw [List.mem_append, List.mem_singleton]
    rintro (old | same)
    · exact later q listed old
    · exact first (List.mem_map.mpr ⟨q, listed, same⟩)

theorem unseen_append (seen : List Nat) (first later : List Package) :
    unseen seen (first ++ later) =
      unseen seen first ++ unseen (seen ++ (unseen seen first).map (·.serial)) later := by
  induction first generalizing seen with
  | nil => rw [unseen, List.map_nil, List.append_nil, List.nil_append, List.nil_append]
  | cons p rest ih =>
    rw [List.cons_append, unseen, unseen]
    split
    · exact ih seen
    · rw [ih, List.map_cons, List.append_assoc, List.cons_append, List.cons_append, List.nil_append]

theorem unseen_of_known {seen : List Nat} {packages : List Package}
    (known : ∀ p ∈ packages, p.serial ∈ seen) : unseen seen packages = [] := by
  induction packages with
  | nil => rfl
  | cons p rest ih =>
    obtain ⟨here, later⟩ := List.forall_mem_cons.mp known
    rw [unseen, if_pos here, ih later]

theorem serial_mem_unseen {seen : List Nat} {packages : List Package} (member : p ∈ packages) :
    p.serial ∈ seen ++ (unseen seen packages).map (·.serial) := by
  induction packages generalizing seen with
  | nil => cases member
  | cons q rest ih =>
    rw [unseen]
    by_cases old : q.serial ∈ seen
    · rw [if_pos old]
      rcases List.mem_cons.mp member with rfl | later
      · exact List.mem_append_left _ old
      · exact ih later
    · rw [if_neg old, List.map_cons, ← List.singleton_append, ← List.append_assoc]
      rcases List.mem_cons.mp member with rfl | later
      · exact List.mem_append_left _ (by simp)
      · exact ih later

theorem mem_uniquePackages {packages : List Package} (member : p ∈ uniquePackages packages) :
    p ∈ packages := by
  rw [uniquePackages_eq] at member
  exact (unseen_sublist [] packages).subset member

theorem uniquePackages_nodup (packages : List Package) : (uniquePackages packages).Nodup := by
  rw [uniquePackages_eq]
  exact List.Nodup.of_map _ (unseen_nodup [] packages).1

theorem load_ok {patterns : List String} {packages : List Package} (sound : w.loader.Sound)
    (run : (load patterns).runOn disk w = (.ok packages, w')) :
    Grows w w' ∧ ∀ p ∈ packages, p ∈ w'.loader.packages := by
  obtain ⟨_, run⟩ := Compile.ensure_bind_ok.mp run
  obtain ⟨all, v, loaded, run⟩ := Compile.bind_ok.mp run
  obtain ⟨rfl, rfl⟩ := Compile.pure_ok.mp run
  obtain ⟨grows, known⟩ := loadPatterns_ok sound loaded
  exact ⟨grows, fun p member => known p (mem_uniquePackages member)⟩

theorem load_nodup {patterns : List String} {packages : List Package}
    (run : (load patterns).runOn disk w = (.ok packages, w')) : packages.Nodup := by
  obtain ⟨_, run⟩ := Compile.ensure_bind_ok.mp run
  obtain ⟨all, _, _, run⟩ := Compile.bind_ok.mp run
  obtain ⟨rfl, rfl⟩ := Compile.pure_ok.mp run
  exact uniquePackages_nodup all

/-! ### Imports -/

/-- A package is entered under an import path that led nowhere before it was loaded. -/
theorem grows_enterImport {path : String} (grows : Grows w v)
    (absent : Json.find? path w.loader.byPath = none) (member : p ∈ v.loader.packages) :
    Grows w { v with loader := { v.loader with byPath := Json.put path p v.loader.byPath } } := by
  refine ⟨⟨fun other q found => ?_, grows.le.packages⟩,
    ⟨fun other q found => ?_, grows.sound.byDirectory, grows.sound.wellFormed⟩, grows.session⟩
  · rw [Json.find?_put, if_neg]
    · exact grows.le.byPath other q found
    · rintro rfl
      rw [absent] at found
      cases found
  · rw [Json.find?_put] at found
    split at found
    · cases found
      exact member
    · exact grows.sound.byPath other q found

/-- An import path leads to the package it is entered with, or to that of the directory which the
importer's module gives it. -/
theorem loadImport_cases {path : String} {location : Location}
    (run : (loadImport importer path location).runOn disk w = (.ok p, w')) :
    Json.find? path w.loader.byPath = some p ∧ w' = w ∨
      Json.find? path w.loader.byPath = none ∧
        ∃ m v, importer.module.filter (·.contains path) = some m ∧
          (loadDirectory (m.directoryFor path)).runOn disk w = (.ok p, v) ∧
          w' = { v with loader := { v.loader with byPath := Json.put path p v.loader.byPath } } := by
  rw [loadImport, Compile.read_bind, Compile.loader_bind] at run
  split at run
  · rename_i known found
    cases run
    exact .inl ⟨found, rfl⟩
  · rename_i absent
    split at run
    · cases run
    · rename_i m belongs
      obtain ⟨_, _, run⟩ := Compile.ofExcept_bind_ok.mp run
      obtain ⟨_, run⟩ := Compile.ensure_bind_ok.mp run
      obtain ⟨package, v, loaded, run⟩ := Compile.bind_ok.mp run
      rw [Compile.modifyLoader_bind] at run
      obtain ⟨rfl, rfl⟩ := Compile.pure_ok.mp run
      exact .inr ⟨absent, m, v, belongs, loaded, rfl⟩

theorem loadImport_ok {path : String} {location : Location} (sound : w.loader.Sound)
    (run : (loadImport importer path location).runOn disk w = (.ok p, w')) :
    Grows w w' ∧ Json.find? path w'.loader.byPath = some p := by
  obtain ⟨found, rfl⟩ | ⟨absent, m, v, -, loaded, rfl⟩ := loadImport_cases run
  · exact ⟨.refl sound, found⟩
  · obtain ⟨grows, member⟩ := loadDirectory_ok sound loaded
    exact ⟨grows_enterImport grows absent member, by simp [Json.find?_put]⟩

end Loading

end GoIdl
