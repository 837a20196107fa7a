import GoIdl.Proofs.Compile.Mimicking
import GoIdl.Proofs.Package.Trees

/-!
# Repeated patterns

A directory or a tree that has been loaded is answered from the entries of the loader when its pattern
comes again. Files have no entries: all that are named form one package, each as often as it is named,
so a file that comes again meets its own declarations.
-/

namespace GoIdl

open Syntax (SourceFile)
open Disk (Path)

variable {disk : Disk} {w u v : World} {p q : Package} {packages : List Package} {pattern : String}
  {patterns : List String} {paths files files' : List Path} {loaded loaded' : Bool}

/-! ### Files that come again -/

namespace Package

theorem distinct_repeated {α : Type} [BEq α] [LawfulBEq α] {x : α} {xs : List α} (member : x ∈ xs) :
    distinct (xs ++ [x]) = distinct xs := by
  have known : (distinct xs).contains x = true := List.contains_iff_mem.mpr (mem_distinct.mpr member)
  have step : distinct (xs ++ [x]) =
      if (distinct xs).contains x then distinct xs else distinct xs ++ [x] := by
    rw [distinct, List.foldl_append]
    rfl
  rw [step, if_pos known]

theorem redeclared?_append {seen : List String} {first later : List (String × Declaration)}
    (fresh : redeclared? seen first = none) :
    redeclared? seen (first ++ later) = redeclared? ((Json.keys first).reverse ++ seen) later := by
  induction first generalizing seen with
  | nil => rfl
  | cons entry rest ih =>
    obtain ⟨name, declaration⟩ := entry
    unfold redeclared? at fresh
    split at fresh
    · cases fresh
    · rename_i unseen
      rw [List.cons_append, redeclared?, if_neg unseen, ih fresh]
      simp [Json.keys]

variable {sources : List SourceFile} {file : SourceFile}

theorem declarations_append (sources : List SourceFile) (file : SourceFile) :
    declarations (sources ++ [file]) = declarations sources ++
      (file.types.filter (·.name != "_")).map fun spec => (spec.name, ⟨spec, file⟩) := by
  rw [declarations, List.flatMap_append, List.flatMap_singleton]
  rfl

/-- The first declaration of a file that comes again is taken already. -/
theorem redeclared?_repeated (member : file ∈ sources)
    (fresh : redeclared? [] (declarations sources) = none) :
    redeclared? [] (declarations (sources ++ [file])) =
      (file.types.find? (·.name != "_")).map fun spec => ⟨spec, file⟩ := by
  have listed : ∀ spec ∈ file.types.filter (·.name != "_"),
      spec.name ∈ Json.keys (declarations sources) := by
    intro spec here
    have declared : (spec.name, ⟨spec, file⟩) ∈ declarations sources :=
      List.mem_flatMap.mpr ⟨file, member, List.mem_map.mpr ⟨spec, here, rfl⟩⟩
    exact List.mem_map.mpr ⟨_, declared, rfl⟩
  rw [declarations_append, redeclared?_append fresh, ← List.head?_filter]
  cases declared : file.types.filter (·.name != "_") with
  | nil => rfl
  | cons spec others =>
    rw [declared] at listed
    have taken := listed spec List.mem_cons_self
    rw [List.map_cons, redeclared?, if_pos (by simpa using taken)]
    rfl

/-- Files one of which comes again form a package only if that one declares nothing; otherwise its
first declaration is refused. -/
theorem ofFiles_repeated {serial : Nat} {path : Option String} {directory : Option Path}
    {module : Option GoModule} (member : file ∈ sources)
    (formed : ofFiles serial sources path directory module = .ok p) :
    ofFiles serial (sources ++ [file]) path directory module =
      match file.types.find? (·.name != "_") with
      | none => .ok { p with files := sources ++ [file] }
      | some spec =>
        .error { cause := .redeclared spec.name
                 location := some (spec.pos.inFile file.path), package := some p.path } := by
  have names : distinct ((sources ++ [file]).map (·.package)) =
      distinct (sources.map (·.package)) := by
    rw [List.map_append]
    exact distinct_repeated (List.mem_map_of_mem member)
  have more := redeclared?_repeated member
  cases sources with
  | nil => cases member
  | cons first rest =>
    unfold ofFiles at formed ⊢
    rw [List.cons_append] at names more ⊢
    dsimp only at formed ⊢
    rw [names]
    split at formed
    · cases formed
    · split at formed
      · cases formed
      · rename_i fresh
        cases formed
        rw [more fresh]
        cases declared : file.types.find? (·.name != "_") with
        | none =>
          have silent : file.types.filter (·.name != "_") = [] := by
            rw [← List.head?_eq_none_iff, List.head?_filter, declared]
          have scope := declarations_append (first :: rest) file
          rw [silent, List.map_nil, List.append_nil, List.cons_append] at scope
          rw [scope]
          rfl
        | some spec => rfl

end Package

namespace Loading

/-! ### Patterns in a row -/

theorem loadPatterns_append (files : List Path) (loaded : Bool) (first later : List String) :
    loadPatterns files loaded (first ++ later) = (do
      let packages ← loadPatterns files loaded first
      let more ← loadPatterns files (loaded || first.any (kindOf · == .file)) later
      return packages ++ more : Compile (List Package)) := by
  induction first generalizing loaded with
  | nil => simp [loadPatterns]
  | cons pattern rest ih =>
    have others : (PatternKind.tree == .file) = false ∧ (PatternKind.directory == .file) = false := by
      decide
    rw [List.cons_append, loadPatterns, loadPatterns, List.any_cons]
    cases kind : kindOf pattern with
    | file =>
      cases loaded with
      | false => simp only [ih, beq_self_eq_true, Bool.true_or, Bool.or_true, Bool.false_eq_true,
          if_false, bind_assoc, pure_bind, List.cons_append]
      | true => simp only [ih, Bool.true_or, if_true]
    | tree => simp only [ih, others.1, Bool.false_or, bind_assoc, pure_bind, List.append_assoc]
    | directory => simp only [ih, others.2, Bool.false_or, bind_assoc, pure_bind, List.cons_append]

/-- The files named matter only until the first of them, where all of them are loaded. -/
theorem loadPatterns_congr (files files' : List Path)
    (unnamed : loaded = true ∨ ∀ pattern ∈ patterns, kindOf pattern ≠ .file) :
    loadPatterns files loaded patterns = loadPatterns files' loaded patterns := by
  induction patterns with
  | nil => rfl
  | cons pattern rest ih =>
    have later := ih (unnamed.imp id fun none other listed => none other (List.mem_cons_of_mem _ listed))
    rw [loadPatterns, loadPatterns]
    cases kind : kindOf pattern with
    | file =>
      rcases unnamed with rfl | none
      · exact later
      · exact absurd kind (none pattern List.mem_cons_self)
    | tree => simp only [later]
    | directory => simp only [later]

theorem load_ok_iff : (load patterns).runOn disk w = (.ok packages, v) ↔
    patterns ≠ [] ∧ ∃ all, (loadPatterns (namedFiles patterns) false patterns).runOn disk w =
      (.ok all, v) ∧ packages = uniquePackages all := by
  rw [load, Compile.ensure_bind_ok, Compile.bind_ok]
  simp only [Compile.pure_ok, Bool.not_eq_true', List.isEmpty_eq_false_iff]
  constructor
  · rintro ⟨given, all, _, run, same, rfl⟩
    exact ⟨given, all, run, same⟩
  · rintro ⟨given, all, run, same⟩
    exact ⟨given, all, v, run, same, rfl⟩

theorem since_of_keeps {α : Type} {c : Compile α} {outcome : Except Failure α} {fits : α → Prop}
    (keeps : Keeps disk (Since disk w.loader) c fits) (filed : w.loader.Filed disk)
    (run : c.runOn disk w = (outcome, v)) : v.loader.Filed disk ∧ w.loader.Retains v.loader := by
  have kept := (keeps w ⟨filed, .refl _⟩).1
  rw [run] at kept
  exact kept

theorem loadPatterns_since (filed : w.loader.Filed disk)
    (run : (loadPatterns files loaded patterns).runOn disk w = (.ok packages, v)) :
    v.loader.Filed disk ∧ w.loader.Retains v.loader :=
  since_of_keeps (loadPatterns_keeps (fun place => formFiles_since files place) loadDirectory_since
    loaded patterns) filed run

/-! ### Directories and trees -/

theorem loadDirectory_again {directory : Path} (filed : w.loader.Filed disk)
    (run : (loadDirectory directory).runOn disk w = (.ok p, v)) (retains : v.loader.Retains u.loader) :
    (loadDirectory directory).runOn disk u = (.ok p, u) := by
  obtain ⟨-, -, known⟩ := loadDirectory_filed filed run
  have isDir := (loadDirectory_enters run).1
  exact (loadDirectory_known_iff (retains.byDirectory _ p known)).mpr ⟨isDir, rfl, rfl⟩

theorem loadDirectories_again {directories : List Path} (filed : w.loader.Filed disk)
    (run : (directories.mapM loadDirectory).runOn disk w = (.ok packages, v))
    (retains : v.loader.Retains u.loader) :
    (directories.mapM loadDirectory).runOn disk u = (.ok packages, u) := by
  induction directories generalizing w packages with
  | nil =>
    cases run
    rfl
  | cons directory rest ih =>
    rw [List.mapM_cons] at run ⊢
    obtain ⟨p, w', here, run⟩ := Compile.bind_ok.mp run
    obtain ⟨more, w'', later, run⟩ := Compile.bind_ok.mp run
    obtain ⟨rfl, rfl⟩ := Compile.pure_ok.mp run
    obtain ⟨filed', -, -⟩ := loadDirectory_filed filed here
    have onward := (since_of_keeps (.mapM loadDirectory_since) filed' later).2
    exact Compile.bind_ok.mpr ⟨p, u, loadDirectory_again filed here (onward.trans retains),
      Compile.bind_ok.mpr ⟨more, u, ih filed' later, rfl⟩⟩

/-- A directory or a tree that has been loaded is answered with the same packages from then on, and
nothing is loaded for it. -/
theorem loadPattern_again (kind : kindOf pattern ≠ .file) (filed : w.loader.Filed disk)
    (run : (loadPatterns files loaded [pattern]).runOn disk w = (.ok packages, v))
    (retains : v.loader.Retains u.loader) :
    (loadPatterns files' loaded' [pattern]).runOn disk u = (.ok packages, u) := by
  rw [loadPatterns] at run ⊢
  cases named : kindOf pattern with
  | file => exact absurd named kind
  | tree =>
    rw [named] at run
    obtain ⟨tree, w', here, run⟩ := Compile.bind_ok.mp run
    obtain ⟨_, _, ends, run⟩ := Compile.bind_ok.mp run
    cases ends
    obtain ⟨rfl, rfl⟩ := Compile.pure_ok.mp run
    refine Compile.bind_ok.mpr ⟨tree, u, ?_, rfl⟩
    rw [loadTree, Compile.read_bind] at here ⊢
    obtain ⟨isDir, answer, here⟩ := Compile.ofExcept_bind_ok.mp here
    obtain ⟨yes, here⟩ := Compile.ensure_bind_ok.mp here
    obtain ⟨each, w'', walked, here⟩ := Compile.bind_ok.mp here
    obtain ⟨some, here⟩ := Compile.ensure_bind_ok.mp here
    obtain ⟨rfl, rfl⟩ := Compile.pure_ok.mp here
    refine Compile.ofExcept_bind_ok.mpr ⟨isDir, answer, Compile.ensure_bind_ok.mpr ⟨yes, ?_⟩⟩
    exact Compile.bind_ok.mpr ⟨_, u, loadDirectories_again filed walked retains,
      Compile.ensure_bind_ok.mpr ⟨some, rfl⟩⟩
  | directory =>
    rw [named] at run
    obtain ⟨p, w', here, run⟩ := Compile.bind_ok.mp run
    obtain ⟨_, _, ends, run⟩ := Compile.bind_ok.mp run
    cases ends
    obtain ⟨rfl, rfl⟩ := Compile.pure_ok.mp run
    exact Compile.bind_ok.mpr ⟨p, u, loadDirectory_again filed here retains, rfl⟩

theorem uniquePackages_append_known {more : List Package} (known : ∀ p ∈ more, p ∈ packages) :
    uniquePackages (packages ++ more) = uniquePackages packages := by
  have nothing : unseen ([] ++ (unseen [] packages).map (·.serial)) more = [] :=
    unseen_of_known fun p listed => serial_mem_unseen (known p listed)
  rw [uniquePackages_eq, uniquePackages_eq, unseen_append, nothing, List.append_nil]

theorem load_repeated_directory (kind : kindOf pattern ≠ .file) (member : pattern ∈ patterns)
    (loads : (load patterns).runOn disk {} = (.ok packages, v)) :
    (load (patterns ++ [pattern])).runOn disk {} = (.ok packages, v) := by
  obtain ⟨-, all, run, rfl⟩ := load_ok_iff.mp loads
  have same : namedFiles (patterns ++ [pattern]) = namedFiles patterns := by
    simp [namedFiles, kind]
  refine load_ok_iff.mpr ⟨by simp, ?_⟩
  rw [same, loadPatterns_append]
  obtain ⟨before, after, rfl⟩ := List.append_of_mem member
  have given := run
  rw [loadPatterns_append] at run
  obtain ⟨first, w₁, run₁, run⟩ := Compile.bind_ok.mp run
  obtain ⟨rest, w₂, run, ends⟩ := Compile.bind_ok.mp run
  obtain ⟨rfl, rfl⟩ := Compile.pure_ok.mp ends
  rw [← List.singleton_append, loadPatterns_append] at run
  obtain ⟨here, w₃, run₃, run⟩ := Compile.bind_ok.mp run
  obtain ⟨last, w₄, run₄, ends⟩ := Compile.bind_ok.mp run
  obtain ⟨rfl, rfl⟩ := Compile.pure_ok.mp ends
  have filed₁ := (loadPatterns_since (.empty disk) run₁).1
  have filed₃ := (loadPatterns_since filed₁ run₃).1
  -- The patterns that follow keep the entries that this one has made.
  have onward := (loadPatterns_since filed₃ run₄).2
  refine ⟨_, Compile.bind_ok.mpr ⟨_, _, given, Compile.bind_ok.mpr ⟨here, _,
    loadPattern_again kind filed₁ run₃ onward, rfl⟩⟩, ?_⟩
  exact (uniquePackages_append_known fun p listed => by simp [listed]).symm

/-! ### Files -/

/-- The directory of a package of files, if all of them share one. -/
def sharedDirectory (disk : Disk) (paths : List Path) : Option Path :=
  let places := distinct (paths.map fun path => (disk.resolve path).parent)
  if places.length = 1 then paths.head?.map Path.parent else none

theorem sharedDirectory_repeated {path : Path} (member : path ∈ paths) :
    sharedDirectory disk (paths ++ [path]) = sharedDirectory disk paths := by
  have places : distinct ((paths ++ [path]).map fun path => (disk.resolve path).parent) =
      distinct (paths.map fun path => (disk.resolve path).parent) := by
    rw [List.map_append]
    exact Package.distinct_repeated (List.mem_map.mpr ⟨path, member, rfl⟩)
  have first : (paths ++ [path]).head? = paths.head? := by
    cases paths with
    | nil => cases member
    | cons _ _ => rfl
  rw [sharedDirectory, places, first]
  rfl

theorem checks_ok : (paths.forM fun path => do
      Compile.ensure (← Compile.ofExcept (disk.isFile path)) { cause := .missingFile path.text }
      ).runOn disk w = (.ok (), v) ↔ (∀ path ∈ paths, disk.isFile path = .ok true) ∧ v = w := by
  induction paths with
  | nil => exact Compile.pure_ok.trans (by simp)
  | cons path rest ih =>
    refine Compile.bind_ok.trans ?_
    simp only [Compile.ofExcept_bind_ok, Compile.ensure_ok, List.forall_mem_cons]
    constructor
    · rintro ⟨_, _, ⟨_, here, rfl, rfl⟩, later⟩
      exact ⟨⟨here, (ih.mp later).1⟩, (ih.mp later).2⟩
    · rintro ⟨⟨here, later⟩, same⟩
      exact ⟨(), w, ⟨true, here, rfl, rfl⟩, ih.mpr ⟨later, same⟩⟩

theorem loadFiles_run (each : ∀ path ∈ paths, disk.isFile path = .ok true) :
    (loadFiles paths).runOn disk w = (formFiles paths (sharedDirectory disk paths)).runOn disk w := by
  rw [loadFiles, Compile.read_bind, Compile.runOn_bind, checks_ok.mpr ⟨each, rfl⟩]
  rfl

theorem loadFiles_checked (run : (loadFiles paths).runOn disk w = (.ok p, v)) :
    ∀ path ∈ paths, disk.isFile path = .ok true := by
  rw [loadFiles, Compile.read_bind] at run
  obtain ⟨_, _, checked, _⟩ := Compile.bind_ok.mp run
  exact (checks_ok.mp checked).1

theorem loadFiles_repeated {path : Path} (member : path ∈ paths)
    (run : (loadFiles paths).runOn disk w = (.ok q, v)) :
    q.serial = w.loader.packages.length ∧ paths.mapM (readFile disk) = .ok q.files ∧
      v.loader = w.loader.enter q ∧ ∃ file log, readFile disk path = .ok file ∧
        (loadFiles (paths ++ [path])).runOn disk w =
          match file.types.find? (·.name != "_") with
          | none => (.ok { q with files := q.files ++ [file] }, { w with
              loader := w.loader.enter { q with files := q.files ++ [file] }, log })
          | some spec => (.error (.definition { cause := .redeclared spec.name
                                                location := some (spec.pos.inFile file.path)
                                                package := some q.path }), w) := by
  have each := loadFiles_checked run
  rw [loadFiles_run each] at run
  obtain ⟨serial, formed, _, rfl⟩ := formFiles_enters run
  have paired := mapM_eq_ok.mp formed.read
  obtain ⟨file, listed, read⟩ := exists_right_of_forall₂ paired member
  have more : (paths ++ [path]).mapM (readFile disk) = .ok (q.files ++ [file]) :=
    mapM_eq_ok.mpr (List.rel_append paired (.cons read .nil))
  have all : ∀ other ∈ paths ++ [path], disk.isFile other = .ok true := by
    simpa [List.forall_mem_append, or_imp, forall_and] using ⟨each, each path member⟩
  obtain ⟨log, repeated⟩ := formFiles_run more (moduleOf_formed formed w)
  have formed := formed.formed
  rw [serial] at formed
  rw [Package.ofFiles_repeated listed formed] at repeated
  refine ⟨serial, mapM_eq_ok.mpr paired, rfl, file, log, read, ?_⟩
  rw [loadFiles_run all, sharedDirectory_repeated member, repeated]
  cases file.types.find? (·.name != "_") with
  | none => rfl
  | some spec => rfl

/-! ### Worlds that differ by the files of a package -/

/-- Worlds with the same directories and as many packages. -/
structure Level (u v : World) : Prop where
  byDirectory : u.loader.byDirectory = v.loader.byDirectory
  packages : u.loader.packages.length = v.loader.packages.length

theorem formedFrom_unique {place : Option Path} (formed : p.FormedFrom disk paths place)
    (formed' : q.FormedFrom disk paths place) (serial : p.serial = q.serial) : p = q := by
  have files := Except.ok.inj (formed.read.symm.trans formed'.read)
  have module := congrArg Prod.fst
    ((moduleOf_formed formed {}).symm.trans (moduleOf_formed formed' {}))
  have whole := formed.formed
  rw [files, Except.ok.inj module, serial] at whole
  exact Except.ok.inj (whole.symm.trans formed'.formed)

theorem loadDirectory_level (directory : Path) :
    Mimics disk False Level Eq (loadDirectory directory) (loadDirectory directory) where
  ok {u u'} level p v run := by
    obtain ⟨isDir, ⟨known, rfl⟩ | ⟨new, serial, formed, log, rfl⟩⟩ := loadDirectory_enters run
    · rw [level.byDirectory] at known
      exact ⟨p, u', (loadDirectory_known_iff known).mpr ⟨isDir, rfl, rfl⟩, rfl, level⟩
    · rw [level.byDirectory] at new
      obtain ⟨q, v', run'⟩ := loadDirectory_forms isDir formed new
      refine ⟨q, v', run', ?_⟩
      obtain ⟨-, ⟨known, -⟩ | ⟨-, serial', formed', log', rfl⟩⟩ := loadDirectory_enters run'
      · rw [new] at known
        cases known
      · have same := formedFrom_unique formed formed' (by rw [serial, serial', level.packages])
        subst same
        refine ⟨rfl, ?_, ?_⟩
        · show (u.loader.enter p).byDirectory ++ _ = (u'.loader.enter p).byDirectory ++ _
          rw [Loader.enter_byDirectory, Loader.enter_byDirectory, level.byDirectory]
        · show (u.loader.enter p).packages.length = (u'.loader.enter p).packages.length
          rw [Loader.enter_packages, Loader.enter_packages, List.length_append, List.length_append,
            level.packages]
  failed _ counts := counts.elim

theorem loadDirectories_level (directories : List Path) :
    Mimics disk False Level Eq (directories.mapM loadDirectory) (directories.mapM loadDirectory) := by
  rw [← List.forall₂_eq_eq_eq]
  refine Mimics.mapM (List.forall₂_same.mpr fun directory _ => Eq.refl directory) ?_
  rintro directory _ rfl
  exact loadDirectory_level directory

theorem loadTree_level (pattern : String) :
    Mimics disk False Level Eq (loadTree pattern) (loadTree pattern) := by
  refine .withDisk ((Mimics.ofExcept _).bind fun isDir _ same => ?_)
  subst same
  refine (Mimics.ensure rfl fun _ => rfl).bind fun _ _ _ => ?_
  refine (loadDirectories_level _).bind fun packages _ same => ?_
  subst same
  exact (Mimics.ensure rfl fun _ => rfl).bind fun _ _ _ => .pure rfl

/-- Once the files are loaded, what the other patterns come to hangs on the directories alone. -/
theorem loadPatterns_level (patterns : List String) :
    Mimics disk False Level Eq (loadPatterns files true patterns) (loadPatterns files true patterns) := by
  induction patterns with
  | nil => exact .pure rfl
  | cons pattern rest ih =>
    rw [loadPatterns]
    cases kindOf pattern with
    | file => exact ih
    | tree =>
      refine (loadTree_level pattern).bind fun tree _ same => ih.bind fun more _ same' => .pure ?_
      rw [same, same']
    | directory =>
      refine (loadDirectory_level _).bind fun p _ same => ih.bind fun more _ same' => .pure ?_
      rw [same, same']

/-! ### The files among other patterns -/

/-- Loads files with the patterns before the first of them and the other patterns after it. -/
def loadAround (before : List String) (files : List Path) (after : List String) :
    Compile (List Package) := do
  let earlier ← loadPatterns [] false before
  let package ← loadFiles files
  let later ← loadPatterns [] true after
  return earlier ++ package :: later

theorem loadPatterns_first {first : String} {before after : List String}
    (none : ∀ pattern ∈ before, kindOf pattern ≠ .file) (kind : kindOf first = .file) :
    loadPatterns files false (before ++ first :: after) = loadAround before files after := by
  have unnamed : before.any (kindOf · == .file) = false := by
    simpa using none
  rw [loadPatterns_append, unnamed, loadPatterns_congr files [] (.inr none)]
  refine congrArg (bind _) (funext fun earlier => ?_)
  rw [loadPatterns, kind, loadPatterns_congr files [] (.inl rfl)]
  simp only [Bool.or_self, Bool.false_eq_true, if_false, bind_assoc, pure_bind]

theorem loadPatterns_after (kind : kindOf pattern = .file) :
    loadPatterns files true (patterns ++ [pattern]) = loadPatterns files true patterns := by
  have nothing : loadPatterns files true [pattern] = pure [] := by
    rw [loadPatterns, kind]
    rfl
  rw [loadPatterns_append, Bool.true_or, nothing]
  simp only [pure_bind, List.append_nil, bind_pure]

/-- Naming a file once more makes a difference only where the files are loaded. -/
theorem exists_loadAround (kind : kindOf pattern = .file) (member : pattern ∈ patterns) :
    ∃ before after, ∀ files,
      loadPatterns files false patterns = loadAround before files after ∧
        loadPatterns files false (patterns ++ [pattern]) = loadAround before files after := by
  have named : (patterns.find? (kindOf · == .file)).isSome := by
    rw [List.find?_isSome]
    exact ⟨pattern, member, beq_iff_eq.mpr kind⟩
  obtain ⟨first, found⟩ := Option.isSome_iff_exists.mp named
  obtain ⟨kind₁, before, after, rfl, others⟩ := List.find?_eq_some_iff_append.mp found
  have none : ∀ pattern ∈ before, kindOf pattern ≠ .file := by simpa using others
  refine ⟨before, after, fun files => ⟨loadPatterns_first none (beq_iff_eq.mp kind₁), ?_⟩⟩
  rw [List.append_assoc, List.cons_append, loadPatterns_first none (beq_iff_eq.mp kind₁), loadAround,
    loadAround, loadPatterns_after kind]

theorem loadAround_ok {before after : List String}
    (run : (loadAround before files after).runOn disk w = (.ok packages, v)) :
    ∃ earlier q later w₁ w₂, packages = earlier ++ q :: later ∧
      (loadPatterns [] false before).runOn disk w = (.ok earlier, w₁) ∧
      (loadFiles files).runOn disk w₁ = (.ok q, w₂) ∧
      (loadPatterns [] true after).runOn disk w₂ = (.ok later, v) := by
  obtain ⟨earlier, w₁, run₁, run⟩ := Compile.bind_ok.mp run
  obtain ⟨q, w₂, run₂, run⟩ := Compile.bind_ok.mp run
  obtain ⟨later, w₃, run₃, ends⟩ := Compile.bind_ok.mp run
  obtain ⟨rfl, rfl⟩ := Compile.pure_ok.mp ends
  exact ⟨earlier, q, later, w₁, w₂, rfl, run₁, run₂, run₃⟩

theorem uniquePackages_midst {first later : List Package}
    (apart : ∀ p ∈ first, p.serial ≠ q.serial) :
    uniquePackages (first ++ q :: later) = uniquePackages first ++
      q :: unseen ((uniquePackages first).map (·.serial) ++ [q.serial]) later := by
  have new : q.serial ∉ [] ++ (unseen [] first).map (·.serial) := by
    rw [List.nil_append, List.mem_map]
    rintro ⟨p, listed, same⟩
    exact apart p ((unseen_sublist [] first).subset listed) same
  rw [uniquePackages_eq, uniquePackages_eq, unseen_append, unseen, if_neg new, List.nil_append]

/-- The packages of a loader have serials below their number. -/
theorem serial_lt (filed : w.loader.Filed disk) (member : p ∈ w.loader.packages) :
    p.serial < w.loader.packages.length := by
  obtain ⟨i, bound, here⟩ := List.mem_iff_getElem.mp member
  rw [filed.serial i p (List.getElem?_eq_some_iff.mpr ⟨bound, here⟩)]
  exact bound

/-- A file that is named again is read again: the package of the files gets it twice if it declares
nothing, and is refused for its first declaration otherwise. -/
theorem load_repeated_file (kind : kindOf pattern = .file) (member : pattern ∈ patterns)
    (loads : (load patterns).runOn disk {} = (.ok packages, v)) :
    ∃ before q after file, packages = before ++ q :: after ∧
      (namedFiles patterns).mapM (readFile disk) = .ok q.files ∧
      readFile disk (.ofString pattern) = .ok file ∧
      ((load (patterns ++ [pattern])).runOn disk {}).1 =
        match file.types.find? (·.name != "_") with
        | none => .ok (before ++ { q with files := q.files ++ [file] } :: after)
        | some spec => .error (.definition { cause := .redeclared spec.name
                                             location := some (spec.pos.inFile file.path)
                                             package := some q.path }) := by
  have named : namedFiles (patterns ++ [pattern]) = namedFiles patterns ++ [.ofString pattern] := by
    simp [namedFiles, kind]
  have listed : Path.ofString pattern ∈ namedFiles patterns :=
    List.mem_map.mpr ⟨pattern, List.mem_filter.mpr ⟨member, by simp [kind]⟩, rfl⟩
  obtain ⟨before, after, around⟩ := exists_loadAround kind member
  obtain ⟨-, all, run, rfl⟩ := load_ok_iff.mp loads
  rw [(around _).1] at run
  obtain ⟨earlier, q, later, w₁, w₂, rfl, run₁, run₂, run₃⟩ := loadAround_ok run
  obtain ⟨serial, read, loader, file, log, fileRead, repeated⟩ := loadFiles_repeated listed run₂
  have apart : ∀ p ∈ earlier, p.serial ≠ q.serial := by
    intro p here
    have known := (loadPatterns_ok .empty run₁).2 p here
    have below := serial_lt (loadPatterns_since (.empty disk) run₁).1 known
    omega
  refine ⟨_, q, _, file, uniquePackages_midst apart, read, fileRead, ?_⟩
  have more : (load (patterns ++ [pattern])).runOn disk {} = (do
      let all ← loadAround before (namedFiles patterns ++ [.ofString pattern]) after
      return uniquePackages all : Compile (List Package)).runOn disk {} := by
    have given : (!(patterns ++ [pattern]).isEmpty) = true := by simp
    rw [load, given, ← named, ← (around _).2]
    rfl
  rw [more, loadAround, bind_assoc, Compile.runOn_bind, run₁]
  dsimp only
  rw [bind_assoc, Compile.runOn_bind, repeated]
  cases file.types.find? (·.name != "_") with
  | some spec => rfl
  | none =>
    -- From here on the worlds of the two runs differ by what the package holds.
    have level : Level w₂ { w₁ with
        loader := w₁.loader.enter { q with files := q.files ++ [file] }, log } := by
      refine ⟨?_, ?_⟩
      · rw [loader, Loader.enter_byDirectory, Loader.enter_byDirectory]
      · rw [loader, Loader.enter_packages, Loader.enter_packages, List.length_append,
          List.length_append]
        rfl
    obtain ⟨_, v', run₃', rfl, -⟩ := (loadPatterns_level after).ok level run₃
    dsimp only
    rw [bind_assoc, Compile.runOn_bind, run₃']
    exact congrArg Except.ok (uniquePackages_midst (q := { q with files := q.files ++ [file] }) apart)

/-! ### Any pattern -/

/-- Repeating a directory or a tree changes nothing. Repeating a file does: it is read again, so its
first declaration is refused as one that is taken, and if it declares nothing, the package of the
files has it twice and all else is as before. -/
theorem load_repeated (member : pattern ∈ patterns)
    (loads : (load patterns).runOn disk {} = (.ok packages, v)) :
    (kindOf pattern ≠ .file → (load (patterns ++ [pattern])).runOn disk {} = (.ok packages, v)) ∧
    (kindOf pattern = .file → ∃ before q after file, packages = before ++ q :: after ∧
      (namedFiles patterns).mapM (readFile disk) = .ok q.files ∧
      readFile disk (.ofString pattern) = .ok file ∧
      ((load (patterns ++ [pattern])).runOn disk {}).1 =
        match file.types.find? (·.name != "_") with
        | none => .ok (before ++ { q with files := q.files ++ [file] } :: after)
        | some spec => .error (.definition { cause := .redeclared spec.name
                                             location := some (spec.pos.inFile file.path)
                                             package := some q.path })) :=
  ⟨fun kind => load_repeated_directory kind member loads,
    fun kind => load_repeated_file kind member loads⟩

/-- A directory with a declaration, and a file with none. -/
def oneDeclared : Disk :=
  ⟨[("d", .dir [("a.go", .file (Text.encode "package d; type T struct\x7b\x7d".toList))]),
    ("b.go", .file (Text.encode "package b".toList))], []⟩

theorem load_repeated_oneDeclared : ∃ packages v,
    (load ["d", "b.go"]).runOn oneDeclared {} = (.ok packages, v) ∧
    (load ["d", "b.go", "d"]).runOn oneDeclared {} = (.ok packages, v) ∧
    ∃ before q after file, packages = before ++ q :: after ∧
      ((load ["d", "b.go", "b.go"]).runOn oneDeclared {}).1 =
        .ok (before ++ { q with files := q.files ++ [file] } :: after) := by
  have loads : ((load ["d", "b.go"]).runOn oneDeclared {}).1.toOption.isSome = true := by
    decide +kernel
  have silent : ((readFile oneDeclared (.ofString "b.go")).toOption.map (·.types.isEmpty)) =
      some true := by
    decide +kernel
  rcases run : (load ["d", "b.go"]).runOn oneDeclared {} with ⟨failure | packages, v⟩
  · rw [run] at loads
    cases loads
  · have named : "d" ∈ ["d", "b.go"] ∧ "b.go" ∈ ["d", "b.go"] := by decide
    have directory := (load_repeated named.1 run).1 (by decide)
    obtain ⟨before, q, after, file, split, -, read, again⟩ :=
      (load_repeated named.2 run).2 (by decide)
    refine ⟨packages, v, rfl, directory, before, q, after, file, split, ?_⟩
    rw [read] at silent
    have nothing : file.types = [] := List.isEmpty_iff.mp (Option.some.inj silent)
    rw [nothing] at again
    exact again

/-- A file that declares a type can be named, but not twice. -/
theorem file_not_repeated :
    ((load ["d/a.go"]).runOn oneDeclared {}).1.toOption.isSome = true ∧
      ((load ["d/a.go", "d/a.go"]).runOn oneDeclared {}).1.toOption.isSome = false :=
  ⟨by decide +kernel, by decide +kernel⟩

end Loading

end GoIdl
