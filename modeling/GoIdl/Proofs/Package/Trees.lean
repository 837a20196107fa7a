import GoIdl.Proofs.Disk.Trees
import GoIdl.Proofs.Package.Caches
import Mathlib.Data.List.Perm.Basic

/-!
# Trees of packages

Which directories a tree pattern comes to is told by names alone: those with a file named as a source
file that are reached from the base by no name that is passed over. The search does not ask whether
the file is a regular one, but loading the directory does. The search goes through the entries as they
are sorted, and the lexicographic order of the names that lead to a directory is the order in which
the search comes to it. On a fresh loader each of them is loaded for the first time, so that no package
stands for two of them.
-/

namespace GoIdl

open Disk (Path Node)
open Syntax (SourceFile)

variable {disk : Disk} {w v : World} {p : Package} {node inner : Node} {name : String}
  {names : List String} {entries : List (String × Node)} {path base directory : Path}

namespace Loading

/-! ### Names -/

/-- A name at which a search passes by. -/
def PassedOver (name : String) : Prop :=
  name = "testdata" ∨ ".".toList <+: name.toList ∨ "_".toList <+: name.toList

/-- The name of a source file that is no test. -/
def IsSource (name : String) : Prop := ".go".toList <:+ name.toList ∧ ¬ "_test.go".toList <:+ name.toList

theorem isSkipped_iff : isSkipped name = true ↔ PassedOver name := by
  have marks : ".".toList = ['.'] ∧ "_".toList = ['_'] := by decide
  unfold isSkipped PassedOver
  rw [marks.1, marks.2]
  cases name.toList with
  | nil => simp
  | cons c rest => simp [List.cons_prefix_cons, eq_comm (b := c)]

theorem isSourceName_iff : isSourceName name = true ↔ IsSource name := by
  rw [isSourceName, IsSource, Bool.and_eq_true, Bool.not_eq_true', ← Bool.not_eq_true,
    List.isSuffixOf_iff_suffix, List.isSuffixOf_iff_suffix]

theorem hasSources_iff : hasSources entries = true ↔
    ∃ name node, (name, node) ∈ entries ∧ node.isDir = false ∧ IsSource name := by
  simp only [hasSources, List.any_eq_true, Bool.and_eq_true, Bool.not_eq_true', isSourceName_iff,
    Prod.exists]

/-! ### Walking a tree -/

mutual

/-- The names that lead to the directories of a tree that a search stops at, in its order. -/
def walk : Node → List (List String)
  | .file _ | .special _ => []
  | .dir entries => (if hasSources entries then [[]] else []) ++ walkBelow entries

def walkBelow : List (String × Node) → List (List String)
  | [] => []
  | (name, node) :: rest =>
    (if isSkipped name then [] else (walk node).map (name :: ·)) ++ walkBelow rest

end

theorem walk_leaf (leaf : node.isDir = false) : walk node = [] := by
  cases node with
  | dir entries => cases leaf
  | file bytes => rfl
  | special reading => rfl

theorem sourceDirs_leaf (leaf : node.isDir = false) (path : Path) : sourceDirs path node = [] := by
  cases node with
  | dir entries => cases leaf
  | file bytes => rfl
  | special reading => rfl

theorem sortedTree_leaf (leaf : node.isDir = false) : sortedTree node = node := by
  cases node with
  | dir entries => cases leaf
  | file bytes => rfl
  | special reading => rfl

theorem walkBelow_eq (entries : List (String × Node)) : walkBelow entries =
    (entries.filter (!isSkipped ·.1)).flatMap fun entry => (walk entry.2).map (entry.1 :: ·) := by
  induction entries with
  | nil => rfl
  | cons entry rest ih =>
    obtain ⟨name, node⟩ := entry
    rw [walkBelow, ih]
    cases skipped : isSkipped name <;> simp [skipped]

theorem sourceDirsBelow_eq (path : Path) (entries : List (String × Node)) :
    sourceDirsBelow path entries = (entries.filter (!isSkipped ·.1)).flatMap fun entry =>
      sourceDirs (path.append ⟨.relative, [entry.1]⟩) entry.2 := by
  induction entries with
  | nil => rfl
  | cons entry rest ih =>
    obtain ⟨name, node⟩ := entry
    rw [sourceDirsBelow, ih]
    cases skipped : isSkipped name <;> simp [skipped]

theorem sortedEntries_eq (entries : List (String × Node)) : sortedEntries entries =
    sortBy (fun a b => stringLe a.1 b.1) (entries.map fun (name, node) => (name, sortedTree node)) := by
  induction entries with
  | nil => rfl
  | cons entry rest ih =>
    obtain ⟨name, node⟩ := entry
    rw [sortedEntries, ih]
    rfl

theorem append_append (path : Path) (above below : List String) :
    (path.append ⟨.relative, above⟩).append ⟨.relative, below⟩ =
      path.append ⟨.relative, above ++ below⟩ :=
  congrArg (Disk.Path.mk path.anchor) (List.append_assoc path.names above below)

theorem append_nil (path : Path) : path.append ⟨.relative, []⟩ = path :=
  congrArg (Disk.Path.mk path.anchor) (List.append_nil path.names)

theorem sourceDirs_eq (path : Path) (node : Node) :
    sourceDirs path node = (walk node).map fun names => path.append ⟨.relative, names⟩ := by
  induction node using Node.induct generalizing path with
  | leaf node leaf => rw [walk_leaf leaf, sourceDirs_leaf leaf, List.map_nil]
  | dir entries ih =>
    have below : sourceDirsBelow path entries =
        (walkBelow entries).map fun names => path.append ⟨.relative, names⟩ := by
      rw [sourceDirsBelow_eq, walkBelow_eq, List.map_flatMap]
      refine List.flatMap_congr fun entry member => ?_
      rw [ih entry.1 entry.2 (List.mem_filter.mp member).1, List.map_map]
      exact List.map_congr_left fun names _ => append_append path [entry.1] names
    rw [sourceDirs, walk, below, List.map_append]
    split
    · rw [List.map_singleton, append_nil]
    · rfl

/-- The names lead down a tree, by nothing that is passed over, to a directory with a source file. -/
def Selected (node : Node) (names : List String) : Prop :=
  (∀ name ∈ names, ¬ PassedOver name) ∧ ∃ entries name bytes,
    Disk.nodeFrom node names = some (.dir entries) ∧ (name, .file bytes) ∈ entries ∧ IsSource name

/-- The names lead down a tree, by nothing that is passed over, to a directory where a file of any
kind, be it a pipe or a device, is named as a source file. -/
def Noticed (node : Node) (names : List String) : Prop :=
  (∀ name ∈ names, ¬ PassedOver name) ∧ ∃ entries name inner,
    Disk.nodeFrom node names = some (.dir entries) ∧ (name, inner) ∈ entries ∧ inner.isDir = false ∧
      IsSource name

theorem Selected.noticed (selected : Selected node names) : Noticed node names := by
  obtain ⟨reached, entries, name, bytes, below, member, source⟩ := selected
  exact ⟨reached, entries, name, .file bytes, below, member, rfl, source⟩

theorem noticed_nil : Noticed (.dir entries) [] ↔ hasSources entries = true := by
  rw [hasSources_iff]
  constructor
  · rintro ⟨-, _, name, inner, ⟨⟩, found⟩
    exact ⟨name, inner, found⟩
  · rintro ⟨name, inner, found⟩
    exact ⟨nofun, entries, name, inner, rfl, found⟩

theorem noticed_cons (distinct : (Json.keys entries).Nodup) : Noticed (.dir entries) (name :: names) ↔
    ¬ PassedOver name ∧ ∃ node, (name, node) ∈ entries ∧ Noticed node names := by
  have step : ∀ inner, Disk.nodeFrom (.dir entries) (name :: names) = some inner ↔
      ∃ node, (name, node) ∈ entries ∧ Disk.nodeFrom node names = some inner := by
    intro inner
    simp only [← Disk.lookup_eq_some_iff distinct]
    exact Option.bind_eq_some_iff
  simp only [Noticed, step, List.forall_mem_cons]
  constructor
  · rintro ⟨⟨here, others⟩, inside, file, inner, ⟨node, member, below⟩, found⟩
    exact ⟨here, node, member, others, inside, file, inner, below, found⟩
  · rintro ⟨here, node, member, others, inside, file, inner, below, found⟩
    exact ⟨⟨here, others⟩, inside, file, inner, ⟨node, member, below⟩, found⟩

theorem nil_not_mem_walkBelow : [] ∉ walkBelow entries := by
  rw [walkBelow_eq]
  simp

theorem cons_mem_walkBelow : name :: names ∈ walkBelow entries ↔
    isSkipped name = false ∧ ∃ node, (name, node) ∈ entries ∧ names ∈ walk node := by
  rw [walkBelow_eq]
  simp only [List.mem_flatMap, List.mem_filter, List.mem_map, List.cons.injEq, Bool.not_eq_true']
  constructor
  · rintro ⟨⟨_, node⟩, ⟨member, open'⟩, _, walked, rfl, rfl⟩
    exact ⟨open', node, member, walked⟩
  · rintro ⟨open', node, member, walked⟩
    exact ⟨(name, node), ⟨member, open'⟩, names, walked, rfl, rfl⟩

/-- A search stops at the directories where it notices a file, and at no others. -/
theorem mem_walk_iff (orderly : node.Orderly) : names ∈ walk node ↔ Noticed node names := by
  induction node using Node.induct generalizing names with
  | leaf node leaf =>
    rw [walk_leaf leaf]
    refine iff_of_false List.not_mem_nil ?_
    rintro ⟨-, inside, _, _, below, -⟩
    cases names with
    | nil =>
      cases below
      cases leaf
    | cons name names =>
      rw [Disk.nodeFrom_leaf leaf] at below
      cases below
  | dir entries ih =>
    have top : names ∈ (if hasSources entries then [[]] else ([] : List (List String))) ↔
        hasSources entries = true ∧ names = [] := by
      split
      · rename_i holds
        simp [holds]
      · rename_i lacks
        simp [lacks]
    rw [walk, List.mem_append, top]
    cases names with
    | nil => simp [noticed_nil, nil_not_mem_walkBelow]
    | cons name names =>
      have below : ∀ node, (name, node) ∈ entries → (names ∈ walk node ↔ Noticed node names) :=
        fun node member => ih name node member (orderly.entry member)
      rw [noticed_cons (orderly [] entries rfl).1, cons_mem_walkBelow, ← isSkipped_iff,
        Bool.not_eq_true]
      simp only [reduceCtorEq, and_false, false_or]
      refine and_congr_right fun _ => exists_congr fun node => ?_
      exact and_congr_right fun member => below node member

/-! ### Walking in order -/

theorem mem_sortedEntries {entry : String × Node} : entry ∈ sortedEntries entries ↔
    ∃ node, (entry.1, node) ∈ entries ∧ entry.2 = sortedTree node := by
  obtain ⟨name, node⟩ := entry
  rw [sortedEntries_eq, mem_sortBy, List.mem_map]
  constructor
  · rintro ⟨⟨_, inner⟩, member, ⟨⟩⟩
    exact ⟨inner, member, rfl⟩
  · rintro ⟨inner, member, rfl⟩
    exact ⟨(name, inner), member, rfl⟩

theorem hasSources_sorted (entries : List (String × Node)) :
    hasSources (sortedEntries entries) = hasSources entries := by
  have kept : ∀ node : Node, (sortedTree node).isDir = node.isDir := by
    rintro (_ | _ | _) <;> rfl
  rw [hasSources, sortedEntries_eq, (sortBy_perm _).any_eq, List.any_map, hasSources]
  simp only [Function.comp_def, kept]

/-- Whatever the order of the entries, a search comes to the same directories. -/
theorem walk_sorted_perm (node : Node) : (walk (sortedTree node)).Perm (walk node) := by
  induction node using Node.induct with
  | leaf node leaf => rw [sortedTree_leaf leaf]
  | dir entries ih =>
    rw [sortedTree, walk, walk, hasSources_sorted]
    refine List.Perm.append_left _ ?_
    rw [walkBelow_eq, walkBelow_eq, sortedEntries_eq]
    refine (((sortBy_perm _).filter _).flatMap_right _).trans ?_
    rw [List.filter_map, List.flatMap_map]
    refine List.Perm.flatMap_left _ fun entry member => List.Perm.map _ ?_
    exact ih entry.1 entry.2 (List.mem_filter.mp member).1

/-- A search in sorted entries comes to a directory before those below it, and to what is below an
entry before it comes to the next. -/
theorem walk_sorted_ascends (orderly : node.Orderly) :
    (walk (sortedTree node)).Pairwise (· < ·) := by
  induction node using Node.induct with
  | leaf node leaf =>
    rw [sortedTree_leaf leaf, walk_leaf leaf]
    exact List.Pairwise.nil
  | dir entries ih =>
    have ascends : (sortedEntries entries).Pairwise fun a b => a.1 < b.1 := by
      rw [sortedEntries_eq, sortBy_name_strict_iff]
      have distinct := (orderly [] entries rfl).1
      simpa [Json.keys, Function.comp_def] using distinct
    have below : (walkBelow (sortedEntries entries)).Pairwise (· < ·) := by
      rw [walkBelow_eq, List.pairwise_flatMap]
      -- Below one entry the names begin alike; of two entries the first names decide.
      constructor
      · intro entry member
        obtain ⟨node, listed, same⟩ := mem_sortedEntries.mp (List.mem_filter.mp member).1
        rw [List.pairwise_map, same]
        refine (ih entry.1 node listed (orderly.entry listed)).imp fun before => ?_
        exact List.cons_lt_cons_iff.mpr (.inr ⟨rfl, before⟩)
      · refine (ascends.filter _).imp fun before names walked names' walked' => ?_
        obtain ⟨_, -, rfl⟩ := List.mem_map.mp walked
        obtain ⟨_, -, rfl⟩ := List.mem_map.mp walked'
        exact List.cons_lt_cons_iff.mpr (.inl before)
    rw [sortedTree, walk, List.pairwise_append]
    refine ⟨by split <;> simp, below, fun top first names later => ?_⟩
    have first : top = [] := by
      split at first
      · exact List.mem_singleton.mp first
      · cases first
    cases names with
    | nil => exact absurd later nil_not_mem_walkBelow
    | cons name names =>
      rw [first]
      exact List.nil_lt_cons name names

/-! ### Files of a directory -/

/-- The source files of a directory are its entries with such names, in order of the names. -/
theorem sourceFiles_eq (found : disk.find directory = .ok (.dir entries))
    (distinct : (Json.keys entries).Nodup) : ∃ files : List String, files.Pairwise (· < ·) ∧
      (∀ name, name ∈ files ↔ IsSource name ∧ ∃ bytes, (name, .file bytes) ∈ entries) ∧
      sourceFiles disk directory = files.map fun name => directory.append ⟨.relative, [name]⟩ := by
  have listed : disk.list directory = entries := by rw [Disk.list, found]
  refine ⟨_, ?_, fun name => ?_, rfl⟩
  · rw [listed, sourceNames_eq]
    refine (sortBy_name_strict_iff id _).mpr ?_
    rw [List.map_id]
    exact (List.filter_sublist.map _).nodup distinct
  · rw [listed, sourceNames_eq, sortStrings, mem_sortBy]
    simp only [List.mem_map, List.mem_filter, Bool.and_eq_true, isSourceName_iff]
    constructor
    · rintro ⟨⟨_, node⟩, ⟨member, regular, source⟩, rfl⟩
      obtain ⟨bytes, rfl⟩ := Disk.Node.isRegular_iff.mp regular
      exact ⟨source, bytes, member⟩
    · rintro ⟨source, bytes, member⟩
      exact ⟨(name, .file bytes), ⟨member, rfl, source⟩, rfl⟩

/-! ### Loading new directories -/

theorem formFiles_forms {paths : List Path} {place : Option Path}
    (formed : p.FormedFrom disk paths place) (w : World) :
    ∃ q v, (formFiles paths place).runOn disk w = (.ok q, v) := by
  obtain ⟨log, run⟩ := formFiles_run formed.read (moduleOf_formed formed w)
  rw [run, Package.ofFiles_renumbered formed.formed]
  exact ⟨_, _, rfl⟩

/-- A directory that has no entry yet is loaded if its package can be formed. -/
theorem loadDirectory_forms (isDir : disk.isDir directory = .ok true)
    (formed : p.FormedFrom disk (sourceFiles disk directory) (some directory))
    (new : w.loader.byDirectory.lookup (disk.resolve directory) = none) :
    ∃ q v, (loadDirectory directory).runOn disk w = (.ok q, v) := by
  have given : (!(sourceFiles disk directory).isEmpty) = true := by
    cases paths : sourceFiles disk directory with
    | nil =>
      have read := formed.read
      rw [paths] at read
      have none := Except.ok.inj read
      have formed := formed.formed
      rw [← none] at formed
      cases formed
    | cons _ _ => rfl
  obtain ⟨q, u, run⟩ := formFiles_forms formed w
  rw [loadDirectory_new isDir new, given]
  exact ⟨q, _, Compile.bind_ok.mpr ⟨(), w, rfl, Compile.bind_ok.mpr ⟨q, u, run, rfl⟩⟩⟩

/-- Directories that have no entries yet, and none of which is another, are loaded one after
another. -/
theorem loadDirectories_form {directories : List Path}
    (each : ∀ directory ∈ directories, disk.isDir directory = .ok true ∧
      w.loader.byDirectory.lookup (disk.resolve directory) = none ∧
      ∃ p : Package, p.FormedFrom disk (sourceFiles disk directory) (some directory))
    (distinct : (directories.map disk.resolve).Nodup) :
    ∃ packages v, (directories.mapM loadDirectory).runOn disk w = (.ok packages, v) ∧
      packages.map (·.serial) = List.range' w.loader.packages.length packages.length ∧
      List.Forall₂ (fun directory p => p.FormedFrom disk (sourceFiles disk directory) (some directory))
        directories packages := by
  induction directories generalizing w with
  | nil => exact ⟨[], w, rfl, rfl, .nil⟩
  | cons directory rest ih =>
    obtain ⟨⟨isDir, new, _, assembles⟩, others⟩ := List.forall_mem_cons.mp each
    obtain ⟨apart, distinct⟩ := List.nodup_cons.mp distinct
    obtain ⟨p, v, run⟩ := loadDirectory_forms isDir assembles new
    obtain ⟨-, ⟨known, -⟩ | ⟨-, serial, formed, log, rfl⟩⟩ := loadDirectory_enters run
    · rw [new] at known
      cases known
    · have unknown : ∀ other ∈ rest, disk.isDir other = .ok true ∧
          ((w.loader.enter p).enterDirectory (disk.resolve directory) p).byDirectory.lookup
            (disk.resolve other) = none ∧
          ∃ p : Package, p.FormedFrom disk (sourceFiles disk other) (some other) := by
        intro other listed
        obtain ⟨isDir', new', formed'⟩ := others other listed
        have differs : disk.resolve other ≠ disk.resolve directory := fun same =>
          apart (List.mem_map.mpr ⟨other, listed, same⟩)
        refine ⟨isDir', ?_, formed'⟩
        show List.lookup _ ((w.loader.enter p).byDirectory ++ [(disk.resolve directory, p)]) = none
        rw [Loader.enter_byDirectory, List.lookup_append, new', Option.none_or, List.lookup_cons,
          beq_eq_false_iff_ne.mpr differs]
        rfl
      have next : ((w.loader.enter p).enterDirectory (disk.resolve directory) p).packages.length =
          w.loader.packages.length + 1 := by
        show (w.loader.enter p).packages.length = _
        rw [Loader.enter_packages, List.length_append, List.length_singleton]
      obtain ⟨packages, u, later, serials, all⟩ := ih (w := { w with
        loader := (w.loader.enter p).enterDirectory (disk.resolve directory) p, log }) unknown distinct
      refine ⟨p :: packages, u, ?_, ?_, .cons formed all⟩
      · rw [List.mapM_cons]
        exact Compile.bind_ok.mpr ⟨p, _, run, Compile.bind_ok.mpr ⟨packages, u, later, rfl⟩⟩
      · rw [List.map_cons, serials, serial, next, List.length_cons, List.range'_succ]

/-! ### Patterns for trees -/

/-- A pattern for a tree, and the directory that it starts from. -/
inductive NamesTree : String → Path → Prop
  | current : NamesTree "..." .current
  | below (start : String) : NamesTree (start ++ "/...") (.ofString (start ++ "/"))

theorem NamesTree.kind {pattern : String} (tree : NamesTree pattern base) :
    kindOf pattern = .tree ∧ treeBase pattern = base := by
  cases tree with
  | current => exact ⟨by decide, by decide +kernel⟩
  | below start =>
    have dots : "/...".toList = ['/', '.', '.', '.'] := by decide
    have go : ".go".toList = ['.', 'g', 'o'] := by decide
    have slash : start ++ "/" = String.ofList (start.toList ++ ['/']) := by
      rw [← String.toList_inj]
      simp
    constructor
    · have no : (".go".toList.isSuffixOf (start ++ "/...").toList) = false := by
        rw [String.toList_append, dots, go, List.isSuffixOf, List.reverse_append]
        rfl
      have yes : ("/...".toList.isSuffixOf (start ++ "/...").toList) = true := by
        simp [List.isSuffixOf_iff_suffix]
      rw [kindOf, no, yes]
      simp
    · rw [treeBase, slash, String.toList_append, dots]
      simp [List.dropLast_append_of_ne_nil]

theorem load_tree_eq {pattern : String} (kind : kindOf pattern = .tree) :
    load [pattern] = (do return uniquePackages (← loadTree pattern) : Compile (List Package)) := by
  have given : ∀ error, Compile.ensure (!([pattern].isEmpty)) error = pure () := fun _ => rfl
  simp only [load, given, loadPatterns, kind, bind_assoc, pure_bind, List.append_nil]

theorem loadTree_run {pattern : String} (found : disk.find (treeBase pattern) = .ok (.dir entries)) :
    (loadTree pattern).runOn disk w =
      (do
        let packages ← (sourceDirs (treeBase pattern) (sortedTree (.dir entries))).mapM loadDirectory
        Compile.ensure (!packages.isEmpty) { cause := .noPackages pattern }
        return packages : Compile (List Package)).runOn disk w := by
  have isDir : disk.isDir (treeBase pattern) = .ok true := by
    rw [Disk.isDir, Disk.leadsTo, found]
    rfl
  rw [loadTree, Compile.read_bind, Compile.runOn_bind, isDir, found]
  rfl

/-- The package of a directory that is reached by these names from the top of a tree: it is made of
the source files there, in order of their names. -/
structure MadeAt (disk : Disk) (base : Path) (node : Node) (names : List String) (p : Package) :
    Prop where
  directory : p.directory = some (base.append ⟨.relative, names⟩)
  files : ∃ files : List String, files.Pairwise (· < ·) ∧
    (∀ name, name ∈ files ↔
      IsSource name ∧ ∃ bytes, Disk.nodeFrom node (names ++ [name]) = some (.file bytes)) ∧
    p.FormedFrom disk (files.map fun name => base.append ⟨.relative, names ++ [name]⟩)
      (some (base.append ⟨.relative, names⟩))

theorem madeAt_iff (found : disk.find base = .ok node) (orderly : node.Orderly)
    (selected : Selected node names) : MadeAt disk base node names p ↔
      p.FormedFrom disk (sourceFiles disk (base.append ⟨.relative, names⟩))
        (some (base.append ⟨.relative, names⟩)) := by
  obtain ⟨-, entries, _, _, below, -⟩ := selected
  have distinct := (orderly names entries below).1
  have entry : ∀ name bytes, (name, .file bytes) ∈ entries ↔
      Disk.nodeFrom node (names ++ [name]) = some (.file bytes) := by
    intro name bytes
    rw [Disk.nodeFrom_append, below, ← Disk.lookup_eq_some_iff distinct]
    show _ ↔ (entries.lookup name).bind (Disk.nodeFrom · []) = _
    cases entries.lookup name <;> rfl
  obtain ⟨files, ascend, listed, same⟩ :=
    sourceFiles_eq (Disk.find_below orderly found below).1 distinct
  simp only [entry] at listed
  simp only [append_append] at same
  rw [same]
  constructor
  · rintro ⟨-, files', ascend', listed', formed⟩
    rw [ascend.eq_of_mem_iff ascend' fun name => (listed name).trans (listed' name).symm]
    exact formed
  · exact fun formed =>
      ⟨(Package.ofFiles_given formed.formed).2.2.1, files, ascend, listed, formed⟩

/-- On a fresh loader, the directories that a search comes to are loaded one by one. -/
theorem loadDirectories_made {directories : List (List String)}
    (found : disk.find base = .ok node) (orderly : node.Orderly)
    (ascends : directories.Pairwise (· < ·)) (selected : ∀ names ∈ directories, Selected node names)
    (assembles : ∀ names, Selected node names → ∃ p, MadeAt disk base node names p) :
    ∃ packages v, ((directories.map fun names => base.append ⟨.relative, names⟩).mapM
        loadDirectory).runOn disk {} = (.ok packages, v) ∧
      uniquePackages packages = packages ∧
      List.Forall₂ (MadeAt disk base node) directories packages := by
  have place : ∀ names ∈ directories,
      disk.isDir (base.append ⟨.relative, names⟩) = .ok true ∧
        disk.resolve (base.append ⟨.relative, names⟩) =
          ⟨.root, (disk.resolve base).names ++ names⟩ := by
    intro names listed
    obtain ⟨-, inside, _, _, below, -⟩ := selected names listed
    obtain ⟨there, resolved⟩ := Disk.find_below orderly found below
    refine ⟨?_, resolved⟩
    rw [Disk.isDir, Disk.leadsTo, there]
    rfl
  have distinct : ((directories.map fun names => base.append ⟨.relative, names⟩).map
      disk.resolve).Nodup := by
    rw [List.map_map]
    refine List.Nodup.map_on (fun names listed names' listed' same => ?_) ascends.nodup
    have same := (place names listed).2.symm.trans (same.trans (place names' listed').2)
    exact List.append_cancel_left (congrArg Path.names same)
  have fresh : ∀ directory ∈ directories.map fun names => base.append ⟨.relative, names⟩,
      disk.isDir directory = .ok true ∧
        ({} : World).loader.byDirectory.lookup (disk.resolve directory) = none ∧
        ∃ p : Package, p.FormedFrom disk (sourceFiles disk directory) (some directory) := by
    intro directory member
    obtain ⟨names, listed, rfl⟩ := List.mem_map.mp member
    obtain ⟨p, made⟩ := assembles names (selected names listed)
    exact ⟨(place names listed).1, rfl, p, (madeAt_iff found orderly (selected names listed)).mp made⟩
  obtain ⟨packages, v, run, serials, formed⟩ := loadDirectories_form fresh distinct
  refine ⟨packages, v, run, ?_, ?_⟩
  · rw [uniquePackages_eq]
    refine unseen_of_distinct ?_ fun _ _ => List.not_mem_nil
    rw [serials]
    exact List.nodup_range'
  · rw [List.forall₂_map_left_iff] at formed
    refine forall₂_along (List.forall₂_same.mpr fun names _ => rfl) formed ?_
    rintro names listed _ p rfl formed
    exact (madeAt_iff found orderly (selected names listed)).mpr formed

/-! ### Trees without a selected directory -/

theorem loadDirectory_bare (isDir : disk.isDir directory = .ok true)
    (bare : sourceFiles disk directory = [])
    (new : w.loader.byDirectory.lookup (disk.resolve directory) = none) :
    (loadDirectory directory).runOn disk w =
      (.error (.definition { cause := .noFiles directory.text }), w) := by
  rw [loadDirectory_new isDir new, bare, Compile.runOn_bind]
  rfl

theorem sourceFiles_unselected (found : disk.find base = .ok node) (orderly : node.Orderly)
    (noticed : Noticed node names) (unselected : ¬ Selected node names) :
    sourceFiles disk (base.append ⟨.relative, names⟩) = [] := by
  obtain ⟨reached, entries, _, _, below, -⟩ := noticed
  obtain ⟨files, -, listed, same⟩ :=
    sourceFiles_eq (Disk.find_below orderly found below).1 (orderly names entries below).1
  cases files with
  | nil => exact same
  | cons name files =>
    obtain ⟨source, bytes, member⟩ := (listed name).mp List.mem_cons_self
    exact absurd ⟨reached, entries, name, bytes, below, member, source⟩ unselected

/-- A search for directories that stops at the wrong ones fails at the first of them. -/
theorem loadDirectories_unselected {directories : List (List String)}
    (found : disk.find base = .ok node) (orderly : node.Orderly)
    (noticed : ∀ names ∈ directories, Noticed node names) (none : ∀ names, ¬ Selected node names)
    (nonempty : directories ≠ []) :
    ∃ directory : Path, ((directories.map fun names => base.append ⟨.relative, names⟩).mapM
        loadDirectory).runOn disk {} =
      (.error (.definition { cause := .noFiles directory.text }), {}) := by
  cases directories with
  | nil => exact absurd rfl nonempty
  | cons names rest =>
    have here := noticed names List.mem_cons_self
    have bare := sourceFiles_unselected found orderly here (none names)
    obtain ⟨-, entries, _, _, below, -⟩ := here
    have isDir : disk.isDir (base.append ⟨.relative, names⟩) = .ok true := by
      rw [Disk.isDir, Disk.leadsTo, (Disk.find_below orderly found below).1]
      rfl
    refine ⟨base.append ⟨.relative, names⟩, ?_⟩
    rw [List.map_cons, List.mapM_cons, Compile.runOn_bind, loadDirectory_bare isDir bare rfl]

/-! ### Loading a tree -/

/-- A tree pattern on a fresh loader selects the directories with source files that are reached by
nothing that is passed over, each before those below it and these in order of their names; the
lexicographic order of the names that lead to them says as much. If the search notices no others, for
the sake of a pipe or a device, and the packages can be formed, it loads them one by one. Where there
are none, it is refused. -/
theorem load_tree_exactly {pattern : String} (tree : NamesTree pattern base)
    (found : disk.find base = .ok (.dir entries)) (orderly : (Node.dir entries).Orderly) :
    ∃ directories : List (List String), directories.Pairwise (· < ·) ∧
      (∀ names, names ∈ directories ↔ Selected (.dir entries) names) ∧
      (directories ≠ [] → (∀ names, Noticed (.dir entries) names → Selected (.dir entries) names) →
        (∀ names, Selected (.dir entries) names → ∃ p, MadeAt disk base (.dir entries) names p) →
        ∃ packages w, (load [pattern]).runOn disk {} = (.ok packages, w) ∧
          List.Forall₂ (MadeAt disk base (.dir entries)) directories packages) ∧
      (directories = [] → ∃ cause w,
        (load [pattern]).runOn disk {} = (.error (.definition { cause }), w) ∧
          cause.kind = .load none) := by
  classical
  obtain ⟨kind, rfl⟩ := tree.kind
  have noticed : ∀ names, names ∈ walk (sortedTree (.dir entries)) ↔ Noticed (.dir entries) names :=
    fun names => (walk_sorted_perm _).mem_iff.trans (mem_walk_iff orderly)
  have ascends := walk_sorted_ascends orderly
  have loaded := loadTree_run (w := {}) found
  rw [sourceDirs_eq] at loaded
  generalize walk (sortedTree (.dir entries)) = stops at noticed ascends loaded
  have selected : ∀ names, names ∈ stops.filter (Selected (.dir entries) ·) ↔
      Selected (.dir entries) names := by
    intro names
    rw [List.mem_filter, decide_eq_true_iff, noticed]
    exact and_iff_right_of_imp Selected.noticed
  refine ⟨_, ascends.filter _, selected, fun nonempty regular assembles => ?_, fun none => ?_⟩
  · -- the search stops at the selected directories only
    have all : stops.filter (Selected (.dir entries) ·) = stops :=
      List.filter_eq_self.mpr fun names stop => by simpa using regular names ((noticed names).mp stop)
    rw [all] at selected nonempty ⊢
    obtain ⟨packages, v, run, unique, made⟩ :=
      loadDirectories_made found orderly ascends (fun names => (selected names).mp) assembles
    have given : (!packages.isEmpty) = true := by
      cases made with
      | nil => exact absurd rfl nonempty
      | cons _ _ => rfl
    refine ⟨packages, v, ?_, made⟩
    rw [load_tree_eq kind]
    refine Compile.bind_ok.mpr ⟨packages, v, ?_, by rw [unique]; rfl⟩
    rw [loaded]
    exact Compile.bind_ok.mpr ⟨packages, v, run, Compile.ensure_bind_ok.mpr ⟨given, rfl⟩⟩
  · have unselected : ∀ names, ¬ Selected (.dir entries) names := by
      intro names here
      have member := (selected names).mpr here
      rw [none] at member
      cases member
    rw [load_tree_eq kind, Compile.runOn_bind, loaded]
    by_cases empty : stops = []
    · rw [empty]
      exact ⟨.noPackages pattern, {}, rfl, rfl⟩
    · obtain ⟨directory, fails⟩ := loadDirectories_unselected found orderly
        (fun names => (noticed names).mp) unselected empty
      refine ⟨.noFiles directory.text, {}, ?_, rfl⟩
      rw [Compile.runOn_bind, fails]

/-! ### Some trees -/

/-- A directory whose package is loaded on its own. -/
theorem madeAt_of_loads (found : disk.find base = .ok node) (orderly : node.Orderly)
    (selected : Selected node names)
    (loads : ((loadDirectory (base.append ⟨.relative, names⟩)).runOn disk {}).1.toOption.isSome = true) :
    ∃ p, MadeAt disk base node names p := by
  rcases run : (loadDirectory (base.append ⟨.relative, names⟩)).runOn disk {} with ⟨failure | p, v⟩
  · rw [run] at loads
    cases loads
  · obtain ⟨-, ⟨known, -⟩ | ⟨-, -, formed, -⟩⟩ := loadDirectory_enters run
    · cases known
    · exact ⟨p, (madeAt_iff found orderly selected).mpr formed⟩

/-- Entries of a directory: two source files, a pipe, a test, and directories, one of them passed
over. -/
def sample : List (String × Node) :=
  [("b.go", .file (Text.encode "package d".toList)), ("sub", .dir [
      ("c.go", .file (Text.encode "package sub".toList))]),
    ("a.go", .file (Text.encode "package d; type T struct\x7b\x7d".toList)),
    ("p.go", .special (.ok [])), ("a_test.go", .file (Text.encode "package x".toList)),
    ("testdata", .dir [("d.go", .file (Text.encode "package x".toList))]), ("empty", .dir [])]

theorem sample_orderly : (Node.dir sample).Orderly := by
  have pipe : (Node.special (.ok [])).Orderly := Disk.Node.orderly_leaf rfl
  simp only [Disk.Node.orderly_dir_iff, Disk.Node.orderly_file, pipe, sample, List.forall_mem_cons,
    List.not_mem_nil, false_implies, implies_true, and_true]
  decide +kernel

/-- A disk with that directory. -/
def sampleDisk : Disk := ⟨[("d", .dir sample)], []⟩

theorem sample_noticed (names : List String) :
    Noticed (.dir sample) names ↔ names ∈ [[], ["sub"]] := by
  have walked : walk (.dir sample) = [[], ["sub"]] := by decide +kernel
  rw [← walked, mem_walk_iff sample_orderly]

theorem sample_selected (names : List String) :
    Selected (.dir sample) names ↔ names ∈ [[], ["sub"]] := by
  refine ⟨fun selected => (sample_noticed names).mp selected.noticed, fun listed => ?_⟩
  rcases List.mem_pair.mp listed with rfl | rfl
  · exact ⟨nofun, sample, "b.go", _, rfl, List.mem_cons_self, isSourceName_iff.mp (by decide)⟩
  · refine ⟨?_, _, "c.go", _, rfl, List.mem_cons_self, isSourceName_iff.mp (by decide)⟩
    simp only [← isSkipped_iff]
    decide

theorem load_tree_exactly_sample : ∃ packages w,
    (load ["d" ++ "/..."]).runOn sampleDisk {} = (.ok packages, w) ∧
      List.Forall₂ (MadeAt sampleDisk (.ofString "d/") (.dir sample)) [[], ["sub"]] packages := by
  have found : sampleDisk.find (.ofString ("d" ++ "/")) = .ok (.dir sample) := rfl
  have loads : ∀ names ∈ [[], ["sub"]], ((loadDirectory ((Path.ofString ("d" ++ "/")).append
      ⟨.relative, names⟩)).runOn sampleDisk {}).1.toOption.isSome = true := by
    decide +kernel
  obtain ⟨directories, ascends, selected, loaded, -⟩ :=
    load_tree_exactly (.below "d") found sample_orderly
  have listed : directories = [[], ["sub"]] := ascends.eq_of_mem_iff (by decide) fun names =>
    (selected names).trans (sample_selected names)
  subst listed
  refine loaded (by decide) (fun names noticed => ?_) fun names here => ?_
  · exact (sample_selected names).mpr ((sample_noticed names).mp noticed)
  · exact madeAt_of_loads found sample_orderly here (loads names ((sample_selected names).mp here))

/-- Entries of a directory: a source file, and a directory with nothing but a pipe. -/
def piped : List (String × Node) :=
  [("a.go", .file (Text.encode "package d".toList)), ("sub", .dir [("x.go", .special (.ok []))])]

/-- Entries of a directory: a source file. -/
def single : List (String × Node) := [("a.go", .file (Text.encode "package d".toList))]

/-- A directory of that name with a module file above that names no module. -/
def unnamedModule : Disk := ⟨[("go.mod", .file []), ("d", .dir single)], []⟩

theorem piped_orderly : (Node.dir piped).Orderly := by
  have pipe : (Node.special (.ok [])).Orderly := Disk.Node.orderly_leaf rfl
  simp only [Disk.Node.orderly_dir_iff, Disk.Node.orderly_file, pipe, piped, List.forall_mem_cons,
    List.not_mem_nil, false_implies, implies_true, and_true]
  decide +kernel

theorem piped_selected (names : List String) : Selected (.dir piped) names ↔ names = [] := by
  have source : IsSource "a.go" := isSourceName_iff.mp (by decide)
  constructor
  · intro selected
    have walked : walk (.dir piped) = [[], ["sub"]] := by decide +kernel
    have stop := (mem_walk_iff piped_orderly).mpr selected.noticed
    rw [walked] at stop
    rcases List.mem_pair.mp stop with rfl | rfl
    · rfl
    · obtain ⟨-, _, _, _, ⟨⟩, member, -⟩ := selected
      cases List.mem_singleton.mp member
  · rintro rfl
    exact ⟨nofun, piped, "a.go", _, rfl, List.mem_cons_self, source⟩

theorem single_selected (names : List String) : Selected (.dir single) names ↔ names = [] := by
  have source : IsSource "a.go" := isSourceName_iff.mp (by decide)
  constructor
  · rintro ⟨-, _, _, _, below, -⟩
    cases names with
    | nil => rfl
    | cons name names =>
      obtain ⟨node, listed, below⟩ := Option.bind_eq_some_iff.mp below
      cases List.mem_singleton.mp (Json.mem_of_find? listed)
      cases names <;> cases below
  · rintro rfl
    exact ⟨nofun, single, "a.go", _, rfl, List.mem_cons_self, source⟩

/-- That the selected directories have packages is not enough. A directory with a pipe that is named
as a source file is refused, although it is not selected; and files that form a package by themselves
do not so next to a module file without a name. -/
theorem load_tree_refused :
    ((∀ names, Selected (.dir piped) names ↔ names = []) ∧
      (∃ p, MadeAt ⟨[("d", .dir piped)], []⟩ (.ofString "d/") (.dir piped) [] p) ∧
      ((load ["d" ++ "/..."]).runOn ⟨[("d", .dir piped)], []⟩ {}).1.toOption.isSome = false) ∧
    (∀ names, Selected (.dir single) names ↔ names = []) ∧
    (∃ files p, (sourceFiles unnamedModule (.ofString "d/")).mapM (readFile unnamedModule) = .ok files ∧
      Package.ofFiles 0 files none (some (.ofString "d/")) none = .ok p) ∧
    ((load ["d" ++ "/..."]).runOn unnamedModule {}).1.toOption.isSome = false := by
  refine ⟨⟨piped_selected, ?_, by decide +kernel⟩, single_selected, ?_, by decide +kernel⟩
  · have loads : ((loadDirectory ((Path.ofString "d/").append ⟨.relative, []⟩)).runOn
        ⟨[("d", .dir piped)], []⟩ {}).1.toOption.isSome = true := by
      decide +kernel
    exact madeAt_of_loads rfl piped_orderly ((piped_selected []).mpr rfl) loads
  · let forming : Except Failure (List SourceFile × Package) := do
      let files ← (sourceFiles unnamedModule (.ofString "d/")).mapM (readFile unnamedModule)
      let p ← (Package.ofFiles 0 files none (some (.ofString "d/")) none).mapError .definition
      return (files, p)
    have forms : forming.toOption.isSome = true := by decide +kernel
    cases outcome : forming with
    | error failure =>
      rw [outcome] at forms
      cases forms
    | ok formed =>
      obtain ⟨files, read, rest⟩ := bind_eq_ok.mp outcome
      obtain ⟨p, formed, -⟩ := bind_eq_ok.mp rest
      exact ⟨files, p, read, mapError_eq_ok.mp formed⟩

end Loading

end GoIdl
