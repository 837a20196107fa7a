import GoIdl.Proofs.Compile.Alone
import GoIdl.Proofs.Outcomes
import GoIdl.Proofs.Text.Utf8

/-!
# Texts in memory and on the disk

Compiling texts in memory comes to the same as compiling a directory that holds them, as long as no
module file is near: either there is one definition with its statistics, or both fail.
-/

namespace GoIdl

open Syntax (SourceFile)
open Disk (Path)

variable {disk : Disk} {directory : Path} {sources : List (String × String)} {pattern : String}
  {files files' : List SourceFile} {p : Package} {options : Options}

/-- The source files of a directory are these texts, and there is no module file in it or above. -/
structure Disk.Holds (disk : Disk) (directory : Path) (sources : List (String × String)) : Prop where
  isDir : disk.isDir directory = .ok true
  names : (((disk.list directory).filter fun (name, node) =>
    node.isRegular && Loading.isSourceName name).map (·.1)).Perm (sources.map (·.1))
  texts : ∀ source ∈ sources,
    disk.readBytes (directory.append ⟨.relative, [source.1]⟩) = .ok (Text.encode source.2.toList)
  noModule : ∀ place ∈ (disk.resolve directory).selfAndParents,
    disk.isFile (place.child Loading.moduleFile) = .ok false

/-! ### Reading -/

namespace Loading

theorem ofPath_moved {path path' : Path} {text : String} {file : SourceFile}
    (read : Syntax.Source.ofPath path text = .ok file) :
    ∃ file', Syntax.Source.ofPath path' text = .ok file' ∧
      Rearranged False Nothing file file' := by
  obtain ⟨parsed, parsing, read⟩ := bind_eq_ok.mp read
  obtain ⟨content, whole, placed⟩ := bind_eq_ok.mp read
  cases placed
  have parsing' : Syntax.Source.parse path' text = .ok parsed :=
    mapError_eq_ok.mpr (mapError_eq_ok.mp parsing)
  refine ⟨{ content with path := path'.text }, ?_, .of_perm rfl rfl (.refl _) nofun⟩
  exact bind_eq_ok.mpr ⟨parsed, parsing', bind_eq_ok.mpr
    ⟨content, mapError_eq_ok.mpr (mapError_eq_ok.mp whole), rfl⟩⟩

theorem readFile_held (holds : disk.Holds directory sources) {source : String × String}
    (member : source ∈ sources) :
    readFile disk (directory.append ⟨.relative, [source.1]⟩) =
      Syntax.Source.ofPath (directory.append ⟨.relative, [source.1]⟩) source.2 := by
  rw [readFile, readText, holds.texts source member]
  dsimp only
  rw [Text.decode_encode]
  dsimp only
  rw [String.ofList_toList]
  rfl

theorem sourceFiles_held (holds : disk.Holds directory sources) :
    ∃ sorted : List (String × String), sorted.Perm sources ∧
      sourceFiles disk directory = sorted.map fun s => directory.append ⟨.relative, [s.1]⟩ := by
  have perm : (sortStrings ((disk.list directory).filterMap fun (name, node) =>
      if node.isRegular && isSourceName name then some name else none)).Perm (sources.map (·.1)) := by
    rw [sourceNames_eq]
    exact (sortBy_perm _).trans holds.names
  have own : List.Forall₂ (fun (name : String) (s : String × String) => name = s.1)
      (sources.map (·.1)) sources :=
    List.forall₂_map_left_iff.mpr (List.forall₂_same.mpr fun _ _ => rfl)
  obtain ⟨sorted, paired, sameTexts⟩ := List.perm_comp_forall₂ perm own
  refine ⟨sorted, sameTexts, ?_⟩
  have same := List.forall₂_map_right_iff.mpr paired
  rw [List.forall₂_eq_eq_eq] at same
  rw [sourceFiles]
  dsimp only
  rw [same, List.map_map]
  rfl

/-- From the directory and from memory one can read, or one cannot, the same files up to their order
and their paths. -/
theorem readFiles_held (holds : disk.Holds directory sources) :
    ((∃ files, sources.mapM (fun s => Syntax.Source.read s.1 s.2) = .ok files) ↔
        ∃ files', (sourceFiles disk directory).mapM (readFile disk) = .ok files') ∧
      ∀ files files', sources.mapM (fun s => Syntax.Source.read s.1 s.2) = .ok files →
        (sourceFiles disk directory).mapM (readFile disk) = .ok files' →
        Regrouped False Nothing files files' := by
  obtain ⟨sorted, perm, paths⟩ := sourceFiles_held holds
  have read : ∀ s ∈ sorted, readFile disk (directory.append ⟨.relative, [s.1]⟩) =
      Syntax.Source.ofPath (directory.append ⟨.relative, [s.1]⟩) s.2 := fun s member =>
    readFile_held holds (perm.mem_iff.mp member)
  rw [paths]
  constructor
  · rw [exists_mapM_iff, exists_mapM_iff]
    simp only [List.forall_mem_map]
    constructor
    · intro each s member
      obtain ⟨file, here⟩ := each s (perm.mem_iff.mp member)
      obtain ⟨file', there, -⟩ := ofPath_moved here
      exact ⟨file', (read s member).trans there⟩
    · intro each s member
      obtain ⟨file', there⟩ := each s (perm.mem_iff.mpr member)
      rw [read s (perm.mem_iff.mpr member)] at there
      obtain ⟨file, here, -⟩ := ofPath_moved there
      exact ⟨file, here⟩
  · intro files files' inMemory onDisk
    obtain ⟨same, inOrder, reordered⟩ := List.perm_comp_forall₂ perm (mapM_eq_ok.mp inMemory)
    rw [mapM_eq_ok, List.forall₂_map_left_iff] at onDisk
    have moved : List.Forall₂ (Rearranged False Nothing) same files' := by
      refine forall₂_along inOrder onDisk fun s member file file' here there => ?_
      rw [read s member] at there
      obtain ⟨_, again, same⟩ := ofPath_moved here
      cases again.symm.trans there
      exact same
    have regrouped : Regrouped False Nothing files' files :=
      ⟨same, (moved.imp fun _ _ => Rearranged.flip).flip, reordered⟩
    exact regrouped.flip

theorem findModule_held (holds : disk.Holds directory sources) :
    findModule disk directory = .ok none := by
  have nowhere := holds.noModule
  unfold findModule
  revert nowhere
  induction (disk.resolve directory).selfAndParents with
  | nil => exact fun _ => rfl
  | cons place rest ih =>
    intro nowhere
    have here : moduleAt? disk place = .ok none := by
      unfold moduleAt?
      dsimp only
      rw [nowhere place List.mem_cons_self]
      rfl
    rw [firstModule, here]
    exact ih fun place member => nowhere place (List.mem_cons_of_mem _ member)

/-! ### Loading -/

theorem formFiles_held (holds : disk.Holds directory sources) (paths : List Path) :
    (formFiles paths (some directory)).runOn disk {} =
      match paths.mapM (readFile disk) with
      | .error failure => (.error failure, {})
      | .ok files =>
        match Package.ofFiles 0 files none (some directory) none with
        | .error error => (.error (.definition error), {})
        | .ok p => (.ok p,
          { loader := { byPath := [(p.path, p)], packages := [p] }
            log := [⟨.debug, .loading,
              s!"loaded package {p.path} from {directory.text} ({files.length} files)"⟩] }) := by
  have nowhere : (moduleOf (some directory)).runOn disk {} = (.ok none, {}) := by
    rw [moduleOf, Compile.read_bind, findModule_held holds]
    rfl
  rw [formFiles, Compile.read_bind, Compile.runOn_bind, Compile.runOn_mapM_ofExcept]
  cases paths.mapM (readFile disk) with
  | error failure => rfl
  | ok files =>
    dsimp only
    rw [Compile.runOn_bind, nowhere]
    dsimp only
    rw [Compile.runOn_bind, form_run]
    have unplaced : pathIn disk (some directory) none = none := rfl
    rw [unplaced]
    have serial : ({} : World).loader.packages.length = 0 := rfl
    rw [serial]
    cases Package.ofFiles 0 files none (some directory) none with
    | error error => rfl
    | ok p => rfl

theorem loadDirectory_alone (holds : disk.Holds directory sources) :
    LoadsAlone disk (loadDirectory directory) fun p =>
      ∃ files, (sourceFiles disk directory).mapM (readFile disk) = .ok files ∧
        Package.ofFiles 0 files none (some directory) none = .ok p where
  ok := by
    rintro p ⟨files, read, formed⟩
    have nonempty : (!(sourceFiles disk directory).isEmpty) = true := by
      cases paths : sourceFiles disk directory with
      | nil =>
        rw [paths] at read
        cases read
        cases formed
      | cons _ _ => rfl
    have run := formFiles_held holds (sourceFiles disk directory)
    rw [read] at run
    dsimp only at run
    rw [formed] at run
    dsimp only at run
    have entered : ∀ u, (formFiles (sourceFiles disk directory) (some directory)).runOn disk {} =
        (.ok p, u) → (loadDirectory directory).runOn disk {} = (.ok p, { u with loader :=
          { u.loader with
            byDirectory := u.loader.byDirectory ++ [(disk.resolve directory, p)] } }) := by
      intro u run
      rw [loadDirectory_new holds.isDir rfl, nonempty]
      exact Compile.bind_ok.mpr ⟨(), _, rfl, Compile.bind_ok.mpr ⟨p, u, run, rfl⟩⟩
    exact ⟨_, entered _ run, rfl, rfl⟩
  failed := by
    intro none
    rcases run : (loadDirectory directory).runOn disk {} with ⟨failure | p, u⟩
    · exact ⟨failure, u, rfl⟩
    · rw [loadDirectory_new holds.isDir rfl] at run
      obtain ⟨-, run⟩ := Compile.ensure_bind_ok.mp run
      obtain ⟨package, _, formed, -⟩ := Compile.bind_ok.mp run
      rw [formFiles_held holds] at formed
      split at formed
      · cases formed
      · rename_i files read
        split at formed
        · cases formed
        · rename_i made
          exact absurd ⟨files, read, made⟩ (none _)

end Loading

/-! ### Compiling -/

namespace Compile

/-- A directory alone is loaded, and becomes what any package becomes. -/
theorem patterns_eq (kind : Loading.kindOf pattern = .directory) :
    Compile.patterns [pattern] options = (do
      let p ← Loading.loadDirectory (.ofString pattern)
      note .debug .compiling s!"compiling package {p.path}"
      ofPackage p options) := by
  have given : ∀ error, ensure (!([pattern].isEmpty)) error = pure () := fun _ => rfl
  have unique : ∀ p, Loading.uniquePackages [p] = [p] := fun _ => rfl
  have alone : ∀ (f : Package → Compile Unit) p, [p].forM f = f p := fun f p => bind_pure (f p)
  simp only [Compile.patterns, compile, extract, ofPackage, Loading.load, Loading.loadPatterns, kind,
    given, unique, alone, List.length_singleton, bind_assoc, pure_bind]

theorem directory_compiled (kind : Loading.kindOf pattern = .directory)
    (holds : disk.Holds (.ofString pattern) sources) (options : Options) :
    CompilesAlone disk (Compile.patterns [pattern] options) options fun p =>
      ∃ files, (Loading.sourceFiles disk (.ofString pattern)).mapM (Loading.readFile disk) =
          .ok files ∧
        Package.ofFiles 0 files none (some (.ofString pattern)) none = .ok p where
  ok p formed := by
    obtain ⟨u, loaded, alone⟩ := (Loading.loadDirectory_alone holds).ok p formed
    rw [patterns_eq kind, runOn_bind, loaded]
    exact ⟨_, rfl, alone.session, alone.packages⟩
  failed none := by
    obtain ⟨failure, u, refused⟩ := (Loading.loadDirectory_alone holds).failed none
    rw [patterns_eq kind, runOn_bind, refused]
    exact ⟨failure, u, rfl⟩

/-- Texts in memory and the directory that holds them have one definition with its statistics, or
none. -/
theorem sources_agree_with_directory (kind : Loading.kindOf pattern = .directory)
    (holds : disk.Holds (.ofString pattern) sources) (options : Options) :
    ((Compile.sources sources options).runOn disk {}).1.toOption =
      ((Compile.patterns [pattern] options).runOn disk {}).1.toOption := by
  obtain ⟨readable, regrouped⟩ := Loading.readFiles_held holds
  refine agree (sources_compiled disk sources options) (directory_compiled kind holds options) ?_ ?_
  · rintro p ⟨files, read, formed⟩
    obtain ⟨files', read'⟩ := readable.mp ⟨files, read⟩
    obtain ⟨p', formed', twins, lengths⟩ :=
      Package.twins_of_regrouped (regrouped files files' read read') formed
    exact ⟨p', ⟨files', read', formed'⟩, lengths, ⟨_, Resolve.readable_in_step twins⟩,
      ⟨_, Resolve.readable_in_step twins.flip⟩⟩
  · rintro p' ⟨files', read', formed'⟩
    obtain ⟨files, read⟩ := readable.mpr ⟨files', read'⟩
    obtain ⟨p, formed, -⟩ :=
      Package.twins_of_regrouped (regrouped files files' read read').flip formed'
    exact ⟨p, files, read, formed⟩

/-- A service and the struct that it takes, in two files. -/
def halves : List (String × String) :=
  [("b.go", "package a; type S interface\x7b M(T) T \x7d"),
    ("a.go", "package a; type T struct\x7b\x7d")]

/-- A directory of that name with these files, and nothing else. -/
def heldIn (name : String) : Disk where
  entries := [(name, .dir (halves.map fun s => (s.1, .file (Text.encode s.2.toList))))]
  home := []

theorem heldIn_holds :
    ∀ name ∈ ["d", "x.go"], (heldIn name).Holds (.ofString name) halves := by
  have above : ∀ name ∈ ["d", "x.go"],
      ((heldIn name).resolve (.ofString name)).selfAndParents = [⟨.root, [name]⟩, ⟨.root, []⟩] := by
    decide +kernel
  intro name member
  have places := above name member
  rcases List.mem_pair.mp member with rfl | rfl
  all_goals exact {
    isDir := rfl
    names := .of_eq (by decide +kernel)
    texts := by decide +kernel
    noModule := by
      intro place listed
      rw [places] at listed
      rcases List.mem_pair.mp listed with rfl | rfl
      · rfl
      · rfl }

theorem sources_agree_with_directory_halves :
    ((Compile.sources halves {}).runOn (heldIn "d") {}).1.toOption.isSome = true ∧
      ((Compile.sources halves {}).runOn (heldIn "d") {}).1.toOption =
        ((Compile.patterns ["d"] {}).runOn (heldIn "d") {}).1.toOption :=
  ⟨by decide +kernel,
    sources_agree_with_directory (by decide +kernel) (heldIn_holds "d" (by decide)) {}⟩

/-- A directory that is named like a source file is taken for a file. -/
theorem directory_named_like_file :
    (heldIn "x.go").Holds (.ofString "x.go") halves ∧
      ((Compile.sources halves {}).runOn (heldIn "x.go") {}).1.toOption.isSome = true ∧
      ((Compile.patterns ["x.go"] {}).runOn (heldIn "x.go") {}).1.toOption.isSome = false :=
  ⟨heldIn_holds "x.go" (by decide), by decide +kernel, by decide +kernel⟩

end Compile

end GoIdl
