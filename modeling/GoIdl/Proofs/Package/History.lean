import GoIdl.Proofs.Package.Budget
import GoIdl.Proofs.Package.Enlarging
import GoIdl.Proofs.Package.Requests

/-!
# Imports after any history

A loader remembers packages by directory and by import path. What it remembers by directory is made
of all source files of that directory, in whatever order it has been asked for things and whether it
answered or failed. What it remembers by import path is made so, too, unless files were named that
form a package of this path: such a package stands for the import, though it may lack files of the
directory.
-/

namespace GoIdl

open Syntax (SourceFile Location ImportSpec)
open Disk (Path Node)

variable {α β : Type} {disk : Disk} {w v : World} {l : Loader} {p q importer : Package}
  {directory directory' : Path} {files : List SourceFile} {path : String} {m : GoModule}

/-! ### What packages are made of -/

/-- A package of exactly the source files of a directory. -/
structure Package.MadeOf (disk : Disk) (directory : Path) (p : Package) : Prop where
  isDir : disk.isDir directory = .ok true
  files : (Loading.sourceFiles disk directory).mapM (Loading.readFile disk) = .ok p.files
  formed : ∃ serial path place module, Package.ofFiles serial p.files path place module = .ok p

/-- Packages of one name and of the same files, which may go by different paths. -/
structure Package.SameContents (p q : Package) : Prop where
  name : p.name = q.name
  files : List.Forall₂ (fun file file' => file' = { file with path := file'.path }) p.files q.files

namespace Package

variable {serial : Nat} {given : Option String} {place : Option Path} {module : Option GoModule}

theorem ofFiles_name (formed : ofFiles serial files given place module = .ok p) :
    p.name = (sortStrings (distinct (files.map (·.package)))).headD "" := by
  unfold ofFiles at formed
  split at formed
  · cases formed
  · split at formed
    · cases formed
    · dsimp only at formed
      split at formed <;> cases formed
      rfl

end Package

/-! ### Directories under different paths -/

namespace Disk

theorem locate_eq (isDir : disk.isDir directory = .ok true) (isDir' : disk.isDir directory' = .ok true)
    (same : disk.resolve directory = disk.resolve directory') :
    disk.locate directory = disk.locate directory' := by
  obtain ⟨_, found⟩ := isDir_eq_true isDir
  obtain ⟨_, found'⟩ := isDir_eq_true isDir'
  obtain ⟨place, located, _⟩ := find_eq_ok.mp found
  obtain ⟨place', located', _⟩ := find_eq_ok.mp found'
  rw [resolve_of_locate located, resolve_of_locate located', Path.mk.injEq] at same
  rw [located, located', same.2]

end Disk

namespace Loading

theorem readFile_moved {here there : Path} {file file' : SourceFile}
    (same : disk.locate here = disk.locate there) (read : readFile disk here = .ok file)
    (read' : readFile disk there = .ok file') : file' = { file with path := file'.path } := by
  obtain ⟨bytes, text, found, decoded, parsed⟩ := readFile_ok read
  obtain ⟨bytes', text', found', decoded', parsed'⟩ := readFile_ok read'
  have bytes_eq : disk.readBytes here = disk.readBytes there := by
    rw [Disk.readBytes, Disk.readBytes, Disk.find, Disk.find, same]
  cases (found.symm.trans bytes_eq).trans found'
  cases decoded.symm.trans decoded'
  obtain ⟨content, reading, placed⟩ := bind_eq_ok.mp parsed
  obtain ⟨content', reading', placed'⟩ := bind_eq_ok.mp parsed'
  obtain ⟨whole, given, placed⟩ := bind_eq_ok.mp placed
  obtain ⟨whole', given', placed'⟩ := bind_eq_ok.mp placed'
  cases (mapError_eq_ok.mp reading).symm.trans (mapError_eq_ok.mp reading')
  cases (mapError_eq_ok.mp given).symm.trans (mapError_eq_ok.mp given')
  cases placed
  cases placed'
  rfl

end Loading

/-- One directory makes packages of the same contents. -/
theorem Package.MadeOf.same (made : p.MadeOf disk directory) (made' : q.MadeOf disk directory')
    (resolved : disk.resolve directory = disk.resolve directory') : p.SameContents q := by
  have located := Disk.locate_eq made.isDir made'.isDir resolved
  have listed : disk.list directory = disk.list directory' := by
    rw [Disk.list, Disk.list, Disk.find, Disk.find, located]
  have files : List.Forall₂ (fun file file' => file' = { file with path := file'.path })
      p.files q.files := by
    have read := mapM_eq_ok.mp made.files
    have read' := mapM_eq_ok.mp made'.files
    rw [Loading.sourceFiles] at read read'
    rw [← listed] at read'
    refine forall₂_along (List.forall₂_map_left_iff.mp read) (List.forall₂_map_left_iff.mp read')
      fun name _ file file' here there => Loading.readFile_moved ?_ here there
    rw [Disk.locate_append, Disk.locate_append, located]
  refine ⟨?_, files⟩
  obtain ⟨_, _, _, _, formed⟩ := made.formed
  obtain ⟨_, _, _, _, formed'⟩ := made'.formed
  have packages : p.files.map (·.package) = q.files.map (·.package) := by
    refine List.forall₂_eq_eq_eq ▸ List.forall₂_map_left_iff.mpr
      (List.forall₂_map_right_iff.mpr (files.imp fun file file' same => ?_))
    rw [same]
  rw [Package.ofFiles_name formed, Package.ofFiles_name formed', packages]

/-! ### What a loader remembers -/

namespace Loading

/-- The world after requests to a fresh loader. -/
def after (disk : Disk) (history : List Request) : World := history.foldl (Request.leaves disk) {}

/-- How a package comes to stand for an import path. Either it goes by that path, and it is made of a
directory or of files that an earlier request named; or it is made of the directory that the path has
in the module of a package that something has been asked for on behalf of. -/
inductive StandsFor (disk : Disk) (history : List Request) (path : String) (p : Package) : Prop where
  | directory {directory : Path} (made : p.MadeOf disk directory) (goes : p.path = path)
  | named {patterns : List String} (asked : .load patterns ∈ history)
      (read : (namedFiles patterns).mapM (readFile disk) = .ok p.files) (goes : p.path = path)
  | imported {request : Request} {importer : Package} {m : GoModule} {directory : Path}
      (asked : request ∈ history) (by_importer : request.importer? = some importer)
      (module : importer.module = some m) (inside : m.contains path = true)
      (made : p.MadeOf disk directory)
      (resolved : disk.resolve directory = disk.resolve (m.directoryFor path))

/-- What a loader remembers after requests. -/
structure Remembers (disk : Disk) (history : List Request) (l : Loader) : Prop where
  byDirectory : ∀ key p, l.byDirectory.lookup key = some p →
    ∃ directory, disk.resolve directory = key ∧ p.MadeOf disk directory
  byPath : ∀ path p, Json.find? path l.byPath = some p → StandsFor disk history path p

/-! ### Loading -/

section

variable {history : List Request}

theorem form_keeps {given : Option String} {place : Option Path} {module : Option GoModule} :
    Keeps disk (Remembers disk history) (form files given place module) fun p =>
      ∃ serial, Package.ofFiles serial files given place module = .ok p := by
  intro w held
  rw [form_run]
  split
  · rename_i p formed
    exact ⟨⟨held.byDirectory, held.byPath⟩, fun _ same => ⟨_, Except.ok.inj same ▸ formed⟩⟩
  · exact ⟨held, nofun⟩

/-- A package is entered under the path that it goes by, unless that path is taken. -/
theorem Remembers.enterPath (remembers : Remembers disk history l)
    (stands : StandsFor disk history p.path p) :
    Remembers disk history (if (Json.find? p.path l.byPath).isSome then l
      else { l with byPath := l.byPath ++ [(p.path, p)] }) := by
  split
  · exact remembers
  · rename_i free
    have free : p.path ∉ Json.keys l.byPath := fun known => free (Json.find?_isSome_iff.mpr known)
    refine ⟨remembers.byDirectory, fun path q found => ?_⟩
    rcases (Json.find?_append_new free).mp found with old | ⟨rfl, rfl⟩
    · exact remembers.byPath path q old
    · exact stands

theorem formFiles_keeps (paths : List Path) (place : Option Path)
    (stands : ∀ p : Package, paths.mapM (readFile disk) = .ok p.files →
      (∃ serial path place module, Package.ofFiles serial p.files path place module = .ok p) →
      StandsFor disk history p.path p) :
    Keeps disk (Remembers disk history) (formFiles paths place) fun p =>
      paths.mapM (readFile disk) = .ok p.files ∧
        ∃ serial path place module, Package.ofFiles serial p.files path place module = .ok p := by
  have reading : Keeps disk (Remembers disk history)
      (paths.mapM fun path => Compile.ofExcept (readFile disk path))
      (paths.mapM (readFile disk) = .ok ·) :=
    .same (fun w => by rw [Compile.runOn_mapM_ofExcept])
      fun w files read => by rwa [Compile.runOn_mapM_ofExcept] at read
  have modules : Keeps disk (Remembers disk history) (moduleOf place) fun _ => True :=
    .same (moduleOf_outcome place disk) fun _ _ _ => trivial
  refine .withDisk (reading.bind fun files read => modules.bind fun module _ => ?_)
  refine form_keeps.bind fun p ⟨serial, formed⟩ => ?_
  have whole := (Package.ofFiles_given formed).2.1
  rw [← whole] at read formed
  have made : ∃ serial path place module, Package.ofFiles serial p.files path place module = .ok p :=
    ⟨_, _, _, _, formed⟩
  refine (Keeps.modifyLoader fun l held => held.enterPath (stands p read made)).bind fun _ _ => ?_
  exact (Keeps.note _ _ _).bind fun _ _ => .pure ⟨read, made⟩

theorem loadDirectory_keeps (directory : Path) :
    Keeps disk (Remembers disk history) (loadDirectory directory) fun p =>
      ∃ place, disk.resolve place = disk.resolve directory ∧ p.MadeOf disk place := by
  refine .withDisk ((Keeps.ofExcept _).bind fun isDir answer => (Keeps.ensure _ _).bind fun _ yes => ?_)
  rw [yes] at answer
  refine .withLoader fun l held => ?_
  split
  · rename_i known found
    exact .pure (held.byDirectory _ known found)
  · refine (Keeps.ensure _ _).bind fun _ _ => ?_
    have made : ∀ p : Package, (sourceFiles disk directory).mapM (readFile disk) = .ok p.files →
        (∃ serial path place module, Package.ofFiles serial p.files path place module = .ok p) →
        p.MadeOf disk directory := fun p read formed => ⟨answer, read, formed⟩
    refine (formFiles_keeps (sourceFiles disk directory) (some directory) fun p read formed =>
      .directory (made p read formed) rfl).bind fun p ⟨read, formed⟩ => ?_
    have whole := made p read formed
    refine (Keeps.modifyLoader fun l held => ?_).bind fun _ _ => .pure ⟨directory, rfl, whole⟩
    refine ⟨fun key q found => ?_, held.byPath⟩
    rw [List.lookup_append] at found
    cases old : l.byDirectory.lookup key with
    | some q' =>
      rw [old] at found
      cases found
      exact held.byDirectory key q old
    | none =>
      rw [old, Option.none_or, List.lookup_cons] at found
      split at found
      · rename_i same
        cases found
        exact ⟨directory, (beq_iff_eq.mp same).symm, whole⟩
      · cases found

/-! ### Imports -/

/-- An import is entered under its path in the module of the importer. -/
theorem loadImport_keeps {request : Request} (asked : request ∈ history)
    (by_importer : request.importer? = some importer) (path : String) (location : Location) :
    Keeps disk (Remembers disk history) (loadImport importer path location) fun _ => True := by
  refine .withDisk (.withLoader fun l held => ?_)
  split
  · exact .pure trivial
  · split
    · exact .fail _
    · rename_i module found
      obtain ⟨belongs, inside⟩ := Option.filter_eq_some_iff.mp found
      refine (Keeps.ofExcept _).bind fun _ _ => (Keeps.ensure _ _).bind fun _ _ => ?_
      refine (loadDirectory_keeps _).bind fun p ⟨place, resolved, made⟩ => ?_
      refine (Keeps.modifyLoader fun l held => ⟨held.byDirectory, fun other q found => ?_⟩).bind
        fun _ _ => .pure trivial
      rw [Json.find?_put] at found
      split at found
      · rename_i same
        cases found
        subst same
        exact .imported asked by_importer belongs inside made resolved
      · exact held.byPath other q found

end

/-! ### Histories -/

variable {history : List Request}

theorem Request.remembers {request : Request} (asked : request ∈ history)
    (remembers : Remembers disk history w.loader) :
    Remembers disk history (request.leaves disk w).loader := by
  refine Request.keeps (fun files => form_keeps.weaken fun _ _ => trivial) (fun patterns place same => ?_)
    (fun place => (loadDirectory_keeps place).weaken fun _ _ => trivial)
    (fun importer path location by_importer => loadImport_keeps asked by_importer path location)
    remembers
  refine (formFiles_keeps (namedFiles patterns) place fun p read _ => ?_).weaken fun _ _ => trivial
  exact .named (same ▸ asked) read rfl

theorem after_remembers (disk : Disk) (history : List Request) :
    Remembers disk history (after disk history).loader := by
  have run : ∀ (rest : List Request) (w : World), rest ⊆ history → Remembers disk history w.loader →
      Remembers disk history (rest.foldl (Request.leaves disk) w).loader := by
    intro rest
    induction rest with
    | nil => exact fun _ _ held => held
    | cons request rest ih =>
      intro w subset held
      exact ih _ (List.cons_subset.mp subset).2
        (Request.remembers (List.cons_subset.mp subset).1 held)
  exact run history {} (fun _ => id) ⟨by simp, by simp⟩

/-- An import is answered by what its path leads to already, or by the directory that the path has in
the module of the importer. -/
theorem loadImport_answers {location : Location} (remembers : Remembers disk history w.loader)
    (module : importer.module = some m)
    (run : (loadImport importer path location).runOn disk w = (.ok p, v)) :
    Json.find? path w.loader.byPath = some p ∨
      ∃ directory, disk.resolve directory = disk.resolve (m.directoryFor path) ∧
        p.MadeOf disk directory := by
  obtain ⟨found, -⟩ | ⟨-, module', u, belongs, loaded, -⟩ := loadImport_cases run
  · exact .inl found
  · have same : m = module' :=
      Option.some.inj (module.symm.trans (Option.filter_eq_some_iff.mp belongs).1)
    subst same
    exact .inr ((loadDirectory_keeps _ w remembers).2 p (by rw [loaded]))

/-- A fresh loader answers with the directory that the path has in the module of the importer. -/
theorem loadImport_fresh {location : Location} (module : importer.module = some m)
    (run : (loadImport importer path location).runOn disk {} = (.ok p, v)) :
    ∃ directory, disk.resolve directory = disk.resolve (m.directoryFor path) ∧
      p.MadeOf disk directory := by
  rcases loadImport_answers (after_remembers disk []) module run with found | made
  · cases found
  · exact made

/-- What a loader answers for an import after any history is a package of exactly the source files of
the directory that the path has in the module of the importer, with the contents that a fresh loader
finds there. The only other answer is a package that stands for the path already and is not made of
this directory: it goes by the path and an earlier request named its files, or it is made of another
directory, which goes by the path or has it in the module of another importer. -/
theorem loadImport_after {location : Location} (module : importer.module = some m)
    (run : (loadImport importer path location).runOn disk (after disk history) = (.ok p, v)) :
    (∃ directory, disk.resolve directory = disk.resolve (m.directoryFor path) ∧
        p.MadeOf disk directory ∧
        ∀ q u, (loadImport importer path location).runOn disk {} = (.ok q, u) → p.SameContents q) ∨
      Json.find? path (after disk history).loader.byPath = some p ∧
        StandsFor disk history path p ∧
        ∀ directory, disk.resolve directory = disk.resolve (m.directoryFor path) →
          ¬ p.MadeOf disk directory := by
  have remembers := after_remembers disk history
  by_cases whole : ∃ directory, disk.resolve directory = disk.resolve (m.directoryFor path) ∧
      p.MadeOf disk directory
  · obtain ⟨directory, resolved, made⟩ := whole
    refine .inl ⟨directory, resolved, made, fun q u fresh => ?_⟩
    obtain ⟨directory', resolved', made'⟩ := loadImport_fresh module fresh
    exact made.same made' (resolved.trans resolved'.symm)
  · rcases loadImport_answers remembers module run with found | made
    · exact .inr ⟨found, remembers.byPath path p found, fun directory resolved made =>
        whole ⟨directory, resolved, made⟩⟩
    · exact absurd made whole

/-- A module of two packages; one imports the other, which has two files. -/
def pair : Disk :=
  ⟨[("go.mod", .file (Text.encode "module m\n".toList)),
    ("d", .dir [("a.go", .file (Text.encode "package d".toList)),
      ("b.go", .file (Text.encode "package d; type U struct\x7b\x7d".toList))]),
    ("main", .dir [("m.go", .file (Text.encode "package main; import \"m/d\"".toList))])], []⟩

def asker : Option (Package × GoModule) := do
  let importer ← (← ((Loading.load ["main"]).runOn pair {}).1.toOption).head?
  return (importer, ← importer.module)

/-- What is answered for the import after a history. -/
def answer (history : List Request) : Option Package := do
  let (importer, _) ← asker
  ((loadImport importer "m/d" ⟨"main/m.go", 1, 22⟩).runOn pair (after pair history)).1.toOption

theorem asker_module (asks : asker = some (importer, m)) : importer.module = some m := by
  simp only [asker, Option.bind_eq_bind, Option.bind_eq_some_iff] at asks
  obtain ⟨_, _, _, _, _, module, asks⟩ := asks
  cases asks
  exact module

theorem exists_answer (history : List Request) (check : Package → Bool)
    (holds : (answer history).any check = true) :
    ∃ importer m p v, asker = some (importer, m) ∧
      (loadImport importer "m/d" ⟨"main/m.go", 1, 22⟩).runOn pair (after pair history) = (.ok p, v) ∧
      check p = true := by
  obtain ⟨p, answered, checked⟩ := (Option.any_eq_true _ _).mp holds
  simp only [answer, Option.bind_eq_bind, Option.bind_eq_some_iff] at answered
  obtain ⟨⟨importer, m⟩, asks, answered⟩ := answered
  rcases run : (loadImport importer "m/d" ⟨"main/m.go", 1, 22⟩).runOn pair (after pair history)
    with ⟨_ | q, v⟩
  · rw [run] at answered
    cases answered
  · rw [run] at answered
    cases answered
    exact ⟨importer, m, _, v, asks, run, checked⟩

/-- After a request that is answered and two that fail, an import has both files of its directory. -/
theorem loadImport_after_failures : ∃ importer m p v, importer.module = some m ∧
    (loadImport importer "m/d" ⟨"main/m.go", 1, 22⟩).runOn pair
      (after pair [.load ["main"], .load ["missing"], .sources [("d.go", "package")]]) = (.ok p, v) ∧
    p.files.length = 2 ∧
    ∃ directory, pair.resolve directory = pair.resolve (m.directoryFor "m/d") ∧
      p.MadeOf pair directory := by
  have unknown : (Json.find? "m/d" (after pair
      [.load ["main"], .load ["missing"], .sources [("d.go", "package")]]).loader.byPath).isNone := by
    decide +kernel
  obtain ⟨importer, m, p, v, asks, run, both⟩ := exists_answer
    [.load ["main"], .load ["missing"], .sources [("d.go", "package")]]
    (fun p => p.files.length == 2) (by decide +kernel)
  refine ⟨importer, m, p, v, asker_module asks, run, beq_iff_eq.mp both, ?_⟩
  rcases loadImport_after (asker_module asks) run with ⟨directory, resolved, made, _⟩ | ⟨found, _⟩
  · exact ⟨directory, resolved, made⟩
  · rw [found] at unknown
    cases unknown

/-- Once a file of a directory has been named, an import of the directory has that file only. -/
theorem import_depends_on_history :
    ¬ ∀ disk history importer m path location p v, importer.module = some m →
      m.contains path = true →
        (loadImport importer path location).runOn disk (after disk history) = (.ok p, v) →
          ∃ directory, disk.resolve directory = disk.resolve (m.directoryFor path) ∧
            p.MadeOf disk directory := by
  intro whole
  have contains : asker.all (fun (_, m) => m.contains "m/d") = true := by decide +kernel
  obtain ⟨importer, m, p, v, asks, run, one⟩ := exists_answer [.load ["main", "d/a.go"]]
    (fun p => p.files.length == 1) (by decide +kernel)
  obtain ⟨importer', m', q, u, asks', fresh, two⟩ := exists_answer []
    (fun p => p.files.length == 2) (by decide +kernel)
  cases asks.symm.trans asks'
  rw [asks] at contains
  obtain ⟨directory, resolved, made⟩ := whole pair _ importer m "m/d" _ p v (asker_module asks) contains run
  obtain ⟨directory', resolved', made'⟩ := loadImport_fresh (asker_module asks) fresh
  have same := (made.same made' (resolved.trans resolved'.symm)).files.length_eq
  rw [beq_iff_eq.mp one, beq_iff_eq.mp two] at same
  cases same

end Loading

end GoIdl
