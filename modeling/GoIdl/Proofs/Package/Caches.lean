import GoIdl.Proofs.Package.Enlarging
import GoIdl.Proofs.Package.Requests

/-!
# The caches of a loader

A loader enters packages under resolved directories and under import paths. Whatever it is asked for,
and whether it answers or fails, no entry is taken back or bound to another package, and a package
that cannot be formed is entered nowhere.
-/

namespace GoIdl

open Syntax (SourceFile Location)
open Disk (Path)

variable {α β : Type} {disk : Disk} {w v : World} {l l' l'' : Loader} {p q importer : Package}
  {paths : List Path} {place : Option Path} {key directory : Path} {path : String}

/-! ### Entries -/

/-- `l'` knows what `l` knows, and has every entry of `l` as it was. -/
structure Loader.Retains (l l' : Loader) : Prop extends l.Le l' where
  byDirectory : ∀ key p, l.byDirectory.lookup key = some p → l'.byDirectory.lookup key = some p

/-- A package of files that have been read, in the module that has been found for their directory. -/
structure Package.FormedFrom (disk : Disk) (paths : List Path) (place : Option Path) (p : Package) :
    Prop where
  read : paths.mapM (Loading.readFile disk) = .ok p.files
  module : match place with
    | some directory => Loading.findModule disk directory = .ok p.module
    | none => p.module = none
  formed : Package.ofFiles p.serial p.files (Loading.pathIn disk place p.module) place p.module = .ok p

/-- What holds of the entries of a loader. -/
structure Loader.Filed (disk : Disk) (l : Loader) : Prop where
  /-- A package is entered under the resolved directory that it has been formed from. -/
  directory : ∀ key p, l.byDirectory.lookup key = some p → ∃ directory,
    p.directory = some directory ∧ disk.resolve directory = key ∧
      p.FormedFrom disk (Loading.sourceFiles disk directory) (some directory)
  /-- The path of a package with an entry by directory has an entry, too. -/
  listed : ∀ key p, l.byDirectory.lookup key = some p → (Json.find? p.path l.byPath).isSome
  path : ∀ path p, Json.find? path l.byPath = some p → ∃ paths place, p.FormedFrom disk paths place
  /-- Equal packages are one package: serials count what has been formed. -/
  serial : ∀ (i : Nat) (p : Package), l.packages[i]? = some p → p.serial = i
  member : ∀ p, (∃ key, l.byDirectory.lookup key = some p) ∨
    (∃ path, Json.find? path l.byPath = some p) → p ∈ l.packages

namespace Loader

theorem Retains.refl (l : Loader) : l.Retains l := ⟨.refl l, fun _ _ => id⟩

theorem Retains.trans (first : l.Retains l') (second : l'.Retains l'') : l.Retains l'' :=
  ⟨first.toLe.trans second.toLe,
    fun key p found => second.byDirectory key p (first.byDirectory key p found)⟩

theorem Filed.empty (disk : Disk) : Loader.Filed disk {} where
  directory := by simp
  listed := by simp
  path := by simp
  serial := by simp
  member := by simp

/-- With a package that has been formed, entered under its path unless the path is taken. -/
def enter (l : Loader) (p : Package) : Loader :=
  let l := { l with packages := l.packages ++ [p] }
  if (Json.find? p.path l.byPath).isSome then l else { l with byPath := l.byPath ++ [(p.path, p)] }

def enterDirectory (l : Loader) (key : Path) (p : Package) : Loader :=
  { l with byDirectory := l.byDirectory ++ [(key, p)] }

def enterImport (l : Loader) (path : String) (p : Package) : Loader :=
  { l with byPath := Json.put path p l.byPath }

@[simp] theorem enter_packages : (l.enter p).packages = l.packages ++ [p] := by
  unfold enter
  dsimp only
  split <;> rfl

@[simp] theorem enter_byDirectory : (l.enter p).byDirectory = l.byDirectory := by
  unfold enter
  dsimp only
  split <;> rfl

theorem find?_enter (path : String) :
    Json.find? path (l.enter p).byPath =
      (Json.find? path l.byPath).or (if path = p.path then some p else none) := by
  unfold enter
  dsimp only
  by_cases same : path = p.path
  · subst same
    cases taken : Json.find? p.path l.byPath with
    | some q => simp [taken]
    | none => simp [taken, Json.find?_append, Json.find?_cons]
  · rw [if_neg same, Option.or_none]
    split
    · rfl
    · rw [Json.find?_append, Json.find?_cons, if_neg same, Json.find?_nil, Option.or_none]

/-- The path of an entered package leads to it or to one before it. -/
theorem enter_listed : (Json.find? p.path (l.enter p).byPath).isSome := by
  rw [find?_enter, if_pos rfl]
  cases Json.find? p.path l.byPath <;> rfl

theorem retains_enter (l : Loader) (p : Package) : l.Retains (l.enter p) where
  byPath := by
    intro path q found
    rw [find?_enter, found, Option.some_or]
  packages := by
    rw [enter_packages]
    exact List.prefix_append _ _
  byDirectory := by
    intro key q found
    rw [enter_byDirectory]
    exact found

theorem retains_enterDirectory (l : Loader) (key : Path) (p : Package) :
    l.Retains (l.enterDirectory key p) where
  byPath := fun _ _ => id
  packages := List.prefix_refl _
  byDirectory := by
    intro other q found
    rw [enterDirectory, List.lookup_append, found, Option.some_or]

/-- Entering an import changes no entry if its path led nowhere or to the same package. -/
theorem retains_enterImport (free : ∀ q, Json.find? path l.byPath = some q → q = p) :
    l.Retains (l.enterImport path p) where
  byPath := by
    intro other q found
    rw [enterImport, Json.find?_put]
    by_cases same : other = path
    · subst same
      rw [if_pos rfl, free q found]
    · rw [if_neg same, found]
  packages := List.prefix_refl _
  byDirectory := fun _ _ => id

theorem Filed.formed (filed : l.Filed disk) (serial : p.serial = l.packages.length) :
    Loader.Filed disk { l with packages := l.packages ++ [p] } where
  directory := filed.directory
  listed := filed.listed
  path := filed.path
  serial := by
    intro i q at_
    by_cases old : i < l.packages.length
    · rw [List.getElem?_append_left old] at at_
      exact filed.serial i q at_
    · have last : i = l.packages.length := by
        have bound := (List.getElem?_eq_some_iff.mp at_).1
        rw [List.length_append, List.length_singleton] at bound
        omega
      subst last
      rw [List.getElem?_concat_length, Option.some.injEq] at at_
      rw [← at_, serial]
  member := fun q entered => List.mem_append_left _ (filed.member q entered)

theorem Filed.enter (filed : l.Filed disk) (serial : p.serial = l.packages.length)
    (formed : p.FormedFrom disk paths place) : (l.enter p).Filed disk where
  directory := by
    intro key q found
    rw [enter_byDirectory] at found
    exact filed.directory key q found
  listed := by
    intro key q found
    rw [enter_byDirectory] at found
    have before := filed.listed key q found
    rw [find?_enter, Option.isSome_or, before, Bool.true_or]
  path := by
    intro path q found
    rw [find?_enter] at found
    rcases Option.or_eq_some_iff.mp found with old | ⟨-, new⟩
    · exact filed.path path q old
    · split at new
      · cases new
        exact ⟨paths, place, formed⟩
      · cases new
  serial := by
    rw [enter_packages]
    exact (filed.formed serial).serial
  member := by
    rw [enter_packages, enter_byDirectory]
    rintro q (⟨key, found⟩ | ⟨path, found⟩)
    · exact List.mem_append_left _ (filed.member q (.inl ⟨key, found⟩))
    · rw [find?_enter] at found
      rcases Option.or_eq_some_iff.mp found with old | ⟨-, new⟩
      · exact List.mem_append_left _ (filed.member q (.inr ⟨path, old⟩))
      · split at new
        · cases new
          exact List.mem_append_right _ List.mem_cons_self
        · cases new

theorem Filed.enterDirectory (filed : l.Filed disk) (resolved : disk.resolve directory = key)
    (formed : p.FormedFrom disk (Loading.sourceFiles disk directory) (some directory))
    (listed : (Json.find? p.path l.byPath).isSome) (member : p ∈ l.packages) :
    (l.enterDirectory key p).Filed disk := by
  have entries : ∀ {other q}, (l.enterDirectory key p).byDirectory.lookup other = some q →
      l.byDirectory.lookup other = some q ∨ other = key ∧ q = p := by
    intro other q found
    rw [Loader.enterDirectory, List.lookup_append] at found
    rcases Option.or_eq_some_iff.mp found with old | ⟨-, new⟩
    · exact .inl old
    · rw [List.lookup_cons] at new
      split at new
      · rename_i same
        cases new
        exact .inr ⟨beq_iff_eq.mp same, rfl⟩
      · cases new
  refine ⟨fun other q found => ?_, fun other q found => ?_, filed.path, filed.serial, ?_⟩
  · rcases entries found with old | ⟨rfl, rfl⟩
    · exact filed.directory other q old
    · exact ⟨directory, (Package.ofFiles_given formed.formed).2.2.1, resolved, formed⟩
  · rcases entries found with old | ⟨rfl, rfl⟩
    · exact filed.listed other q old
    · exact listed
  · rintro q (⟨other, found⟩ | byPath)
    · rcases entries found with old | ⟨rfl, rfl⟩
      · exact filed.member q (.inl ⟨other, old⟩)
      · exact member
    · exact filed.member q (.inr byPath)

theorem Filed.enterImport (filed : l.Filed disk) (formed : ∃ paths place, p.FormedFrom disk paths place)
    (member : p ∈ l.packages) : (l.enterImport path p).Filed disk := by
  have entries : ∀ {other q}, Json.find? other (l.enterImport path p).byPath = some q →
      Json.find? other l.byPath = some q ∨ q = p := by
    intro other q found
    rw [Loader.enterImport, Json.find?_put] at found
    split at found
    · exact .inr (Option.some.inj found).symm
    · exact .inl found
  refine ⟨filed.directory, fun key q found => ?_, fun other q found => ?_, filed.serial, ?_⟩
  · have before := filed.listed key q found
    rw [Loader.enterImport, Json.find?_put]
    split
    · rfl
    · exact before
  · rcases entries found with old | rfl
    · exact filed.path other q old
    · exact formed
  · rintro q (byDirectory | ⟨other, found⟩)
    · exact filed.member q (.inl byDirectory)
    · rcases entries found with old | rfl
      · exact filed.member q (.inr ⟨other, old⟩)
      · exact member

end Loader

/-! ### What loading does -/

namespace Loading

theorem ofExcept_same (outcome : Except Failure α) (w : World) :
    ((Compile.ofExcept outcome).runOn disk w).2 = w := by
  cases outcome <;> rfl

theorem ensure_same (condition : Bool) (error : DefinitionError) (w : World) :
    ((Compile.ensure condition error).runOn disk w).2 = w := by
  cases condition <;> rfl

theorem bind_same {c : Compile α} {f : α → Compile β} (first : ∀ w, (c.runOn disk w).2 = w)
    (later : ∀ a w, ((f a).runOn disk w).2 = w) (w : World) : ((c >>= f).runOn disk w).2 = w := by
  have kept := first w
  rw [Compile.runOn_bind]
  rcases run : c.runOn disk w with ⟨failure | a, v⟩
  · rw [run] at kept
    exact kept
  · rw [run] at kept
    exact (later a v).trans kept

theorem forM_same {f : α → Compile Unit} {xs : List α} (each : ∀ x w, ((f x).runOn disk w).2 = w)
    (w : World) : ((xs.forM f).runOn disk w).2 = w := by
  induction xs generalizing w with
  | nil => rfl
  | cons x rest ih => exact bind_same (each x) (fun _ => ih) w

/-- Where `c` fails, it has changed nothing. -/
def FailsCleanly (disk : Disk) (c : Compile α) : Prop :=
  ∀ w failure v, c.runOn disk w = (.error failure, v) → v = w

namespace FailsCleanly

variable {c : Compile α} {f : α → Compile β}

theorem of_same (same : ∀ w, (c.runOn disk w).2 = w) : FailsCleanly disk c := by
  intro w failure v run
  rw [← same w, run]

theorem fail (error : DefinitionError) : FailsCleanly disk (Compile.fail error : Compile α) :=
  of_same fun _ => rfl

theorem ensure (condition : Bool) (error : DefinitionError) :
    FailsCleanly disk (Compile.ensure condition error) :=
  of_same (ensure_same condition error)

theorem withDisk {f : Disk → Compile β} (clean : FailsCleanly disk (f disk)) :
    FailsCleanly disk (read >>= f) := clean

theorem withLoader {f : Loader → Compile β} (clean : ∀ l, FailsCleanly disk (f l)) :
    FailsCleanly disk (Compile.loader >>= f) := fun w => clean w.loader w

/-- Failing after a step that changes nothing. -/
theorem after (same : ∀ w, (c.runOn disk w).2 = w) (later : ∀ a, FailsCleanly disk (f a)) :
    FailsCleanly disk (c >>= f) := by
  intro w failure v run
  have kept := same w
  rw [Compile.runOn_bind] at run
  rcases first : c.runOn disk w with ⟨failure' | a, u⟩
  · rw [first] at run kept
    cases run
    exact kept
  · rw [first] at run kept
    cases kept
    exact later a u failure v run

/-- Failing before a step that does not fail. -/
theorem before (first : FailsCleanly disk c)
    (later : ∀ a w failure v, (f a).runOn disk w ≠ (.error failure, v)) :
    FailsCleanly disk (c >>= f) := by
  intro w failure v run
  rw [Compile.runOn_bind] at run
  rcases here : c.runOn disk w with ⟨failure' | a, u⟩
  · rw [here] at run
    cases run
    exact first w _ _ here
  · rw [here] at run
    exact absurd run (later a u failure v)

end FailsCleanly

theorem form_failsCleanly (files : List SourceFile) (given : Option String) (place : Option Path)
    (module : Option GoModule) : FailsCleanly disk (form files given place module) := by
  intro w failure v run
  rw [form_run] at run
  split at run <;> cases run
  rfl

/-- Files that cannot be read or do not form a package leave no entry. -/
theorem formFiles_failsCleanly (paths : List Path) (place : Option Path) :
    FailsCleanly disk (formFiles paths place) := by
  have reading : ∀ w, ((paths.mapM fun path => Compile.ofExcept (readFile disk path)).runOn disk w).2
      = w := fun w => by rw [Compile.runOn_mapM_ofExcept]
  refine .withDisk (.after reading fun files => .after (moduleOf_outcome place disk) fun module => ?_)
  exact (form_failsCleanly files _ place module).before fun p w failure v run => nomatch run

theorem formFiles_run {files : List SourceFile} {module : Option GoModule}
    (read : paths.mapM (readFile disk) = .ok files)
    (found : (moduleOf place).runOn disk w = (.ok module, w)) :
    ∃ log, (formFiles paths place).runOn disk w =
      match Package.ofFiles w.loader.packages.length files (pathIn disk place module) place module with
      | .error error => (.error (.definition error), w)
      | .ok p => (.ok p, { w with loader := w.loader.enter p, log }) := by
  rw [formFiles, Compile.read_bind, Compile.runOn_bind, Compile.runOn_mapM_ofExcept, read]
  dsimp only
  rw [Compile.runOn_bind, found]
  dsimp only
  rw [Compile.runOn_bind, form_run]
  cases Package.ofFiles w.loader.packages.length files (pathIn disk place module) place module with
  | error error => exact ⟨[], rfl⟩
  | ok p => exact ⟨_, rfl⟩

theorem formFiles_enters (run : (formFiles paths place).runOn disk w = (.ok p, v)) :
    p.serial = w.loader.packages.length ∧ p.FormedFrom disk paths place ∧
      ∃ log, v = { w with loader := w.loader.enter p, log } := by
  obtain ⟨files, module, _, _, read, found, formed, rfl⟩ := formFiles_steps run
  rw [form_run] at formed
  split at formed
  · rename_i outcome
    cases formed
    obtain ⟨serial, whole, -, belongs⟩ := Package.ofFiles_given outcome
    subst whole belongs
    rw [← serial] at outcome
    refine ⟨serial, ⟨read, ?_, outcome⟩, _, rfl⟩
    cases place with
    | none => exact (Except.ok.inj (Prod.mk.inj found).1).symm
    | some directory => exact (Compile.ofExcept_ok.mp found).1
  · cases formed

theorem moduleOf_formed (formed : p.FormedFrom disk paths place) (w : World) :
    (moduleOf place).runOn disk w = (.ok p.module, w) := by
  have found := formed.module
  cases place with
  | none =>
    rw [found]
    rfl
  | some directory =>
    rw [moduleOf, Compile.read_bind, found]
    rfl

theorem loadDirectory_failsCleanly (directory : Path) : FailsCleanly disk (loadDirectory directory) := by
  refine .withDisk (.after (ofExcept_same _) fun _ => .after (ensure_same _ _) fun _ => ?_)
  refine .withLoader fun l => ?_
  split
  · exact .of_same fun _ => rfl
  · refine .after (ensure_same _ _) fun _ => ?_
    exact (formFiles_failsCleanly _ _).before fun p w failure v run => nomatch run

theorem loadDirectory_enters (run : (loadDirectory directory).runOn disk w = (.ok p, v)) :
    disk.isDir directory = .ok true ∧
      (w.loader.byDirectory.lookup (disk.resolve directory) = some p ∧ v = w ∨
        w.loader.byDirectory.lookup (disk.resolve directory) = none ∧
          p.serial = w.loader.packages.length ∧
          p.FormedFrom disk (sourceFiles disk directory) (some directory) ∧
          ∃ log, v = { w with
            loader := (w.loader.enter p).enterDirectory (disk.resolve directory) p, log }) := by
  obtain ⟨isDir, known | ⟨unknown, u, entered, rfl⟩⟩ := loadDirectory_cases run
  · exact ⟨isDir, .inl known⟩
  · obtain ⟨serial, formed, log, rfl⟩ := formFiles_enters entered
    exact ⟨isDir, .inr ⟨unknown, serial, formed, log, rfl⟩⟩

/-- A directory is loaded once: whatever its path, it is answered from its entry. -/
theorem loadDirectory_known_iff
    (known : w.loader.byDirectory.lookup (disk.resolve directory) = some p) :
    (loadDirectory directory).runOn disk w = (.ok q, v) ↔
      disk.isDir directory = .ok true ∧ q = p ∧ v = w := by
  constructor
  · intro run
    obtain ⟨isDir, ⟨found, same⟩ | ⟨unknown, -⟩⟩ := loadDirectory_enters run
    · exact ⟨isDir, Option.some.inj (found.symm.trans known), same⟩
    · rw [known] at unknown
      cases unknown
  · rintro ⟨isDir, rfl, rfl⟩
    rw [loadDirectory, Compile.read_bind]
    refine Compile.ofExcept_bind_ok.mpr ⟨true, isDir, Compile.ensure_bind_ok.mpr ⟨rfl, ?_⟩⟩
    rw [Compile.loader_bind, known]
    rfl

theorem loadFiles_failsCleanly (paths : List Path) : FailsCleanly disk (loadFiles paths) := by
  have checking : ∀ w, ((paths.forM fun path => do
      Compile.ensure (← Compile.ofExcept (disk.isFile path)) { cause := .missingFile path.text }
      ).runOn disk w).2 = w :=
    forM_same fun path => bind_same (ofExcept_same _) fun _ => ensure_same _ _
  exact .withDisk (.after checking fun _ => formFiles_failsCleanly _ _)

theorem loadSources_failsCleanly (texts : List (String × String)) :
    FailsCleanly disk (loadSources texts) := by
  have reading : ∀ w, ((texts.mapM fun source => Compile.ofExcept (Syntax.Source.read source.1
      source.2)).runOn disk w).2 = w := by
    intro w
    rw [Compile.runOn_mapM_ofExcept fun source : String × String =>
      Syntax.Source.read source.1 source.2]
  refine .after (ensure_same _ _) fun _ => .after reading fun files => ?_
  exact (form_failsCleanly files _ _ _).before fun p w failure v run => nomatch run

theorem loadImport_failsCleanly (importer : Package) (path : String) (location : Location) :
    FailsCleanly disk (loadImport importer path location) := by
  refine .withDisk (.withLoader fun l => ?_)
  split
  · exact .of_same fun _ => rfl
  · split
    · exact .fail _
    · refine .after (ofExcept_same _) fun _ => .after (ensure_same _ _) fun _ => ?_
      exact (loadDirectory_failsCleanly _).before fun p w failure v run => nomatch run

/-- A directory that is loaded for an import leaves the path of the import free, or has taken it. -/
theorem loadDirectory_free (free : Json.find? path w.loader.byPath = none)
    (run : (loadDirectory directory).runOn disk w = (.ok p, v)) :
    ∀ q, Json.find? path v.loader.byPath = some q → q = p := by
  intro q found
  obtain ⟨-, ⟨-, rfl⟩ | ⟨-, -, -, log, rfl⟩⟩ := loadDirectory_enters run
  · rw [free] at found
    cases found
  · have entered : Json.find? path (w.loader.enter p).byPath = some q := found
    rw [Loader.find?_enter, free, Option.none_or] at entered
    split at entered
    · exact (Option.some.inj entered).symm
    · cases entered

/-! ### What loading keeps -/

/-- The caches are in order, and retain what `l` has. -/
def Since (disk : Disk) (l l' : Loader) : Prop := l'.Filed disk ∧ l.Retains l'

variable {paths : List Path}

theorem keeps_of_clean {c : Compile α} (clean : FailsCleanly disk c)
    (succeeds : ∀ w a v, w.loader.Filed disk → c.runOn disk w = (.ok a, v) →
      v.loader.Filed disk ∧ w.loader.Retains v.loader) :
    Keeps disk (Since disk l) c fun _ => True := by
  rintro w ⟨filed, retains⟩
  refine ⟨?_, fun _ _ => trivial⟩
  rcases run : c.runOn disk w with ⟨failure | a, v⟩
  · cases clean w failure v run
    exact ⟨filed, retains⟩
  · obtain ⟨filed', more⟩ := succeeds w a v filed run
    exact ⟨filed', retains.trans more⟩

theorem form_since (files : List SourceFile) :
    Keeps disk (Since disk l) (form files none none none) fun _ => True := by
  refine keeps_of_clean (form_failsCleanly files none none none) fun w p v filed run => ?_
  rw [form_run] at run
  split at run
  · rename_i formed
    cases run
    refine ⟨filed.formed (Package.ofFiles_given formed).1, ⟨fun _ _ => id, ?_⟩, fun _ _ => id⟩
    exact List.prefix_append _ _
  · cases run

theorem formFiles_since (paths : List Path) (place : Option Path) :
    Keeps disk (Since disk l) (formFiles paths place) fun _ => True := by
  refine keeps_of_clean (formFiles_failsCleanly paths place) fun w p v filed run => ?_
  obtain ⟨serial, formed, log, rfl⟩ := formFiles_enters run
  exact ⟨filed.enter serial formed, w.loader.retains_enter p⟩

theorem loadDirectory_filed (filed : w.loader.Filed disk)
    (run : (loadDirectory directory).runOn disk w = (.ok p, v)) :
    v.loader.Filed disk ∧ w.loader.Retains v.loader ∧
      v.loader.byDirectory.lookup (disk.resolve directory) = some p := by
  obtain ⟨-, ⟨known, rfl⟩ | ⟨unknown, serial, formed, log, rfl⟩⟩ := loadDirectory_enters run
  · exact ⟨filed, .refl _, known⟩
  · refine ⟨(filed.enter serial formed).enterDirectory rfl formed Loader.enter_listed ?_,
      (w.loader.retains_enter p).trans (Loader.retains_enterDirectory _ _ _), ?_⟩
    · rw [Loader.enter_packages]
      exact List.mem_append_right _ List.mem_cons_self
    · show List.lookup _ ((w.loader.enter p).byDirectory ++ [(disk.resolve directory, p)]) = some p
      rw [Loader.enter_byDirectory, List.lookup_append, unknown, Option.none_or, List.lookup_cons,
        beq_self_eq_true]

theorem loadDirectory_since (directory : Path) :
    Keeps disk (Since disk l) (loadDirectory directory) fun _ => True :=
  keeps_of_clean (loadDirectory_failsCleanly directory) fun _ _ _ filed run =>
    have loaded := loadDirectory_filed filed run
    ⟨loaded.1, loaded.2.1⟩

theorem loadImport_since (importer : Package) (path : String) (location : Location) :
    Keeps disk (Since disk l) (loadImport importer path location) fun _ => True := by
  refine keeps_of_clean (loadImport_failsCleanly importer path location) fun w p v filed run => ?_
  rcases loadImport_cases run with ⟨-, rfl⟩ | ⟨free, m, u, -, loaded, rfl⟩
  · exact ⟨filed, .refl _⟩
  · obtain ⟨filed', retains, known⟩ := loadDirectory_filed filed loaded
    obtain ⟨place, -, -, formed⟩ := filed'.directory _ p known
    exact ⟨filed'.enterImport ⟨_, _, formed⟩ (filed'.member p (.inl ⟨_, known⟩)),
      retains.trans (Loader.retains_enterImport (loadDirectory_free free loaded))⟩

/-! ### Calls -/

/-- What a loader is called for: a request, a directory or files. -/
inductive Call where
  | request (asked : Request)
  | directory (place : Path)
  | files (paths : List Path)

/-- The world that a call leaves, whether it is answered or fails. -/
def Call.leaves (disk : Disk) (w : World) : Call → World
  | .request asked => asked.leaves disk w
  | .directory place => ((loadDirectory place).runOn disk w).2
  | .files paths => ((loadFiles paths).runOn disk w).2

/-- The world after calls of a fresh loader. -/
def afterCalls (disk : Disk) (calls : List Call) : World := calls.foldl (Call.leaves disk) {}

theorem Call.since (call : Call) (held : Since disk l w.loader) :
    Since disk l (call.leaves disk w).loader := by
  cases call with
  | request asked =>
    exact Request.keeps form_since (fun patterns place _ => formFiles_since _ place)
      loadDirectory_since (fun importer path location _ => loadImport_since importer path location)
      held
  | directory place => exact (loadDirectory_since place w held).1
  | files paths => exact (loadFiles_keeps (formFiles_since paths) w held).1

theorem calls_since (calls : List Call) (filed : w.loader.Filed disk) :
    Since disk w.loader (calls.foldl (Call.leaves disk) w).loader := by
  have run : ∀ (calls : List Call) (v : World), Since disk w.loader v.loader →
      Since disk w.loader (calls.foldl (Call.leaves disk) v).loader := by
    intro calls
    induction calls with
    | nil => exact fun _ held => held
    | cons call rest ih => exact fun v held => ih _ (call.since held)
  exact run calls w ⟨filed, .refl _⟩

theorem loadSources_entries (texts : List (String × String)) (disk : Disk) (w : World) :
    ((loadSources texts).runOn disk w).2.loader.byDirectory = w.loader.byDirectory ∧
      ((loadSources texts).runOn disk w).2.loader.byPath = w.loader.byPath := by
  have kept : Keeps disk
      (fun l => l.byDirectory = w.loader.byDirectory ∧ l.byPath = w.loader.byPath) (loadSources texts)
      fun _ => True := by
    refine loadSources_keeps (fun files v held => ?_) texts
    rw [form_run]
    split
    · exact ⟨held, fun _ _ => trivial⟩
    · exact ⟨held, fun _ _ => trivial⟩
  exact (kept w ⟨rfl, rfl⟩).1

/-- After any calls, answered or failed, the caches of a loader are in order, and whatever it is
called for after that, every entry is retained. A directory that has been loaded is from then on
answered with the same package, whichever path leads to it, and without loading anything. Sources
leave both caches alone, and whatever fails to load a package leaves the loader as it was. -/
theorem caches_consistent (disk : Disk) (calls : List Call) :
    (afterCalls disk calls).loader.Filed disk ∧
    (∀ more, (afterCalls disk calls).loader.Retains (afterCalls disk (calls ++ more)).loader) ∧
    (∀ directory p v, (loadDirectory directory).runOn disk (afterCalls disk calls) = (.ok p, v) →
      ∀ (more : List Call) (directory' : Path), disk.resolve directory' = disk.resolve directory →
        ∀ q u, (loadDirectory directory').runOn disk (more.foldl (Call.leaves disk) v) = (.ok q, u) ↔
          disk.isDir directory' = .ok true ∧ q = p ∧ u = more.foldl (Call.leaves disk) v) ∧
    (∀ texts w, ((loadSources texts).runOn disk w).2.loader.byDirectory = w.loader.byDirectory ∧
      ((loadSources texts).runOn disk w).2.loader.byPath = w.loader.byPath) ∧
    (∀ paths place, FailsCleanly disk (formFiles paths place)) ∧
    (∀ texts, FailsCleanly disk (loadSources texts)) ∧
    (∀ directory, FailsCleanly disk (loadDirectory directory)) ∧
    (∀ paths, FailsCleanly disk (loadFiles paths)) ∧
    ∀ importer path location, FailsCleanly disk (loadImport importer path location) := by
  have filed : (afterCalls disk calls).loader.Filed disk :=
    (calls_since (w := {}) calls (.empty disk)).1
  refine ⟨filed, fun more => ?_, fun directory p v run more directory' resolved q u => ?_,
    fun texts w => loadSources_entries texts disk w, formFiles_failsCleanly,
    loadSources_failsCleanly, loadDirectory_failsCleanly, loadFiles_failsCleanly,
    loadImport_failsCleanly⟩
  · rw [afterCalls, afterCalls, List.foldl_append]
    exact (calls_since more filed).2
  · obtain ⟨filed', -, known⟩ := loadDirectory_filed filed run
    have retained := (calls_since more filed').2.byDirectory _ p known
    rw [← resolved] at retained
    exact loadDirectory_known_iff retained

/-- A module of one package, and a directory whose package cannot be formed. -/
def halfBroken : Disk :=
  ⟨[("go.mod", .file (Text.encode "module m\n".toList)),
    ("d", .dir [("a.go", .file (Text.encode "package d".toList))]),
    ("e", .dir [("a.go", .file (Text.encode "package e".toList)),
      ("b.go", .file (Text.encode "package f".toList))])], []⟩

/-- A directory that was loaded after a failure is answered with the same package after another
failure, under another path. -/
theorem caches_consistent_halfBroken : ∃ p v,
    (loadDirectory (.ofString "d")).runOn halfBroken
      (afterCalls halfBroken [.request (.load ["e"])]) = (.ok p, v) ∧
    (loadDirectory (.ofString "e/../d")).runOn halfBroken
      ([.files [.ofString "e/a.go", .ofString "e/b.go"]].foldl (Call.leaves halfBroken) v) =
        (.ok p, [.files [.ofString "e/a.go", .ofString "e/b.go"]].foldl (Call.leaves halfBroken) v) ∧
    (Json.find? "m/e" v.loader.byPath).isNone := by
  have loads : ((loadDirectory (.ofString "d")).runOn halfBroken
      (afterCalls halfBroken [.request (.load ["e"])])).1.toOption.isSome = true := by
    decide +kernel
  have absent : (Json.find? "m/e" ((loadDirectory (.ofString "d")).runOn halfBroken
      (afterCalls halfBroken [.request (.load ["e"])])).2.loader.byPath).isNone = true := by
    decide +kernel
  have isDir : (halfBroken.isDir (.ofString "e/../d")).toOption = some true := by decide +kernel
  have resolved : halfBroken.resolve (.ofString "e/../d") = halfBroken.resolve (.ofString "d") := by
    decide +kernel
  rcases run : (loadDirectory (.ofString "d")).runOn halfBroken
    (afterCalls halfBroken [.request (.load ["e"])]) with ⟨failure | p, v⟩
  · rw [run] at loads
    cases loads
  · rw [run] at absent
    obtain ⟨-, -, again, -⟩ := caches_consistent halfBroken [.request (.load ["e"])]
    refine ⟨p, v, rfl, (again _ p v run _ _ resolved p _).mpr ⟨?_, rfl, rfl⟩, absent⟩
    cases answer : halfBroken.isDir (.ofString "e/../d") with
    | error failure =>
      rw [answer] at isDir
      cases isDir
    | ok b =>
      rw [answer] at isDir
      rw [Option.some.inj isDir]

end Loading

end GoIdl
