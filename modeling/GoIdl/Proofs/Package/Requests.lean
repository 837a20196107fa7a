import GoIdl.Proofs.Package.Loading

/-!
# Requests to a loader

A loader can be asked for packages and for what names mean. Whatever forming a package, loading a
directory and importing keep of a loader, every request keeps.
-/

namespace GoIdl

open Syntax (SourceFile Location ImportSpec)
open Disk (Path)

variable {α β : Type} {disk : Disk} {w : World} {package importer : Package}

/-! ### Requests -/

namespace Loading

/-- What a loader can be asked for. -/
inductive Request where
  | load (patterns : List String)
  | sources (texts : List (String × String))
  | import (importer : Package) (path : String) (location : Location)
  | importName (importer : Package) (file : SourceFile) (spec : ImportSpec)
  | name (package : Package) (file : SourceFile) (word : String) (location : Location)
  | qualified (package : Package) (file : SourceFile) (qualifier word : String) (location : Location)

/-- The package on whose behalf something is asked for. -/
def Request.importer? : Request → Option Package
  | .load _ | .sources _ => none
  | .import importer _ _ | .importName importer _ _ => some importer
  | .name package _ _ _ | .qualified package _ _ _ _ => some package

/-- The world that a request leaves, whether it is answered or fails. -/
def Request.leaves (disk : Disk) (w : World) : Request → World
  | .load patterns => ((Loading.load patterns).runOn disk w).2
  | .sources texts => ((loadSources texts).runOn disk w).2
  | .import importer path location => ((loadImport importer path location).runOn disk w).2
  | .importName importer file spec => ((Loading.importName importer file spec).runOn disk w).2
  | .name package file word location => ((resolveName package file word location).runOn disk w).2
  | .qualified package file qualifier word location =>
    ((resolveQualified package file qualifier word location).runOn disk w).2

/-- The files that patterns name one by one. -/
def namedFiles (patterns : List String) : List Path :=
  (patterns.filter (kindOf · == .file)).map Path.ofString

/-! ### What is kept of a loader -/

/-- Whatever its outcome, `c` leaves a loader as it has to be, and what it answers fits. -/
def Keeps (disk : Disk) (holds : Loader → Prop) (c : Compile α) (fits : α → Prop) : Prop :=
  ∀ w, holds w.loader → holds (c.runOn disk w).2.loader ∧ ∀ a, (c.runOn disk w).1 = .ok a → fits a

namespace Keeps

variable {holds : Loader → Prop} {c : Compile α} {f : α → Compile β} {fits : α → Prop}
  {fits' : β → Prop}

theorem same (run : ∀ w, (c.runOn disk w).2 = w)
    (answer : ∀ w a, (c.runOn disk w).1 = .ok a → fits a) : Keeps disk holds c fits := by
  intro w held
  rw [run]
  exact ⟨held, answer w⟩

theorem pure {a : α} (answer : fits a) : Keeps disk holds (pure a : Compile α) fits :=
  same (fun _ => rfl) fun _ _ same => Except.ok.inj same ▸ answer

theorem fail (error : DefinitionError) : Keeps disk holds (Compile.fail error : Compile α) fits :=
  same (fun _ => rfl) nofun

theorem ofExcept (outcome : Except Failure α) :
    Keeps disk holds (Compile.ofExcept outcome) (outcome = .ok ·) := by
  cases outcome with
  | error failure => exact same (fun _ => rfl) nofun
  | ok a => exact same (fun _ => rfl) fun _ _ => id

theorem ensure (condition : Bool) (error : DefinitionError) :
    Keeps disk holds (Compile.ensure condition error) fun _ => condition = true := by
  cases condition
  · exact fail error
  · exact pure rfl

theorem note (level : LogLevel) (source : LogSource) (message : String) :
    Keeps disk holds (Compile.note level source message) fun _ => True :=
  fun _ held => ⟨held, fun _ _ => trivial⟩

theorem modifyLoader {change : Loader → Loader} (keeps : ∀ l, holds l → holds (change l)) :
    Keeps disk holds (Compile.modifyLoader change) fun _ => True :=
  fun _ held => ⟨keeps _ held, fun _ _ => trivial⟩

theorem bind (first : Keeps disk holds c fits) (later : ∀ a, fits a → Keeps disk holds (f a) fits') :
    Keeps disk holds (c >>= f) fits' := by
  intro w held
  have here := first w held
  rw [Compile.runOn_bind]
  rcases run : c.runOn disk w with ⟨_ | a, v⟩
  · rw [run] at here
    exact ⟨here.1, nofun⟩
  · rw [run] at here
    exact later a (here.2 a rfl) v here.1

theorem weaken {fits' : α → Prop} (keeps : Keeps disk holds c fits) (weaker : ∀ a, fits a → fits' a) :
    Keeps disk holds c fits' :=
  fun w held => ⟨(keeps w held).1, fun a answer => weaker a ((keeps w held).2 a answer)⟩

theorem withDisk {f : Disk → Compile β} (keeps : Keeps disk holds (f disk) fits') :
    Keeps disk holds (read >>= f) fits' := keeps

theorem withLoader {f : Loader → Compile β} (keeps : ∀ l, holds l → Keeps disk holds (f l) fits') :
    Keeps disk holds (Compile.loader >>= f) fits' := fun w held => keeps w.loader held w held

theorem mapM {f : α → Compile β} {fits' : α → β → Prop} {xs : List α}
    (each : ∀ x, Keeps disk holds (f x) (fits' x)) : Keeps disk holds (xs.mapM f) fun _ => True := by
  induction xs with
  | nil => exact pure trivial
  | cons x rest ih =>
    rw [List.mapM_cons]
    exact (each x).bind fun _ _ => ih.bind fun _ _ => pure trivial

theorem forM {f : α → Compile Unit} {xs : List α} (each : ∀ x, Keeps disk holds (f x) fun _ => True) :
    Keeps disk holds (xs.forM f) fun _ => True := by
  induction xs with
  | nil => exact pure trivial
  | cons x rest ih => exact (each x).bind fun _ _ => ih

end Keeps

/-! ### What requests keep -/

section

variable {holds : Loader → Prop} {paths : List Path}

section

variable (files : ∀ place, Keeps disk holds (formFiles paths place) fun _ => True)
  (directories : ∀ place, Keeps disk holds (loadDirectory place) fun _ => True)

include files in
theorem loadFiles_keeps : Keeps disk holds (loadFiles paths) fun _ => True := by
  refine .withDisk ((Keeps.forM fun path => ?_).bind fun _ _ => files _)
  exact (Keeps.ofExcept _).bind fun _ _ => (Keeps.ensure _ _).weaken fun _ _ => trivial

include directories in
theorem loadTree_keeps (pattern : String) : Keeps disk holds (loadTree pattern) fun _ => True := by
  refine .withDisk ((Keeps.ofExcept _).bind fun _ _ => (Keeps.ensure _ _).bind fun _ _ => ?_)
  refine (Keeps.mapM fun place => directories place).bind fun _ _ => ?_
  exact (Keeps.ensure _ _).bind fun _ _ => .pure trivial

include files directories

theorem loadPatterns_keeps (loaded : Bool) (rest : List String) :
    Keeps disk holds (loadPatterns paths loaded rest) fun _ => True := by
  induction rest generalizing loaded with
  | nil => exact .pure trivial
  | cons pattern rest ih =>
    unfold loadPatterns
    split
    · split
      · exact ih true
      · exact (loadFiles_keeps files).bind fun _ _ => (ih true).bind fun _ _ => .pure trivial
    · exact (loadTree_keeps directories pattern).bind fun _ _ =>
        (ih loaded).bind fun _ _ => .pure trivial
    · exact (directories _).bind fun _ _ => (ih loaded).bind fun _ _ => .pure trivial

end

theorem load_keeps {patterns : List String}
    (files : ∀ place, Keeps disk holds (formFiles (namedFiles patterns) place) fun _ => True)
    (directories : ∀ place, Keeps disk holds (loadDirectory place) fun _ => True) :
    Keeps disk holds (load patterns) fun _ => True :=
  (Keeps.ensure _ _).bind fun _ _ =>
    (loadPatterns_keeps files directories false patterns).bind fun _ _ => .pure trivial

theorem loadSources_keeps
    (forms : ∀ files, Keeps disk holds (form files none none none) fun _ => True)
    (texts : List (String × String)) : Keeps disk holds (loadSources texts) fun _ => True := by
  have reading : Keeps disk holds
      (texts.mapM fun source => Compile.ofExcept (Syntax.Source.read source.1 source.2)) fun _ => True :=
    .mapM fun source => Keeps.ofExcept (Syntax.Source.read source.1 source.2)
  refine (Keeps.ensure _ _).bind fun _ _ => reading.bind fun files _ => ?_
  exact (forms files).bind fun _ _ => (Keeps.note _ _ _).bind fun _ _ => .pure trivial

theorem exported_keeps (target : Package) (word shown : String) (location : Location) :
    Keeps disk holds (exported target word shown location package) fun _ => True := by
  refine (Keeps.ensure _ _).bind fun _ _ => ?_
  split
  · exact .pure trivial
  · exact .fail _

section

variable
  (imports : ∀ path location, Keeps disk holds (loadImport package path location) fun _ => True)

include imports

theorem importName_keeps (file : SourceFile) (spec : ImportSpec) :
    Keeps disk holds (importName package file spec) fun _ => True := by
  unfold importName
  split
  · exact .pure trivial
  · split
    · exact (imports _ _).bind fun _ _ => .pure trivial
    · exact .pure trivial

theorem resolveBy_keeps (file : SourceFile) (qualifier word : String) (location : Location)
    (specs : List ImportSpec) :
    Keeps disk holds (resolveBy package file qualifier word location specs) fun _ => True := by
  induction specs with
  | nil => exact .fail _
  | cons spec rest ih =>
    unfold resolveBy
    split
    · exact ih
    · refine (importName_keeps imports file spec).bind fun _ _ => ?_
      split
      · exact ih
      · split
        · refine (imports _ _).bind fun target _ => ?_
          exact (exported_keeps target word _ location).bind fun _ _ => .pure trivial
        · exact .pure trivial

theorem resolveDotted_keeps (file : SourceFile) (word : String) (location : Location)
    (specs : List ImportSpec) :
    Keeps disk holds (resolveDotted package file word location specs) fun _ => True := by
  induction specs with
  | nil => exact .pure trivial
  | cons spec rest ih =>
    unfold resolveDotted
    split
    · refine (imports _ _).bind fun target _ => ?_
      split
      · exact (exported_keeps target word _ location).bind fun _ _ => .pure trivial
      · exact ih
    · exact ih

theorem resolveName_keeps (file : SourceFile) (word : String) (location : Location) :
    Keeps disk holds (resolveName package file word location) fun _ => True := by
  unfold resolveName
  split
  · exact .pure trivial
  · refine (resolveDotted_keeps imports file word location file.imports).bind fun found _ => ?_
    split
    · exact .pure trivial
    · split
      · exact .pure trivial
      · exact .fail _

end

/-- A request keeps what forming packages, loading directories and the imports that it asks for
keep. -/
theorem Request.keeps {request : Request}
    (forms : ∀ files, Keeps disk holds (form files none none none) fun _ => True)
    (files : ∀ patterns place, request = .load patterns →
      Keeps disk holds (formFiles (namedFiles patterns) place) fun _ => True)
    (directories : ∀ place, Keeps disk holds (loadDirectory place) fun _ => True)
    (imports : ∀ importer path location, request.importer? = some importer →
      Keeps disk holds (loadImport importer path location) fun _ => True)
    (held : holds w.loader) : holds (request.leaves disk w).loader := by
  cases request with
  | load patterns => exact (load_keeps (fun place => files patterns place rfl) directories w held).1
  | sources texts => exact (loadSources_keeps forms texts w held).1
  | «import» importer path location => exact (imports importer path location rfl w held).1
  | importName importer file spec =>
    exact (importName_keeps (fun path at_ => imports importer path at_ rfl) file spec w held).1
  | name package file word location =>
    exact (resolveName_keeps (fun path at_ => imports package path at_ rfl) file word location w
      held).1
  | qualified package file qualifier word location =>
    exact (resolveBy_keeps (fun path at_ => imports package path at_ rfl) file qualifier word location
      file.imports w held).1

end

end Loading

end GoIdl
