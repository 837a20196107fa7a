import GoIdl.Compile.World
import GoIdl.Disk.Reading
import GoIdl.Syntax.Source

/-!
# Loading packages

Patterns name directories, trees of directories (`dir/...`) or files. A directory is loaded once;
imports of the same module are loaded when a name asks for them.
-/

namespace GoIdl.Loading

open Disk (Path)
open Syntax (SourceFile Location ImportSpec)

/-! ### Files -/

def decodingFailure (path : Path) (bytes : List UInt8) (offset : Nat) : Failure :=
  let before := bytes.take offset
  let line := before.count 10 + 1
  let column := (before.reverse.takeWhile (· != 10)).length + 1
  let byte := ((bytes.drop offset).headD 0).toNat
  .definition { cause := .invalidUtf8 path.text byte offset
                location := some ⟨path.text, line, column⟩ }

def readText (disk : Disk) (path : Path) : Except Failure String :=
  match disk.readBytes path with
  | .error reason => .error (.definition { cause := .unreadable path.text reason })
  | .ok bytes =>
    match Text.decode bytes with
    | .ok text => .ok (String.ofList text)
    | .error (_, offset, _) => .error (decodingFailure path bytes offset)

def readFile (disk : Disk) (path : Path) : Except Failure SourceFile := do
  Syntax.Source.ofPath path (← readText disk path)

/-! ### Modules -/

def moduleFile : String := "go.mod"

/-- The module of a module file, if there is one in the directory. -/
def moduleAt? (disk : Disk) (directory : Path) : Except Failure (Option GoModule) := do
  let file := directory.child moduleFile
  if ← disk.isFile file then
    match GoModule.pathOfText? (← disk.readText file) with
    | some path => return some { path, root := directory }
    | none => throw (.definition { cause := .noModuleDirective file.text })
  else return none

def firstModule (disk : Disk) : List Path → Except Failure (Option GoModule)
  | [] => .ok none
  | directory :: rest => do
    match ← moduleAt? disk directory with
    | some m => return some m
    | none => firstModule disk rest

/-- The module of the nearest module file, from a directory upwards. -/
def findModule (disk : Disk) (directory : Path) : Except Failure (Option GoModule) :=
  firstModule disk (disk.resolve directory).selfAndParents

/-! ### Packages -/

def isSourceName (name : String) : Bool :=
  ".go".toList.isSuffixOf name.toList && !("_test.go".toList.isSuffixOf name.toList)

/-- The source files of a directory in order of their names. -/
def sourceFiles (disk : Disk) (directory : Path) : List Path :=
  let names := (disk.list directory).filterMap fun (name, node) =>
    if node.isRegular && isSourceName name then some name else none
  (sortStrings names).map fun name => directory.append ⟨.relative, [name]⟩

/-- Forms a package and keeps it. -/
def form (files : List SourceFile) (path : Option String) (directory : Option Path)
    (module : Option GoModule) : Compile Package := do
  let serial := (← Compile.loader).packages.length
  let package ← Compile.ofDefinition (Package.ofFiles serial files path directory module)
  Compile.modifyLoader fun l => { l with packages := l.packages ++ [package] }
  return package

/-- A package of texts in memory, each with the name of its file. -/
def loadSources (sources : List (String × String)) : Compile Package := do
  Compile.ensure (!sources.isEmpty) { cause := .noSources }
  let files ← sources.mapM fun source =>
    Compile.ofExcept (Syntax.Source.read source.1 source.2)
  let package ← form files none none none
  Compile.note .debug .loading
    s!"loaded in-memory package {package.name} ({files.length} files)"
  return package

/-- The import path that a module gives to a directory. -/
def pathIn (disk : Disk) (directory : Option Path) (module : Option GoModule) : Option String := do
  (← module).packagePath? (disk.resolve (← directory))

def moduleOf (directory : Option Path) : Compile (Option GoModule) := do
  match directory with
  | some d => Compile.ofExcept (findModule (← read) d)
  | none => return none

/-- Reads files and forms their package, which is entered under its path unless the path is
taken. -/
def formFiles (paths : List Path) (directory : Option Path) : Compile Package := do
  let disk ← read
  let files ← paths.mapM fun path => Compile.ofExcept (readFile disk path)
  let module ← moduleOf directory
  let package ← form files (pathIn disk directory module) directory module
  Compile.modifyLoader fun l =>
    if (Json.find? package.path l.byPath).isSome then l
    else { l with byPath := l.byPath ++ [(package.path, package)] }
  let place := (directory.map Path.text).getD "None"
  Compile.note .debug .loading
    s!"loaded package {package.path} from {place} ({files.length} files)"
  return package

def loadDirectory (directory : Path) : Compile Package := do
  let disk ← read
  Compile.ensure (← Compile.ofExcept (disk.isDir directory))
    { cause := .missingDirectory directory.text }
  let key := disk.resolve directory
  match (← Compile.loader).byDirectory.lookup key with
  | some package => return package
  | none =>
    let paths := sourceFiles disk directory
    Compile.ensure (!paths.isEmpty) { cause := .noFiles directory.text }
    let package ← formFiles paths (some directory)
    Compile.modifyLoader fun l => { l with byDirectory := l.byDirectory ++ [(key, package)] }
    return package

/-- A package of the files named, in that order. It has a directory if all of them share one. -/
def loadFiles (paths : List Path) : Compile Package := do
  let disk ← read
  paths.forM fun path => do
    Compile.ensure (← Compile.ofExcept (disk.isFile path)) { cause := .missingFile path.text }
  let places := distinct (paths.map fun path => (disk.resolve path).parent)
  formFiles paths (if places.length = 1 then paths.head?.map Path.parent else none)

/-! ### Trees -/

/-- Whether a directory inside a tree is passed over together with all below it. -/
def isSkipped (name : String) : Bool :=
  name == "testdata" || name.toList.head?.any fun c => c == '.' || c == '_'

/-- Whether a search takes a directory for one with source files: files of any kind count. -/
def hasSources (entries : List (String × Disk.Node)) : Bool :=
  entries.any fun (name, node) => !node.isDir && isSourceName name

mutual

/-- The directories of a tree that have sources: each before those below it, and these in the order
of their entries. -/
def sourceDirs (path : Path) : Disk.Node → List Path
  | .file _ | .special _ => []
  | .dir entries =>
    (if hasSources entries then [path] else []) ++ sourceDirsBelow path entries

def sourceDirsBelow (path : Path) : List (String × Disk.Node) → List Path
  | [] => []
  | (name, node) :: rest =>
    (if isSkipped name then [] else sourceDirs (path.append ⟨.relative, [name]⟩) node) ++
      sourceDirsBelow path rest

end

mutual

/-- A tree with the entries of every directory in order of their names. -/
def sortedTree : Disk.Node → Disk.Node
  | .dir entries => .dir (sortedEntries entries)
  | node => node

def sortedEntries : List (String × Disk.Node) → List (String × Disk.Node)
  | [] => []
  | (name, node) :: rest =>
    insertBy (fun a b => stringLe a.1 b.1) (name, sortedTree node) (sortedEntries rest)

end

/-- The directory that a tree pattern starts from. -/
def treeBase (pattern : String) : Path :=
  let start := pattern.toList.dropLast.dropLast.dropLast
  .ofString (String.ofList (if start.isEmpty then ['.'] else start))

def loadTree (pattern : String) : Compile (List Package) := do
  let disk ← read
  let base := treeBase pattern
  Compile.ensure (← Compile.ofExcept (disk.isDir base)) { cause := .missingDirectory base.text }
  let directories := match disk.find base with
    | .ok node => sourceDirs base (sortedTree node)
    | .error _ => []
  let packages ← directories.mapM loadDirectory
  Compile.ensure (!packages.isEmpty) { cause := .noPackages pattern }
  return packages

/-! ### Patterns -/

inductive PatternKind where
  | file | tree | directory
  deriving DecidableEq, Repr

def kindOf (pattern : String) : PatternKind :=
  if ".go".toList.isSuffixOf pattern.toList then .file
  else if pattern = "..." ∨ "/...".toList.isSuffixOf pattern.toList then .tree
  else .directory

/-- The packages of patterns in order. All files named form one package, in the place of the
first. -/
def loadPatterns (files : List Path) (filesLoaded : Bool) : List String → Compile (List Package)
  | [] => pure []
  | pattern :: rest => do
    match kindOf pattern with
    | .file =>
      if filesLoaded then loadPatterns files true rest
      else
        let package ← loadFiles files
        return package :: (← loadPatterns files true rest)
    | .tree =>
      let packages ← loadTree pattern
      return packages ++ (← loadPatterns files filesLoaded rest)
    | .directory =>
      let package ← loadDirectory (.ofString pattern)
      return package :: (← loadPatterns files filesLoaded rest)

/-- The first of each package. -/
def uniquePackages (packages : List Package) : List Package :=
  packages.foldl (fun seen p => if seen.any (·.serial == p.serial) then seen else seen ++ [p]) []

def load (patterns : List String) : Compile (List Package) := do
  Compile.ensure (!patterns.isEmpty) { cause := .noPatterns }
  let files := (patterns.filter (kindOf · == .file)).map Path.ofString
  return uniquePackages (← loadPatterns files false patterns)

/-! ### Imports -/

/-- The package with an import path, loaded from the importer's module if it is not known yet. -/
def loadImport (importer : Package) (path : String) (location : Location) : Compile Package := do
  let disk ← read
  match Json.find? path (← Compile.loader).byPath with
  | some package => return package
  | none =>
    match importer.module.filter (·.contains path) with
    | none =>
      Compile.fail { cause := .foreignImport path, location := some location
                     package := some importer.path }
    | some module =>
      let directory := module.directoryFor path
      Compile.ensure (← Compile.ofExcept (disk.isDir directory))
        { cause := .missingPackage path directory.text, location := some location
          package := some importer.path }
      let package ← loadDirectory directory
      Compile.modifyLoader fun l => { l with byPath := Json.put path package l.byPath }
      return package

/-- Whether an import has a name of its own that types are qualified with. -/
def ownName? (spec : ImportSpec) : Option String :=
  spec.localName.filter fun name => name != "" && name != "_" && name != "."

/-- The name by which a file refers to an import. -/
def importName (importer : Package) (file : SourceFile) (spec : ImportSpec) : Compile String := do
  match ownName? spec with
  | some name => return name
  | none =>
    if importer.importsFromModule spec.path then
      return (← loadImport importer spec.path (spec.pos.inFile file.path)).name
    else return defaultPackageName spec.path

/-! ### Names -/

/-- An exported declaration of another package; `shown` is the name as it was written. -/
def exported (target : Package) (name shown : String) (location : Location) (importer : Package) :
    Compile DeclaredType := do
  Compile.ensure (isExported name)
    { cause := .notExportedName name target.name, location := some location
      package := some importer.path }
  match target.lookup name with
  | some d => return d
  | none =>
    Compile.fail { cause := .undefinedName shown, location := some location
                   package := some importer.path }

/-- Resolves `qualifier.name` by the imports from `specs` on. -/
def resolveBy (package : Package) (file : SourceFile) (qualifier name : String)
    (location : Location) : List ImportSpec → Compile ResolvedType
  | [] =>
    Compile.fail { cause := .undefinedName qualifier, location := some location
                   package := some package.path }
  | spec :: rest => do
    if spec.localName = some "_" ∨ spec.localName = some "." then
      resolveBy package file qualifier name location rest
    else if (← importName package file spec) ≠ qualifier then
      resolveBy package file qualifier name location rest
    else if package.importsFromModule spec.path then
      let target ← loadImport package spec.path (spec.pos.inFile file.path)
      return .declared (← exported target name (qualifier ++ "." ++ name) location package)
    else
      return .external { name, packageName := defaultPackageName spec.path, path := spec.path }

/-- Resolves a qualified name by the imports of the file where it stands. -/
def resolveQualified (package : Package) (file : SourceFile) (qualifier name : String)
    (location : Location) : Compile ResolvedType :=
  resolveBy package file qualifier name location file.imports

def predeclaredTypes : List String :=
  ["any", "bool", "byte", "comparable", "complex64", "complex128", "error", "float32", "float64",
   "int", "int8", "int16", "int32", "int64", "rune", "string", "uint", "uint8", "uint16", "uint32",
   "uint64", "uintptr"]

/-- Looks a name up in the packages that dot imports bring in. -/
def resolveDotted (package : Package) (file : SourceFile) (name : String) (location : Location) :
    List ImportSpec → Compile (Option DeclaredType)
  | [] => pure none
  | spec :: rest => do
    if spec.localName = some "." ∧ package.importsFromModule spec.path then
      let target ← loadImport package spec.path (spec.pos.inFile file.path)
      if (target.lookup name).isSome then
        return some (← exported target name name location package)
      else resolveDotted package file name location rest
    else resolveDotted package file name location rest

/-- Resolves a name that is not qualified; a predeclared type has no declaration. -/
def resolveName (package : Package) (file : SourceFile) (name : String) (location : Location) :
    Compile (Option DeclaredType) := do
  match package.lookup name with
  | some d => return some d
  | none =>
    match ← resolveDotted package file name location file.imports with
    | some d => return some d
    | none =>
      if predeclaredTypes.contains name then return none
      else Compile.fail { cause := .undefinedName name, location := some location
                          package := some package.path }

end GoIdl.Loading
