import GoIdl.Disk.Basic
import GoIdl.Failure
import GoIdl.Naming
import GoIdl.Order

/-!
# Modules and packages

A module ties import paths to directories. A package is a set of files with one package name; its
scope holds the types that the files declare.
-/

namespace GoIdl

open Syntax (SourceFile TypeSpec Location)
open Disk (Path)

/-- A module path with the directory of its module file. -/
structure GoModule where
  path : String
  root : Path
  deriving DecidableEq, Repr

namespace GoModule

/-- The import path of a directory below the root, given by the names that lead there. -/
def packagePathOf (m : GoModule) (below : List String) : String :=
  if below.isEmpty then m.path else m.path ++ "/" ++ "/".intercalate below

def packagePath? (m : GoModule) (directory : Path) : Option String :=
  (m.root.below? directory).map m.packagePathOf

/-- The part of an import path after the module path. -/
def remainder? (m : GoModule) (importPath : String) : Option (List Char) :=
  let p := m.path.toList
  let q := importPath.toList
  if q = p then some []
  else if (p ++ ['/']).isPrefixOf q then some (q.drop (p.length + 1))
  else none

def contains (m : GoModule) (importPath : String) : Bool := (m.remainder? importPath).isSome

def directoryFor (m : GoModule) (importPath : String) : Path :=
  if importPath = m.path then m.root
  else
    let below := Text.splitOn '/' (importPath.toList.drop (m.path.toList.length + 1))
    let names := (below.map String.ofList).filter fun name => name != "" && name != "."
    m.root.append ⟨.relative, names⟩

/-! ### Module files -/

/-- The module path of a directive at the start of `s`, blanks before it left aside. -/
def directive? (s : List Char) : Option (List Char) :=
  let s := s.dropWhile Text.isBlank
  let word := "module".toList
  if word.isPrefixOf s then
    let rest := s.drop word.length
    if rest.head?.any Text.isBlank then
      let rest := rest.dropWhile Text.isBlank
      let rest := if rest.head? = some '"' then rest.drop 1 else rest
      match rest.takeWhile fun c => !Text.isBlank c && c != '"' with
      | [] => none
      | path => some path
    else none
  else none

/-- The first directive at the start of a line. -/
def pathFrom (lineStart : Bool) : List Char → Option (List Char)
  | [] => none
  | c :: rest =>
    match if lineStart then directive? (c :: rest) else none with
    | some path => some path
    | none => pathFrom (c == '\n') rest

def pathOfText? (text : List Char) : Option String :=
  (pathFrom true (Text.unifyBreaks text)).map String.ofList

end GoModule

/-- A declaration in the scope of a package, with the file that holds it. -/
structure Declaration where
  spec : TypeSpec
  file : SourceFile

structure Package where
  /-- Tells packages apart that were loaded at different times. -/
  serial : Nat
  name : String
  path : String
  files : List SourceFile
  directory : Option Path
  module : Option GoModule
  /-- The declarations by name, in order of their files. -/
  scope : List (String × Declaration)

/-- A declaration together with its package. -/
structure DeclaredType where
  package : Package
  spec : TypeSpec
  file : SourceFile

def DeclaredType.name (d : DeclaredType) : String := d.spec.name

def DeclaredType.location (d : DeclaredType) : Location := d.spec.pos.inFile d.file.path

/-- What tells a declaration apart: the path of its package and its name. -/
def DeclaredType.key (d : DeclaredType) : String × String := (d.package.path, d.name)

/-- A type of a package outside the module, known by name only. -/
structure ExternalType where
  name : String
  packageName : String
  path : String
  deriving DecidableEq, Repr

inductive ResolvedType where
  | declared (type : DeclaredType)
  | external (type : ExternalType)

namespace Package

def names (p : Package) : List String := sortStrings (p.scope.map (·.1))

def lookup (p : Package) (name : String) : Option DeclaredType :=
  (p.scope.lookup name).map fun d => ⟨p, d.spec, d.file⟩

/-- Whether a module import, seen from the package. -/
def importsFromModule (p : Package) (importPath : String) : Bool :=
  p.module.any (·.contains importPath)

/-- All declarations of files with their names, those of the blank name left out. -/
def declarations (files : List SourceFile) : List (String × Declaration) :=
  files.flatMap fun file =>
    (file.types.filter (·.name != "_")).map fun spec => (spec.name, ⟨spec, file⟩)

/-- The first declaration whose name is taken by one before it. -/
def redeclared? (seen : List String) : List (String × Declaration) → Option Declaration
  | [] => none
  | (name, d) :: rest =>
    if seen.contains name then some d else redeclared? (name :: seen) rest

/-- The package that files form. `place` is named if their package clauses differ. -/
def ofFiles (serial : Nat) (files : List SourceFile) (path : Option String)
    (directory : Option Path) (module : Option GoModule) : Except DefinitionError Package :=
  match files with
  | [] => .error { cause := .noSources }
  | first :: _ =>
    match sortStrings (distinct (files.map (·.package))) with
    | a :: b :: _ =>
      let place := directory.getD (Path.ofString first.path).parent
      .error { cause := .mixedPackages a b place.text
               location := some (first.pos.inFile first.path) }
    | names =>
      let name := names.headD ""
      let path := path.getD name
      let scope := declarations files
      match redeclared? [] scope with
      | some d =>
        .error { cause := .redeclared d.spec.name
                 location := some (d.spec.pos.inFile d.file.path), package := some path }
      | none => .ok { serial, name, path, files, directory, module, scope }

end Package

end GoIdl
