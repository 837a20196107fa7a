import GoIdl.Compile.Extract
import GoIdl.Definition.Tree

/-!
# Compiling

From patterns or texts in memory to a definition.
-/

namespace GoIdl

structure Options where
  exclusions : List String := []
  params : List (String × Json) := []
  packageName : Option String := none

structure Stats where
  packages : Nat
  services : Nat
  methods : Nat
  objects : Nat
  excludedServices : Nat
  deriving DecidableEq, Repr

structure Compiled where
  definition : Definition
  stats : Stats

namespace Compile

def finalize (options : Options) : Compile Definition := do
  let finalized := (← get).session.finalize options.packageName options.params
  modify fun w => { w with session := finalized.session, log := w.log ++ finalized.notes }
  return finalized.definition

def finish (options : Options) (packages : Nat) : Compile Compiled := do
  let definition ← finalize options
  return { definition, stats := {
    packages
    services := definition.services.length
    methods := definition.methods.length
    objects := definition.objects.length
    excludedServices := (← get).session.excludedServices.length } }

def exclusionsOf (options : Options) : List String := options.exclusions.filter (· != "")

/-- What is compiled: the packages that patterns name, or one package of texts, each with the name
of its file. -/
inductive Input where
  | patterns (patterns : List String)
  | sources (sources : List (String × String))

/-- Loads and extracts packages, and answers how many they are. -/
def extract (exclusions : List String) : Input → Compile Nat
  | .patterns patterns => do
    let packages ← Loading.load patterns
    packages.forM fun p => do
      note .debug .compiling s!"compiling package {p.path}"
      Extract.package exclusions p
    return packages.length
  | .sources sources => do
    let package ← Loading.loadSources sources
    Extract.package exclusions package
    return 1

def compile (input : Input) (options : Options) : Compile Compiled := do
  let packages ← extract (exclusionsOf options) input
  finish options packages

def patterns (patterns : List String) (options : Options) : Compile Compiled :=
  compile (.patterns patterns) options

def sources (sources : List (String × String)) (options : Options) : Compile Compiled :=
  compile (.sources sources) options

end Compile

end GoIdl
