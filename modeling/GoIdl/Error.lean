import GoIdl.Disk.Path
import GoIdl.Json.Basic
import GoIdl.Syntax.Diagnosis

/-!
# Errors in definitions

A cause says what is wrong, `Cause.kind` sorts it for the caller and `Cause.message` words it. An
error adds the place and the package where it was found.
-/

namespace GoIdl

open Syntax (Location)
open Syntax.Parser (SyntaxFault)

/-- The kinds of errors, with what a caller may want to know of each. -/
inductive ErrorKind where
  | general
  /-- A source that is missing, unreadable or not understood. -/
  | load (expected : Option (List String))
  | invalidSignature (method : String)
  | nestedStruct
  | fieldNotExported (field : String)
  | malformedTag (tag : String)
  | malformedMetadata (key value : String)
  | malformedParameters
  | ambiguousObjectName (name : String) (typeIds : List String)
  /-- What was asked for need not be a text. -/
  | objectNotFound (name : Json)

inductive TagFault where
  | key | pair | value
  deriving DecidableEq, Repr

def TagFault.message : TagFault → String
  | key => "bad syntax for struct tag key"
  | pair => "bad syntax for struct tag pair"
  | value => "bad syntax for struct tag value"

inductive Cause where
  /-- A text that breaks the grammar; `source` is the whole of it. -/
  | badSyntax (fault : SyntaxFault) (source : List Char)
  | mixedParams
  | unreadable (path : String) (reason : String)
  | invalidUtf8 (path : String) (byte offset : Nat)
  | noModuleDirective (path : String)
  | mixedPackages (first second place : String)
  | redeclared (name : String)
  | noPatterns
  | noSources
  | missingDirectory (path : String)
  | missingFile (path : String)
  | noFiles (path : String)
  | noPackages (pattern : String)
  | foreignImport (path : String)
  | missingPackage (path directory : String)
  | undefinedName (name : String)
  | notExportedName (name package : String)
  | aliasCycle (name : String)
  | typeCycle (name : String)
  | interfaceCycle (name : String)
  | foreignEmbed (name : String)
  | embedNotInterface (name : String)
  | notStruct (name : String)
  | invalidSignature (service method : String)
  | nestedStruct
  | fieldNotExported (name : String)
  | malformedTag (tag : String) (fault : TagFault)
  | malformedMetadata (key value reason : String)
  | malformedParameters (pair : String)
  | ambiguousObjectName (name firstId secondId : String)
  | objectNotFound (name : String)
  /-- An error of a caller, in its own words. -/
  | stated (kind : ErrorKind) (message : String)

namespace Cause

def kind : Cause → ErrorKind
  | badSyntax fault _ => .load fault.expected?
  | invalidSignature _ method => .invalidSignature method
  | nestedStruct => .nestedStruct
  | fieldNotExported name => .fieldNotExported name
  | malformedTag tag _ => .malformedTag tag
  | malformedMetadata key value _ => .malformedMetadata key value
  | malformedParameters _ => .malformedParameters
  | ambiguousObjectName name first second => .ambiguousObjectName name [first, second]
  | objectNotFound name => .objectNotFound (.str name)
  | stated kind _ => kind
  | _ => .load none

def message : Cause → String
  | badSyntax fault source => Syntax.Diagnosis.message source fault
  | mixedParams => "mixed named and unnamed parameters"
  | unreadable path reason => s!"cannot read {path}: {reason}"
  | invalidUtf8 path byte offset =>
    s!"cannot read {path}: invalid UTF-8 byte 0x{String.ofList (Text.hex 2 byte)} " ++
      s!"at offset {offset}"
  | noModuleDirective path => s!"{path}: no module directive"
  | mixedPackages first second place => s!"found packages {first} and {second} in {place}"
  | redeclared name => s!"{name} redeclared in this block"
  | noPatterns => "no definition patterns given"
  | noSources => "no definition sources given"
  | missingDirectory path => s!"directory {path} does not exist"
  | missingFile path => s!"file {path} does not exist"
  | noFiles path => s!"no Go files in {path}"
  | noPackages pattern => s!"pattern {pattern} matched no packages"
  | foreignImport path => s!"package {path} is not part of the module"
  | missingPackage path directory => s!"cannot find package {path} in {directory}"
  | undefinedName name => s!"undefined: {name}"
  | notExportedName name package => s!"name {name} not exported by package {package}"
  | aliasCycle name => s!"invalid recursive type alias {name}"
  | typeCycle name => s!"invalid recursive type {name}"
  | interfaceCycle name => s!"invalid recursive interface {name}"
  | foreignEmbed name =>
    s!"cannot embed {name}: only interfaces declared in the module can be embedded"
  | embedNotInterface name => s!"embedded type {name} is not an interface"
  | notStruct name => s!"{name} must be a struct"
  | invalidSignature service method =>
    s!"invalid method signature for {service}.{method}: " ++
      "expected Method(MethodRequest) MethodResponse"
  | nestedStruct => "nested structs not supported (create another type instead)"
  | fieldNotExported name => s!"{name} must be exported"
  | malformedTag tag fault => s!"malformed tag `{tag}`: {fault.message}"
  | malformedMetadata key value reason =>
    s!"metadata {Text.quoted key}: {Text.quoted value} is not a valid JSON literal ({reason})"
  | malformedParameters pair => s!"malformed params: {Text.quoted pair} is not key:value"
  | ambiguousObjectName name _ _ => s!"object name {name} is declared by more than one package"
  | objectNotFound name => s!"object {name} not found"
  | stated _ message => message

end Cause

structure DefinitionError where
  cause : Cause
  location : Option Location := none
  package : Option String := none

namespace DefinitionError

def kind (e : DefinitionError) : ErrorKind := e.cause.kind

def text (e : DefinitionError) : String := e.cause.message

/-- The error on one line: package, place and text. -/
def message (e : DefinitionError) : String :=
  let package := e.package.toList.filter (· != "")
  let parts := package ++ (e.location.map Location.text).toList ++ [e.text]
  ": ".intercalate parts

/-- What some kinds of errors add as advice. -/
def advice : ErrorKind → String
  | .invalidSignature method =>
    let method := if method = "" then "Metodo" else method
    s!"\n  Assinatura esperada: {method}(MetodoRequest) MetodoResponse"
  | .nestedStruct => "\n  Dica: declare a struct como um tipo nomeado separado"
  | .ambiguousObjectName _ typeIds =>
    "\n  Declaracoes em conflito: " ++ ", ".intercalate typeIds
  | _ => ""

def diagnostic (e : DefinitionError) : String := "erro: " ++ e.message ++ advice e.kind

end DefinitionError

end GoIdl
