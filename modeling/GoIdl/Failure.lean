import GoIdl.Error
import GoIdl.Json.Reader

/-!
# Failures

Everything that can end an activity: an error in the definitions, a literal or number that cannot
be represented, a module file that is no text, the disk, or a template.
-/

namespace GoIdl

open Syntax (EscapeFault)
open Syntax.Parser (LiteralSite)

/-- Bytes that are no text: those from `start` on, `count` of them. -/
structure DecodingFault where
  start : Nat
  bytes : List UInt8
  reason : String
  deriving DecidableEq, Repr

/-- A name that leads too far, with the path as it was given. -/
inductive LongName where
  | ofBytes (path : String)
  /-- A name that stands for too many symbolic links. -/
  | ofLinks (path : String)
  deriving DecidableEq, Repr

/-- What the disk refuses, with the path as it was given. -/
inductive DiskFault where
  | missing (path : String)
  | fileExists (path : String)
  | notADirectory (path : String)
  | isADirectory (path : String)
  | nameTooLong (name : LongName)
  deriving DecidableEq, Repr

inductive TemplateFault where
  | badSyntax (message : String)
  /-- An integer of more digits than are read. -/
  | tooManyDigits (count : Nat)
  /-- A loop that sets the variable with its own state. -/
  | loopStateSet
  | unknownFilter (name : String)
  /-- A filter without a meaning at a place where only its use is refused. -/
  | unknownFilterUsed (name : String)
  /-- An assignment to a member. -/
  | memberSet
  /-- A use of something that is not there. -/
  | undefinedValue (message : String)
  /-- A value of a type that a helper or sign does not take. -/
  | unsupportedValue (message : String)
  /-- A value that lacks what a helper needs of it. -/
  | missingMember (message : String)
  /-- A key that a dictionary lacks. -/
  | missingKey (message : String)
  deriving DecidableEq, Repr

inductive Failure where
  | definition (error : DefinitionError)
  | escape (fault : EscapeFault)
  /-- A literal in a source file, found when the whole file had been read. -/
  | literal (site : LiteralSite) (fault : EscapeFault)
  | tooManyDigits (count : Nat)
  | decoding (fault : DecodingFault)
  | disk (fault : DiskFault)
  | template (fault : TemplateFault)
  /-- The value of an outcome that is a failure itself. -/
  | noValue (shown : String)
  /-- A computation that went deeper than its input allows. -/
  | tooDeep

namespace Syntax.Parser

def LiteralSite.label : LiteralSite → String
  | tag => "tag"
  | importPath => "import_spec"
  | dotImportPath => "dot_import"

end Syntax.Parser

def DecodingFault.message (fault : DecodingFault) : String :=
  match fault.bytes with
  | [byte] =>
    s!"'utf-8' codec can't decode byte 0x{String.ofList (Text.hex 2 byte.toNat)} in position " ++
      s!"{fault.start}: {fault.reason}"
  | bytes =>
    s!"'utf-8' codec can't decode bytes in position {fault.start}-" ++
      s!"{fault.start + bytes.length - 1}: {fault.reason}"

def DiskFault.message : DiskFault → String
  | .missing path => s!"[Errno 2] No such file or directory: {Text.quoted path}"
  | .fileExists path => s!"[Errno 17] File exists: {Text.quoted path}"
  | .notADirectory path => s!"[Errno 20] Not a directory: {Text.quoted path}"
  | .isADirectory path => s!"[Errno 21] Is a directory: {Text.quoted path}"
  | .nameTooLong (.ofBytes path) => s!"[Errno 36] File name too long: {Text.quoted path}"
  | .nameTooLong (.ofLinks path) =>
    s!"[Errno 40] Too many levels of symbolic links: {Text.quoted path}"

def TemplateFault.message : TemplateFault → String
  | .badSyntax message | .undefinedValue message => message
  | .unsupportedValue message | .missingMember message | .missingKey message => message
  | .tooManyDigits count => (Json.Fault.tooManyDigits count).message
  | .loopStateSet => "Can't assign to special loop variable in for-loop target"
  | .unknownFilter name => s!"No filter named {Text.quoted name}."
  | .unknownFilterUsed name => s!"No filter named {Text.quoted name} found."
  | .memberSet => "cannot assign attribute on non-namespace object"

def Failure.message : Failure → String
  | .definition error => error.message
  | .escape fault => fault.message
  | .literal site fault =>
    s!"Error trying to process rule \"{site.label}\":\n\n{fault.message}"
  | .tooManyDigits count => (Json.Fault.tooManyDigits count).message
  | .decoding fault => fault.message
  | .disk fault => fault.message
  | .template fault => fault.message
  | .noValue shown => s!"Tentou unwrap() em Err: {shown}"
  | .tooDeep => "maximum depth exceeded"

end GoIdl
