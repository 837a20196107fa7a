/-!
# Log entries
-/

namespace GoIdl

inductive LogLevel where
  | debug | info | warning
  deriving DecidableEq, Repr

def LogLevel.label : LogLevel → String
  | debug => "DEBUG"
  | info => "INFO"
  | warning => "WARNING"

def LogLevel.rank : LogLevel → Nat
  | debug => 0
  | info => 1
  | warning => 2

/-- The activity that an entry comes from. -/
inductive LogSource where
  | loading | compiling | extracting | resolvingMetadata | assembling | writing
  deriving DecidableEq, Repr

def LogSource.label : LogSource → String
  | loading => "gorpc.parser.loader"
  | compiling => "gorpc.compiler"
  | extracting => "gorpc.semantic.extractor"
  | resolvingMetadata => "gorpc.semantic.metadata"
  | assembling => "gorpc.semantic.assembler"
  | writing => "gorpc.exporters.template_export"

structure LogEntry where
  level : LogLevel
  source : LogSource
  message : String
  deriving DecidableEq, Repr

def LogEntry.text (e : LogEntry) : String := s!"{e.level.label} {e.source.label}: {e.message}"

end GoIdl
