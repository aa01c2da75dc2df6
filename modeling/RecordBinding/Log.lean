namespace RecordBinding

inductive Severity where
  | debug
  | info
  | warning
  | error
  deriving DecidableEq, Repr

namespace Severity

def name : Severity → String
  | debug => "DEBUG"
  | info => "INFO"
  | warning => "WARNING"
  | error => "ERROR"

def level : Severity → Int
  | debug => 10
  | info => 20
  | warning => 30
  | error => 40

end Severity

/-- The parts of the library that report. -/
inductive Reporter where
  | properties
  | bindings
  | cache
  | registry
  | registrations
  | application
  | commandLine
  deriving DecidableEq, Repr

def Reporter.name : Reporter → String
  | properties => "rowbind.domain.properties"
  | bindings => "rowbind.domain.bindings"
  | cache => "rowbind.domain.cache"
  | registry => "rowbind.domain.registry"
  | registrations => "rowbind.config.registrations"
  | application => "rowbind.app"
  | commandLine => "rowbind.ui.cli"

structure LogRecord where
  severity : Severity
  reporter : Reporter
  message : String

def LogRecord.line (r : LogRecord) : String :=
  r.severity.name ++ " [" ++ r.reporter.name ++ "] " ++ r.message

end RecordBinding
