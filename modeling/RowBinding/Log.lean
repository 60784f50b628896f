/-!
# Log records

What the library reports besides its results is a list of records, oldest first.
-/
namespace RowBinding

/-- How much a record matters. -/
inductive LogLevel where
  | error | warn | debug | trace
  deriving DecidableEq, Repr

def LogLevel.name : LogLevel → String
  | error => "ERROR"
  | warn => "WARN"
  | debug => "DEBUG"
  | trace => "TRACE"

/-- One report. -/
structure LogRecord where
  level : LogLevel
  message : String
  deriving DecidableEq, Repr

end RowBinding
