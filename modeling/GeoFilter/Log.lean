import GeoFilter.Assembly

/-!
# Log records

What is told beside the answer of a compiler, by urgency.
-/

namespace GeoFilter

/-- How urgent a record has to be to be kept. -/
inductive LogLevel where
  | off
  | error
  | warn
  | info
  | debug
  | trace
  deriving DecidableEq, Repr

namespace LogLevel

def name : LogLevel → String
  | off => "OFF"
  | error => "ERROR"
  | warn => "WARN"
  | info => "INFO"
  | debug => "DEBUG"
  | trace => "TRACE"

def all : List LogLevel :=
  [off, error, warn, info, debug, trace]

def ofName? (name : String) : Option LogLevel :=
  all.find? fun level => Text.sameIgnoringAsciiCase name level.name

end LogLevel

/-- A line in the log. -/
structure LogRecord where
  level : LogLevel
  text : String
  deriving DecidableEq, Repr

def LogRecord.toText (r : LogRecord) : String :=
  r.level.name ++ ": " ++ r.text

def Note.logRecord? : Note → Option LogRecord
  | .used _ => none
  | .deprecatedOperator token op =>
    some ⟨.warn, s!"comparison operator {token.toText} is deprecated, use '{op.symbol}' instead"⟩

def Note.maker? : Note → Option TreeFactory.Maker
  | .used maker => some maker
  | .deprecatedOperator .. => none

end GeoFilter
