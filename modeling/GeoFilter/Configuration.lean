import GeoFilter.Compiler

/-!
# Configuration

The settings of the command line, which come from two environment variables: `CQL_DIALECT` names the
dialect and `CQL_LOG` the least urgent records to keep.
-/

namespace GeoFilter

/-- The settings of the command line. -/
structure Configuration where
  dialect : Dialect := .ecql
  logLevel : LogLevel := .warn
  deriving DecidableEq, Repr

namespace Configuration

/-- The dialect that a variable names, with a remark if it names none. -/
def dialectOf : Option String → Dialect × List LogRecord
  | none => (.ecql, [])
  | some name =>
    match Dialect.ofName? name with
    | some dialect => (dialect, [])
    | none =>
      (.ecql, [⟨.warn, "unknown dialect " ++ Text.doubleQuoted name ++ " in CQL_DIALECT, using ECQL"⟩])

/-- The log level that a variable names; warnings are kept if it names none. -/
def logLevelOf (level : Option String) : LogLevel :=
  ((level.map Text.trimmed).bind LogLevel.ofName?).getD .warn

/-- The settings from the values of the two variables, with remarks on them. -/
def ofVariables (dialect level : Option String) : Configuration × List LogRecord :=
  let (d, log) := dialectOf dialect
  (⟨d, logLevelOf level⟩, log)

def compiler (c : Configuration) : Compiler where
  dialect := c.dialect

end Configuration

end GeoFilter
