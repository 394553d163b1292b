import GeoFilter.Text.Blank
import GeoFilter.Text.Case

/-!
# Dialects

The two languages in which filters are written: the base language, and the extended one, in which
operands are arbitrary expressions.
-/

namespace GeoFilter

/-- A filter language. -/
inductive Dialect where
  | cql
  | ecql
  deriving DecidableEq, Repr

namespace Dialect

/-- The dialect of a name, in any case and with any blanks around it. -/
def ofName? (name : String) : Option Dialect :=
  let lower := Text.lowerCased (Text.trimmed name)
  if lower = "cql" then some cql else if lower = "ecql" then some ecql else none

def name : Dialect → String
  | cql => "CQL"
  | ecql => "ECQL"

def label : Dialect → String
  | cql => "Cql"
  | ecql => "Ecql"

end Dialect

end GeoFilter
