import GeoFilter.Diagnostic
import GeoFilter.Text.Quoted

/-!
# Dumps of errors

A compile error on one line with every field named and every text quoted, for logs.
-/

namespace GeoFilter

open Text (doubleQuoted)

def dumpFields (name : String) (fields : List (String × String)) : String :=
  name ++ " \x7b " ++ ", ".intercalate (fields.map fun (field, value) => field ++ ": " ++ value)
    ++ " \x7d"

def dumpValue (name value : String) : String :=
  name ++ "(" ++ value ++ ")"

def SourceToken.dump (t : SourceToken) : String :=
  dumpFields "SourceToken" [("text", doubleQuoted t.text), ("line", toString t.place.line),
    ("column", toString t.place.column)]

def GeometryError.dump : GeometryError → String
  | .tooFewPoints shape required found =>
    dumpFields "TooFewPoints" [("kind", doubleQuoted shape), ("required", toString required),
      ("found", toString found)]
  | .ringNotClosed => "RingNotClosed"

def Fault.label : Fault → String
  | .unexpected .. => "Syntax"
  | .endReached .. => "UnexpectedEnd"
  | .unscannable .. => "Lexical"
  | .invalidDe9im .. => "InvalidDe9imPattern"
  | .unresolvedSrid .. => "UnresolvedSrid"
  | .invalidSrid .. => "InvalidSrid"
  | .degenerateGeometry .. => "DegenerateGeometry"
  | .invalidNumber .. => "InvalidNumber"
  | .invalidUnits .. => "InvalidDistanceUnits"
  | .tooDeep .. => "NestingTooDeep"

def Fault.dump (f : Fault) : String :=
  match f with
  | .unexpected expected found =>
    dumpFields f.label [("expected", doubleQuoted expected), ("found", doubleQuoted found)]
  | .endReached expected => dumpFields f.label [("expected", doubleQuoted expected)]
  | .unscannable message => dumpValue f.label (doubleQuoted message)
  | .invalidDe9im pattern => dumpFields f.label [("pattern", doubleQuoted pattern)]
  | .unresolvedSrid srid => dumpFields f.label [("srid", toString srid.toInt)]
  | .invalidSrid srid => dumpValue f.label (doubleQuoted srid)
  | .degenerateGeometry error => dumpValue f.label error.dump
  | .invalidNumber number => dumpValue f.label (doubleQuoted number)
  | .invalidUnits units => dumpValue f.label (doubleQuoted units)
  | .tooDeep limit => dumpFields f.label [("limit", toString limit)]

def CompileError.dump (e : CompileError) : String :=
  dumpFields "CompileError" [("kind", e.fault.dump), ("token", e.token.dump),
    ("statement", doubleQuoted e.statement),
    ("cause", match e.cause with
      | some cause => dumpValue "Some" (doubleQuoted cause.message)
      | none => "None")]

end GeoFilter
