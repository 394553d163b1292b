import GeoFilter.Configuration

/-!
# The command line

The arguments are one statement and perhaps a flag that says what the statement is.  The answer is what
is printed and the exit code: the trees one per line, or what is wrong with the statement.
-/

namespace GeoFilter.CommandLine

def usage : String := "usage: cql [--expression | --list] <statement>"

/-- The lines printed as output and as errors, and the exit code. -/
structure Response where
  code : Nat
  output : List String
  errors : List String
  deriving DecidableEq, Repr

/-- What the arguments ask for. -/
inductive Request where
  | help
  | misuse
  | compile (entry : EntryPoint) (statement : String)
  deriving DecidableEq, Repr

/-- Reads the arguments, given what the ones before asked for.  The last flag counts; help and a second
statement end the reading. -/
def readArguments (entry : EntryPoint) (statement? : Option String) : List String → Request
  | [] =>
    match statement? with
    | some statement => .compile entry statement
    | none => .misuse
  | arg :: args =>
    if arg = "--expression" then readArguments .expression statement? args
    else if arg = "--list" then readArguments .list statement? args
    else if arg = "-h" ∨ arg = "--help" then .help
    else if statement?.isNone then readArguments entry (some arg) args
    else .misuse

def treeTexts (compiler : Compiler) (entry : EntryPoint) (statement : String) :
    Except CompileFailure (List String) :=
  match entry with
  | .filter => (compiler.compileFilter statement).result.map fun p => [p.toText]
  | .expression => (compiler.compileExpression statement).result.map fun e => [e.toText]
  | .list => (compiler.compileFilterList statement).result.map fun ps => ps.map Predicate.toText

def answer (compiler : Compiler) : Request → Response
  | .help => ⟨0, [usage], []⟩
  | .misuse => ⟨2, [], [usage]⟩
  | .compile entry statement =>
    match treeTexts compiler entry statement with
    | .ok texts => ⟨0, texts, []⟩
    | .error (.error e) => ⟨1, [], [e.message, e.caret]⟩
    | .error failure => ⟨1, [], [failure.message]⟩

def respond (configuration : Configuration) (args : List String) : Response :=
  answer configuration.compiler (readArguments .filter none args)

def printed (lines : List String) : String :=
  String.join (lines.map (· ++ "\n"))

end GeoFilter.CommandLine
