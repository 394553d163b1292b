import GeoFilter.Assembly.Build
import GeoFilter.Diagnostic.Dump
import GeoFilter.Lexeme.Scan
import GeoFilter.Log

/-!
# The compiler

A `Compiler` turns statements of one dialect into trees: a filter into a predicate, an expression into
an expression tree, and a list of filters into a list of predicates.  A statement is scanned as a whole,
read into parts, and assembled part by part; the first thing that goes wrong is the answer.
-/

namespace GeoFilter

/-- Why no tree comes of a statement.  A defect would be a mistake of the compiler itself. -/
inductive CompileFailure where
  | error (error : CompileError)
  | defect (defect : StackDefect)
  deriving DecidableEq, Repr

def CompileFailure.message : CompileFailure → String
  | .error e => e.message
  | .defect d => "internal compiler defect: " ++ d.message

def AssemblyFault.inStatement (statement : String) : AssemblyFault → CompileFailure
  | .finding f => .error (f.inStatement statement)
  | .defect d => .defect d

/-- What comes of compiling a statement. -/
structure Compilation (α : Type) where
  result : Except CompileFailure α
  notes : List Note
  log : List LogRecord

def Compilation.makers (c : Compilation α) : List TreeFactory.Maker :=
  c.notes.filterMap Note.maker?

/-- Compiles statements of a dialect. -/
structure Compiler where
  dialect : Dialect := .ecql
  toolkit : Toolkit := ⟨TreeFactory.plain, CrsRegistry.wellKnown.resolver⟩

namespace Compiler

def endToken (statement : String) : SourceToken :=
  ⟨"end of statement", endPlace statement⟩

/-- The results of some lexemes, and the notes left on the way.  The given token stands for their end. -/
def assemble (compiler : Compiler) (entry : EntryPoint) (atEnd : SourceToken)
    (lexemes : List Lexeme) : Except AssemblyFault (List Entry) × List Note :=
  Assembly.assembleParts compiler.dialect compiler.toolkit atEnd
    (Grammar.statementParts compiler.dialect lexemes entry)

def roots (compiler : Compiler) (entry : EntryPoint) (statement : String) :
    Except AssemblyFault (List Entry) × List Note :=
  match scan statement with
  | .ok lexemes => compiler.assemble entry (endToken statement) lexemes
  | .error finding => (.error (.finding finding), [])

def events (compiler : Compiler) (entry : EntryPoint) (statement : String) : List Assembly.Event :=
  match scan statement with
  | .ok lexemes =>
    Assembly.partsEvents compiler.dialect compiler.toolkit
      (Grammar.statementParts compiler.dialect lexemes entry)
  | .error _ => []

def treesOf (toTree : Entry → Except StackDefect α) : List Entry → Except AssemblyFault (List α)
  | [] => .ok []
  | e :: es =>
    match toTree e with
    | .error defect => .error (.defect defect)
    | .ok tree => (treesOf toTree es).map (tree :: ·)

/-- What the log says about a failure: a defect is told, a mistake in the statement is not. -/
def failureRecords (statement : String) : Except AssemblyFault α → List LogRecord
  | .error (.defect d) =>
    [⟨.error, Text.doubleQuoted statement ++ " hit an internal defect: " ++ d.message⟩]
  | _ => []

/-- The trees of a statement.  They are told in the log together with what went wrong. -/
def compile (compiler : Compiler) (entry : EntryPoint) (toTree : Entry → Except StackDefect α)
    (statement : String) : Compilation (List α) :=
  let (result, notes) := compiler.roots entry statement
  let trees := match result with
    | .ok es => treesOf toTree es
    | .error fault => .error fault
  { result := trees.mapError (AssemblyFault.inStatement statement)
    notes
    log := notes.filterMap Note.logRecord? ++ failureRecords statement trees }

def single (c : Compilation (List α)) : Compilation α where
  result :=
    match c.result with
    | .ok [tree] => .ok tree
    | .ok trees => .error (.defect (.unbalanced trees.length))
    | .error failure => .error failure
  notes := c.notes
  log := c.log

def compileFilter (compiler : Compiler) (statement : String) : Compilation Predicate :=
  single (compiler.compile .filter Entry.toPredicate statement)

def compileExpression (compiler : Compiler) (statement : String) : Compilation Expression :=
  single (compiler.compile .expression Entry.toExpression statement)

/-- Compiles filters separated by semicolons, all of them or none. -/
def compileFilterList (compiler : Compiler) (statement : String) : Compilation (List Predicate) :=
  compiler.compile .list Entry.toPredicate statement

def dump (compiler : Compiler) : String :=
  dumpFields "Compiler" [("dialect", compiler.dialect.label)]

end Compiler

end GeoFilter
