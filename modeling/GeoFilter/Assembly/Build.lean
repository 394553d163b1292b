import GeoFilter.Assembly.Step
import GeoFilter.Grammar.Statement

/-!
# Building trees

The parts of a statement, each assembled on a stack of its own.  `assembleParts` answers the results and
the notes; `partsEvents` tells the steps on the way there.
-/

namespace GeoFilter.Assembly

/-- The work of one part: its reductions, and then its result, or its fault. -/
def assemblePart (dialect : Dialect) (kit : Toolkit) (atEnd : SourceToken) :
    StatementPart → Assembly Entry
  | .whole reductions => do
    steps dialect kit reductions
    finish
  | .broken reductions fault => do
    steps dialect kit reductions
    failWith (fault.toFinding atEnd)

/-- The results of the parts, all of them or none, and the notes left on the way. -/
def assembleParts (dialect : Dialect) (kit : Toolkit) (atEnd : SourceToken) :
    List StatementPart → Except AssemblyFault (List Entry) × List Note
  | [] => (.ok [], [])
  | part :: parts =>
    match assemblePart dialect kit atEnd part [] with
    | ⟨.ok e, _, notes⟩ =>
      let (result, more) := assembleParts dialect kit atEnd parts
      (result.map (e :: ·), notes ++ more)
    | ⟨.error fault, _, notes⟩ => (.error fault, notes)

/-- A step of an assembly. -/
inductive Event where
  /-- A reduction was worked on, successfully or not, and so many results waited afterwards. -/
  | reduced (r : Reduction) (depth : Nat)
  /-- All reductions were worked on. -/
  | finished
  deriving DecidableEq, Repr

/-- The steps of some reductions up to the first that fails, and whether none fails. -/
def stepEvents (dialect : Dialect) (kit : Toolkit) :
    List Reduction → ResultsStack → List Event × Bool
  | [], _ => ([], true)
  | r :: rs, s =>
    match step dialect kit r s with
    | ⟨.ok _, s', _⟩ =>
      let (events, succeeded) := stepEvents dialect kit rs s'
      (.reduced r s'.length :: events, succeeded)
    | ⟨.error _, s', _⟩ => ([.reduced r s'.length], false)

def partEvents (dialect : Dialect) (kit : Toolkit) : StatementPart → List Event × Bool
  | .whole reductions =>
    let (events, succeeded) := stepEvents dialect kit reductions []
    if succeeded then (events ++ [.finished], true) else (events, false)
  | .broken reductions _ => ((stepEvents dialect kit reductions []).1, false)

/-- The steps of the parts up to the first of which no result comes. -/
def partsEvents (dialect : Dialect) (kit : Toolkit) : List StatementPart → List Event
  | [] => []
  | part :: parts =>
    let (events, succeeded) := partEvents dialect kit part
    if succeeded then events ++ partsEvents dialect kit parts else events

end GeoFilter.Assembly
