import GeoFilter.Assembly
import GeoFilter.Assembly.Build
import GeoFilter.Assembly.Geometry
import GeoFilter.Assembly.Reference
import GeoFilter.Assembly.Step
import GeoFilter.CommandLine
import GeoFilter.Compiler
import GeoFilter.Configuration
import GeoFilter.Crs
import GeoFilter.Decimal
import GeoFilter.Decimal.Layout
import GeoFilter.Decimal.Reading
import GeoFilter.Decimal.Shortest
import GeoFilter.Diagnostic
import GeoFilter.Diagnostic.Dump
import GeoFilter.Dialect
import GeoFilter.Evaluation
import GeoFilter.Evaluation.Regex
import GeoFilter.Evaluation.Wildcard
import GeoFilter.Floating
import GeoFilter.Geometry
import GeoFilter.Grammar.Expression
import GeoFilter.Grammar.Geometry
import GeoFilter.Grammar.Number
import GeoFilter.Grammar.Predicate
import GeoFilter.Grammar.Statement
import GeoFilter.Lexeme
import GeoFilter.Lexeme.Scan
import GeoFilter.Log
import GeoFilter.Main
import GeoFilter.Phrase
import GeoFilter.Place
import GeoFilter.Production
import GeoFilter.Proofs.Bracket
import GeoFilter.Proofs.Bracket.Statement
import GeoFilter.Proofs.Comparison
import GeoFilter.Proofs.Comparison.Expression
import GeoFilter.Proofs.Comparison.Predicate
import GeoFilter.Proofs.Comparison.Statement
import GeoFilter.Proofs.Compilation
import GeoFilter.Proofs.Completed
import GeoFilter.Proofs.Completed.Expression
import GeoFilter.Proofs.Completed.Filter
import GeoFilter.Proofs.Defects
import GeoFilter.Proofs.Derivation
import GeoFilter.Proofs.Derivation.Expression
import GeoFilter.Proofs.Derivation.Factor
import GeoFilter.Proofs.Derivation.Grouping
import GeoFilter.Proofs.Derivation.Operand
import GeoFilter.Proofs.Derivation.Reading
import GeoFilter.Proofs.Derivation.Unambiguous
import GeoFilter.Proofs.Dialects.Expression
import GeoFilter.Proofs.Dialects.Filter
import GeoFilter.Proofs.Dialects.Literal
import GeoFilter.Proofs.Dialects.Operand
import GeoFilter.Proofs.Ensures
import GeoFilter.Proofs.Ensures.Expression
import GeoFilter.Proofs.Ensures.Geometry
import GeoFilter.Proofs.Ensures.Predicate
import GeoFilter.Proofs.Envelope
import GeoFilter.Proofs.Equality
import GeoFilter.Proofs.Evaluation
import GeoFilter.Proofs.FeatureIds
import GeoFilter.Proofs.FeatureIds.Statement
import GeoFilter.Proofs.FilterList
import GeoFilter.Proofs.FirstSeen
import GeoFilter.Proofs.Formula
import GeoFilter.Proofs.Formula.Statement
import GeoFilter.Proofs.Framing
import GeoFilter.Proofs.Framing.Expression
import GeoFilter.Proofs.Framing.Filter
import GeoFilter.Proofs.GeometryText
import GeoFilter.Proofs.GeometryText.Reading
import GeoFilter.Proofs.GeometryText.Statement
import GeoFilter.Proofs.Height
import GeoFilter.Proofs.Height.Statement
import GeoFilter.Proofs.IgnoringCase
import GeoFilter.Proofs.Intake
import GeoFilter.Proofs.IntegerArithmetic
import GeoFilter.Proofs.Keyword
import GeoFilter.Proofs.Layout
import GeoFilter.Proofs.LetterCase
import GeoFilter.Proofs.LetterCase.Statement
import GeoFilter.Proofs.Membership
import GeoFilter.Proofs.Membership.Operand
import GeoFilter.Proofs.Membership.Statement
import GeoFilter.Proofs.Nesting
import GeoFilter.Proofs.Nesting.Siblings
import GeoFilter.Proofs.Nesting.Statement
import GeoFilter.Proofs.NineIntersection
import GeoFilter.Proofs.NineIntersection.Statement
import GeoFilter.Proofs.NumberKind
import GeoFilter.Proofs.NumberKind.Statement
import GeoFilter.Proofs.NumberOrder
import GeoFilter.Proofs.NumberText
import GeoFilter.Proofs.Numeral
import GeoFilter.Proofs.Origin
import GeoFilter.Proofs.Origin.Statement
import GeoFilter.Proofs.Parallel
import GeoFilter.Proofs.Parallel.Expression
import GeoFilter.Proofs.Parallel.Geometry
import GeoFilter.Proofs.Parallel.Pairing
import GeoFilter.Proofs.Parallel.Pattern
import GeoFilter.Proofs.Parallel.Predicate
import GeoFilter.Proofs.Parallel.Spanning
import GeoFilter.Proofs.Parallel.Statement
import GeoFilter.Proofs.Phrase
import GeoFilter.Proofs.Prompt
import GeoFilter.Proofs.Prompt.Expression
import GeoFilter.Proofs.Prompt.Filter
import GeoFilter.Proofs.Prompt.Statement
import GeoFilter.Proofs.Realization
import GeoFilter.Proofs.Realization.Expression
import GeoFilter.Proofs.Realization.Geometry
import GeoFilter.Proofs.Realization.Number
import GeoFilter.Proofs.Realization.Predicate
import GeoFilter.Proofs.Realization.Statement
import GeoFilter.Proofs.Rectangle
import GeoFilter.Proofs.Rectangle.Statement
import GeoFilter.Proofs.ReferenceSystem
import GeoFilter.Proofs.ReferenceSystem.Statement
import GeoFilter.Proofs.Regex
import GeoFilter.Proofs.Rereading.Discrete
import GeoFilter.Proofs.Rereading.Expression
import GeoFilter.Proofs.Rereading.Geometry
import GeoFilter.Proofs.Rereading.Number
import GeoFilter.Proofs.Rereading.Predicate
import GeoFilter.Proofs.Rereading.Statement
import GeoFilter.Proofs.Rereading.Tree
import GeoFilter.Proofs.Rereading.Word
import GeoFilter.Proofs.Resolving
import GeoFilter.Proofs.Resolving.Expression
import GeoFilter.Proofs.Resolving.Gathering
import GeoFilter.Proofs.Resolving.Predicate
import GeoFilter.Proofs.Resolving.Statement
import GeoFilter.Proofs.Resolving.Written
import GeoFilter.Proofs.Rounding
import GeoFilter.Proofs.Rounding.Extended
import GeoFilter.Proofs.Rounding.IsNumber
import GeoFilter.Proofs.Rounding.Layout
import GeoFilter.Proofs.Rounding.Order
import GeoFilter.Proofs.Rounding.Packing
import GeoFilter.Proofs.Rounding.Reading
import GeoFilter.Proofs.Rounding.Shortest
import GeoFilter.Proofs.Row
import GeoFilter.Proofs.Scanning
import GeoFilter.Proofs.Sparing
import GeoFilter.Proofs.Spelling
import GeoFilter.Proofs.Stack
import GeoFilter.Proofs.Standing
import GeoFilter.Proofs.Standing.Statement
import GeoFilter.Proofs.Tokenizer
import GeoFilter.Proofs.Translation
import GeoFilter.Proofs.Translation.Expression
import GeoFilter.Proofs.Translation.Geometry
import GeoFilter.Proofs.Translation.Number
import GeoFilter.Proofs.Translation.Predicate
import GeoFilter.Proofs.Translation.Statement
import GeoFilter.Proofs.ValueOrder
import GeoFilter.Proofs.WellFormed
import GeoFilter.Proofs.WellFormed.Statement
import GeoFilter.Proofs.Wildcard
import GeoFilter.Proofs.Work
import GeoFilter.Proofs.Yield
import GeoFilter.Proofs.Yield.Conclusion
import GeoFilter.Proofs.Yield.Expression
import GeoFilter.Proofs.Yield.Lexemes
import GeoFilter.Proofs.Yield.Predicate
import GeoFilter.Proofs.Yield.Statement
import GeoFilter.Stack
import GeoFilter.Text.Blank
import GeoFilter.Text.Case
import GeoFilter.Text.CaseFold
import GeoFilter.Text.Letter
import GeoFilter.Text.Numeral
import GeoFilter.Text.Quoted
import GeoFilter.Tree.Expression
import GeoFilter.Tree.Factory
import GeoFilter.Tree.Literal
import GeoFilter.Tree.Number
import GeoFilter.Tree.Predicate
