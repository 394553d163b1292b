import GeoFilter.Diagnostic
import GeoFilter.Tree.Predicate

/-!
# Productions

The rules of the grammar that a reading completes.  A `Reduction` is a completed rule with the tokens it
took itself; the reductions of a statement, in order, say how its tree is put together.  A production is
also the tag of the result it leaves on the results stack.
-/

namespace GeoFilter

/-- What a geometry is to the geometry text around it. -/
inductive GeometryRole where
  | root
  | ring
  | multiPointMember
  | multiLineStringMember
  | multiPolygonMember
  | collectionMember
  deriving DecidableEq, Repr

def GeometryRole.label : GeometryRole → String
  | root => "Root"
  | ring => "Ring"
  | multiPointMember => "MultiPointMember"
  | multiLineStringMember => "MultiLineStringMember"
  | multiPolygonMember => "MultiPolygonMember"
  | collectionMember => "CollectionMember"

/-- A rule of the grammar. -/
inductive Production where
  | propertyName
  | integerLiteral
  | floatingLiteral
  | stringLiteral
  | booleanLiteral
  | negativeNumber
  | functionName
  | functionArgument
  | function
  | arithmetic (op : ArithmeticOp)
  | comparison (op : ComparisonOp)
  | and
  | or
  | not
  | includeAll
  | excludeAll
  | featureId
  | featureIdPredicate
  | inListMember
  | inPredicate
  | notInPredicate
  | isNull
  | isNotNull
  | like
  | notLike
  | ilike
  | notILike
  | between
  | notBetween
  | spatial (op : SpatialOp)
  | bbox
  | distance (op : DistanceOp)
  | relate
  | de9imPattern
  | relatePattern
  | ordinate
  | coordinate
  | pointText (role : GeometryRole)
  | lineStringText (role : GeometryRole)
  | polygonText (role : GeometryRole)
  | multiPointText (role : GeometryRole)
  | multiLineStringText (role : GeometryRole)
  | multiPolygonText (role : GeometryRole)
  | collectionStart
  | collectionText (role : GeometryRole)
  | geometryLiteral
  | srid
  | sridGeometryLiteral
  | geometryLiteralWithSrid
  | envelopeComponent
  | envelope
  deriving DecidableEq, Repr

namespace Production

def role? : Production → Option GeometryRole
  | pointText role
  | lineStringText role
  | polygonText role
  | multiPointText role
  | multiLineStringText role
  | multiPolygonText role
  | collectionText role => some role
  | _ => none

def isGeometryText (p : Production) : Bool :=
  p.role?.isSome

def label : Production → String
  | propertyName => "PropertyName"
  | integerLiteral => "IntegerLiteral"
  | floatingLiteral => "FloatingLiteral"
  | stringLiteral => "StringLiteral"
  | booleanLiteral => "BooleanLiteral"
  | negativeNumber => "NegativeNumber"
  | functionName => "FunctionName"
  | functionArgument => "FunctionArgument"
  | function => "Function"
  | arithmetic op => "Arithmetic(" ++ op.label ++ ")"
  | comparison op => "Comparison(" ++ op.label ++ ")"
  | and => "And"
  | or => "Or"
  | not => "Not"
  | includeAll => "Include"
  | excludeAll => "Exclude"
  | featureId => "FeatureId"
  | featureIdPredicate => "FeatureIdPredicate"
  | inListMember => "InListMember"
  | inPredicate => "InPredicate"
  | notInPredicate => "NotInPredicate"
  | isNull => "IsNull"
  | isNotNull => "IsNotNull"
  | like => "Like"
  | notLike => "NotLike"
  | ilike => "ILike"
  | notILike => "NotILike"
  | between => "Between"
  | notBetween => "NotBetween"
  | spatial op => "Spatial(" ++ op.label ++ ")"
  | bbox => "BBox"
  | distance op => "Distance(" ++ op.label ++ ")"
  | relate => "Relate"
  | de9imPattern => "De9imPattern"
  | relatePattern => "RelatePattern"
  | ordinate => "Ordinate"
  | coordinate => "Coordinate"
  | pointText role => "PointText(" ++ role.label ++ ")"
  | lineStringText role => "LineStringText(" ++ role.label ++ ")"
  | polygonText role => "PolygonText(" ++ role.label ++ ")"
  | multiPointText role => "MultiPointText(" ++ role.label ++ ")"
  | multiLineStringText role => "MultiLineStringText(" ++ role.label ++ ")"
  | multiPolygonText role => "MultiPolygonText(" ++ role.label ++ ")"
  | collectionStart => "GeometryCollectionStart"
  | collectionText role => "GeometryCollectionText(" ++ role.label ++ ")"
  | geometryLiteral => "GeometryLiteral"
  | srid => "Srid"
  | sridGeometryLiteral => "SridGeometryLiteral"
  | geometryLiteralWithSrid => "GeometryLiteralWithSrid"
  | envelopeComponent => "EnvelopeComponent"
  | envelope => "Envelope"

end Production

/-- A completed rule with the tokens it took itself; the first is where it starts. -/
structure Reduction where
  production : Production
  tokens : List SourceToken
  deriving DecidableEq, Repr

end GeoFilter
