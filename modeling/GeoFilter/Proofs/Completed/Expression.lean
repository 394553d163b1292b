import GeoFilter.Proofs.Completed
import GeoFilter.Proofs.Framing.Expression

/-!
# What geometries and expressions complete

Geometry text and expressions complete rules at the places of their lexemes.  What is one level deeper is the same phrase
with one level less, so the levels are what the induction is on.
-/

namespace GeoFilter

open Phrase (Completes)

variable {L : List Lexeme}

/-! ### Geometry text -/

theorem completes_coordinate : Completes L Grammar.coordinate :=
  (completes_signedNumber fun _ => rfl).bind fun x hx =>
    (completes_signedNumber fun _ => rfl).andThen fun _ => by
      obtain ⟨n, hn, rfl⟩ := hx
      exact .reduceAt hn.placed_withSign rfl

theorem completes_lineBody {role : GeometryRole} {token : SourceToken} (htoken : Placed L token) :
    Completes L (Grammar.lineBody role token) :=
  (Phrase.Completes.parenthesized (.commaSeparated completes_coordinate)).andThen fun _ => .reduceAt htoken rfl

theorem completes_ring : Completes L Grammar.ring :=
  (Phrase.Completes.here _).bind fun _ htoken => completes_lineBody htoken

theorem completes_polygonBody {role : GeometryRole} {token : SourceToken} (htoken : Placed L token) :
    Completes L (Grammar.polygonBody role token) :=
  (Phrase.Completes.parenthesized (.commaSeparated completes_ring)).andThen fun _ => .reduceAt htoken rfl

theorem completes_memberPoint : Completes L Grammar.memberPoint := by
  refine (Phrase.Completes.here _).bind fun token htoken => ?_
  refine (Phrase.Completes.accept _).andThen fun opener? => ?_
  cases opener? with
  | some opener =>
    exact completes_coordinate.andThen fun _ => (Phrase.Completes.require _).andThen fun _ => .reduceAt htoken rfl
  | none => exact completes_coordinate.andThen fun _ => .reduceAt htoken rfl

theorem completes_memberLine : Completes L Grammar.memberLine :=
  (Phrase.Completes.here _).bind fun _ htoken => completes_lineBody htoken

theorem completes_memberPolygon : Completes L Grammar.memberPolygon :=
  (Phrase.Completes.here _).bind fun _ htoken => completes_polygonBody htoken

theorem completes_shapeBody {member? : Option (Phrase Unit)} (hmember : ∀ member ∈ member?, Completes L member)
    {role : GeometryRole} {token : SourceToken} (htoken : Placed L token) (shape : Shape) :
    Completes L (Grammar.shapeBody member? role token shape) := by
  have hmembers : ∀ {phrase : Phrase Unit} {production : Production}, Completes L phrase →
      production.isPlain = true → Completes L (do
        Phrase.parenthesized (Phrase.commaSeparated phrase)
        Phrase.reduce production [token]) := fun hphrase hplain =>
    (Phrase.Completes.parenthesized (.commaSeparated hphrase)).andThen fun _ => .reduceAt htoken hplain
  cases shape with
  | point => exact (Phrase.Completes.parenthesized completes_coordinate).andThen fun _ => .reduceAt htoken rfl
  | lineString => exact completes_lineBody htoken
  | polygon => exact completes_polygonBody htoken
  | multiPoint => exact hmembers completes_memberPoint rfl
  | multiLineString => exact hmembers completes_memberLine rfl
  | multiPolygon => exact hmembers completes_memberPolygon rfl
  | collection =>
    exact (Phrase.Completes.reduceAt htoken rfl).andThen fun _ =>
      hmembers (Phrase.Completes.nested hmember htoken) rfl

theorem completes_shapeText {member? : Option (Phrase Unit)} (hmember : ∀ member ∈ member?, Completes L member)
    (role : GeometryRole) : Completes L (Grammar.shapeText member? role) := by
  refine Phrase.Completes.peek.andThen fun token? => ?_
  split
  · exact (Phrase.Completes.next _).bind fun _ htoken => completes_shapeBody hmember htoken _
  · exact .unexpected _

theorem completes_geometryText (levels : Nat) (role : GeometryRole) :
    Completes L (Grammar.geometryText levels role) := by
  induction levels generalizing role with
  | zero => exact completes_shapeText (by simp) role
  | succ levels ih => exact completes_shapeText (fun member hmember => by cases hmember; exact ih _) role

theorem completes_geometryLiteral (levels : Nat) : Completes L (Grammar.geometryLiteral levels) :=
  (Phrase.Completes.here _).bind fun _ htoken =>
    (completes_geometryText levels .root).andThen fun _ => .reduceAt htoken rfl

/-! ### Reference systems and rectangles -/

theorem completes_sridLiteral (dialect : Dialect) (levels : Nat) :
    Completes L (Grammar.sridLiteral dialect levels) := by
  refine (Phrase.Completes.next _).bind fun keyword hkeyword => (Phrase.Completes.require _).andThen fun _ => ?_
  cases dialect with
  | cql =>
    exact (completes_signedNumber fun _ => rfl).andThen fun _ => (Phrase.Completes.require _).andThen fun _ =>
      (completes_geometryLiteral levels).andThen fun _ => .reduceAt hkeyword rfl
  | ecql =>
    exact completes_signed.bind fun srid hsrid => (Phrase.Completes.require _).andThen fun _ =>
      (completes_geometryLiteral levels).andThen fun _ =>
        .reduce (List.forall_mem_cons.mpr ⟨hkeyword, List.forall_mem_singleton.mpr hsrid.placed_withSign⟩) rfl

theorem completes_referenceSystem :
    Completes L Grammar.referenceSystem? fun code => ∀ token ∈ code, Placed L token :=
  (Phrase.Completes.accept _).andThen fun
    | some _ => (Phrase.Completes.expectIf _ _).bind fun _ htoken => .pure (List.forall_mem_singleton.mpr htoken)
    | none => .pure (List.forall_mem_nil _)

theorem completes_envelopeBound (dialect : Dialect) :
    Completes L (Grammar.envelopeBound dialect) fun token => ∃ n, SignedIn L n ∧ token = Grammar.withSign n := by
  cases dialect with
  | cql => exact completes_signedNumber fun _ => rfl
  | ecql => exact completes_signed.bind fun n hn => .pure ⟨n, hn, rfl⟩

theorem completes_envelope (dialect : Dialect) : Completes L (Grammar.envelope dialect) := by
  refine (Phrase.Completes.next _).bind fun keyword hkeyword => (Phrase.Completes.require _).andThen fun _ => ?_
  refine (completes_envelopeBound dialect).bind fun west hwest => (Phrase.Completes.require _).andThen fun _ => ?_
  refine (completes_envelopeBound dialect).bind fun east heast => (Phrase.Completes.require _).andThen fun _ => ?_
  refine (completes_envelopeBound dialect).bind fun north hnorth => (Phrase.Completes.require _).andThen fun _ => ?_
  refine (completes_envelopeBound dialect).bind fun south hsouth => ?_
  refine completes_referenceSystem.bind fun code hcode => (Phrase.Completes.require _).andThen fun _ => ?_
  obtain ⟨west, hwest, rfl⟩ := hwest
  obtain ⟨east, heast, rfl⟩ := heast
  obtain ⟨north, hnorth, rfl⟩ := hnorth
  obtain ⟨south, hsouth, rfl⟩ := hsouth
  have hbounds : ∀ n ∈ [west, east, north, south], SignedIn L n := by simp [hwest, heast, hnorth, hsouth]
  exact fun input hinput => ⟨.envelope hkeyword hbounds hcode, (Phrase.Completes.within_ok hinput trivial).value, nofun⟩

/-! ### Attributes and function calls -/

theorem placed_attributeNames {current : SourceToken} {input : List Lexeme} (hcurrent : Placed L current)
    (hinput : input <:+ L) : ∀ name ∈ (Grammar.attributeNames current input).1, Placed L name := by
  induction current, input using Grammar.attributeNames.induct with
  | case1 current _ text quote place rest names rest' hnames ih =>
    have hrest := suffix_of_cons (suffix_of_cons hinput)
    rw [Grammar.attributeNames]
    exact List.forall_mem_cons.mpr ⟨hcurrent, ih (placed_head (suffix_of_cons hinput)) hrest⟩
  | case2 current _ text quote _ rest ih =>
    have hrest := suffix_of_cons (suffix_of_cons hinput)
    rw [Grammar.attributeNames]
    exact ih hcurrent hrest
  | case3 current input hpoint hcolon =>
    rw [Grammar.attributeNames]
    · exact List.forall_mem_singleton.mpr hcurrent
    · exact hpoint
    · exact hcolon

theorem completes_propertyName : Completes L Grammar.propertyName := by
  refine (Phrase.Completes.expectIf _ _).bind fun first hfirst => ?_
  have htail : Completes L (Translation.attributeTail first) fun names => ∀ name ∈ names, Placed L name :=
    fun input hinput => Phrase.Completes.within_ok ((Translation.attributeNames_suffix first input).trans hinput)
      (placed_attributeNames hfirst hinput)
  exact htail.bind fun _ hnames => .reduce hnames rfl

section Levels

variable {inner? : Option (Phrase Unit)} (hinner : ∀ inner ∈ inner?, Completes L inner)

include hinner

theorem completes_argument : Completes L (Grammar.argument inner?) :=
  (Phrase.Completes.here _).bind fun _ htoken =>
    (Phrase.Completes.nested hinner htoken).andThen fun _ => .reduceAt htoken rfl

theorem completes_functionCall : Completes L (Grammar.functionCall inner?) := by
  refine (Phrase.Completes.next _).bind fun name hname => (Phrase.Completes.require _).andThen fun _ => ?_
  refine (Phrase.Completes.reduceAt hname rfl).andThen fun _ => (Phrase.Completes.accept _).andThen fun close? => ?_
  cases close? with
  | some close => exact Phrase.Completes.done.andThen fun _ => .reduceAt hname rfl
  | none =>
    exact (Phrase.Completes.commaSeparated (completes_argument hinner)).andThen fun _ =>
      (Phrase.Completes.require _).andThen fun _ => .reduceAt hname rfl

/-! ### Expressions -/

theorem completes_wordFactor (dialect : Dialect) (levels : Nat) (keyword? : Option Keyword) :
    Completes L (Grammar.wordFactor dialect levels inner? keyword?) := by
  have hcall : ∀ called : Bool, Completes L (if called then Grammar.functionCall inner? else Grammar.propertyName) := by
    intro called
    split
    · exact completes_functionCall hinner
    · exact completes_propertyName
  refine (Phrase.Completes.peekSecond.andThen fun _ => .done).andThen fun called => ?_
  split
  · exact (Phrase.Completes.next _).bind fun _ htoken => .reduceAt htoken rfl
  · exact (Phrase.Completes.next _).bind fun _ htoken => .reduceAt htoken rfl
  · refine Phrase.Completes.peekSecond.andThen fun second? => ?_
    split
    · exact completes_sridLiteral dialect levels
    · exact hcall called
  · split
    · exact completes_envelope dialect
    · exact completes_propertyName
  · split
    · exact completes_geometryLiteral levels
    · exact completes_propertyName
  · exact hcall called

theorem completes_factor (dialect : Dialect) (levels : Nat) : Completes L (Grammar.factor dialect levels inner?) := by
  refine Phrase.Completes.peek.andThen fun token? => ?_
  split
  · exact completes_signedLiteral
  · exact completes_signedLiteral
  · exact (Phrase.Completes.next _).bind fun _ hopener =>
      (Phrase.Completes.nested hinner hopener).andThen fun _ => .require _
  · exact (Phrase.Completes.next _).bind fun _ htoken => .reduceAt htoken rfl
  · exact completes_wordFactor hinner dialect levels _
  · exact .unexpected _

end Levels

theorem completes_acceptOperator (first second : Sign × ArithmeticOp) :
    Completes L (Grammar.acceptOperator first second) fun found? => ∀ found ∈ found?, Placed L found.1 := by
  refine (Phrase.Completes.accept first.1).bind fun token? htoken => ?_
  cases token? with
  | some token =>
    refine .pure fun found hfound => ?_
    cases hfound
    exact htoken token rfl
  | none =>
    refine (Phrase.Completes.accept second.1).bind fun token? htoken => .pure fun found hfound => ?_
    obtain ⟨token, htoken', rfl⟩ := Option.map_eq_some_iff.mp hfound
    exact htoken token htoken'

theorem completes_leftGrouped {operators : Phrase (Option (SourceToken × ArithmeticOp))} {operand : Phrase Unit}
    (hoperators : Completes L operators fun found? => ∀ found ∈ found?, Placed L found.1)
    (hoperand : Completes L operand) : Completes L (Grammar.leftGrouped operators operand) :=
  hoperand.andThen fun _ => .repeatAfter hoperators fun _ hfound => hoperand.andThen fun _ => .reduceAt hfound rfl

theorem completes_sumOf {operand : Phrase Unit} (h : Completes L operand) : Completes L (Grammar.sumOf operand) :=
  completes_leftGrouped (completes_acceptOperator _ _) (completes_leftGrouped (completes_acceptOperator _ _) h)

theorem completes_expression (dialect : Dialect) (levels : Nat) : Completes L (Grammar.expression dialect levels) := by
  induction levels with
  | zero => exact completes_sumOf (completes_factor (by simp) dialect 0)
  | succ levels ih =>
    exact completes_sumOf (completes_factor (fun inner hinner => by cases hinner; exact ih) dialect (levels + 1))

end GeoFilter
