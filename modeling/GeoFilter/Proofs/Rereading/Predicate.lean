import GeoFilter.Proofs.Evaluation
import GeoFilter.Proofs.Rereading.Expression
import GeoFilter.Proofs.WellFormed
import GeoFilter.Proofs.Yield.Predicate

/-!
# Shown filters are read again

The text of a predicate is a filter from which an equal predicate is read, if the predicate is one of those that are
shown as filters.
-/

namespace GeoFilter

open Scan (Spells AnyText Ahead EndsWord EndsNumber)

/-! ### Texts -/

section Texts

variable {left right : String} {ts ts' : List Token} {F : List Char → Prop}

theorem spells_blank {chars : List Char} (hblank : ' ' ∈ chars) (h : Spells left.toList ts (Ahead chars))
    (h' : Spells right.toList ts' F) : Spells (left ++ (" " ++ right)).toList (ts ++ ts') F := by
  have hboth := h.append h'.blank fun rest _ => Ahead.cons hblank _
  simpa using hboth

theorem spells_comma (h : Spells left.toList ts EndsValue) (h' : Spells right.toList ts' F) :
    Spells (left ++ (", " ++ right)).toList (ts ++ .sign .comma :: ts') F := by
  have hboth := h.append (Spells.comma.append h' fun _ _ => trivial) fun rest _ => Ahead.cons (by simp) _
  simpa using hboth

theorem spells_enclosed {body : String} (h : Spells body.toList ts EndsValue) :
    Spells ("(" ++ body ++ ")").toList (.sign .leftParen :: (ts ++ [.sign .rightParen])) F := by
  have hclosed := h.mono fun rest (hrest : Ahead [')'] rest) => EndsValue.of_part (EndsPart.of_closed hrest)
  have henclosed := (hclosed.rightParen (F := F)).leftParen
  simpa using henclosed

theorem spells_keyword {word : String} (h : Scan.IsPlainWord word.toList) :
    Spells word.toList [.word word none] EndsValue :=
  (Spells.word h).mono fun _ => EndsValue.endsWord

theorem spells_quoted (s : String) : Spells (Text.singleQuoted s).toList [.quoted s] EndsValue := by
  refine (Spells.quoted s).mono fun rest hrest hquote => ?_
  have := hrest '\'' hquote
  simp at this

end Texts

def EndsTest (r : List Token) : Prop := EndsExpression r ∧ r.head? ≠ some (.sign .equal)

theorem EndsTest.endsTerm {r : List Token} (h : EndsTest r) (x : Expression) : EndsTerm x r := ⟨h.1, fun _ => h.2⟩

theorem EndsTest.not_called {r : List Token} (h : EndsTest r) : (r.head? == some (.sign .leftParen)) = false := by
  have hcalled : ((([] : List NamePart).flatMap NamePart.tokens ++ r).head? == some (.sign .leftParen)) = false :=
    Yields.not_called h.1.endsName
  exact hcalled

/-- Tokens that the text of a predicate is cut into and an equal predicate that is read from them. -/
structure Predicate.RereadAs (u : Setting) (p : Predicate) (ts : List Token) (q : Predicate) : Prop where
  spells : Spells p.toText.toList ts EndsValue
  same : (q == p) = true
  yields : ∀ levels, p.depth ≤ levels → Yields (Translation.negation u levels) ts EndsTest (some q)

variable {u : Setting}

/-! ### Tests -/

theorem simplePredicate_of_leads {keyword? : Option Keyword} {called : Bool}
    (h : ∀ keyword ∈ keyword?, keyword.leadsTest called = true) (levels : Nat) :
    Translation.simplePredicate u levels keyword? called = Translation.valueTest u levels := by
  unfold Translation.simplePredicate
  split <;> first | rfl | exact absurd (h _ rfl) Bool.false_ne_true

theorem yields_operand {x y : Expression} {ts : List Token} {levels : Nat} (hx : x.RereadAs u true ts y)
    (hecql : u.dialect = .ecql) (hdepth : x.depth ≤ levels) :
    Yields (Translation.operand u levels) ts (EndsTerm x) (some y) :=
  .operand (fun hcql => by rw [hecql] at hcql; cases hcql) (hx.expression hdepth)

theorem yields_negation_test {x y : Expression} {ts more : List Token} {q : Predicate} {levels : Nat}
    (hx : x.RereadAs u true ts y) (hstarts : x.startsTest = true) (hecql : u.dialect = .ecql) (hmore : EndsName more)
    (hne : more ≠ []) (h : Yields (Translation.valueTest u levels) (ts ++ more) EndsTest (some q)) :
    Yields (Translation.negation u levels) (ts ++ more) EndsTest (some q) := by
  obtain ⟨token, ts, rfl, _, hleads⟩ := hx.opens
  obtain ⟨hnot, hclosing, hkeyword⟩ := hleads rfl hstarts more hmore
  rw [List.cons_append] at h ⊢
  refine .negation_simple hnot (hecql ▸ hclosing) (fun r _ => ?_) (simplePredicate_of_leads hkeyword levels ▸ h)
  rw [List.head?_append_of_ne_nil _ (List.append_ne_nil_of_right_ne_nil ts hne)]

namespace Predicate

theorem RereadAs.of_test {x y : Expression} {ts more : List Token} {p q : Predicate} {body : String}
    (hx : x.RereadAs u true ts y) (hstarts : x.startsTest = true) (hecql : u.dialect = .ecql)
    (htext : p.toText = x.toText ++ (" " ++ body)) (hbody : Spells body.toList more EndsValue) (hmore : EndsName more)
    (hne : more ≠ []) (hsame : (q == p) = true)
    (h : ∀ levels, p.depth ≤ levels → Yields (Translation.valueTest u levels) (ts ++ more) EndsTest (some q)) :
    p.RereadAs u (ts ++ more) q where
  spells := by
    rw [htext]
    exact spells_blank (by simp) hx.spells hbody
  same := hsame
  yields levels hlevels := yields_negation_test hx hstarts hecql hmore hne (h levels hlevels)

theorem reread_comparison (hu : u.IsPlain) (hecql : u.dialect = .ecql) {op : ComparisonOp} {left right : Expression}
    (hleft : ∃ ts y, left.RereadAs u true ts y) (hright : ∃ ts y, right.RereadAs u false ts y)
    (hstarts : left.startsTest = true) (hsrid : op = .eq → left.isSrid = false) :
    ∃ ts q, (comparison op left right).RereadAs u ts q := by
  obtain ⟨ts, x, hx⟩ := hleft
  obtain ⟨ts', y, hy⟩ := hright
  have hsymbol : op.symbol = op.sign.spelling := by cases op <;> rfl
  have htext : (comparison op left right).toText = left.toText ++ (" " ++ (op.symbol ++ (" " ++ right.toText))) := by
    have happend : (comparison op left right).toText = left.toText ++ " " ++ op.symbol ++ " " ++ right.toText := rfl
    simp only [happend, String.append_assoc]
  have hbody : Spells (op.symbol ++ (" " ++ right.toText)).toList (.sign op.sign :: ts') EndsValue := by
    rw [hsymbol]
    exact spells_blank (by simp) (.sign_blank op.sign) hy.spells
  have hends : ∀ r, EndsTerm left (.sign op.sign :: r) := by
    refine fun r => ⟨.cons op.prolongs_sign r, fun hleft => ?_⟩
    cases op with
    | eq => rw [hsrid rfl] at hleft; cases hleft
    | _ => simp [ComparisonOp.sign]
  have hsame : (op == op && x == left && y == right) = true := by simp [hx.same, hy.same]
  refine ⟨_, .comparison op x y, .of_test hx hstarts hecql htext hbody (hends []).1.endsName (List.cons_ne_nil _ _) hsame ?_⟩
  intro levels hlevels
  have hdepth : max left.depth right.depth ≤ levels := hlevels
  have hoperand : Yields (Translation.operand u levels) ts (EndsTerm left) (some x) := yields_operand hx hecql (by omega)
  have hbehind : Yields (Translation.expression u levels) ts' EndsTest (some y) :=
    (hy.expression (by omega)).mono fun r hr => hr.endsTerm right
  have htest := hoperand.comparison hu.permits op hends hbehind
  rw [hu.factory] at htest
  exact htest

theorem reread_isNull (hu : u.IsPlain) (hecql : u.dialect = .ecql) {value : Expression}
    (hvalue : ∃ ts y, value.RereadAs u true ts y) (hstarts : value.startsTest = true) :
    ∃ ts q, (isNull value).RereadAs u ts q := by
  obtain ⟨ts, x, hx⟩ := hvalue
  have hIS : Spells "IS".toList [.word "IS" none] EndsValue :=
    spells_keyword (Scan.isPlainWord_of_all rfl (by decide) rfl)
  have hNULL : Spells "NULL".toList [.word "NULL" none] EndsValue :=
    spells_keyword (Scan.isPlainWord_of_all rfl (by decide) rfl)
  have htext : (isNull value).toText = value.toText ++ (" " ++ ("IS" ++ (" " ++ "NULL"))) := rfl
  refine ⟨_, .isNull x, .of_test hx hstarts hecql htext (spells_blank (by simp) hIS hNULL) (.cons rfl _)
    (List.cons_ne_nil _ _) hx.same fun levels hlevels => ?_⟩
  have hoperand : Yields (Translation.operand u levels) ts (EndsTerm value) (some x) := yields_operand hx hecql hlevels
  have htest := hoperand.isNull (F := EndsTest) hu.permits fun r => ⟨.cons rfl r, by simp⟩
  rw [hu.factory] at htest
  exact htest

theorem reread_like (hu : u.IsPlain) (hecql : u.dialect = .ecql) {value : Expression} {pattern : String}
    {ignoringCase : Bool} (hvalue : ∃ ts y, value.RereadAs u true ts y) (hstarts : value.startsTest = true) :
    ∃ ts q, (like value pattern ignoringCase).RereadAs u ts q := by
  obtain ⟨ts, x, hx⟩ := hvalue
  have hplain : Scan.IsPlainWord (if ignoringCase then "ILIKE" else "LIKE").toList := by
    cases ignoringCase <;> exact Scan.isPlainWord_of_all rfl (by decide) rfl
  set word := if ignoringCase then "ILIKE" else "LIKE"
  have htext : (like value pattern ignoringCase).toText =
      value.toText ++ (" " ++ (word ++ (" " ++ Text.singleQuoted pattern))) := by
    have happend : (like value pattern ignoringCase).toText =
        value.toText ++ (if ignoringCase then " ILIKE " else " LIKE ") ++ Text.singleQuoted pattern := rfl
    have hblanks : (if ignoringCase then " ILIKE " else " LIKE ") = " " ++ (word ++ " ") := by
      cases ignoringCase <;> rfl
    rw [happend, hblanks]
    simp only [String.append_assoc]
  have hsame : (x == value && pattern == pattern && ignoringCase == ignoringCase) = true := by simp [hx.same]
  refine ⟨_, .like x pattern ignoringCase, .of_test hx hstarts hecql htext
    (spells_blank (by simp) (spells_keyword hplain) (spells_quoted pattern)) (.cons rfl _) (List.cons_ne_nil _ _) hsame
    fun levels hlevels => ?_⟩
  have hoperand : Yields (Translation.operand u levels) ts (EndsTerm value) (some x) := yields_operand hx hecql hlevels
  have htest := hoperand.like (F := EndsTest) hu.permits (fun word r => ⟨.cons rfl r, by simp⟩) pattern ignoringCase
  rw [hu.factory] at htest
  exact htest

theorem reread_between (hu : u.IsPlain) (hecql : u.dialect = .ecql) {value lower upper : Expression}
    (hvalue : ∃ ts y, value.RereadAs u true ts y) (hlower : ∃ ts y, lower.RereadAs u false ts y)
    (hupper : ∃ ts y, upper.RereadAs u false ts y) (hstarts : value.startsTest = true) :
    ∃ ts q, (between value lower upper).RereadAs u ts q := by
  obtain ⟨ts, x, hx⟩ := hvalue
  obtain ⟨lows, y, hy⟩ := hlower
  obtain ⟨highs, z, hz⟩ := hupper
  have hBETWEEN : Spells "BETWEEN".toList [.word "BETWEEN" none] EndsValue :=
    spells_keyword (Scan.isPlainWord_of_all rfl (by decide) rfl)
  have hAND : Spells "AND".toList [.word "AND" none] EndsValue :=
    spells_keyword (Scan.isPlainWord_of_all rfl (by decide) rfl)
  have htext : (between value lower upper).toText =
      value.toText ++ (" " ++ ("BETWEEN" ++ (" " ++ (lower.toText ++ (" " ++ ("AND" ++ (" " ++ upper.toText))))))) := by
    have happend : (between value lower upper).toText =
        value.toText ++ " BETWEEN " ++ lower.toText ++ " AND " ++ upper.toText := rfl
    have hwords : " BETWEEN " = " " ++ ("BETWEEN" ++ " ") ∧ " AND " = " " ++ ("AND" ++ " ") := ⟨rfl, rfl⟩
    rw [happend, hwords.1, hwords.2]
    simp only [String.append_assoc]
  have hbody := spells_blank (by simp) hBETWEEN
    (spells_blank (by simp) hy.spells (spells_blank (by simp) hAND hz.spells))
  have hsame : (x == value && y == lower && z == upper) = true := by simp [hx.same, hy.same, hz.same]
  refine ⟨_, .between x y z, .of_test hx hstarts hecql htext hbody (.cons rfl _) (List.cons_ne_nil _ _) hsame
    fun levels hlevels => ?_⟩
  have hdepth : max value.depth (max lower.depth upper.depth) ≤ levels := hlevels
  have hoperand : Yields (Translation.operand u levels) ts (EndsTerm value) (some x) := yields_operand hx hecql (by omega)
  have hbound : Yields (Translation.expression u levels) lows (EndsTerm lower) (some y) := hy.expression (by omega)
  have hbehind : Yields (Translation.expression u levels) highs EndsTest (some z) :=
    (hz.expression (by omega)).mono fun r hr => hr.endsTerm upper
  have htest := hoperand.between hu.permits (fun r => ⟨.cons rfl r, by simp⟩) hbound (fun r => ⟨.cons rfl r, by simp⟩) hbehind
  rw [hu.factory] at htest
  exact htest

/-! ### Predicates that start with a keyword -/

theorem reread_word {p : Predicate} {keyword : Keyword} (hkeyword : Keyword.ofText? p.toText = some keyword)
    (hnot : keyword ≠ .NOT) (hword : Scan.IsPlainWord p.toText.toList)
    (hsame : (p == p) = true)
    (h : ∀ levels, Yields (Translation.simplePredicate u levels (some keyword) false) [.word p.toText none] EndsTest (some p)) :
    ∃ ts q, p.RereadAs u ts q := by
  refine ⟨[.word p.toText none], p, spells_keyword hword, hsame, fun levels _ => ?_⟩
  have hclosing : Grammar.closingSign? u.dialect (.word p.toText none) = none := by cases u.dialect <;> rfl
  refine .negation_simple (Token.isWord_not_of_keyword hkeyword hnot) hclosing (fun r hr => hr.not_called) ?_
  have hkeyword' : (Token.word p.toText none).keyword? = some keyword := hkeyword
  rw [hkeyword']
  exact h levels

theorem reread_includeAll (hu : u.IsPlain) : ∃ ts q, includeAll.RereadAs u ts q := by
  have hkeyword : Keyword.ofText? "INCLUDE" = some .INCLUDE := Keyword.ofText_of_mem (by simp [Keyword.table])
  refine reread_word hkeyword nofun (Scan.isPlainWord_of_all rfl (by decide) rfl) rfl
    fun levels => ?_
  have hincluded : Yields (Translation.simplePredicate u levels (some .INCLUDE) false) [.word "INCLUDE" none] EndsTest
      (some u.kit.factory.includeAll) := .next_bind fun _ => .complete hu.permits _ _ _
  rw [hu.factory] at hincluded
  exact hincluded

theorem reread_excludeAll (hu : u.IsPlain) : ∃ ts q, excludeAll.RereadAs u ts q := by
  have hkeyword : Keyword.ofText? "EXCLUDE" = some .EXCLUDE := Keyword.ofText_of_mem (by simp [Keyword.table])
  refine reread_word hkeyword nofun (Scan.isPlainWord_of_all rfl (by decide) rfl) rfl
    fun levels => ?_
  have hexcluded : Yields (Translation.simplePredicate u levels (some .EXCLUDE) false) [.word "EXCLUDE" none] EndsTest
      (some u.kit.factory.excludeAll) := .next_bind fun _ => .complete hu.permits _ _ _
  rw [hu.factory] at hexcluded
  exact hexcluded

theorem reread_spatial (hu : u.IsPlain) (hecql : u.dialect = .ecql) {op : SpatialOp} (hop : op ≠ .bbox)
    {left right : Expression} (hleft : ∃ ts y, left.RereadAs u false ts y) (hright : ∃ ts y, right.RereadAs u false ts y) :
    ∃ ts q, (spatial op left right).RereadAs u ts q := by
  obtain ⟨ts, x, hx⟩ := hleft
  obtain ⟨ts', y, hy⟩ := hright
  have hkeyword : Keyword.ofText? op.symbol = some (.relation op) := by
    refine Keyword.ofText_of_mem ?_
    cases op <;> simp_all [Keyword.table, SpatialOp.routines]
  have hplain : Scan.IsPlainWord op.symbol.toList := by
    cases op <;> exact Scan.isPlainWord_of_all rfl (by decide) rfl
  refine ⟨.word op.symbol none :: .sign .leftParen :: (ts ++ .sign .comma :: (ts' ++ [.sign .rightParen])),
    .spatial op x y, ?_, ?_, fun levels hlevels => Yields.negation_called hkeyword nofun ?_⟩
  · have htext : (spatial op left right).toText =
        op.symbol ++ ("(" ++ (left.toText ++ (", " ++ right.toText)) ++ ")") := by
      have happend : (spatial op left right).toText =
          op.symbol ++ "(" ++ left.toText ++ ", " ++ right.toText ++ ")" := rfl
      simp only [happend, String.append_assoc]
    have hcall := (Spells.word hplain).word_paren (spells_enclosed (F := EndsValue) (spells_comma hx.spells hy.spells))
    rw [htext]
    simpa using hcall
  · have hsame : (op == op && x == left && y == right) = true := by simp [hx.same, hy.same]
    exact hsame
  · have hdepth : max left.depth right.depth ≤ levels := hlevels
    have hleft : Yields (Translation.expression u levels) ts (Followed [.comma, .rightParen]) (some x) :=
      hx.part (by omega)
    have hright : Yields (Translation.expression u levels) ts' (Followed [.comma, .rightParen]) (some y) :=
      hy.part (by omega)
    have hspatial := Yields.spatial (F := EndsTest) hecql hleft hright hu op.symbol op
    rw [hu.factory] at hspatial
    exact hspatial

theorem exists_unitWords (units : DistanceUnits) : ∃ first words,
    DistanceUnits.ofText? (" ".intercalate (first :: words)) = some units ∧
      Spells units.symbol.toList (wordTokens (first :: words)) EndsValue := by
  have hmiles : Spells "miles".toList [.word "miles" none] EndsValue :=
    spells_keyword (Scan.isPlainWord_of_all rfl (by decide) rfl)
  cases units with
  | meters =>
    exact ⟨"meters", [], by decide +kernel, spells_keyword (Scan.isPlainWord_of_all rfl (by decide) rfl)⟩
  | kilometers =>
    exact ⟨"kilometers", [], by decide +kernel, spells_keyword (Scan.isPlainWord_of_all rfl (by decide) rfl)⟩
  | feet =>
    exact ⟨"feet", [], by decide +kernel, spells_keyword (Scan.isPlainWord_of_all rfl (by decide) rfl)⟩
  | statuteMiles =>
    have hstatute : Spells "statute".toList [.word "statute" none] EndsValue :=
      spells_keyword (Scan.isPlainWord_of_all rfl (by decide) rfl)
    have hsymbol : DistanceUnits.statuteMiles.symbol = "statute" ++ (" " ++ "miles") := rfl
    exact ⟨"statute", ["miles"], by decide +kernel, hsymbol ▸ spells_blank (by simp) hstatute hmiles⟩
  | nauticalMiles =>
    have hnautical : Spells "nautical".toList [.word "nautical" none] EndsValue :=
      spells_keyword (Scan.isPlainWord_of_all rfl (by decide) rfl)
    have hsymbol : DistanceUnits.nauticalMiles.symbol = "nautical" ++ (" " ++ "miles") := rfl
    exact ⟨"nautical", ["miles"], by decide +kernel, hsymbol ▸ spells_blank (by simp) hnautical hmiles⟩

theorem reread_distance (hu : u.IsPlain) (hecql : u.dialect = .ecql) {op : DistanceOp} {left right : Expression}
    {d : Float} {units : DistanceUnits} (hleft : ∃ ts y, left.RereadAs u false ts y)
    (hright : ∃ ts y, right.RereadAs u false ts y) (hfinite : d.isFinite = true) :
    ∃ ts q, (distance op left right d units).RereadAs u ts q := by
  obtain ⟨ts, x, hx⟩ := hleft
  obtain ⟨ts', y, hy⟩ := hright
  obtain ⟨n, hn, hvalue⟩ := exists_signedNumber_of_float hfinite
  obtain ⟨first, words, hunits, hwords⟩ := exists_unitWords units
  have hplain : Scan.IsPlainWord op.symbol.toList := by
    cases op <;> exact Scan.isPlainWord_of_all rfl (by decide) rfl
  refine ⟨.word op.symbol none :: .sign .leftParen :: (ts ++ .sign .comma :: (ts' ++ .sign .comma :: (n.tokens ++
    .sign .comma :: (wordTokens (first :: words) ++ [.sign .rightParen])))),
    .distance op x y n.value.toFloat units, ?_, ?_, fun levels hlevels => ?_⟩
  · have htext : (distance op left right d units).toText = op.symbol ++ ("(" ++
        (left.toText ++ (", " ++ (right.toText ++ (", " ++ (Decimal.showFloat d ++ (", " ++ units.symbol)))))) ++ ")") := by
      have happend : (distance op left right d units).toText = op.symbol ++ "(" ++ left.toText ++ ", " ++ right.toText ++
        ", " ++ Decimal.showFloat d ++ ", " ++ units.symbol ++ ")" := rfl
      simp only [happend, String.append_assoc]
    have hnumber := hn.mono fun _ => EndsValue.endsNumber
    have hbody := spells_comma hx.spells (spells_comma hy.spells (spells_comma hnumber hwords))
    have hcall := (Spells.word hplain).word_paren (spells_enclosed (F := EndsValue) hbody)
    rw [htext]
    simpa using hcall
  · have hnumber : (n.value.toFloat == d) = true := by
      cases hn' : n.value with
      | double y =>
        rw [hn'] at hvalue
        exact hvalue
      | _ =>
        rw [hn'] at hvalue
        cases hvalue
    have hsame : (op == op && x == left && y == right && n.value.toFloat == d && units == units) = true := by
      simp [hx.same, hy.same, hnumber]
    exact hsame
  · have hdepth : max left.depth right.depth ≤ levels := hlevels
    have hleft : Yields (Translation.expression u levels) ts (Followed [.comma, .rightParen]) (some x) :=
      hx.part (by omega)
    have hright : Yields (Translation.expression u levels) ts' (Followed [.comma, .rightParen]) (some y) :=
      hy.part (by omega)
    have hdistance := Yields.distance (F := EndsTest) hecql hleft hright hu.permits op.symbol op n hunits
    rw [hu.factory] at hdistance
    cases op with
    | dwithin =>
      have hkeyword : Keyword.ofText? "DWITHIN" = some .DWITHIN := Keyword.ofText_of_mem (by simp [Keyword.table])
      exact Yields.negation_called hkeyword nofun hdistance
    | beyond =>
      have hkeyword : Keyword.ofText? "BEYOND" = some .BEYOND := Keyword.ofText_of_mem (by simp [Keyword.table])
      exact Yields.negation_called hkeyword nofun hdistance

theorem reread_featureIds (hu : u.IsPlain) (hecql : u.dialect = .ecql) (id : String) (ids : List String) :
    ∃ ts q, (featureIds (.ofList (id :: ids))).RereadAs u ts q := by
  -- Only the first occurrences are shown, and these are all seen for the first time when they are read.
  obtain ⟨more, hmore⟩ : ∃ more, FeatureIdSet.firstSeen (id :: ids) = id :: more := ⟨_, rfl⟩
  have hsame : FeatureIdSet.ofList (id :: ids) = FeatureIdSet.ofList (id :: more) := by
    have hnodup := FeatureIdSet.nodup_firstSeen (id :: ids)
    rw [FeatureIdSet.ofList, FeatureIdSet.ofList, ← hmore, FeatureIdSet.firstSeen_of_nodup hnodup]
  have hkeyword : Keyword.ofText? "IN" = some .IN := Keyword.ofText_of_mem (by simp [Keyword.table])
  refine ⟨.word "IN" none :: .sign .leftParen :: (commaTokens (fun id => [.quoted id]) (id :: more) ++ [.sign .rightParen]),
    .featureIds (.ofList (id :: more)), ?_, ?_, fun levels _ => Yields.negation_called hkeyword nofun ?_⟩
  · have htext : (featureIds (.ofList (id :: ids))).toText =
        "IN" ++ (" " ++ ("(" ++ ", ".intercalate ((id :: more).map Text.singleQuoted) ++ ")")) := by
      have happend : (featureIds (.ofList (id :: ids))).toText = "IN (" ++
        ", ".intercalate ((FeatureIdSet.firstSeen (id :: ids)).map Text.singleQuoted) ++ ")" := rfl
      have hword : "IN (" = "IN" ++ (" " ++ "(") := rfl
      rw [happend, hmore, hword]
      simp only [String.append_assoc]
    have hid : ∀ i ∈ id :: more, Spells (Text.singleQuoted i).toList [.quoted i] EndsPart :=
      fun i _ => (spells_quoted i).mono fun _ => EndsValue.of_part
    have hids := ((spells_commaSeparated hid).mono fun _ => EndsPart.of_closed).rightParen (F := EndsValue)
    have hIN : Spells "IN".toList [.word "IN" none] EndsValue :=
      spells_keyword (Scan.isPlainWord_of_all rfl (by decide) rfl)
    rw [htext]
    refine spells_blank (by simp) hIN ?_
    simpa using hids.leftParen
  · rw [hsame]
    have hset : (FeatureIdSet.ofList (id :: more) == FeatureIdSet.ofList (id :: more)) = true := beq_self_eq_true _
    exact hset
  · have hids := Yields.featureIds (F := EndsTest) hu.permits "IN" ⟨id, more⟩ Token.quoted fun _ _ => rfl
    have htexts : (Row.mk id more).toList.map (fun i => (Token.quoted i).text) = id :: more := List.map_id' _
    rw [hu.factory, htexts] at hids
    unfold Translation.simplePredicate
    dsimp only
    rw [hecql]
    exact hids

/-! ### Negations, conjunctions and disjunctions -/

theorem reread_not (hu : u.IsPlain) {child : Predicate} (h : ∃ ts q, child.RereadAs u ts q) :
    ∃ ts q, (not child).RereadAs u ts q := by
  obtain ⟨ts, q, hq⟩ := h
  have hNOT : Spells "NOT".toList [.word "NOT" none] EndsValue :=
    spells_keyword (Scan.isPlainWord_of_all rfl (by decide) rfl)
  have htext : (not child).toText = "NOT" ++ (" " ++ child.toText) := rfl
  refine ⟨.word "NOT" none :: ts, .not q, ?_, hq.same, fun levels hlevels => ?_⟩
  · rw [htext]
    exact spells_blank (by simp) hNOT hq.spells
  · have hdepth : child.depth + 1 ≤ levels := hlevels
    obtain ⟨levels, rfl⟩ : ∃ n, levels = n + 1 := ⟨levels - 1, by omega⟩
    have hnot := Yields.negation_not hu.permits (hq.yields levels (by omega))
    rw [hu.factory] at hnot
    exact hnot

theorem texts_eq (children : List Predicate) : texts children = children.map toText := eq_map_of_cons rfl fun _ _ => rfl

theorem sameList_of_forall₂ {ps qs : List Predicate} (h : List.Forall₂ (fun p q => (p == q) = true) ps qs) :
    sameList ps qs = true := same_of_forall₂ rfl (fun _ _ _ _ => rfl) h

theorem depth_lt_childrenDepth {child : Predicate} {children : List Predicate} (h : child ∈ children) :
    child.depth + 1 ≤ childrenDepth children := depth_lt_of_mem (fun _ _ => rfl) h

theorem conjuncts_of_same {p q : Predicate} (h : (q == p) = true) (hp : p.conjuncts = [p]) : q.conjuncts = [q] := by
  refine conjuncts_of_ne fun children hq => ?_
  subst hq
  cases p with
  | and ps =>
    have hps : ps = [.and ps] := hp
    have := congrArg sizeOf hps
    simp at this
    omega
  | _ => cases h

theorem disjuncts_of_same {p q : Predicate} (h : (q == p) = true) (hp : p.disjuncts = [p]) : q.disjuncts = [q] := by
  refine disjuncts_of_ne fun children hq => ?_
  subst hq
  cases p with
  | or ps =>
    have hps : ps = [.or ps] := hp
    have := congrArg sizeOf hps
    simp at this
    omega
  | _ => cases h

/-- Several predicates that do not take in children of each other make one node of them all. -/
theorem combined_flat {node : List Predicate → Predicate} {parts : Predicate → List Predicate}
    {combine : Predicate → Predicate → Predicate} (hnode : ∀ ps, parts (node ps) = ps)
    (hcombine : ∀ p q, parts p ≠ [] → parts q ≠ [] → combine p q = node (parts p ++ parts q)) {row : Row δ}
    {value : δ → Predicate} (hrow : ∀ a ∈ row.toList, parts (value a) = [value a]) (hseveral : row.others ≠ []) :
    row.combined combine value = node (row.toList.map value) := by
  have hfold : ∀ (more : List δ) (ps : List Predicate), ps ≠ [] → (∀ a ∈ more, parts (value a) = [value a]) →
      (more.map value).foldl combine (node ps) = node (ps ++ more.map value) := by
    intro more
    induction more with
    | nil => exact fun ps _ _ => by rw [List.map_nil, List.append_nil, List.foldl_nil]
    | cons a more ih =>
      intro ps hps hmore
      obtain ⟨ha, hmore⟩ := List.forall_mem_cons.mp hmore
      have hnext : combine (node ps) (value a) = node (ps ++ [value a]) := by
        rw [hcombine _ _ (by rwa [hnode]) (by simp [ha]), hnode, ha]
      rw [List.map_cons, List.foldl_cons, hnext, ih _ (by simp) hmore, List.append_assoc]
      rfl
  obtain ⟨a, more⟩ := row
  obtain ⟨b, more, rfl⟩ := List.exists_cons_of_ne_nil hseveral
  obtain ⟨ha, hmore⟩ := List.forall_mem_cons.mp hrow
  obtain ⟨hb, hmore⟩ := List.forall_mem_cons.mp hmore
  have hfirst : combine (value a) (value b) = node [value a, value b] := by
    rw [hcombine _ _ (by simp [ha]) (by simp [hb]), ha, hb]
    rfl
  rw [Row.combined, List.map_cons, List.foldl_cons, hfirst]
  exact hfold more [value a, value b] (List.cons_ne_nil _ _) hmore

section Connectives

variable {x : Predicate} {xs : List Predicate} {tokens : Predicate → List Token} {value : Predicate → Predicate}
  {levels : Nat} (hu : u.IsPlain)
  (hitem : ∀ c ∈ x :: xs, Yields (Translation.negation u levels) (tokens c) EndsTest (some (value c)))

theorem ends_of_closed {r : List Token} (h : Followed [.rightParen] r) :
    EndsTest r ∧ ∀ word, Without (Token.isWord word) r := by
  refine ⟨ends_of_followed (h.mono fun _ => List.mem_cons_of_mem _), fun word token htoken => ?_⟩
  obtain ⟨r', rfl⟩ : ∃ r', r = token :: r' := List.head?_eq_some_iff.mp htoken
  obtain ⟨sign, _, rfl⟩ := h token r' rfl
  rfl

include hu hitem

theorem yields_filter_and (hflat : ∀ c ∈ x :: xs, (value c).conjuncts = [value c]) (hseveral : xs ≠ []) :
    Yields (Translation.filter u levels) (Row.joinedTokens (.word "AND" none) tokens ⟨x, xs⟩) (Followed [.rightParen])
      (some (.and ((x :: xs).map value))) := by
  have hconjunction : Yields (Translation.joined u "AND" .and flatAnd (Translation.negation u levels))
      (Row.joinedTokens (.word "AND" none) tokens ⟨x, xs⟩) (Followed [.rightParen])
      (some (Row.combined flatAnd value ⟨x, xs⟩)) :=
    .joined hu.permits rfl hitem (fun r => ⟨.cons rfl r, by simp⟩) (fun r hr => (ends_of_closed hr).1)
      fun r hr => (ends_of_closed hr).2 "AND"
  have hcombined : Row.combined flatAnd value ⟨x, xs⟩ = .and ((x :: xs).map value) :=
    combined_flat (fun _ => rfl) (fun _ _ _ _ => rfl) hflat hseveral
  rw [hcombined] at hconjunction
  rw [Translation.filter, Translation.disjunctionOf, hu.factory]
  -- The conjunction is the only disjunct.
  exact hconjunction.joined_single fun r hr => (ends_of_closed hr).2 "OR"

theorem yields_filter_or (hflat : ∀ c ∈ x :: xs, (value c).disjuncts = [value c]) (hseveral : xs ≠ []) :
    Yields (Translation.filter u levels) (Row.joinedTokens (.word "OR" none) tokens ⟨x, xs⟩) (Followed [.rightParen])
      (some (.or ((x :: xs).map value))) := by
  -- Every disjunct is a conjunction of one child.
  have hconjunction : ∀ c ∈ x :: xs, Yields (Translation.joined u "AND" .and flatAnd (Translation.negation u levels))
      (tokens c) (fun r => EndsTest r ∧ Without (Token.isWord "AND") r) (some (value c)) :=
    fun c hc => ((hitem c hc).mono fun _ hr => hr.1).joined_single fun _ hr => hr.2
  have hdisjunction : Yields (Translation.joined u "OR" .or (fun p q => flatOr [p, q])
        (Translation.joined u "AND" .and flatAnd (Translation.negation u levels)))
      (Row.joinedTokens (.word "OR" none) tokens ⟨x, xs⟩) (Followed [.rightParen])
      (some (Row.combined (fun p q => flatOr [p, q]) value ⟨x, xs⟩)) :=
    .joined hu.permits rfl hconjunction (fun r => ⟨⟨.cons rfl r, by simp⟩, .cons rfl r⟩)
      (fun r hr => ⟨(ends_of_closed hr).1, (ends_of_closed hr).2 "AND"⟩) fun r hr => (ends_of_closed hr).2 "OR"
  have hcombined : Row.combined (fun p q => flatOr [p, q]) value ⟨x, xs⟩ = .or ((x :: xs).map value) :=
    combined_flat (fun _ => rfl) (fun _ _ => flatOr_pair) hflat hseveral
  rw [hcombined] at hdisjunction
  rw [Translation.filter, Translation.disjunctionOf, hu.factory]
  exact hdisjunction

end Connectives

/-- A node of several children, which is shown with a word between them, is read again, if a filter with this word makes
a node of the children that are read. -/
theorem reread_node (node : List Predicate → Predicate) (word : String) {parts : Predicate → List Predicate}
    (hword : Scan.IsPlainWord word.toList)
    (htext : ∀ ps, (node ps).toText = "(" ++ (" " ++ (word ++ " ")).intercalate (texts ps) ++ ")")
    (hdepth : ∀ ps, (node ps).depth = childrenDepth ps) (hsame : ∀ ps qs, (node ps == node qs) = sameList ps qs)
    (hparts : ∀ {p q : Predicate}, (q == p) = true → parts p = [p] → parts q = [q])
    (hfilter : ∀ {levels : Nat} {tokens : Predicate → List Token} {value : Predicate → Predicate} {x : Predicate}
      {xs : List Predicate},
      (∀ c ∈ x :: xs, Yields (Translation.negation u levels) (tokens c) EndsTest (some (value c))) →
      (∀ c ∈ x :: xs, parts (value c) = [value c]) → xs ≠ [] →
      Yields (Translation.filter u levels) (Row.joinedTokens (.word word none) tokens ⟨x, xs⟩) (Followed [.rightParen])
        (some (node ((x :: xs).map value))))
    {children : List Predicate} (several : 2 ≤ children.length) (flat : ∀ c ∈ children, parts c = [c])
    (h : ∀ c ∈ children, ∃ ts q, c.RereadAs u ts q) : ∃ ts q, (node children).RereadAs u ts q := by
  obtain ⟨x, y, ys, rfl⟩ : ∃ x y ys, children = x :: y :: ys := by
    match children, several with
    | x :: y :: ys, _ => exact ⟨x, y, ys, rfl⟩
  have hpredicate : Nonempty Predicate := ⟨.includeAll⟩
  choose! tokens value h using h
  refine ⟨.sign .leftParen :: (Row.joinedTokens (.word word none) tokens ⟨x, y :: ys⟩ ++ [.sign .rightParen]),
    node ((x :: y :: ys).map value), ?_, ?_, fun levels hlevels => ?_⟩
  · have hblank : Spells [' '] [] AnyText := .blank .nil
    have hbetween := ((Spells.word hword).append hblank fun rest _ c hc => by cases hc; decide).blank
    have hjoined := Spells.intercalate (fun c hc => (h c hc).spells) hbetween fun rest => Ahead.cons (by simp) _
    rw [htext, texts_eq]
    apply spells_enclosed
    rw [String.toList_intercalate, List.map_map]
    simpa [Row.joinedTokens, Function.comp_def] using hjoined
  · rw [hsame]
    apply sameList_of_forall₂
    rw [List.forall₂_map_left_iff, List.forall₂_same]
    exact fun c hc => (h c hc).same
  · have hlevel : ∀ c ∈ x :: y :: ys, c.depth + 1 ≤ levels :=
      fun c hc => Nat.le_trans (depth_lt_childrenDepth hc) (hdepth _ ▸ hlevels)
    -- One of the levels is for the parentheses around the children.
    have hpos := hlevel x List.mem_cons_self
    obtain ⟨levels, rfl⟩ : ∃ n, levels = n + 1 := ⟨levels - 1, by omega⟩
    have hitem := fun c hc => (h c hc).yields levels (Nat.le_of_succ_le_succ (hlevel c hc))
    have hflat := fun c hc => hparts (h c hc).same (flat c hc)
    exact .negation_group (hfilter hitem hflat (List.cons_ne_nil y ys))

/-! ### Predicates -/

theorem areRereadable_iff {ps : List Predicate} : areRereadable ps = true ↔ ∀ p ∈ ps, p.isRereadable = true := by
  induction ps with
  | nil => simp [areRereadable]
  | cons p ps ih => rw [areRereadable, Bool.and_eq_true, ih, List.forall_mem_cons]

/-- The text of a predicate of a statement is a negation from which an equal predicate is read, if it is rereadable. -/
theorem Compiled.reread (hu : u.IsPlain) (hecql : u.dialect = .ecql) {p : Predicate} (h : p.Compiled u.kit.resolver)
    (hre : p.isRereadable = true) : ∃ ts q, p.RereadAs u ts q := by
  induction h with
  | includeAll => exact reread_includeAll hu
  | excludeAll => exact reread_excludeAll hu
  | and several _ flat ih =>
    have hall := areRereadable_iff.mp hre
    exact reread_node .and "AND" (Scan.isPlainWord_of_all rfl (by decide) rfl) (fun _ => rfl) (fun _ => rfl)
      (fun _ _ => rfl) conjuncts_of_same (yields_filter_and hu) several flat fun c hc => ih c hc (hall c hc)
  | or several _ flat ih =>
    have hall := areRereadable_iff.mp hre
    exact reread_node .or "OR" (Scan.isPlainWord_of_all rfl (by decide) rfl) (fun _ => rfl) (fun _ => rfl)
      (fun _ _ => rfl) disjuncts_of_same (yields_filter_or hu) several flat fun c hc => ih c hc (hall c hc)
  | not _ ih => exact reread_not hu (ih hre)
  | @comparison op left right hleft hright =>
    have hboth : (left.startsTest && !(op == .eq && left.isSrid)) = true := hre
    simp only [Bool.and_eq_true, Bool.not_eq_true', Bool.and_eq_false_iff, beq_eq_false_iff_ne] at hboth
    refine reread_comparison hu hecql (hleft.reread hu hecql) (hright.reread hu hecql) hboth.1 fun heq => ?_
    exact hboth.2.resolve_left (absurd heq)
  | @spatial op left right operands =>
    have hop : op ≠ .bbox := bne_iff_ne.mp hre
    obtain ⟨hleft, hright⟩ := operands hop
    exact reread_spatial hu hecql hop (hleft.reread hu hecql) (hright.reread hu hecql)
  | distance hleft hright finite =>
    exact reread_distance hu hecql (hleft.reread hu hecql) (hright.reread hu hecql) finite
  | featureIds => exact reread_featureIds hu hecql _ _
  | isNull hvalue => exact reread_isNull hu hecql (hvalue.reread hu hecql) hre
  | like hvalue => exact reread_like hu hecql (hvalue.reread hu hecql) hre
  | between hvalue hlower hupper =>
    exact reread_between hu hecql (hvalue.reread hu hecql) (hlower.reread hu hecql) (hupper.reread hu hecql) hre

end Predicate

end GeoFilter
