import GeoFilter.Proofs.Equality
import GeoFilter.Proofs.GeometryText.Reading
import GeoFilter.Proofs.Rereading.Word

/-!
# Shown geometries are read again

The text of a geometry in a filter is a geometry text that writes an equal geometry.
-/

namespace GeoFilter

open Scan (Spells AnyText Ahead EndsWord EndsNumber)

/-! ### Children -/

theorem beq_iff_forall₂ [BEq α] {as bs : List α} :
    (as == bs) = true ↔ List.Forall₂ (fun a b => (a == b) = true) as bs := by
  induction as generalizing bs with
  | nil => cases bs <;> simp
  | cons a as ih => cases bs <;> simp [ih]

section Children

variable {as bs : List α}

theorem eq_map_of_cons {f : List α → List β} {g : α → β} (hnil : f [] = []) (hcons : ∀ a as, f (a :: as) = g a :: f as) :
    f as = as.map g := by
  induction as with
  | nil => exact hnil
  | cons a as ih => rw [hcons, ih, List.map_cons]

theorem same_of_forall₂ {f : List α → List α → Bool} {same : α → α → Bool} (hnil : f [] [] = true)
    (hcons : ∀ a as b bs, f (a :: as) (b :: bs) = (same a b && f as bs))
    (h : List.Forall₂ (fun a b => same a b = true) as bs) : f as bs = true := by
  induction h with
  | nil => exact hnil
  | cons hab _ ih => rw [hcons, hab, ih, Bool.and_self]

theorem depth_lt_of_mem {f : List α → Nat} {depth : α → Nat} (hcons : ∀ a as, f (a :: as) = max (depth a + 1) (f as))
    {a : α} (h : a ∈ as) : depth a + 1 ≤ f as := by
  induction as with
  | nil => cases h
  | cons b as ih =>
    rw [hcons]
    rcases List.mem_cons.mp h with rfl | h
    · omega
    · have := ih h
      omega

end Children

/-! ### Signs and words -/

namespace Scan.Spells

variable {cs : List Char} {ts : List Token} {F : List Char → Prop}

theorem leftParen (h : Spells cs ts F) : Spells ('(' :: cs) (.sign .leftParen :: ts) F := by
  have hsign : Spells ['('] [.sign .leftParen] AnyText := sign (s := .leftParen) (by simp)
  exact hsign.append h fun _ _ => trivial

theorem rightParen (h : Spells cs ts (Ahead [')'])) : Spells (cs ++ [')']) (ts ++ [.sign .rightParen]) F := by
  have hsign : Spells [')'] [.sign .rightParen] AnyText := sign (s := .rightParen) (by simp)
  exact (h.append hsign fun rest _ => Ahead.cons (by simp) rest).mono fun _ _ => trivial

theorem word_paren {word body : String} {token : Token} (hword : Spells word.toList [token] EndsWord)
    (h : Spells ("(" ++ body ++ ")").toList ts F) : Spells (word ++ ("(" ++ body ++ ")")).toList (token :: ts) F := by
  rw [String.toList_append]
  refine hword.append h fun rest _ c hc => ?_
  have hparen : (("(" ++ body ++ ")").toList ++ rest).head? = some '(' := by simp
  rw [hparen] at hc
  cases hc
  decide

theorem comma : Spells [',', ' '] [.sign .comma] AnyText := by
  have hsign : Spells [','] [.sign .comma] AnyText := sign (s := .comma) (by simp)
  exact hsign.append (blank nil) fun _ _ => trivial

end Scan.Spells

abbrev EndsPart : List Char → Prop := Ahead [',', ')']

theorem EndsPart.endsNumber {rest : List Char} (h : EndsPart rest) : EndsNumber rest := by
  intro c hc
  have hc := h c hc
  simp only [List.mem_cons, List.not_mem_nil, or_false] at hc
  rcases hc with rfl | rfl <;> decide

theorem EndsPart.endsWord {rest : List Char} (h : EndsPart rest) : EndsWord rest := by
  intro c hc
  have hc := h c hc
  simp only [List.mem_cons, List.not_mem_nil, or_false] at hc
  rcases hc with rfl | rfl <;> decide

theorem EndsPart.of_closed {rest : List Char} (h : Ahead [')'] rest) : EndsPart rest := by
  intro c hc
  have := h c hc
  simp_all

/-! ### Parts in parentheses -/

theorem spells_commaSeparated {text : β → String} {tokens : β → List Token} {bs : List β}
    (h : ∀ b ∈ bs, Spells (text b).toList (tokens b) EndsPart) :
    Spells (", ".intercalate (bs.map text)).toList (commaTokens tokens bs) EndsPart := by
  cases bs with
  | nil => exact .nil
  | cons b bs =>
    have hspells := Spells.intercalate h Spells.comma fun rest => Ahead.cons (by simp) _
    have htext : (", ".intercalate ((b :: bs).map text)).toList =
        [',', ' '].intercalate ((b :: bs).map fun a => (text a).toList) := by
      rw [String.toList_intercalate, List.map_map]
      rfl
    rw [htext]
    exact hspells

/-- The text of some parts in parentheses is cut into a row of parts that are related to them, if each of them is. -/
theorem exists_row {text : β → String} {tokens : α → List Token} {R : α → β → Prop} {bs : List β} (hne : bs ≠ [])
    (h : ∀ b ∈ bs, ∃ a, Spells (text b).toList (tokens a) EndsPart ∧ R a b) :
    ∃ row : Row α, Spells ("(" ++ ", ".intercalate (bs.map text) ++ ")").toList (row.tokens tokens) AnyText ∧
      List.Forall₂ R row.toList bs := by
  obtain ⟨b, bs, rfl⟩ := List.exists_cons_of_ne_nil hne
  have hα : Nonempty α := ⟨(h b List.mem_cons_self).choose⟩
  choose! part hspells hpart using h
  refine ⟨⟨part b, bs.map part⟩, ?_, ?_⟩
  · have hparts := (spells_commaSeparated hspells).mono fun _ => EndsPart.of_closed
    have hrow := (hparts.rightParen (F := AnyText)).leftParen
    have htokens : commaTokens tokens (part b :: bs.map part) = commaTokens (fun b => tokens (part b)) (b :: bs) := by
      simp [commaTokens, List.flatMap_map]
    rw [Row.tokens, Row.toList, htokens]
    simpa using hrow
  · have hmap : Row.toList ⟨part b, bs.map part⟩ = (b :: bs).map part := rfl
    rw [hmap, List.forall₂_map_left_iff, List.forall₂_same]
    exact hpart

/-- Whether a part of a text writes a value equal to the given one. -/
def Writes [BEq β] (value? : α → Option β) (a : α) (b : β) : Prop := ∃ b', value? a = some b' ∧ (b' == b) = true

theorem exists_values [BEq β] {value? : α → Option β} {row : Row α} {bs : List β}
    (h : List.Forall₂ (Writes value?) row.toList bs) :
    ∃ row', row.values? value? = some row' ∧ (row'.toList == bs) = true := by
  have hmore : ∀ {as : List α} {bs : List β}, List.Forall₂ (Writes value?) as bs →
      ∃ bs', List.Forall₂ (fun a b' => value? a = some b') as bs' ∧
        List.Forall₂ (fun b' b => (b' == b) = true) bs' bs := by
    intro as bs h
    induction h with
    | nil => exact ⟨[], .nil, .nil⟩
    | cons hb _ ih =>
      obtain ⟨b', hvalue, hsame⟩ := hb
      obtain ⟨bs', hvalues, hsames⟩ := ih
      exact ⟨b' :: bs', .cons hvalue hvalues, .cons hsame hsames⟩
  obtain ⟨bs', hvalues, hsames⟩ := hmore h
  rcases bs' with _ | ⟨b', bs'⟩
  · cases hvalues
  · exact ⟨⟨b', bs'⟩, Row.values?_eq_some.mpr hvalues, beq_iff_forall₂.mpr hsames⟩

/-! ### Coordinates -/

theorem Coordinate.IsFinite.exists_position {p : Coordinate} (h : p.IsFinite) :
    ∃ q : Position, Spells p.toText.toList q.tokens EndsNumber ∧ (q.coordinate == p) = true := by
  obtain ⟨x, hx, hxvalue⟩ := exists_signedNumber_of_ordinate h.1
  obtain ⟨y, hy, hyvalue⟩ := exists_signedNumber_of_ordinate h.2
  refine ⟨⟨x, y⟩, ?_, Bool.and_eq_true_iff.mpr ⟨hxvalue, hyvalue⟩⟩
  have hspells := hx.append hy.blank fun rest _ c hc => by
    cases hc
    decide
  rw [Coordinate.toText, String.toList_append, String.toList_append, List.append_assoc]
  exact hspells

theorem Coordinate.IsFinite.exists_enclosed {p : Coordinate} (h : p.IsFinite) :
    ∃ q : Position, Spells ("(" ++ p.toText ++ ")").toList (.sign .leftParen :: (q.tokens ++ [.sign .rightParen])) AnyText ∧
      (q.coordinate == p) = true := by
  obtain ⟨q, hq, hsame⟩ := h.exists_position
  have hclosed := hq.mono fun _ hrest => (EndsPart.of_closed hrest).endsNumber
  have henclosed := (hclosed.rightParen (F := AnyText)).leftParen
  exact ⟨q, by simpa using henclosed, hsame⟩

/-! ### Lines and polygons -/

theorem LineString.IsFinite.exists_text {line : LineString} (h : line.IsFinite) :
    ∃ t : LineText, Spells line.toText.toList (t.tokens Position.tokens) AnyText ∧ Writes Row.line? t line := by
  have hne : line.points ≠ [] := by
    intro hnil
    have henough := line.enough
    rw [hnil] at henough
    exact absurd henough (by decide)
  obtain ⟨t, hspells, hpoints⟩ := exists_row hne fun p hp => by
    obtain ⟨q, hq, hsame⟩ := (h p hp).exists_position
    exact ⟨q, hq.mono fun _ => EndsPart.endsNumber, hsame⟩
  have hline : t.IsLine := by
    rw [Row.IsLine, hpoints.length_eq]
    exact line.enough
  obtain ⟨l, hl⟩ := Option.isSome_iff_exists.mp (t.isSome_line?.mpr hline)
  refine ⟨t, hspells, l, hl, ?_⟩
  change (l.points == line.points) = true
  rw [beq_iff_forall₂, Row.line?_eq_some hl, List.forall₂_map_left_iff]
  exact hpoints

theorem forall_of_related {R : α → β → Prop} {P : α → Prop} {Q : β → Prop} {as : List α} {bs : List β}
    (h : List.Forall₂ R as bs) (hbs : ∀ b ∈ bs, Q b) (hP : ∀ a b, R a b → Q b → P a) : ∀ a ∈ as, P a := by
  induction h with
  | nil => exact List.forall_mem_nil _
  | cons hab _ ih =>
    obtain ⟨hb, hbs⟩ := List.forall_mem_cons.mp hbs
    exact List.forall_mem_cons.mpr ⟨hP _ _ hab hb, ih hbs⟩

theorem head_of_forall₂ {R : α → β → Prop} {as : List α} {bs : List β} (h : List.Forall₂ R as bs) :
    Option.Rel R as.head? bs.head? := by
  cases h with
  | nil => exact .none
  | cons hab _ => exact .some hab

theorem getLast_of_forall₂ {R : α → β → Prop} {as : List α} {bs : List β} (h : List.Forall₂ R as bs) :
    Option.Rel R as.getLast? bs.getLast? := by
  rw [List.getLast?_eq_head?_reverse, List.getLast?_eq_head?_reverse]
  exact head_of_forall₂ (List.forall₂_reverse_iff.mpr h)

theorem LineString.ringFault_of_beq {l line : LineString} (h : (l == line) = true) (hring : line.ringFault? = none) :
    l.ringFault? = none := by
  have hpoints : List.Forall₂ (fun p q => (p == q) = true) l.points line.points := beq_iff_forall₂.mp h
  have hclosed : line.isClosed = true → l.isClosed = true := by
    have hfirst := head_of_forall₂ hpoints
    have hlast := getLast_of_forall₂ hpoints
    unfold isClosed
    generalize l.points.head? = p at hfirst
    generalize l.points.getLast? = q at hlast
    generalize line.points.head? = p' at hfirst
    generalize line.points.getLast? = q' at hlast
    intro hsame
    cases hfirst with
    | none =>
      cases hlast with
      | none => rfl
      | some => cases hsame
    | some hp =>
      cases hlast with
      | none => cases hsame
      | some hq =>
        have hsame' := BEq.trans (α := Coordinate) (BEq.trans hp hsame) (BEq.symm hq)
        exact hsame'
  unfold ringFault? at hring ⊢
  rw [hpoints.length_eq]
  split at hring
  case isTrue => cases hring
  case isFalse hlong =>
    rw [if_neg hlong]
    split at hring
    case isTrue hline => exact if_pos (hclosed hline)
    case isFalse => cases hring

theorem Polygon.Compiled.exists_text {region : Polygon} (h : region.Compiled) :
    ∃ t : PolygonText, Spells region.toText.toList (t.tokens (Row.tokens Position.tokens)) AnyText ∧
      Writes Row.polygon? t region := by
  obtain ⟨t, hspells, hrings⟩ := exists_row (List.cons_ne_nil _ _) fun ring hring => by
    obtain ⟨t, hspells, hline⟩ := (h ring hring).1.exists_text
    exact ⟨t, hspells.mono fun _ _ => trivial, hline⟩
  obtain ⟨lines, hlines, hsame⟩ := exists_values hrings
  have hrelated : List.Forall₂ (fun l ring => (l == ring) = true) lines.toList (region.shell :: region.holes) :=
    beq_iff_forall₂.mp hsame
  have hfaults : ∀ line ∈ lines.toList, line.ringFault? = none :=
    forall_of_related hrelated (fun ring hring => (h ring hring).2) fun _ _ => LineString.ringFault_of_beq
  obtain ⟨p, hp⟩ := Option.isSome_iff_exists.mp ((Row.isSome_ofRings lines.first lines.others).mpr hfaults)
  refine ⟨t, hspells, p, ?_, ?_⟩
  · rw [Row.polygon?, hlines]
    exact hp
  · have hparts : p.shell = lines.first ∧ p.holes = lines.others := by
      unfold Polygon.ofRings at hp
      split at hp
      · cases hp
      · cases hp
        exact ⟨rfl, rfl⟩
    have hpair : (p.shell == region.shell) = true ∧ (p.holes == region.holes) = true := by
      rw [hparts.1, hparts.2]
      cases hrelated with
      | cons hshell hholes => exact ⟨hshell, beq_iff_forall₂.mpr hholes⟩
    exact Bool.and_eq_true_iff.mpr hpair

/-! ### Geometries -/

/-- The keyword of a kind of geometry text as it is shown. -/
def Shape.symbol : Shape → String
  | point => "POINT"
  | lineString => "LINESTRING"
  | polygon => "POLYGON"
  | multiPoint => "MULTIPOINT"
  | multiLineString => "MULTILINESTRING"
  | multiPolygon => "MULTIPOLYGON"
  | collection => "GEOMETRYCOLLECTION"

theorem Shape.isPlainWord_symbol (shape : Shape) : Scan.IsPlainWord shape.symbol.toList := by
  cases shape <;> exact Scan.isPlainWord_of_all rfl (by decide) rfl

def Shape.word (shape : Shape) : ShapeWord shape := ⟨shape.symbol, Keyword.ofText_of_mem (by cases shape <;> simp [Keyword.table, symbol])⟩

/-- The keyword of a kind of geometry text with a text in parentheses behind it. -/
theorem Shape.spells (shape : Shape) {text body : String} {ts : List Token}
    (h : Spells ("(" ++ body ++ ")").toList ts AnyText) (htext : text = shape.symbol ++ ("(" ++ body ++ ")")) :
    Spells text.toList (shape.word.token :: ts) AnyText := by
  have hword : Spells shape.symbol.toList [shape.word.token] EndsWord := .word shape.isPlainWord_symbol
  rw [htext]
  exact hword.word_paren h

theorem append_paren (word body : String) : word ++ "(" ++ body ++ ")" = word ++ ("(" ++ body ++ ")") := by
  rw [String.append_assoc, String.append_assoc, String.append_assoc]

theorem GeometryText.tokens_collection (word : ShapeWord .collection) (members : Row GeometryText) :
    (GeometryText.collection word members.first members.others).tokens = word.token :: members.tokens tokens := by
  rw [tokens, moreTokens_eq]
  rfl

theorem GeometryText.value?_collection (word : ShapeWord .collection) (members : Row GeometryText) :
    (GeometryText.collection word members.first members.others).value? =
      (members.values? value?).map fun gs => .collection gs.toList := by
  rw [value?, Row.values?, values?_eq]
  cases members.first.value? <;> cases members.others.mapM value? <;> rfl

namespace Geometry

theorem texts_eq (members : List Geometry) : texts members = members.map toText := eq_map_of_cons rfl fun _ _ => rfl

theorem sameList_of_forall₂ {as bs : List Geometry} (h : List.Forall₂ (fun a b => (a == b) = true) as bs) :
    sameList as bs = true := same_of_forall₂ rfl (fun _ _ _ _ => rfl) h

/-- A text of members that have no more collections open than the members of a collection. -/
theorem depthOfAll_lt_membersDepth {ts : List GeometryText} {members : List Geometry} (hne : ts ≠ [])
    (h : List.Forall₂ (fun t member => t.depth ≤ member.depth) ts members) :
    GeometryText.depthOfAll ts + 1 ≤ membersDepth members := by
  induction h with
  | nil => exact absurd rfl hne
  | @cons t member ts members hmember hmore ih =>
    rw [GeometryText.depthOfAll, membersDepth]
    by_cases hnil : ts = []
    · subst hnil
      rw [GeometryText.depthOfAll]
      omega
    · have := ih hnil
      omega

/-- The text of a geometry is cut into a text that writes an equal geometry and has no more collections open. -/
theorem Compiled.exists_text {g : Geometry} (h : g.Compiled) :
    ∃ t : GeometryText, Spells g.toText.toList t.tokens AnyText ∧ Writes GeometryText.value? t g ∧ t.depth ≤ g.depth := by
  induction h with
  | point finite =>
    obtain ⟨p, hp, hsame⟩ := finite.exists_enclosed
    exact ⟨.point (Shape.word .point) p, Shape.spells .point hp (append_paren "POINT" _), ⟨_, rfl, hsame⟩, Nat.le_refl 0⟩
  | lineString finite =>
    obtain ⟨t, hspells, l, hl, hsame⟩ := finite.exists_text
    refine ⟨.lineString (Shape.word .lineString) t, Shape.spells .lineString hspells rfl, ⟨.lineString l, ?_, hsame⟩,
      Nat.le_refl 0⟩
    rw [GeometryText.value?, hl]
    rfl
  | polygon compiled =>
    obtain ⟨t, hspells, p, hp, hsame⟩ := compiled.exists_text
    refine ⟨.polygon (Shape.word .polygon) t, Shape.spells .polygon hspells rfl, ⟨.polygon p, ?_, hsame⟩, Nat.le_refl 0⟩
    rw [GeometryText.value?, hp]
    rfl
  | @multiPoint points nonempty finite =>
    have hpoints : ∀ p ∈ points, ∃ m : MemberPosition, Spells ("(" ++ p.toText ++ ")").toList m.tokens EndsPart ∧
        (m.position.coordinate == p) = true := by
      intro p hp
      obtain ⟨q, hq, hsame⟩ := (finite p hp).exists_enclosed
      exact ⟨⟨q, true⟩, hq.mono fun _ _ => trivial, hsame⟩
    obtain ⟨t, hspells, hsames⟩ := exists_row nonempty hpoints
    refine ⟨.multiPoint (Shape.word .multiPoint) t, Shape.spells .multiPoint hspells (append_paren "MULTIPOINT" _),
      ⟨_, rfl, ?_⟩, Nat.le_refl 0⟩
    have hvalues : (t.toList.map (fun m => m.position.coordinate) == points) = true :=
      beq_iff_forall₂.mpr (List.forall₂_map_left_iff.mpr hsames)
    exact hvalues
  | @multiLineString lines nonempty finite =>
    obtain ⟨t, hspells, hlines⟩ := exists_row nonempty fun line hline => by
      obtain ⟨t, hspells, hwrites⟩ := (finite line hline).exists_text
      exact ⟨t, hspells.mono fun _ _ => trivial, hwrites⟩
    obtain ⟨values, hvalues, hsame⟩ := exists_values hlines
    refine ⟨.multiLineString (Shape.word .multiLineString) t,
      Shape.spells .multiLineString hspells (append_paren "MULTILINESTRING" _), ⟨.multiLineString values.toList, ?_, hsame⟩,
      Nat.le_refl 0⟩
    rw [GeometryText.value?, hvalues]
    rfl
  | @multiPolygon regions nonempty compiled =>
    obtain ⟨t, hspells, hregions⟩ := exists_row nonempty fun region hregion => by
      obtain ⟨t, hspells, hwrites⟩ := (compiled region hregion).exists_text
      exact ⟨t, hspells.mono fun _ _ => trivial, hwrites⟩
    obtain ⟨values, hvalues, hsame⟩ := exists_values hregions
    refine ⟨.multiPolygon (Shape.word .multiPolygon) t,
      Shape.spells .multiPolygon hspells (append_paren "MULTIPOLYGON" _), ⟨.multiPolygon values.toList, ?_, hsame⟩,
      Nat.le_refl 0⟩
    rw [GeometryText.value?, hvalues]
    rfl
  | @collection members nonempty compiled ih =>
    have hmembers : ∀ m ∈ members, ∃ t : GeometryText, Spells m.toText.toList t.tokens EndsPart ∧
        Writes GeometryText.value? t m ∧ t.depth ≤ m.depth := by
      intro m hm
      obtain ⟨t, hspells, hwrites, hdepth⟩ := ih m hm
      exact ⟨t, hspells.mono fun _ _ => trivial, hwrites, hdepth⟩
    obtain ⟨t, hspells, hrelated⟩ := exists_row nonempty hmembers
    obtain ⟨values, hvalues, hsame⟩ := exists_values (hrelated.imp fun _ _ h => h.1)
    refine ⟨.collection (Shape.word .collection) t.first t.others, ?_, ?_, ?_⟩
    · have htext : (Geometry.collection members).toText =
          "GEOMETRYCOLLECTION(" ++ ", ".intercalate (texts members) ++ ")" := rfl
      rw [texts_eq] at htext
      rw [GeometryText.tokens_collection]
      exact Shape.spells .collection hspells (htext.trans (append_paren "GEOMETRYCOLLECTION" _))
    · refine ⟨.collection values.toList, ?_, sameList_of_forall₂ (beq_iff_forall₂.mp hsame)⟩
      rw [GeometryText.value?_collection, hvalues]
      rfl
    · exact depthOfAll_lt_membersDepth (List.cons_ne_nil _ _) (hrelated.imp fun _ _ h => h.2)

end Geometry

end GeoFilter
