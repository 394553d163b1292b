import GeoFilter.Proofs.FirstSeen
import GeoFilter.Proofs.Membership.Statement
import GeoFilter.Proofs.Rereading.Statement

/-!
# Lists of identifiers

ID and a list of identifiers, in the extended dialect also IN and such a list, make one set of the identifiers: those of
the list in the order in which they are first seen, and of no list in front of it.  The text of the set is read as the
set again.
-/

namespace GeoFilter

/-- What is written for the identifier of a feature. -/
inductive Identifier where
  /-- A text between single quotes. -/
  | quoted (text : String)
  /-- A number without sign; `long` if it has the mark of a long integer. -/
  | number (text : String) (long : Bool)
  /-- A word, with the quote around it if there is one. -/
  | word (text : String) (quote : Option Char)

namespace Identifier

def token : Identifier → Token
  | quoted text => .quoted text
  | number text long => .number text long
  | word text quote => .word text quote

def text : Identifier → String
  | quoted text | number text _ | word text _ => text

theorem text_token (id : Identifier) : id.token.text = id.text := by cases id <;> rfl

theorem isFeatureId_iff {token : Token} : Grammar.isFeatureId token = true ↔ ∃ id : Identifier, id.token = token := by
  refine ⟨fun h => ?_, ?_⟩
  · cases token with
    | quoted text => exact ⟨quoted text, rfl⟩
    | number text long => exact ⟨number text long, rfl⟩
    | word text quote => exact ⟨word text quote, rfl⟩
    | _ => cases h
  · rintro ⟨id, rfl⟩
    cases id <;> rfl

end Identifier

/-- Whether a word in front of a list makes it a list of identifiers. -/
def ListsIdentifiers (dialect : Dialect) (word : String) : Prop :=
  Keyword.ofText? word = some .ID ∨ dialect = .ecql ∧ Keyword.ofText? word = some .IN

def identifierTokens (word : String) (ids : Row Identifier) : List Token :=
  .word word none :: ids.tokens fun id => [id.token]

def identifierSet (ids : Row Identifier) : FeatureIdSet := .ofList (ids.toList.map Identifier.text)

theorem Yields.identifiers {u : Setting} (hu : u.IsPlain) {levels : Nat} {word : String}
    (hword : ListsIdentifiers u.dialect word) (ids : Row Identifier) :
    Yields (Translation.negation u levels) (identifierTokens word ids) ClosesOperand
      (some (.featureIds (identifierSet ids))) := by
  have hlist := Yields.featureIds (F := ClosesOperand) hu.permits word ids Identifier.token
    fun id _ => Identifier.isFeatureId_iff.mpr ⟨id, rfl⟩
  have htexts : (ids.toList.map fun id => id.token.text) = ids.toList.map Identifier.text :=
    List.map_congr_left fun id _ => id.text_token
  rw [htexts, hu.factory] at hlist
  rcases hword with hword | ⟨hecql, hword⟩
  · exact Yields.negation_called hword nofun hlist
  · refine Yields.negation_called hword nofun ?_
    unfold Translation.simplePredicate
    dsimp only
    rw [hecql]
    exact hlist

/-- The text of a set of identifiers compiles to the set, whatever their characters are. -/
theorem shown_identifiers_compiled {reader : Compiler} (hreader : reader.toolkit.factory = .plain)
    (hecql : reader.dialect = .ecql) (id : String) (ids : List String) :
    (reader.compileFilter (Predicate.featureIds (.ofList (id :: ids))).toText).result =
      .ok (.featureIds (.ofList (id :: ids))) := by
  have hu : reader.setting.IsPlain := Compiler.isPlain_setting hreader
  obtain ⟨ts, q, hq⟩ := Predicate.reread_featureIds hu hecql id ids
  obtain rfl : q = .featureIds (.ofList (id :: ids)) := by
    cases q with
    | featureIds s => exact congrArg Predicate.featureIds (eq_of_beq hq.same)
    | _ => cases hq.same
  obtain ⟨lexemes, hscan, htokens⟩ := (hq.spells.cuts nofun).scan
  exact (hq.filter (Nat.zero_le _)).compileFilter rfl hscan htokens

theorem evaluate_identifierSet [RegexLibrary] (ids : Row Identifier) (feature : Feature) :
    ∃ truth, Predicate.evaluate feature (.featureIds (identifierSet ids)) = .ok truth ∧
      (truth = true ↔ ∃ id ∈ ids.toList, id.text = feature.id) := by
  refine ⟨(identifierSet ids).contains feature.id, by rw [Predicate.evaluate], ?_⟩
  rw [FeatureIdSet.contains, List.contains_iff_mem]
  exact FeatureIdSet.mem_firstSeen.trans List.mem_map

/-- **Lists of identifiers.**  In each dialect, ID and any list of quoted texts, numbers and words, and in the extended
dialect also IN and such a list, compile to a set: the identifiers of the list, each once, in the order in which they
first occur.  Behind any filter and OR, which may end with another such list, they compile to the disjunction of the
filter and that same set.  The set is true of a feature if the identifier of the feature is one of the list, and false
otherwise.  Its text compiles to the same set in the extended dialect, whatever characters the identifiers have. -/
theorem identifiers_compiled [RegexLibrary] {compiler : Compiler} (hplain : compiler.toolkit.factory = .plain)
    {word : String} (hword : ListsIdentifiers compiler.dialect word) (ids : Row Identifier) :
    ∃ s : FeatureIdSet, FeatureIdSet.AreFirstSeen (ids.toList.map Identifier.text) s.ids ∧
      (∀ statement L, scan statement = .ok L → tokensOf L = identifierTokens word ids →
        (compiler.compileFilter statement).result = .ok (.featureIds s)) ∧
      (∀ front q l back statement, compiler.MakesFilter maxNesting front q → l.token.isWord "OR" = true →
        scan statement = .ok (front ++ l :: back) → tokensOf back = identifierTokens word ids →
        (compiler.compileFilter statement).result = .ok (TreeFactory.plain.or q (.featureIds s))) ∧
      (∀ feature, ∃ truth, Predicate.evaluate feature (.featureIds s) = .ok truth ∧
        (truth = true ↔ ∃ id ∈ ids.toList, id.text = feature.id)) ∧
      ∀ reader : Compiler, reader.toolkit.factory = .plain → reader.dialect = .ecql →
        (reader.compileFilter (Predicate.featureIds s).toText).result = .ok (.featureIds s) := by
  have hu : compiler.setting.IsPlain := Compiler.isPlain_setting hplain
  have hidentifiers : Yields (Translation.negation compiler.setting maxNesting) (identifierTokens word ids) ClosesOperand
      (some (.featureIds (identifierSet ids))) := Yields.identifiers hu hword ids
  refine ⟨identifierSet ids, FeatureIdSet.areFirstSeen_firstSeen _, fun statement L hscan htokens => ?_,
    fun front q l back statement hq hl hscan hback => ?_, evaluate_identifierSet ids, fun reader hreader hecql => ?_⟩
  · exact hidentifiers.conjunction.filter_of_conjunction.compileFilter rfl hscan htokens
  · rw [compileFilter_eq_ok_iff hscan, makesFilter_iff]
    have hlist := Yields.disjunct (fun _ => rfl) hl hidentifiers hback
    rw [filter_append (makesFilter_iff.mp hq) hl hlist, List.foldl_cons, List.foldl_nil, hu.factory]
  · exact shown_identifiers_compiled hreader hecql _ _

/-- Repeated identifiers of all kinds, alone and behind a list that has one of them, too. -/
theorem identifiers_compiled_repeated :
    let compiler : Compiler := ⟨.ecql, ⟨.plain, CrsRegistry.wellKnown.resolver⟩⟩
    ∃ q s, (compiler.compileFilter "ID(y, 7)").result = .ok q ∧ s.ids = ["7", "x", "it's"] ∧
      (compiler.compileFilter "in ('7', x, 7L, 'it''s', x)").result = .ok (.featureIds s) ∧
      (compiler.compileFilter "ID(y, 7) OR in ('7', x, 7L, 'it''s', x)").result =
        .ok (TreeFactory.plain.or q (.featureIds s)) ∧
      Predicate.evaluate ⟨"it's", fun _ => none⟩ (.featureIds s) = .ok true ∧
      (compiler.compileFilter "IN ('7', 'x', 'it''s')").result = .ok (.featureIds s) := by
  intro compiler
  let lexemes (statement : String) : List Lexeme := (scan statement).toOption.getD []
  let ids : Row Identifier := ⟨.quoted "7", [.word "x" none, .number "7" true, .quoted "it's", .word "x" none]⟩
  obtain ⟨q, hq⟩ : ∃ q, (compiler.compileFilter "ID(y, 7)").result = .ok q := exists_ok_of_isSome (by decide +kernel)
  have hfront : compiler.MakesFilter maxNesting (lexemes "ID(y, 7)") q :=
    (compileFilter_eq_ok_iff (by decide +kernel)).mp hq
  have hword : ListsIdentifiers compiler.dialect "in" := .inr ⟨rfl, by decide +kernel⟩
  obtain ⟨⟨firsts⟩, hfirsts, halone, hbehind, htruth, hshown⟩ := @identifiers_compiled _ compiler rfl "in" hword ids
  obtain rfl : firsts = ["7", "x", "it's"] :=
    hfirsts.unique (FeatureIdSet.areFirstSeen_firstSeen ["7", "x", "7", "it's", "x"])
  obtain ⟨truth, hevaluate, htrue⟩ := htruth ⟨"it's", fun _ => none⟩
  obtain rfl : truth = true := htrue.mpr ⟨.quoted "it's", by simp [ids, Row.toList], rfl⟩
  refine ⟨q, ⟨["7", "x", "it's"]⟩, hq, rfl,
    halone _ (lexemes "in ('7', x, 7L, 'it''s', x)") (by decide +kernel) rfl, ?_, hevaluate, hshown compiler rfl rfl⟩
  exact hbehind _ q ⟨.word "OR" none, ⟨1, 10⟩⟩ (lexemes "            in ('7', x, 7L, 'it''s', x)") _ hfront
    (by decide +kernel) (by decide +kernel) (by decide +kernel)

end GeoFilter
