import GeoFilter.Proofs.Row
import GeoFilter.Proofs.Translation.Predicate
import GeoFilter.Proofs.Yield.Expression

/-!
# What filters come to

Tests, negations, groups and predicates with AND or OR between them, whose parts are known.
-/

namespace GeoFilter

def ComparisonOp.sign : ComparisonOp → Sign
  | eq => .equal
  | notEq => .notEqual
  | lt => .less
  | ltEq => .lessEqual
  | gt => .greater
  | gtEq => .greaterEqual

def wordTokens (words : List String) : List Token := words.map fun word => .word word none

theorem ComparisonOp.signOperator_sign (op : ComparisonOp) : Grammar.signOperator? op.sign = some op := by
  cases op <;> rfl

theorem ComparisonOp.prolongs_sign (op : ComparisonOp) : (Token.sign op.sign).prolongs = false := by
  cases op <;> rfl

namespace Yields

open Translation (read)

variable {u : Setting} {levels : Nat} {ts ts' : List Token} {F G : List Token → Prop} {p : Predicate}

/-! ### Tests -/

theorem operand {x : Expression} (hproperty : u.dialect = .cql → Yields (Translation.propertyName u) ts F (some x))
    (hexpression : Yields (Translation.expression u levels) ts F (some x)) :
    Yields (Translation.operand u levels) ts F (some x) := by
  unfold Translation.operand
  split
  case h_1 hdialect => exact hproperty hdialect
  case h_2 => exact hexpression

theorem operand_attribute (hpermits : ∀ red, u.permits red = true) {name : String} (hfree : Keyword.ofText? name = none) :
    Yields (Translation.operand u levels) [.word name none] EndsExpression (some (u.kit.factory.property [name])) := by
  have hname : (Token.word name none).truth? = none := by
    have hkeyword : (Token.word name none).keyword? = none := hfree
    rw [Token.truth?, hkeyword]
  have hsrid : Keyword.ofText? name ≠ some .SRID := by simp [hfree]
  have hproperty : Yields (Translation.propertyName u) [.word name none] EndsExpression
      (some (u.kit.factory.property [name])) :=
    (Yields.propertyName hpermits name none []).mono fun _ hr => hr.endsName
  refine operand (fun _ => hproperty) (expression_of_factor (fun _ hr => hr) ?_)
  exact factor_property hpermits [] hname (fun _ hr => hr.endsName) fun _ _ h => absurd h hsrid

theorem comparison (hpermits : ∀ red, u.permits red = true) (op : ComparisonOp) {x y : Expression}
    (hleft : Yields (Translation.operand u levels) ts G (some x)) (hG : ∀ r, G (.sign op.sign :: r))
    (hright : Yields (Translation.expression u levels) ts' F (some y)) :
    Yields (Translation.valueTest u levels) (ts ++ .sign op.sign :: ts') F
      (some (u.kit.factory.compare op x y)) := by
  have hop : Grammar.comparisonOperator? u.dialect (.sign op.sign) = some op := op.signOperator_sign
  have htest : Yields (Translation.testOf u levels x) (.sign op.sign :: ts') F
      (some (u.kit.factory.compare op x y)) := by
    refine peek_bind ?_
    dsimp only
    rw [hop]
    exact next_bind fun place => hright.bind_pure (g := fun _ => _) fun z hz => by
      cases hz
      exact complete hpermits _ _ _
  exact hleft.bind_some htest fun r _ => hG _

theorem keyword_test {word : String} {keyword : Keyword} (hkeyword : Keyword.ofText? word = some keyword)
    (hoperator : ∀ op, keyword ≠ .comparison op) {x : Expression}
    (hleft : Yields (Translation.operand u levels) ts G (some x)) (hG : ∀ r, G (.word word none :: r))
    (htest : Yields (Translation.keywordTest u levels x (some keyword)) (.word word none :: ts') F (some p)) :
    Yields (Translation.valueTest u levels) (ts ++ .word word none :: ts') F (some p) := by
  have hkeyword' : (Token.word word none).keyword? = some keyword := hkeyword
  have hnone : Grammar.comparisonOperator? u.dialect (.word word none) = none := by
    unfold Grammar.comparisonOperator?
    dsimp only
    rw [hkeyword']
    split
    case h_1 op _ heq => exact absurd (Option.some.inj heq) (hoperator op)
    case h_2 => rfl
  have htestOf : Yields (Translation.testOf u levels x) (.word word none :: ts') F (some p) := by
    apply peek_bind
    dsimp only
    rw [hnone]
    dsimp only
    rw [hkeyword']
    exact htest
  exact hleft.bind_some htestOf fun r _ => hG _

theorem isNull (hpermits : ∀ red, u.permits red = true) {x : Expression}
    (hleft : Yields (Translation.operand u levels) ts G (some x)) (hG : ∀ r, G (.word "IS" none :: r)) :
    Yields (Translation.valueTest u levels) (ts ++ [.word "IS" none, .word "NULL" none]) F
      (some (u.kit.factory.isNull x)) := by
  have hIS : Keyword.ofText? "IS" = some .IS := Keyword.ofText_of_mem (by simp [Keyword.table])
  refine keyword_test hIS nofun hleft hG (next_bind fun place => ?_)
  have hNOT : (Token.word "NULL" none).isWord "NOT" = false := rfl
  refine acceptIf_none_bind (fun r _ => .cons hNOT _) ?_
  exact expectIf_bind rfl fun _ => complete hpermits _ _ _

theorem like (hpermits : ∀ red, u.permits red = true) {x : Expression}
    (hleft : Yields (Translation.operand u levels) ts G (some x)) (hG : ∀ word r, G (.word word none :: r))
    (pattern : String) (ignoringCase : Bool) :
    Yields (Translation.valueTest u levels)
      (ts ++ [.word (if ignoringCase then "ILIKE" else "LIKE") none, .quoted pattern]) F
      (some (u.kit.factory.like x pattern ignoringCase)) := by
  have hlike : ∀ production token, Yields (Translation.like u production ignoringCase false x token) [.quoted pattern] F
      (some (u.kit.factory.like x pattern ignoringCase)) := by
    intro production token
    refine expectIf_bind rfl fun place => ?_
    have hpattern : Yields (Translation.complete u .stringLiteral [⟨pattern, place⟩] (.ok ())) [] Anything (some ()) :=
      complete hpermits _ _ _
    exact hpattern.bind_nil (complete hpermits _ _ _) fun _ _ => trivial
  cases ignoringCase with
  | false =>
    have hLIKE : Keyword.ofText? "LIKE" = some .LIKE := Keyword.ofText_of_mem (by simp [Keyword.table])
    exact keyword_test hLIKE nofun hleft (hG _) (next_bind fun _ => hlike _ _)
  | true =>
    have hILIKE : Keyword.ofText? "ILIKE" = some .ILIKE := Keyword.ofText_of_mem (by simp [Keyword.table])
    exact keyword_test hILIKE nofun hleft (hG _) (next_bind fun _ => hlike _ _)

theorem between (hpermits : ∀ red, u.permits red = true) {x lower upper : Expression} {lows highs : List Token}
    (hleft : Yields (Translation.operand u levels) ts G (some x)) (hG : ∀ r, G (.word "BETWEEN" none :: r))
    {H : List Token → Prop} (hlower : Yields (Translation.expression u levels) lows H (some lower))
    (hH : ∀ r, H (.word "AND" none :: r)) (hupper : Yields (Translation.expression u levels) highs F (some upper)) :
    Yields (Translation.valueTest u levels) (ts ++ .word "BETWEEN" none :: (lows ++ .word "AND" none :: highs)) F
      (some (u.kit.factory.between x lower upper)) := by
  have hBETWEEN : Keyword.ofText? "BETWEEN" = some .BETWEEN := Keyword.ofText_of_mem (by simp [Keyword.table])
  refine keyword_test hBETWEEN nofun hleft hG (next_bind fun place => ?_)
  have hbehind : Yields (read (Phrase.expectWord "AND") >>= fun _ => do
        let high ← Translation.expression u levels
        Translation.complete u .between [⟨"BETWEEN", place⟩]
          (.ok (negatedWhen u.kit.factory false (u.kit.factory.between x lower high))))
      (.word "AND" none :: highs) F (some (u.kit.factory.between x lower upper)) := by
    refine expectIf_bind rfl fun _ => ?_
    exact hupper.bind_pure (g := fun high => some (u.kit.factory.between x lower high)) fun _ _ => complete hpermits _ _ _
  exact hlower.bind_some hbehind fun r _ => hH _

section Candidates

variable (hpermits : ∀ red, u.permits red = true) {row : Row δ} {tokens : δ → List Token} {value : δ → Expression}
  (hitem : ∀ c ∈ row.toList, Yields (Translation.expression u levels) (tokens c) (Followed [.comma, .rightParen])
    (some (value c))) (hne : ∀ c ∈ row.toList, tokens c ≠ [])

include hpermits hitem hne

theorem inList (production : Production) (negated : Bool) (left : Expression) (token : SourceToken) :
    Yields (Translation.inList u levels production negated left token) (row.tokens tokens) F
      (some (negatedWhen u.kit.factory negated (anyOf u.kit.factory left (row.toList.map value)))) := by
  have hmember : ∀ c ∈ row.toList, Yields (Translation.listMember u levels) (tokens c)
      (Followed [.comma, .rightParen]) (some (value c)) := by
    intro c hc
    refine here_bind (hne c hc) fun token => ?_
    have hcompleted := (hitem c hc).bind_pure (g := some) fun x _ => complete (u := u) hpermits .inListMember [token] x
    exact hcompleted
  have hlist := (commaSeparated (by decide) hmember).parenthesized (F := F)
  have hvalues : row.others.mapM (fun c => some (value c)) = some (row.others.map value) := List.mapM_pure
  rw [hvalues] at hlist
  exact hlist.bind_pure
    (g := fun v => some (negatedWhen u.kit.factory negated (anyOf u.kit.factory left (v.1 :: v.2)))) fun _ _ =>
    complete hpermits _ _ _

variable {x : Expression} (hleft : Yields (Translation.operand u levels) ts G (some x))

include hleft

theorem among {word : String} (hword : Keyword.ofText? word = some .IN) (hG : ∀ r, G (.word word none :: r)) :
    Yields (Translation.valueTest u levels) (ts ++ .word word none :: row.tokens tokens) F
      (some (anyOf u.kit.factory x (row.toList.map value))) :=
  keyword_test hword nofun hleft hG (next_bind fun _ => inList hpermits hitem hne _ false x _)

theorem notAmong {not word : String} (hnot : Keyword.ofText? not = some .NOT) (hword : Keyword.ofText? word = some .IN)
    (hG : ∀ r, G (.word not none :: r)) :
    Yields (Translation.valueTest u levels) (ts ++ .word not none :: .word word none :: row.tokens tokens) F
      (some (u.kit.factory.not (anyOf u.kit.factory x (row.toList.map value)))) := by
  refine keyword_test hnot nofun hleft hG (next_bind fun _ => peek_bind ?_)
  have hkeyword : (Token.word word none).keyword? = some .IN := hword
  simp only [Option.bind_some, hkeyword]
  exact next_bind fun _ => inList hpermits hitem hne _ true x _

end Candidates

/-! ### Predicates that start with a keyword -/

theorem featureIds (hpermits : ∀ red, u.permits red = true) (word : String) (row : Row δ) (token : δ → Token)
    (htoken : ∀ x ∈ row.toList, Grammar.isFeatureId (token x) = true) :
    Yields (Translation.featureIds u) (.word word none :: row.tokens fun x => [token x]) F
      (some (u.kit.factory.featureIds (row.toList.map fun x => (token x).text))) := by
  have hid : ∀ x ∈ row.toList,
      Yields (Translation.featureId u) [token x] (Followed [.comma, .rightParen]) (some (token x).text) :=
    fun x hx => expectIf_bind (htoken x hx) fun _ => complete hpermits _ _ _
  have hids := (commaSeparated (by decide) hid).parenthesized (F := F)
  have hvalues : row.others.mapM (fun x => some (token x).text) = some (row.others.map fun x => (token x).text) :=
    List.mapM_pure
  rw [hvalues] at hids
  exact next_bind fun _ => hids.bind_pure (g := fun v => some (u.kit.factory.featureIds (v.1 :: v.2))) fun _ _ =>
    complete hpermits _ _ _

section Ecql

variable (hecql : u.dialect = .ecql) {x y : Expression}
  (hleft : Yields (Translation.expression u levels) ts (Followed [.comma, .rightParen]) (some x))
  (hright : Yields (Translation.expression u levels) ts' (Followed [.comma, .rightParen]) (some y))

include hecql hleft hright

theorem operands_bind {f : Expression → Expression → Translation β} {more : List Token} {w? : Option β}
    (hf : Yields (f x y) more F w?) (hmore : ∀ r, Followed [.comma, .rightParen] (more ++ r)) :
    Yields (read (Phrase.require .leftParen) >>= fun _ => do
        let left ← Translation.operand u levels
        read (Phrase.require .comma)
        let right ← Translation.geometryOperand u levels
        f left right)
      (.sign .leftParen :: (ts ++ .sign .comma :: (ts' ++ more))) F w? := by
  have hoperand : Yields (Translation.operand u levels) ts (Followed [.comma, .rightParen]) (some x) :=
    operand (fun hcql => by rw [hecql] at hcql; cases hcql) hleft
  have hgeometry : Yields (Translation.geometryOperand u levels) ts' (Followed [.comma, .rightParen]) (some y) := by
    rw [Translation.geometryOperand, hecql]
    exact hright
  exact require_bind (hoperand.bind_some (require_bind (hgeometry.bind_some hf fun r _ => hmore r))
    fun r _ => followed_cons (by simp) _)

theorem spatial (hu : u.IsPlain) (word : String) (op : SpatialOp) :
    Yields (Translation.spatial u levels op)
      (.word word none :: .sign .leftParen :: (ts ++ .sign .comma :: (ts' ++ [.sign .rightParen]))) F
      (some (u.kit.factory.spatial op x y)) := by
  refine next_bind fun place => operands_bind hecql hleft hright (require_bind ?_) fun r => followed_cons (by simp) r
  rw [Translation.spatialRight_plain hu.factory]
  exact complete hu.permits _ _ _

omit hecql hleft hright in
theorem unitWords_bind {f : List SourceToken → Translation β} {word : String} {words : List String}
    (hf : ∀ tokens, tokens.map SourceToken.text = word :: words → Yields (f tokens) ts F w?)
    (hts : ∀ r, F r → Without Grammar.isAnyWord (ts ++ r)) :
    Yields (read Grammar.unitWords >>= f) (wordTokens (word :: words) ++ ts) F w? := by
  have hleading : ∀ (words : List String) (input : List Lexeme) (r : List Token),
      tokensOf input = wordTokens words ++ r → Without Grammar.isAnyWord r →
      ∃ tokens rest, Grammar.leadingWords input = (tokens, rest) ∧ tokens.map SourceToken.text = words ∧ tokensOf rest = r := by
    intro words
    induction words with
    | nil =>
      intro input r htokens hr
      obtain rfl : tokensOf input = r := htokens
      refine ⟨[], input, ?_, rfl, rfl⟩
      cases input with
      | nil => rfl
      | cons l input =>
        have hl : Grammar.isAnyWord l.token = false := hr l.token rfl
        rw [Grammar.leadingWords, hl]
        rfl
    | cons word words ih =>
      intro input r htokens hr
      obtain ⟨place, rest, rfl, hrest⟩ := tokensOf_eq_cons htokens
      obtain ⟨tokens, rest', hleading, htexts, hrest'⟩ := ih rest r hrest hr
      refine ⟨⟨word, place⟩ :: tokens, rest', ?_, by simp [htexts], hrest'⟩
      rw [Grammar.leadingWords, hleading]
      rfl
  intro input r htokens hr
  rw [List.append_assoc] at htokens
  obtain ⟨tokens, rest, hleading, htexts, hrest⟩ := hleading _ input _ htokens (hts r hr)
  have hread : (Grammar.unitWords input).outcome = .ok (tokens, rest) := by
    obtain ⟨token, tokens, rfl⟩ : ∃ token tokens', tokens = token :: tokens' :=
      List.exists_cons_of_ne_nil fun hnil => by simp [hnil] at htexts
    rw [Grammar.unitWords, hleading]
  rw [Translation.bind_of_ok (Translation.read_of_ok hread)]
  exact hf tokens htexts rest r hrest hr

theorem distance (hpermits : ∀ red, u.permits red = true) (word : String) (op : DistanceOp) (d : SignedNumber)
    {units : DistanceUnits} {first : String} {words : List String}
    (hunits : DistanceUnits.ofText? (" ".intercalate (first :: words)) = some units) :
    Yields (Translation.distance u levels op)
      (.word word none :: .sign .leftParen :: (ts ++ .sign .comma :: (ts' ++ .sign .comma :: (d.tokens ++ .sign .comma ::
        (wordTokens (first :: words) ++ [.sign .rightParen]))))) F
      (some (u.kit.factory.distance op x y d.value.toFloat units)) := by
  refine next_bind fun place => operands_bind hecql hleft hright (require_bind ?_) fun r => followed_cons (by simp) _
  refine (signedLiteral (F := Anything) hpermits d).bind_some (require_bind ?_) fun _ _ => trivial
  refine unitWords_bind (fun tokens htokens => require_bind ?_) fun r _ => .cons rfl _
  obtain ⟨token, tokens, rfl⟩ : ∃ token tokens', tokens = token :: tokens' :=
    List.exists_cons_of_ne_nil fun hnil => by simp [hnil] at htokens
  have hdistant : distant u.kit.factory op x y d.value token tokens =
      .ok (u.kit.factory.distance op x y d.value.toFloat units) := by
    unfold distant
    dsimp only
    rw [htokens, hunits]
  rw [List.headD_cons, List.tail_cons, hdistant]
  exact complete hpermits _ _ _

end Ecql

theorem commaBound (hpermits : ∀ red, u.permits red = true) (n : SignedNumber) :
    Yields (Translation.commaBound u) (.sign .comma :: n.tokens) F (some n.value) :=
  require_bind (signedLiteral hpermits n)

theorem referenceSystem_none_bind {f : List SourceToken → Translation β} {w? : Option β}
    (hf : Yields (f []) [.sign .rightParen] F w?) :
    Yields (read Grammar.referenceSystem? >>= f) [.sign .rightParen] F w? := by
  refine look_bind [] (fun input r htokens _ => ?_) hf
  obtain ⟨place, rest, rfl, _⟩ := tokensOf_eq_cons htokens
  rfl

theorem bbox (hpermits : ∀ red, u.permits red = true) (word : String) {x : Expression}
    (hleft : Yields (Translation.operand u levels) ts (Followed [.comma]) (some x)) (minX minY maxX maxY : SignedNumber) :
    Yields (Translation.bbox u levels) (.word word none :: .sign .leftParen :: (ts ++
        (.sign .comma :: minX.tokens ++ (.sign .comma :: minY.tokens ++ (.sign .comma :: maxX.tokens ++
          (.sign .comma :: maxY.tokens ++ [.sign .rightParen])))))) F
      (some (u.kit.factory.spatial .bbox x (u.kit.factory.literal (.geometry ⟨rectangle minX.value.toFloat
        maxX.value.toFloat minY.value.toFloat maxY.value.toFloat, none⟩)))) := by
  have hbound : ∀ n : SignedNumber, Yields (Translation.commaBound u) (.sign .comma :: n.tokens) Anything (some n.value) :=
    fun n => commaBound hpermits n
  refine next_bind fun place => require_bind (hleft.bind_some ?_ fun r _ => followed_cons (by simp) _)
  refine (hbound minX).bind_some ((hbound minY).bind_some ((hbound maxX).bind_some ((hbound maxY).bind_some ?_ ?_) ?_) ?_) ?_
  · exact referenceSystem_none_bind (require_bind (complete hpermits _ _ _))
  all_goals exact fun _ _ => trivial

/-! ### Groups and negations -/

theorem negation_simple {token : Token} {called : Bool} (hnot : token.isWord "NOT" = false)
    (hclosing : Grammar.closingSign? u.dialect token = none)
    (hcalled : ∀ r, F r → ((ts ++ r).head? == some (.sign .leftParen)) = called)
    (h : Yields (Translation.simplePredicate u levels token.keyword? called) (token :: ts) F (some p)) :
    Yields (Translation.negation u levels) (token :: ts) F (some p) := by
  have hprimary : ∀ group?, Yields (Translation.primary u levels group?) (token :: ts) F (some p) := by
    intro group?
    refine peek_bind ?_
    dsimp only
    rw [hclosing]
    exact parenFollows_bind hcalled h
  have hnone : ∀ r, F r → Without (Token.isWord "NOT") (token :: ts ++ r) := fun r _ => .cons hnot (ts ++ r)
  have hnegation : ∀ inner?, Yields (Translation.negationWith u levels inner?) (token :: ts) F (some p) :=
    fun inner? => acceptIf_none_bind hnone (hprimary _)
  cases levels with
  | zero => exact hnegation none
  | succ levels => exact hnegation _

theorem negation_called {word : String} {keyword : Keyword} (hkeyword : Keyword.ofText? word = some keyword)
    (hnot : keyword ≠ .NOT)
    (h : Yields (Translation.simplePredicate u levels (some keyword) true) (.word word none :: .sign .leftParen :: ts)
      F (some p)) :
    Yields (Translation.negation u levels) (.word word none :: .sign .leftParen :: ts) F (some p) := by
  have hclosing : Grammar.closingSign? u.dialect (.word word none) = none := by cases u.dialect <;> rfl
  refine negation_simple (Token.isWord_not_of_keyword hkeyword hnot) hclosing (fun r _ => rfl) ?_
  have hkeyword' : (Token.word word none).keyword? = some keyword := hkeyword
  rw [hkeyword']
  exact h

theorem negation_not (hpermits : ∀ red, u.permits red = true)
    (h : Yields (Translation.negation u levels) ts F (some p)) :
    Yields (Translation.negation u (levels + 1)) (.word "NOT" none :: ts) F (some (u.kit.factory.not p)) := by
  refine acceptIf_bind rfl fun place => ?_
  have hcompleted := h.bind_pure (g := fun q => some (u.kit.factory.not q)) fun q _ =>
    complete (u := u) hpermits .not [⟨"NOT", place⟩] (u.kit.factory.not q)
  exact hcompleted

theorem negation_group (h : Yields (Translation.filter u levels) ts (Followed [.rightParen]) (some p)) :
    Yields (Translation.negation u (levels + 1)) (.sign .leftParen :: (ts ++ [.sign .rightParen])) F (some p) := by
  have hclosing : Grammar.closingSign? u.dialect (.sign .leftParen) = some .rightParen := by
    cases u.dialect <;> rfl
  have hclose : ∀ q : Predicate, Yields (read (Phrase.require .rightParen) >>= fun _ => Pure.pure q)
      [.sign .rightParen] F (some q) := fun q => require_bind (pure q)
  have hgroup := h.bind (fun q _ => hclose q) fun r _ => followed_cons List.mem_cons_self r
  have hnone : ∀ r, F r → Without (Token.isWord "NOT") (.sign .leftParen :: (ts ++ [.sign .rightParen]) ++ r) :=
    fun _ _ => .cons rfl _
  refine acceptIf_none_bind hnone (peek_bind ?_)
  dsimp only
  rw [hclosing]
  exact next_bind fun place => hgroup

/-! ### Conjunctions and disjunctions -/

theorem joined_single {word : String} {production : Production} {combine : Predicate → Predicate → Predicate}
    {item : Translation Predicate} (hitem : Yields item ts F (some p))
    (hF : ∀ r, F r → Without (Token.isWord word) r) :
    Yields (Translation.joined u word production combine item) ts F (some p) := by
  have hnone : Yields (Translation.repeatAfter (Phrase.acceptWord word) (Translation.nextPredicate u production item)) [] F
      (some []) := repeatAfter_none fun _ hinput => acceptIf_none (hF _ hinput)
  have hjoined := hitem.bind_pure (g := some) fun q _ => hnone.map fun qs => qs.foldl combine q
  exact hjoined

theorem nextPredicates (hpermits : ∀ red, u.permits red = true) {word : String} {production : Production}
    {item : Translation Predicate} {head : δ → Token} {tokens : δ → List Token} {value : δ → Predicate} {xs : List δ}
    (hhead : ∀ y ∈ xs, (head y).isWord word = true) (hitem : ∀ y ∈ xs, Yields item (tokens y) F (some (value y)))
    (hF : ∀ y ∈ xs, ∀ r, F (head y :: r)) (hGF : ∀ r, G r → F r) (hG : ∀ r, G r → Without (Token.isWord word) r) :
    Yields (Translation.repeatAfter (Phrase.acceptWord word) (Translation.nextPredicate u production item))
      (xs.flatMap fun y => head y :: tokens y) G (some (xs.map value)) := by
  have hnext : ∀ y ∈ xs, ∀ place rest, ∃ a,
      (Phrase.acceptWord word (⟨head y, place⟩ :: rest)).outcome = .ok (some a, rest) ∧
        Yields (Translation.nextPredicate u production item a) (tokens y) F (some (value y)) := by
    intro y hy place rest
    refine ⟨⟨(head y).text, place⟩, ?_, ?_⟩
    · rw [Phrase.acceptWord, Phrase.acceptIf, if_pos (hhead y hy)]
      rfl
    · have hcompleted := (hitem y hy).bind_pure (g := some) fun q _ =>
        complete (u := u) hpermits production [⟨(head y).text, place⟩] q
      exact hcompleted
  have hrepeat := repeatAfter (G := G) hnext (fun input hinput => acceptIf_none (hG _ hinput)) hF hGF
  have hvalues : xs.mapM (fun y => some (value y)) = some (xs.map value) := List.mapM_pure
  rwa [hvalues] at hrepeat

theorem joined (hpermits : ∀ red, u.permits red = true) {word : String} {production : Production}
    {combine : Predicate → Predicate → Predicate} {item : Translation Predicate} {tokens : δ → List Token}
    {value : δ → Predicate} {row : Row δ} {between : Token} (hbetween : between.isWord word = true)
    (hitem : ∀ y ∈ row.toList, Yields item (tokens y) F (some (value y)))
    (hF : ∀ r, F (between :: r)) (hGF : ∀ r, G r → F r) (hG : ∀ r, G r → Without (Token.isWord word) r) :
    Yields (Translation.joined u word production combine item)
      (row.joinedTokens between tokens) G (some (row.combined combine value)) := by
  obtain ⟨x, xs⟩ := row
  have hmore : Yields (Translation.repeatAfter (Phrase.acceptWord word) (Translation.nextPredicate u production item))
      (xs.flatMap fun y => between :: tokens y) G (some (xs.map value)) :=
    nextPredicates hpermits (fun _ _ => hbetween) (fun y hy => hitem y (List.mem_cons_of_mem _ hy)) (fun _ _ => hF) hGF hG
  have hjoined := (hitem x List.mem_cons_self).bind (fun q _ => hmore.map (fun qs => qs.foldl combine q))
    fun r hr => ?_
  · exact hjoined
  · cases xs with
    | nil => exact hGF r hr
    | cons y ys => exact hF _

end Yields

end GeoFilter
