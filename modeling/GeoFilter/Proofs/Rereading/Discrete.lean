import GeoFilter.Proofs.Framing.Expression
import GeoFilter.Proofs.Rereading.Statement

/-!
# Shown expressions are expressions

An expression of attributes, calls, arithmetic, texts, truth values and integers that is compiled from unquoted words is
shown as a statement of the very same expression, in both dialects.  The kinds of its integers survive, since each
integer of a statement is of the narrowest kind that holds it.
-/

namespace GeoFilter

/-! ### Discrete expressions -/

theorem Number.eq_of_same : ∀ {v w : Number}, v.toInt?.isSome = true → same w v = true → w = v
  | .integer _, .integer _, _, h => congrArg Number.integer (eq_of_beq h)
  | .long _, .long _, _, h => congrArg Number.long (eq_of_beq h)

namespace Literal

/-- Whether a value is a text, a truth value or an integer. -/
def isDiscrete : Literal → Bool
  | .number v => v.toInt?.isSome
  | .string _ | .boolean _ => true
  | .geometry _ => false

theorem eq_of_same : ∀ {a b : Literal}, a.isDiscrete = true → same b a = true → b = a
  | .number _, .number _, ha, h => congrArg Literal.number (Number.eq_of_same ha h)
  | .string _, .string _, _, h => congrArg Literal.string (eq_of_beq h)
  | .boolean _, .boolean _, _, h => congrArg Literal.boolean (eq_of_beq h)

end Literal

namespace Expression

mutual

/-- Whether all values in an expression are texts, truth values and integers. -/
def isDiscrete : Expression → Bool
  | .property _ => true
  | .literal value => value.isDiscrete
  | .function _ args => areDiscrete args
  | .arithmetic _ left right => isDiscrete left && isDiscrete right

def areDiscrete : List Expression → Bool
  | [] => true
  | arg :: args => isDiscrete arg && areDiscrete args

end

theorem areDiscrete_iff {args : List Expression} : areDiscrete args = true ↔ ∀ arg ∈ args, arg.isDiscrete = true := by
  induction args with
  | nil => simp [areDiscrete]
  | cons arg args ih => rw [areDiscrete, Bool.and_eq_true, ih, List.forall_mem_cons]

mutual

theorem eq_of_same : ∀ x y : Expression, x.isDiscrete = true → same y x = true → y = x
  | .property p, .property q, _, h => by rw [show q = p from eq_of_beq h]
  | .literal a, .literal b, ha, h => by rw [Literal.eq_of_same ha h]
  | .function f as, .function g bs, has, h => by
    obtain ⟨hname, hargs⟩ := Bool.and_eq_true_iff.mp h
    rw [show g = f from eq_of_beq hname, eq_of_sameList as bs has hargs]
  | .arithmetic op a b, .arithmetic op' a' b', hab, h => by
    obtain ⟨ha, hb⟩ := Bool.and_eq_true_iff.mp hab
    obtain ⟨hleft, hb'⟩ := Bool.and_eq_true_iff.mp h
    obtain ⟨hop, ha'⟩ := Bool.and_eq_true_iff.mp hleft
    rw [show op' = op from eq_of_beq hop, eq_of_same a a' ha ha', eq_of_same b b' hb hb']

theorem eq_of_sameList : ∀ xs ys : List Expression, areDiscrete xs = true → sameList ys xs = true → ys = xs
  | [], [], _, _ => rfl
  | x :: xs, y :: ys, hxs, h => by
    obtain ⟨hx, hxs⟩ := Bool.and_eq_true_iff.mp hxs
    obtain ⟨hy, hys⟩ := Bool.and_eq_true_iff.mp h
    rw [eq_of_same x y hx hy, eq_of_sameList xs ys hxs hys]

end

theorem Written.discrete {ofLiteral : Literal → Prop} {leading : Bool} {x : Expression} (h : x.Written ofLiteral leading)
    (hx : x.isDiscrete = true) : x.Written (fun value => value.isDiscrete = true ∧ ofLiteral value) leading := by
  induction h with
  | property words free leads => exact .property words free leads
  | literal compiled => exact .literal ⟨hx, compiled⟩
  | function word free leads _ ih =>
    exact .function word free leads fun arg harg => ih arg harg (areDiscrete_iff.mp hx arg harg)
  | arithmetic _ _ ihleft ihright =>
    obtain ⟨hleft, hright⟩ := Bool.and_eq_true_iff.mp hx
    exact .arithmetic (ihleft hleft) (ihright hright)

end Expression

/-! ### Literals of unquoted words -/

/-- Whether a token is as statements without quoted words have it. -/
def Token.IsBare : Token → Prop
  | .word text quote => quote = none ∧ IsWord text
  | .number text _ => Numeral text.toList
  | _ => True

theorem Token.isBare_of_isCut {token : Token} (hcut : Scan.IsCut token) (hquote : token.IsUnquoted) : token.IsBare := by
  cases token with
  | word text quote => exact ⟨hquote, (hquote ▸ hcut :)⟩
  | number text long => exact hcut
  | _ => trivial

/-- Whether a value, if it is an integer, is of the kind in which it is read from its text. -/
def Literal.KeepsKind : Literal → Prop
  | .number v => v.toInt?.isSome = true → v.IsLiteral
  | _ => True

theorem Number.IsReadFrom.keepsKind {v : Number} (h : v.IsReadFrom Token.IsBare) : (Literal.number v).KeepsKind := by
  obtain ⟨n, rfl, hnumeral⟩ := h
  intro hint
  refine n.isLiteral_of_double hnumeral fun x hx => ?_
  rw [hx] at hint
  cases hint

theorem Ensures.of_solid {sound : Token → Prop} {start : List Token → Prop} {c : Translation α}
    (h : Solid Token.never c c) : Ensures sound start c fun _ => True :=
  fun input a rest hinput _ hread => ⟨trivial, hinput.of_suffix (h.suffix input a rest hread)⟩

theorem ensuresLiterals_bare (u : Setting) : EnsuresLiterals u Token.IsBare Literal.KeepsKind where
  word h := h
  number := ensures_signedLiteral.mono fun _ hv => hv.keepsKind
  string _ := trivial
  boolean _ := trivial
  plain levels := (Ensures.of_solid (solid_geometryLiteral (Nat.le_refl levels))).map fun _ _ => ⟨_, rfl, trivial⟩
  srid levels := Ensures.of_solid (solid_sridLiteral (Nat.le_refl levels))
  envelope := Ensures.of_solid solid_envelope

/-! ### Shown expressions -/

theorem Expression.reread_discrete {u : Setting} (hu : u.IsPlain) {value : Literal}
    (h : value.isDiscrete = true ∧ value.KeepsKind) (leading : Bool) :
    ∃ ts y, (Expression.literal value).RereadAs u leading ts y := by
  cases value with
  | number v => exact reread_number hu (h.2 h.1)
  | string s => exact reread_string hu s
  | boolean b => exact reread_boolean hu b
  | geometry g => cases h.1

section Statement

variable {compiler : Compiler} (hplain : compiler.toolkit.factory = .plain) {statement : String} {lexemes : List Lexeme}
  {x : Expression} (hscan : scan statement = .ok lexemes) (hunquoted : ∀ l ∈ lexemes, l.token.IsUnquoted)
  (hcompiled : (compiler.compileExpression statement).result = .ok x)

include hplain hscan hunquoted hcompiled

/-- Expressions of statements without quoted words are as such statements write them. -/
theorem written_of_unquoted : x.Written Literal.KeepsKind false := by
  let u : Setting := compiler.setting
  have hu : u.IsPlain := Compiler.isPlain_setting hplain
  have hsound : AllSound Token.IsBare lexemes := by
    refine List.forall_mem_map.mpr fun l hl => ?_
    exact Token.isBare_of_isCut (isCut_of_scan hscan l hl) (hunquoted l hl)
  have hsaid := (compileExpression_reports (u := u) hscan).eq_ok (not_unpermittedIn (fun _ => rfl) _) hcompiled
  have hread : Translation.expression u maxNesting lexemes = .ok (x, []) := toEnd_eq_ok.mp hsaid
  have hensures : Ensures Token.IsBare (Leads false) (Translation.expression u maxNesting)
      (Expression.Written Literal.KeepsKind false) := ensures_expression hu (ensuresLiterals_bare u) maxNesting
  exact (hensures lexemes x [] hsound (leads_false _) hread).1

/-- **Shown expressions are read again.**  If the expression of a statement without quoted words has no floating-point
numbers and no geometries, and its arithmetic and the arguments of its functions are not nested more deeply than a
statement may be, then its text compiles to the expression itself.  Both times the dialect may be either of the two. -/
theorem shown_expression_compiled {reader : Compiler} (hreader : reader.toolkit.factory = .plain)
    (hdiscrete : x.isDiscrete = true) (hdepth : x.depth ≤ maxNesting) :
    (reader.compileExpression x.toText).result = .ok x := by
  have hu : reader.setting.IsPlain := Compiler.isPlain_setting hreader
  have hwritten := (written_of_unquoted hplain hscan hunquoted hcompiled).discrete hdiscrete
  obtain ⟨ts, y, hy⟩ := Expression.Written.reread hu (fun _ => Expression.reread_discrete hu) hwritten
  obtain rfl : y = x := Expression.eq_of_same x y hdiscrete hy.same
  obtain ⟨lexemes', hscan', htokens⟩ := (hy.spells.cuts nofun).scan
  exact (hy.expression hdepth).compileExpression ⟨nofun, fun _ => nofun⟩ hscan' htokens

end Statement

/-- A name with a namespace, a call in the arguments of another, a quote in a text and the least integer of 32 bits. -/
theorem shown_expression_compiled_cql : ∃ lexemes x,
    scan "ns:road.width * -2147483648 - f('it''s', TRUE, g(3 / n))" = .ok lexemes ∧
    (∀ l ∈ lexemes, l.token.IsUnquoted) ∧
    ((⟨.cql, ⟨.plain, CrsRegistry.wellKnown.resolver⟩⟩ : Compiler).compileExpression
      "ns:road.width * -2147483648 - f('it''s', TRUE, g(3 / n))").result = .ok x ∧
    x.isDiscrete = true ∧ x.depth ≤ maxNesting ∧
    x.toText = "((ns:road.width * -2147483648) - f('it''s', TRUE, g((3 / n))))" ∧
    ∀ dialect, ((⟨dialect, ⟨.plain, CrsRegistry.wellKnown.resolver⟩⟩ : Compiler).compileExpression x.toText).result =
      .ok x := by
  obtain ⟨lexemes, hscan, hunquoted⟩ := exists_ok_of_any (f := fun lexemes : List Lexeme =>
    decide (∀ l ∈ lexemes, l.token.IsUnquoted))
    (r := scan "ns:road.width * -2147483648 - f('it''s', TRUE, g(3 / n))") (by decide +kernel)
  have hunquoted := of_decide_eq_true hunquoted
  obtain ⟨x, hx, hshown⟩ := exists_ok_of_any (f := fun x : Expression => x.isDiscrete && decide (x.depth ≤ maxNesting ∧
      x.toText = "((ns:road.width * -2147483648) - f('it''s', TRUE, g((3 / n))))"))
    (r := ((⟨.cql, ⟨.plain, CrsRegistry.wellKnown.resolver⟩⟩ : Compiler).compileExpression
      "ns:road.width * -2147483648 - f('it''s', TRUE, g(3 / n))").result) (by decide +kernel)
  obtain ⟨hdiscrete, hshown⟩ := Bool.and_eq_true_iff.mp hshown
  obtain ⟨hdepth, htext⟩ := of_decide_eq_true hshown
  exact ⟨lexemes, x, hscan, hunquoted, hx, hdiscrete, hdepth, htext,
    fun _ => shown_expression_compiled rfl hscan hunquoted hx rfl hdiscrete hdepth⟩

end GeoFilter
