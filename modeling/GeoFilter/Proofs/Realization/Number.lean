import GeoFilter.Proofs.Realization
import GeoFilter.Proofs.Translation.Number

/-!
# Numbers realized

A number leaves one entry with its own tag.  A minus changes the number in it and takes the place of its
token.
-/

namespace GeoFilter

open Assembly (run step steps)
open Phrase (Quiet)

theorem quiet_signed : Grammar.signed.Quiet :=
  .bind (.accept _) fun _ => .bind (.expectIf _ _) fun _ => .pure _

variable {u : Setting} {s : ResultsStack}

def PushesNumber (u : Setting) (production : Production) : Prop :=
  ∀ token s, run (step u.dialect u.kit ⟨production, [token]⟩) s =
    pushed (numberOf Number.readIntegral? token) fun n => ⟨production, .number n, token⟩ :: s

theorem run_number (production : Production) (token : SourceToken) :
    run (Assembly.number production token) s =
      pushed (numberOf Number.readIntegral? token) fun n => ⟨production, .number n, token⟩ :: s := by
  unfold Assembly.number numberOf
  rw [Assembly.run_bind, Assembly.run_orFind]
  cases Number.readIntegral? token.text <;> rfl

theorem pushesNumber_ordinate : PushesNumber u .ordinate := by
  intro token s
  rw [Assembly.run_step_shared rfl]
  exact run_number .ordinate token

theorem pushesNumber_srid (hu : u.dialect = .cql) : PushesNumber u .srid := by
  intro token s
  rw [hu]
  exact run_number .srid token

theorem pushesNumber_envelopeComponent (hu : u.dialect = .cql) :
    PushesNumber u .envelopeComponent := by
  intro token s
  rw [hu]
  exact run_number .envelopeComponent token

theorem run_literal (token : SourceToken) :
    run (step u.dialect u.kit
        ⟨if Grammar.isFloatingText token.text then .floatingLiteral else .integerLiteral, [token]⟩) s =
      pushed (numberOf Number.readLiteral? token) fun n =>
        ⟨if Grammar.isFloatingText token.text then .floatingLiteral else .integerLiteral,
          .literal (.number n), token⟩ :: s := by
  unfold numberOf Number.readLiteral?
  split
  · rw [Assembly.run_step_shared rfl]
    simp only [Assembly.baseStep, Assembly.numberLiteral, Assembly.run_bind, Assembly.run_orFind]
    cases Number.readFloating? token.text <;> rfl
  · rw [Assembly.run_step_shared rfl]
    simp only [Assembly.baseStep, Assembly.numberLiteral, Assembly.run_bind, Assembly.run_orFind]
    cases Number.readIntegral? token.text <;> rfl

/-- The two ways in which a number stands on the stack: on its own and as a literal. -/
inductive Wraps : (Number → Node) → Prop
  | number : Wraps .number
  | literal : Wraps fun n => .literal (.number n)

theorem run_negativeNumber {wrap : Number → Node} (hwrap : Wraps wrap) (production : Production)
    (minus token : SourceToken) (n : Number) :
    run (step u.dialect u.kit ⟨.negativeNumber, [minus]⟩) (⟨production, wrap n, token⟩ :: s) =
      pushed (negated minus token n) fun m => ⟨production, wrap m, minus⟩ :: s := by
  rw [Assembly.run_step_shared rfl]
  have hpop : run (Assembly.popHolding "number" Node.number?) (⟨production, wrap n, token⟩ :: s) =
      .ok ((n, ⟨production, wrap n, token⟩), s) :=
    Assembly.run_popHolding (by cases hwrap <;> rfl)
  simp only [Assembly.baseStep, Assembly.negate, Assembly.run_bind, Assembly.run_orFind, hpop, negated,
    Grammar.signedToken]
  cases n.negate? with
  | none => rfl
  | some m => cases hwrap <;> rfl

theorem realizes_sign {wrap : Number → Node} (hwrap : Wraps wrap) (production : Production)
    (minus? : Option SourceToken) (token : SourceToken) (n : Number) :
    Realizes u (Grammar.reduceSign minus?) (⟨production, wrap n, token⟩ :: s)
      (Translation.sign u minus? token n)
      fun _ m s' => s' = ⟨production, wrap m, minus?.getD token⟩ :: s := by
  cases minus? with
  | none => exact .pure rfl
  | some minus => exact .reduce (run_negativeNumber hwrap production minus token n) fun _ _ => rfl

theorem realizes_signedNumber {production : Production} (h : PushesNumber u production) :
    Realizes u (Grammar.signedNumber production) s (Translation.signedNumber u production)
      fun token v s' => token = Grammar.withSign v.2 ∧
        s' = ⟨production, .number v.1, v.2.1.getD v.2.2⟩ :: s := by
  refine .read_bind quiet_signed fun n => ?_
  refine (Realizes.reduce (h n.2 s) (R := fun _ v s' => s' = ⟨production, .number v, n.2⟩ :: s)
    fun _ _ => rfl).bind fun _ v s' hv => ?_
  subst hv
  refine (realizes_sign .number production n.1 n.2 v).bind fun _ m s' hm => ?_
  exact .pure ⟨rfl, hm⟩

/-- A literal number leaves an entry that is an operand and holds the number. -/
def HoldsNumber (n : Number) (e : Entry) : Prop :=
  e.node = .literal (.number n) ∧ e.production.isOperand = true

theorem realizes_signedLiteral :
    Realizes u Grammar.signedLiteral s (Translation.signedLiteral u) (Pushes HoldsNumber s) := by
  refine .read_bind quiet_signed fun n => ?_
  refine (Realizes.reduce (run_literal n.2) (R := fun _ v s' => s' = ⟨_, .literal (.number v), n.2⟩ :: s)
    fun _ _ => rfl).bind fun _ v s' hv => ?_
  subst hv
  refine (realizes_sign .literal _ n.1 n.2 v).mono fun _ m s' hm => ⟨_, ⟨rfl, ?_⟩, hm⟩
  dsimp only
  split <;> rfl

end GeoFilter
