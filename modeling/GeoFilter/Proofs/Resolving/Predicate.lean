import GeoFilter.Proofs.Resolving.Expression
import GeoFilter.Proofs.Translation.Statement

/-!
# Where filters are written

Every filter is written in the lexemes that are read for it, with the numbers of its reference systems, and so are whole
statements.
-/

namespace GeoFilter

open Translation (read bind_eq_ok read_eq_ok complete_eq_ok)

variable {dialect : Dialect} {l : Lexeme}

/-! ### Operands -/

section Keywords

variable (levels : Nat) (hl : l.token.isReservable = false)

include hl

end Keywords

section Tests

variable (levels : Nat) (left : Expression) (token : SourceToken)

end Tests

/-! ### Combinations -/

section Nested

variable {inner? : Option (Translation Predicate)}
  (hinner : ∀ inner, inner? = some inner → Tracks inner (Predicate.WrittenFrom dialect))

include hinner

end Nested

end GeoFilter
