import GeoFilter.Proofs.Resolving.Gathering

/-!
# Where expressions are written

Every expression is written in the lexemes that are read for it, with the numbers of its reference systems.
-/

namespace GeoFilter

open Translation (read bind_eq_ok read_eq_ok complete_eq_ok)

variable {dialect : Dialect} {l : Lexeme}

/-! ### Geometries -/

theorem Numerals.of_suffix {input rest : List Lexeme} (h : Numerals input) (hrest : rest <:+ input) : Numerals rest :=
  fun l hl => h l (hrest.subset hl)

section Nested

variable {inner? : Option (Translation Expression)}
  (hinner : ∀ inner, inner? = some inner → Tracks inner (Expression.WrittenFrom dialect))

include hinner

end Nested

/-! ### Products and sums -/

end GeoFilter
