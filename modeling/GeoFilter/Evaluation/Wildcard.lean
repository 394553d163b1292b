import GeoFilter.Evaluation.Regex

/-!
# Wildcard patterns

A pattern is a text in which `%` stands for any run of characters and `_` for any one character.  Every other character
stands for itself.  A pattern matches a whole text; it is translated into a regular expression that says so.
-/

namespace GeoFilter.Wildcard

variable [RegexLibrary]

def translateChar : Char → String
  | '%' => ".*"
  | '_' => "."
  | c => RegexLibrary.escape (String.singleton c)

def translate (pattern : String) (ignoringCase : Bool) : String :=
  (if ignoringCase then "(?i)^" else "^") ++ String.join (pattern.toList.map translateChar) ++ "$"

end GeoFilter.Wildcard
