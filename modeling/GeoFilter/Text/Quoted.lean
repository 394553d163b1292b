/-!
# Quoted text

Two ways of writing a text between quotes.  In a statement a text stands between single quotes and
a quote inside it is written twice (`singleQuoted`).  In a log line a text stands between double
quotes, and every character that would break the line or not be seen is escaped (`doubleQuoted`).
-/

namespace GeoFilter.Text

def doubleQuotes : List Char → List Char
  | [] => []
  | c :: cs => if c = '\'' then '\'' :: '\'' :: doubleQuotes cs else c :: doubleQuotes cs

/-- A text between single quotes, the quotes inside it written twice. -/
def singleQuoted (s : String) : String :=
  String.ofList ('\'' :: doubleQuotes s.toList ++ ['\''])

/-- First and last code point of the runs of characters that show no glyph of their own: controls,
format characters, separators and the combining diacritical marks. -/
def glyphlessRanges : List (Nat × Nat) := [
  (0x0000, 0x001F), (0x007F, 0x00A0), (0x00AD, 0x00AD), (0x0300, 0x036F), (0x0483, 0x0489),
  (0x0600, 0x0605), (0x061C, 0x061C), (0x070F, 0x070F), (0x1680, 0x1680), (0x180B, 0x180F),
  (0x1AB0, 0x1ACE), (0x1DC0, 0x1DFF), (0x2000, 0x200F), (0x2028, 0x202F), (0x205F, 0x206F),
  (0x20D0, 0x20F0), (0x3000, 0x3000), (0xD800, 0xF8FF), (0xFE00, 0xFE0F), (0xFE20, 0xFE2F),
  (0xFEFF, 0xFEFF), (0xFFF0, 0xFFFB), (0xE0000, 0x10FFFF)]

def hexDigits (n : Nat) : List Char :=
  Nat.toDigits 16 n

def escapedChar (c : Char) : List Char :=
  match c with
  | '\x00' => ['\\', '0']
  | '\t' => ['\\', 't']
  | '\n' => ['\\', 'n']
  | '\r' => ['\\', 'r']
  | '"' => ['\\', '"']
  | '\\' => ['\\', '\\']
  | c =>
    if glyphlessRanges.any fun r => r.1 ≤ c.toNat && c.toNat ≤ r.2 then
      ['\\', 'u', '\x7b'] ++ hexDigits c.toNat ++ ['\x7d']
    else [c]

/-- A text between double quotes, with escapes for what would not show. -/
def doubleQuoted (s : String) : String :=
  String.ofList ('"' :: s.toList.flatMap escapedChar ++ ['"'])

end GeoFilter.Text
