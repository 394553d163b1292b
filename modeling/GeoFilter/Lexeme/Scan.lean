import GeoFilter.Lexeme
import GeoFilter.Text.Numeral

/-!
# Scanning

`scan` cuts a statement into lexemes.  Blanks and comments separate them and are dropped.  Every rule
below looks at the characters after the first one of a piece and answers how many of them belong to it,
so the pieces follow each other without gaps; `scan` itself recurses on the characters and counts
lines and columns on the way.
-/

namespace GeoFilter.Scan

/-- A statement that cannot be cut: the message, and how many characters after the start of the piece
it was noticed. -/
structure ScanFault where
  message : String
  offset : Nat
  deriving DecidableEq, Repr

def withChar (c : Char) (r : List Char × Nat) : List Char × Nat :=
  (c :: r.1, r.2 + 1)

/-- The text up to the closing quote, in which a doubled quote stands for one, and the number of
characters read. -/
def quotedBody (quote : Char) : List Char → Option (List Char × Nat)
  | [] => none
  | [c] => if c = quote then some ([], 1) else none
  | c :: d :: cs =>
    if c = quote then
      if d = quote then (quotedBody quote cs).map fun r => (quote :: r.1, r.2 + 2)
      else some ([], 1)
    else (quotedBody quote (d :: cs)).map (withChar c)

/-- The character that a backslash and the given character stand for. -/
def unescaped (c : Char) : Char :=
  if c = 'n' then '\n' else if c = 'r' then '\r' else if c = 't' then '\t' else c

/-- The text up to the closing single quote with escapes resolved, and the number of characters read.
`escaped` tells whether a backslash came before. -/
def escapedBody : Bool → List Char → Option (List Char × Nat)
  | _, [] => none
  | true, c :: cs => (escapedBody false cs).map (withChar (unescaped c))
  | false, '\'' :: '\'' :: cs => (escapedBody false cs).map fun r => ('\'' :: r.1, r.2 + 2)
  | false, '\'' :: _ => some ([], 1)
  | false, '\\' :: cs => (escapedBody true cs).map fun r => (r.1, r.2 + 1)
  | false, c :: cs => (escapedBody false cs).map (withChar c)

/-- The number of characters of a comment after its opening mark.  `depth` further comments are open
inside it, and `last` is the character before. -/
def commentBody : Nat → Char → List Char → Option Nat
  | _, _, [] => none
  | depth, last, c :: cs =>
    if last = '/' ∧ c = '*' then (commentBody (depth + 1) c cs).map (· + 1)
    else if last = '*' ∧ c = '/' then
      match depth with
      | 0 => some 1
      | depth + 1 => (commentBody depth c cs).map (· + 1)
    else (commentBody depth c cs).map (· + 1)

/-- The text up to two dollar signs in a row and the number of characters read.  A single dollar sign
is kept together with the character after it; `pending` tells whether one came before. -/
def dollarBody : Bool → List Char → Option (List Char × Nat)
  | _, [] => none
  | true, c :: cs =>
    if c = '$' then some ([], 1)
    else (dollarBody false cs).map fun r => ('$' :: c :: r.1, r.2 + 1)
  | false, c :: cs =>
    if c = '$' then (dollarBody true cs).map fun r => (r.1, r.2 + 1)
    else (dollarBody false cs).map (withChar c)

def commonLength : List Char → List Char → Nat
  | a :: as, b :: bs => if a = b then commonLength as bs + 1 else 0
  | _, _ => 0

/-- What a rule answers: a token, or none for blanks and comments, and the number of characters that
belong to it after the first. -/
abbrev Piece := Option Token × Nat

def piece (token : Token) (more : Nat) : Except ScanFault Piece :=
  .ok (some token, more)

/-- A piece the grammar has no use for, of its first character and some more. -/
def otherPiece (spelling : List Char) (more : Nat) : Except ScanFault Piece :=
  piece (.other (String.ofList spelling)) more

def isWordPart (c : Char) : Bool :=
  Text.isLetter c || c.isDigit || c == '@' || c == '$' || c == '#' || c == '_'

def isWordStart (c : Char) : Bool :=
  Text.isLetter c || c == '_'

def wordFrom (start : List Char) (rest : List Char) : Except ScanFault Piece :=
  let more := rest.takeWhile isWordPart
  piece (.word (String.ofList (start ++ more)) none) (start.length - 1 + more.length)

def quotedWord (quote : Char) (rest : List Char) : Except ScanFault Piece :=
  match quotedBody quote rest with
  | some (text, n) => piece (.word (String.ofList text) (some quote)) n
  | none =>
    .error ⟨"Expected close delimiter '" ++ quote.toString ++ "' before EOF.", 0⟩

def quotedText (rest : List Char) : Except ScanFault Piece :=
  match quotedBody '\'' rest with
  | some (text, n) => piece (.quoted (String.ofList text)) n
  | none => .error ⟨"Unterminated string literal", 0⟩

/-- A quoted text behind a letter, shown with that letter between quotes of the given kind. -/
def prefixedText (shown : Char) (quote shownQuote : Char) (rest : List Char) :
    Except ScanFault Piece :=
  match quotedBody quote rest with
  | some (text, n) => otherPiece (shown :: shownQuote :: text ++ [shownQuote]) (n + 1)
  | none => .error ⟨"Unterminated string literal", 1⟩

def escapedText (rest : List Char) : Except ScanFault Piece :=
  match escapedBody false rest with
  | some (text, n) => otherPiece ('E' :: '\'' :: text ++ ['\'']) (n + 1)
  | none => .error ⟨"Unterminated encoded string literal", 0⟩

/-- A word, or a quoted text if it starts with one of the letters that mark one and a quote follows. -/
def wordOrMarkedText (c : Char) (rest : List Char) : Except ScanFault Piece :=
  match c, rest with
  | 'b', '\'' :: cs | 'B', '\'' :: cs => prefixedText 'B' '\'' '\'' cs
  | 'b', '"' :: cs | 'B', '"' :: cs => prefixedText 'B' '"' '"' cs
  | 'r', '\'' :: cs | 'R', '\'' :: cs => prefixedText 'R' '\'' '\'' cs
  | 'r', '"' :: cs | 'R', '"' :: cs => prefixedText 'R' '"' '\'' cs
  | 'n', '\'' :: cs | 'N', '\'' :: cs => prefixedText 'N' '\'' '\'' cs
  | 'x', '\'' :: cs | 'X', '\'' :: cs => prefixedText 'X' '\'' '\'' cs
  | 'e', '\'' :: cs | 'E', '\'' :: cs => escapedText cs
  | c, rest => wordFrom [c] rest

def isHexDigit (c : Char) : Bool :=
  c.isDigit || ('a' ≤ c && c ≤ 'f') || ('A' ≤ c && c ≤ 'F')

/-- The exponent at the start of a text: its mark, a sign if there is one, and at least one digit. -/
def exponentChars : List Char → List Char
  | mark :: cs =>
    if mark = 'e' ∨ mark = 'E' then
      let (signs, ds) := match cs with
        | '+' :: r => (['+'], r)
        | '-' :: r => (['-'], r)
        | r => ([], r)
      match ds.takeWhile Char.isDigit with
      | [] => []
      | digits => mark :: signs ++ digits
    else []
  | [] => []

def fractionChars : List Char → List Char
  | '.' :: cs => '.' :: cs.takeWhile Char.isDigit
  | _ => []

def numberOrPeriod (cs : List Char) : Except ScanFault Piece :=
  let whole := cs.takeWhile Char.isDigit
  let rest := cs.dropWhile Char.isDigit
  match whole, rest with
  | ['0'], 'x' :: r =>
    let digits := r.takeWhile isHexDigit
    otherPiece ('X' :: '\'' :: digits ++ ['\'']) (digits.length + 1)
  | _, _ =>
    let fraction := fractionChars rest
    if whole = [] ∧ fraction = ['.'] then piece (.sign .period) 0
    else
      let afterFraction := rest.drop fraction.length
      let exponent := exponentChars afterFraction
      let text := whole ++ fraction ++ exponent
      let long := (afterFraction.drop exponent.length).head? == some 'L'
      piece (.number (String.ofList text) long) (text.length - 1 + if long then 1 else 0)

/-- A piece that starts with a dollar sign: a text between dollar signs or between tags in dollar signs,
or a placeholder. -/
def dollarPiece (rest : List Char) : Except ScanFault Piece :=
  match rest with
  | '$' :: body =>
    match dollarBody false body with
    | some (text, n) => otherPiece ("$$".toList ++ text ++ "$$".toList) (n + 1)
    | none => .error ⟨"Unterminated dollar-quoted string", rest.length + 1⟩
  | _ =>
    let tag := rest.takeWhile fun c => Text.isLetterOrNumeral c || c == '_'
    match rest.drop tag.length with
    | '$' :: body =>
      let text := body.takeWhile (· ≠ '$')
      let start := tag.length + text.length + 3
      match body.drop text.length with
      | [] => .error ⟨"Unterminated dollar-quoted, expected $", rest.length + 1⟩
      | _ :: closing =>
        let same := commonLength tag closing
        let after := closing.drop same
        if same < tag.length then
          .error ⟨"Unterminated dollar-quoted string at or near \"" ++ String.ofList tag ++ "\"",
            start + same + min after.length 1⟩
        else if after.head? = some '$' then
          otherPiece ('$' :: tag ++ '$' :: text ++ '$' :: tag ++ ['$']) (start + same)
        else .error ⟨"Unterminated dollar-quoted string, expected $", start + same⟩
    | _ => otherPiece ('$' :: tag) tag.length

def atPiece : List Char → Except ScanFault Piece
  | [] => otherPiece ['@'] 0
  | ' ' :: _ => otherPiece ['@'] 0
  | '>' :: _ => otherPiece ['@', '>'] 1
  | '?' :: _ => otherPiece ['@', '?'] 1
  | '@' :: cs =>
    match cs with
    | [] => otherPiece ['@', '@'] 1
    | ' ' :: _ => otherPiece ['@', '@'] 1
    | c :: rest => wordFrom ['@', '@', c] rest
  | c :: rest => wordFrom ['@', c] rest

def hashPiece : List Char → Except ScanFault Piece
  | [] => otherPiece ['#'] 0
  | ' ' :: _ => otherPiece ['#'] 0
  | '-' :: _ => otherPiece ['#', '-'] 1
  | '>' :: '>' :: _ => otherPiece ['#', '>', '>'] 2
  | '>' :: _ => otherPiece ['#', '>'] 1
  | c :: rest => wordFrom ['#', c] rest

def lineComment (rest : List Char) : Except ScanFault Piece :=
  .ok (none, rest.length - (rest.dropWhile (· ≠ '\n')).length)

def blockComment (rest : List Char) : Except ScanFault Piece :=
  match commentBody 0 ' ' rest with
  | some n => .ok (none, n + 1)
  | none => .error ⟨"Unexpected EOF while in a multi-line comment", rest.length + 2⟩

/-- The longest of the given spellings that the text starts with.  The spellings are tried in turn, so
longer ones come first. -/
def longest? (spellings : List String) (cs : List Char) : Option (List Char) :=
  (spellings.map String.toList).find? fun s => s.isPrefixOf cs

/-- Signs of several characters that the grammar has no use for, longer ones first. -/
def compoundSpellings : List String :=
  ["!~~*", "->>", "||/", "!~~", "!~*", "<=>", "~~*", "->", "//", "|/", "||", "==", "=>", "!~", "!!",
    "<<", "<@", ">>", "::", ":=", "&&", "^@", "~*", "~~"]

def signSpellings : List (String × Sign) :=
  [("!=", .notEqual), ("<>", .notEqual), ("<=", .lessEqual), (">=", .greaterEqual),
    ("(", .leftParen), (")", .rightParen), ("[", .leftBracket), ("]", .rightBracket), (",", .comma),
    (";", .semicolon), (":", .colon), ("+", .plus), ("-", .minus), ("*", .star), ("/", .slash),
    ("=", .equal), ("<", .less), (">", .greater)]

def signPiece (c : Char) (rest : List Char) : Except ScanFault Piece :=
  match longest? compoundSpellings (c :: rest) with
  | some spelling => otherPiece spelling (spelling.length - 1)
  | none =>
    match signSpellings.find? fun s => s.1.toList.isPrefixOf (c :: rest) with
    | some (spelling, sign) => piece (.sign sign) (spelling.length - 1)
    | none => otherPiece [c] 0

def pieceAt (c : Char) (rest : List Char) : Except ScanFault Piece :=
  if isWordStart c then wordOrMarkedText c rest
  else if c.isDigit ∨ c = '.' then numberOrPeriod (c :: rest)
  else if Text.isBlank c then .ok (none, 0)
  else
    match c, rest with
    | '\'', _ => quotedText rest
    | '"', _ => quotedWord '"' rest
    | '\x60', _ => quotedWord '\x60' rest
    | '$', _ => dollarPiece rest
    | '@', _ => atPiece rest
    | '#', _ => hashPiece rest
    | '?', _ =>
      let digits := rest.takeWhile Text.isNumeral
      otherPiece ('?' :: digits) digits.length
    | '-', '-' :: _ => lineComment rest
    | '/', '*' :: body => blockComment body
    | c, rest => signPiece c rest

def ScanFault.told (fault : ScanFault) (start : Place) (cs : List Char) : String :=
  let place := start.after (cs.take fault.offset)
  s!"{fault.message} at Line: {place.line}, Column {place.column}"

/-- The lexemes of a text that starts at the given place, after `skip` characters of the piece before. -/
def scanChars : Nat → Place → List Char → Except String (List Lexeme)
  | _, _, [] => .ok []
  | skip + 1, place, c :: cs => scanChars skip (place.next c) cs
  | 0, place, c :: cs =>
    match pieceAt c cs with
    | .error fault => .error (fault.told place (c :: cs))
    | .ok (token?, more) =>
      match scanChars more (place.next c) cs with
      | .error message => .error message
      | .ok lexemes =>
        match token? with
        | some token => .ok (⟨token, place⟩ :: lexemes)
        | none => .ok lexemes

end GeoFilter.Scan

namespace GeoFilter

def scan (statement : String) : Except Finding (List Lexeme) :=
  match Scan.scanChars 0 Place.start statement.toList with
  | .ok lexemes => .ok lexemes
  | .error message => .error ⟨.unscannable message, SourceToken.synthetic statement, none⟩

end GeoFilter
