import FlowCanvas.Decimal.Numeral

/-!
# JSON tokens

A JSON text is a sequence of tokens with white space between them. `tokens?` cuts a text into its
tokens; what the tokens mean together is the matter of `FlowCanvas.Json.Document`.

The escapes of a string may spell half of a surrogate pair. Such a string is a token, because it
may stand where nobody looks at it, but it has no text.
-/

set_option autoImplicit false

namespace FlowCanvas.Json

/-- A token of a JSON text. -/
inductive Token where
  | arrayOpen
  | arrayClose
  | objectOpen
  | objectClose
  | comma
  | colon
  | null
  | bool (value : Bool)
  | number (value : Numeral)
  | string (value : String)
  /-- A string in which an escape spells half of a surrogate pair. -/
  | brokenString
  deriving DecidableEq

/-- Whether the character may stand between tokens: space, tab, line feed or carriage return. -/
def isSpace (c : Char) : Bool :=
  c == ' ' || c == '\t' || c == '\n' || c == '\r'

/-- The value of a hexadecimal digit. -/
def hexDigit? (c : Char) : Option Nat :=
  let n := c.toNat
  if 48 ≤ n ∧ n ≤ 57 then some (n - 48)
  else if 65 ≤ n ∧ n ≤ 70 then some (n - 55)
  else if 97 ≤ n ∧ n ≤ 102 then some (n - 87)
  else none

/-- The value of four hexadecimal digits. -/
def hexWord? (a b c d : Char) : Option Nat := do
  let a ← hexDigit? a
  let b ← hexDigit? b
  let c ← hexDigit? c
  let d ← hexDigit? d
  return ((a * 16 + b) * 16 + c) * 16 + d

/-- Whether the word is the first half of a surrogate pair. -/
def isHighSurrogate (word : Nat) : Bool := 0xD800 ≤ word && word ≤ 0xDBFF

/-- Whether the word is the second half of a surrogate pair. -/
def isLowSurrogate (word : Nat) : Bool := 0xDC00 ≤ word && word ≤ 0xDFFF

/-- The character of a surrogate pair. -/
def surrogatePair (high low : Nat) : Char :=
  Char.ofNat (0x10000 + (high - 0xD800) * 0x400 + (low - 0xDC00))

/-- The character that a one-letter escape stands for. -/
def simpleEscape? : Char → Option Char
  | '"' => some '"'
  | '\\' => some '\\'
  | '/' => some '/'
  | 'b' => some '\x08'
  | 'f' => some '\x0c'
  | 'n' => some '\n'
  | 'r' => some '\r'
  | 't' => some '\t'
  | _ => none

/-- A piece of a string: a character, or a 16-bit word that an escape spells. -/
inductive StringPiece where
  | char (c : Char)
  | word (value : Nat)
  deriving DecidableEq

/-- Takes the rest of a string, after its opening quote: the pieces up to the closing quote, and
what follows it. A control character must be escaped. -/
def scanPieces? : List Char → Option (List StringPiece × List Char)
  | [] => none
  | '"' :: rest => some ([], rest)
  | '\\' :: 'u' :: a :: b :: c :: d :: rest =>
    match hexWord? a b c d with
    | none => none
    | some word => (scanPieces? rest).map fun (pieces, rest) => (.word word :: pieces, rest)
  | '\\' :: e :: rest =>
    match simpleEscape? e with
    | none => none
    | some c => (scanPieces? rest).map fun (pieces, rest) => (.char c :: pieces, rest)
  | c :: rest =>
    if c.toNat < 0x20 || c == '\\' then none
    else (scanPieces? rest).map fun (pieces, rest) => (.char c :: pieces, rest)

/-- The characters of a string. Two words that are the halves of a surrogate pair are one
character; half of a pair on its own is none. -/
def charsOfPieces? : List StringPiece → Option (List Char)
  | [] => some []
  | .char c :: rest => (charsOfPieces? rest).map (c :: ·)
  | .word high :: .word low :: rest =>
    if isHighSurrogate high && isLowSurrogate low then
      (charsOfPieces? rest).map (surrogatePair high low :: ·)
    else if isHighSurrogate high || isLowSurrogate high then none
    else (charsOfPieces? (.word low :: rest)).map (Char.ofNat high :: ·)
  | .word word :: rest =>
    if isHighSurrogate word || isLowSurrogate word then none
    else (charsOfPieces? rest).map (Char.ofNat word :: ·)

/-- Takes one token, which starts with the first character. -/
def scanToken? : List Char → Option (Token × List Char)
  | [] => none
  | '[' :: rest => some (.arrayOpen, rest)
  | ']' :: rest => some (.arrayClose, rest)
  | '\x7b' :: rest => some (.objectOpen, rest)
  | '\x7d' :: rest => some (.objectClose, rest)
  | ',' :: rest => some (.comma, rest)
  | ':' :: rest => some (.colon, rest)
  | 'n' :: 'u' :: 'l' :: 'l' :: rest => some (.null, rest)
  | 't' :: 'r' :: 'u' :: 'e' :: rest => some (.bool true, rest)
  | 'f' :: 'a' :: 'l' :: 's' :: 'e' :: rest => some (.bool false, rest)
  | '"' :: rest =>
    (scanPieces? rest).map fun (pieces, rest) =>
      match charsOfPieces? pieces with
      | some cs => (.string (String.ofList cs), rest)
      | none => (.brokenString, rest)
  | cs => (Numeral.scan? cs).map fun (n, rest) => (.number n, rest)

/-- Cuts a text into tokens, at most `limit` of them. -/
def tokensUpTo? (limit : Nat) (cs : List Char) : Option (List Token) :=
  match cs.dropWhile isSpace, limit with
  | [], _ => some []
  | _ :: _, 0 => none
  | c :: cs, limit + 1 =>
    match scanToken? (c :: cs) with
    | none => none
    | some (token, rest) => (tokensUpTo? limit rest).map (token :: ·)

/-- Cuts a text into tokens. A token has at least one character, so a text has no more tokens than
characters. -/
def tokens? (cs : List Char) : Option (List Token) :=
  tokensUpTo? cs.length cs

end FlowCanvas.Json
