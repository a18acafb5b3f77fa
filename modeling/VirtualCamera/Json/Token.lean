import VirtualCamera.Json.Value
import VirtualCamera.Text.Digits

/-!
# Tokens of JSON texts

A text is cut into punctuation and scalars.  The lexer is a machine that takes
one character at a time (`Lexer.next`) and hands out the tokens that the
character completes; what is left at the end of the text is completed by
`Lexer.finish`.

Numbers and the three literals are runs of word characters.  No two of them
may touch, so taking the longest run is right.
-/

namespace VirtualCamera.Json

inductive Token where
  | openObject
  | closeObject
  | openArray
  | closeArray
  | colon
  | comma
  | scalar (v : Value)
  deriving Repr, Inhabited

/-! ## Numbers and literals -/

/-- Whether the rest of a number is an exponent, or nothing. -/
def isExponent : List Char → Bool
  | [] => true
  | e :: rest =>
    let digits := match rest with
      | '+' :: ds => ds
      | '-' :: ds => ds
      | ds => ds
    (e == 'e' || e == 'E') && Text.isDigits digits

/-- Whether the rest of a number is a fraction, an exponent, or both. -/
def isFraction : List Char → Bool
  | '.' :: rest => !(rest.takeWhile Char.isDigit).isEmpty && isExponent (rest.dropWhile Char.isDigit)
  | rest => isExponent rest

def magnitude? (negative : Bool) (word : List Char) : Option Value :=
  let digits := word.takeWhile Char.isDigit
  let rest := word.dropWhile Char.isDigit
  if digits.isEmpty || (digits.head? == some '0' && digits.length != 1) then none
  else if rest.isEmpty then
    let n := Text.ofDigits digits
    some (if !negative then .integer n else if n = 0 then .real else .integer (-n))
  else if isFraction rest then some .real
  else none

/-- The value that a run of word characters stands for. -/
def scalar? (word : List Char) : Option Value :=
  if word = "null".toList then some .null
  else if word = "true".toList then some (.bool true)
  else if word = "false".toList then some (.bool false)
  else match word with
    | '-' :: rest => magnitude? true rest
    | word => magnitude? false word

/-! ## Strings -/

/-- What a string consists of: characters, and UTF-16 units from escapes that
are halves of a surrogate pair. -/
inductive Piece where
  | char (c : Char)
  | half (n : Nat)
  deriving Repr, DecidableEq

def Piece.ofEscape (n : Nat) : Piece :=
  if 0xd800 ≤ n ∧ n < 0xe000 then .half n else .char (Char.ofNat n)

/-- The text of a string: a high half followed at once by a low half is one
character, any other half makes the string one without a text. -/
def textOf : List Piece → Option (List Char)
  | [] => some []
  | .char c :: rest => (textOf rest).map (c :: ·)
  | .half high :: .half low :: rest =>
    if high < 0xdc00 ∧ 0xdc00 ≤ low then
      (textOf rest).map (Char.ofNat (0x10000 + (high - 0xd800) * 0x400 + (low - 0xdc00)) :: ·)
    else none
  | .half _ :: _ => none

def simpleEscape? : Char → Option Char
  | '"' => some '"'
  | '\\' => some '\\'
  | '/' => some '/'
  | 'b' => some '\x08'
  | 'f' => some '\x0c'
  | 'n' => some '\n'
  | 'r' => some '\r'
  | 't' => some '\t'
  | _ => none

def hexDigit? (c : Char) : Option Nat :=
  if '0' ≤ c ∧ c ≤ '9' then some (c.toNat - '0'.toNat)
  else if 'a' ≤ c ∧ c ≤ 'f' then some (c.toNat - 'a'.toNat + 10)
  else if 'A' ≤ c ∧ c ≤ 'F' then some (c.toNat - 'A'.toNat + 10)
  else none

/-! ## The lexer -/

def isBlank (c : Char) : Bool :=
  c == ' ' || c == '\t' || c == '\n' || c == '\r'

def isWordChar (c : Char) : Bool :=
  c.isAlphanum || c == '+' || c == '-' || c == '.'

def punctuation? : Char → Option Token
  | '\x7b' => some .openObject
  | '\x7d' => some .closeObject
  | '[' => some .openArray
  | ']' => some .closeArray
  | ':' => some .colon
  | ',' => some .comma
  | _ => none

/-- Where the lexer is.  What it has seen of a token is kept in reverse. -/
inductive Lexer where
  | between
  | word (seen : List Char)
  | string (seen : List Piece)
  | escape (seen : List Piece)
  | unicode (seen : List Piece) (value : Nat) (digitsLeft : Nat)
  deriving Repr

namespace Lexer

/-- The first character of a token, or one between tokens. -/
def start (c : Char) : Option (Lexer × List Token) :=
  if isBlank c then some (between, [])
  else if c = '"' then some (string [], [])
  else if isWordChar c then some (word [c], [])
  else (punctuation? c).map fun t => (between, [t])

/-- Takes one character: the new place, and the tokens that are now complete. -/
def next : Lexer → Char → Option (Lexer × List Token)
  | between, c => start c
  | word seen, c =>
    if isWordChar c then some (word (c :: seen), [])
    else do
      let v ← scalar? seen.reverse
      let (place, tokens) ← start c
      return (place, .scalar v :: tokens)
  | string seen, c =>
    if c = '"' then
      some (between, [.scalar (.string ((textOf seen.reverse).map String.ofList))])
    else if c = '\\' then some (escape seen, [])
    else if c.toNat < 0x20 then none
    else some (string (.char c :: seen), [])
  | escape seen, c =>
    if c = 'u' then some (unicode seen 0 3, [])
    else (simpleEscape? c).map fun d => (string (.char d :: seen), [])
  | unicode seen value left, c => do
    let d ← hexDigit? c
    match left with
    | 0 => return (string (Piece.ofEscape (16 * value + d) :: seen), [])
    | left + 1 => return (unicode seen (16 * value + d) left, [])

def finish : Lexer → Option (List Token)
  | between => some []
  | word seen => (scalar? seen.reverse).map fun v => [.scalar v]
  | _ => none

def run : Lexer → List Char → Option (List Token)
  | place, [] => place.finish
  | place, c :: rest => do
    let (place, tokens) ← place.next c
    let more ← run place rest
    return tokens ++ more

end Lexer

/-- The tokens of a text, if it consists of tokens. -/
def tokens? (text : List Char) : Option (List Token) :=
  Lexer.run .between text

end VirtualCamera.Json
