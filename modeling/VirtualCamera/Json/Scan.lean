import VirtualCamera.Json.Flaw
import VirtualCamera.Json.Token

/-!
# Scanning for flaws

A scan goes through the bytes of a text up to the first flaw.  It knows two
ways of reading: what a record needs is read for its value (`string`,
`number`), all else is only passed over (`passString`, `passOver`).  The two
differ in what they mind: half of a surrogate pair, or a number beyond the
floating-point range, is a flaw only where the value counts.

A flaw lies after the byte that shows it (`refuse` where that byte is still
ahead, `complain` where it has been read) or at the end of the text.

Loops are bounded by the size of the text, as every round reads a byte.
-/

namespace VirtualCamera.Json

/-- Reading from the bytes of a text of known size, up to the first flaw. -/
abbrev Scan (α : Type) : Type := ReaderT Nat (StateT (List UInt8) (Except Finding)) α

namespace Scan

variable {α : Type}

/-! ## Steps -/

def complain (flaw : Flaw) : Scan α := fun _ rest => .error ⟨flaw, rest⟩

def refuse (flaw : Flaw) : Scan α := fun _ rest => .error ⟨flaw, rest.tail⟩

def size : Scan Nat := read

/-- The next byte, unless the text ends.  A byte is seen as the character with
its number, so one beyond ASCII is no mark, digit or letter of JSON. -/
def peek? : Scan (Option Char) := return (← get).head?.map Char.ofUInt8

def isNext (p : Char → Bool) : Scan Bool := return (← peek?).any p

def skip : Scan Unit := modify List.tail

/-- Reads a byte; the end of the text is a flaw. -/
def next (atEnd : Flaw) : Scan Char := do
  match ← peek? with
  | some c => skip; return c
  | none => complain atEnd

def takeWhile (p : Char → Bool) : Scan (List Char) := do
  let bytes ← get
  set (bytes.dropWhile fun byte => p (Char.ofUInt8 byte))
  return (bytes.takeWhile fun byte => p (Char.ofUInt8 byte)).map Char.ofUInt8

/-- The first byte after white space; the end of the text is a flaw inside the
given part. -/
def ahead (part : Part) : Scan Char := do
  let _ ← takeWhile isBlank
  match ← peek? with
  | some c => return c
  | none => complain (.brokenOff part)

/-- The given letters, which spell the rest of a literal. -/
def letters : List Char → Scan Unit
  | [] => return
  | c :: cs => do
    if (← next (.brokenOff .value)) ≠ c then complain .noLiteral
    letters cs

/-! ## Strings -/

def fourDigits : Scan Nat := do
  match ← get with
  | a :: b :: c :: d :: rest =>
    set rest
    match [a, b, c, d].mapM fun byte => hexDigit? (Char.ofUInt8 byte) with
    | some digits => return digits.foldl (16 * · + ·) 0
    | none => complain .badEscape
  | _ => set ([] : List UInt8); complain (.brokenOff .string)

/-- The character that an escape stands for, read after its backslash. -/
def escape : Scan Char := do
  let c ← next (.brokenOff .string)
  if c = 'u' then
    let high ← fourDigits
    if 0xdc00 ≤ high ∧ high < 0xe000 then complain .loneHalf
    if high < 0xd800 ∨ 0xe000 ≤ high then return Char.ofNat high
    if (← next (.brokenOff .string)) ≠ '\\' then complain .missingHalf
    if (← next (.brokenOff .string)) ≠ 'u' then complain .missingHalf
    let low ← fourDigits
    if low < 0xdc00 ∨ 0xe000 ≤ low then complain .loneHalf
    return Char.ofNat (0x10000 + (high - 0xd800) * 0x400 + (low - 0xdc00))
  else match simpleEscape? c with
    | some d => return d
    | none => complain .badEscape

/-- Reads the rest of a string after the bytes in `seen`, last one first. -/
def stringAfter : (bound : Nat) → (seen : List UInt8) → Scan String
  | 0, _ => complain (.brokenOff .string)
  | bound + 1, seen => do
    let c ← next (.brokenOff .string)
    if c = '"' then return (String.fromUTF8? ⟨seen.reverse.toArray⟩).getD ""
    else if c = '\\' then
      stringAfter bound ((String.utf8EncodeChar (← escape)).reverse ++ seen)
    else if c < ' ' then complain .control
    else stringAfter bound (c.toUInt8 :: seen)

def string : Scan String := do stringAfter (← size) []

def passEscape : Scan Unit := do
  let c ← next (.brokenOff .string)
  if c = 'u' then let _ ← fourDigits
  else if (simpleEscape? c).isNone then complain .badEscape

def passStringWithin : (bound : Nat) → Scan Unit
  | 0 => complain (.brokenOff .string)
  | bound + 1 => do
    if ← isNext (· < ' ') then complain .control
    let c ← next (.brokenOff .string)
    if c = '"' then return
    if c = '\\' then passEscape
    passStringWithin bound

def passString : Scan Unit := do passStringWithin (← size)

/-! ## Numbers -/

/-- A number as it is written. -/
structure Numeral where
  negative : Bool
  whole : List Char
  fraction : List Char := []
  /-- the exponent, if one is written -/
  exponent : Option Int := none
  deriving Repr

def numberAtEnd (counts : Bool) : Flaw :=
  if counts then .brokenOff .value else .badNumber

def fraction (counts : Bool) : Scan (List Char) := do
  if !(← isNext (· = '.')) then return []
  skip
  let digits ← takeWhile Char.isDigit
  if digits.isEmpty then
    if (← peek?).isSome then refuse .badNumber
    complain (numberAtEnd counts)
  return digits

/-- Reads the digits of an exponent after those in `n`.  If it is limited, the
digit with which it leaves 31 bits shows a flaw. -/
def exponentAfter (limited : Bool) : (bound : Nat) → (n : Nat) → Scan Nat
  | 0, n => return n
  | bound + 1, n => do
    if !(← isNext Char.isDigit) then return n
    let n := 10 * n + ((← next .badNumber).toNat - '0'.toNat)
    if limited && 2 ^ 31 ≤ n then complain .hugeNumber
    exponentAfter limited bound n

/-- Reads an exponent, if there is one.  That of a value other than zero is
limited upwards. -/
def exponent (counts isZero : Bool) : Scan (Option Int) := do
  if !(← isNext fun c => c = 'e' || c = 'E') then return none
  skip
  let negative ← isNext (· = '-')
  if ← isNext fun c => c = '+' || c = '-' then skip
  let c ← next (numberAtEnd counts)
  if !c.isDigit then complain .badNumber
  let limited := counts && !negative && !isZero
  let size ← exponentAfter limited (← size) (c.toNat - '0'.toNat)
  return some (if negative then -size else size)

/-- Reads a number; `counts` says whether its value does. -/
def numeral (counts : Bool) : Scan Numeral := do
  let negative ← isNext (· = '-')
  if negative then skip
  let c ← next (numberAtEnd counts)
  if !c.isDigit then complain .badNumber
  if c = '0' then if ← isNext Char.isDigit then refuse .badNumber
  let whole := c :: (← takeWhile Char.isDigit)
  let fraction ← fraction counts
  let isZero := (whole ++ fraction).all (· = '0')
  return { negative, whole, fraction, exponent := ← exponent counts isZero }

namespace Numeral

/-- Appends digits to a number as long as it fits in 64 bits, and counts those
that are left over. -/
def append (n : Nat) : List Char → Nat × Nat
  | [] => (n, 0)
  | d :: ds =>
    let more := 10 * n + (d.toNat - '0'.toNat)
    if more < 2 ^ 64 then append more ds else (n, ds.length + 1)

def tenTo (n : Nat) : Float := Float.ofScientific 1 false n

/-- The floating-point number for `n * 10 ^ k`, in one or two roundings after
that of `n`, or none beyond the largest. -/
def scaled? (n : Nat) (k : Int) : Option Float :=
  let x := Float.ofNat n
  if n = 0 then some 0
  else if 308 < k then none
  else if 0 ≤ k then
    let y := x * tenTo k.toNat
    if y.isInf then none else some y
  else if -308 ≤ k then some (x / tenTo (-k).toNat)
  else if -616 ≤ k then some (x / tenTo 308 / tenTo (-k - 308).toNat)
  else some 0

/-- The value: an integer if it is written as one, fits in 64 bits and is not
minus zero.  Of other numbers 64 bits of digits count. -/
def value? (x : Numeral) : Option Found :=
  let (n, more) := append 0 x.whole
  let least : Nat := if x.negative then 1 else 0
  let most : Nat := if x.negative then 0x8000000000000000 else 0xffffffffffffffff
  if x.fraction.isEmpty ∧ x.exponent.isNone ∧ more = 0 ∧ least ≤ n ∧ n ≤ most then
    some (.integer (if x.negative then -n else n))
  else
    let (n, left) := append n x.fraction
    let places : Int := (x.fraction.length - left : Nat)
    (scaled? n (more - places + x.exponent.getD 0)).map fun y =>
      .real (if x.negative then -y else y)

end Numeral

def number : Scan Found := do
  let x ← numeral true
  match x.value? with
  | some found => return found
  | none => complain .hugeNumber

/-! ## Values that do not count -/

/-- Passes a value that is neither a list nor an object. -/
def passScalar : Scan Unit := do
  match ← ahead .value with
  | 'n' => skip; letters ['u', 'l', 'l']
  | 't' => skip; letters ['r', 'u', 'e']
  | 'f' => skip; letters ['a', 'l', 's', 'e']
  | '"' => skip; passString
  | c => if c = '-' || c.isDigit then let _ ← numeral false else refuse .noValue

def colon : Scan Unit := do
  if (← ahead .object) ≠ ':' then refuse .noColon
  skip

def passKey : Scan Unit := do
  if (← ahead .object) ≠ '"' then refuse .noKey
  skip
  passString
  colon

/-- A list or an object that has been opened. -/
inductive Bracket where
  | list
  | object
  deriving DecidableEq, Repr

namespace Bracket

def ofOpening? : Char → Option Bracket
  | '[' => some list
  | '\x7b' => some object
  | _ => none

def closing : Bracket → Char
  | list => ']'
  | object => '\x7d'

def part : Bracket → Part
  | list => .list
  | object => .object

/-- The flaw of neither a comma nor the end after a value. -/
def noEnd : Bracket → Flaw
  | list => .noItemEnd
  | object => .noMemberEnd

end Bracket

/-- What comes next inside a value that is passed over. -/
inductive Due where
  /-- a value -/
  | value
  /-- the first value in a bracket, or the end of the bracket -/
  | first
  /-- whatever follows a complete value -/
  | more
  deriving DecidableEq, Repr

/-- Passes the rest of a value inside the brackets that are open, innermost
first.  A round reads no byte only between two that do. -/
def passRest : (bound : Nat) → (openings : List Bracket) → Due → Scan Unit
  | 0, _, _ => return
  | bound + 1, openings, .value => do
    match Bracket.ofOpening? (← ahead .value) with
    | some bracket => skip; passRest bound (bracket :: openings) .first
    | none => passScalar; passRest bound openings .more
  | _, [], _ => return
  | bound + 1, bracket :: outer, due => do
    let c ← ahead bracket.part
    if c = bracket.closing then
      skip
      passRest bound outer .more
    else
      if due = .more then
        if c ≠ ',' then refuse bracket.noEnd
        skip
      if bracket = .object then passKey
      passRest bound (bracket :: outer) .value

def passOver : Scan Unit := do passRest (2 * (← size) + 2) [] .value

end Scan

end VirtualCamera.Json
