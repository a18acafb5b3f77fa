import VirtualCamera.Json.Scan

/-!
# What is wrong with a text

The complaint about a text that does not hold the record that was asked for:
its first flaw, in reading order, and where it lies.  `Shape` says what is
asked for.  A member for a field has to be an integer in the range of its type;
a member with another key, and a record of unknown shape, only has to be a
value.
-/

namespace VirtualCamera.Json

/-- A type of integers without a sign. -/
structure Natural where
  name : String
  most : Nat
  deriving Repr

/-- A record whose fields are integers, each with its key. -/
structure Shape where
  name : String
  fields : List (String × Natural)
  deriving Repr

namespace Scan

/-- Complains about the value ahead, which is not what is wanted. -/
def mismatch {α : Type} (wanted : String) : Scan α := do
  let c ← ahead .value
  let found : Found ← match c with
    | 'n' => do skip; letters ['u', 'l', 'l']; pure .null
    | 't' => do skip; letters ['r', 'u', 'e']; pure (.bool true)
    | 'f' => do skip; letters ['a', 'l', 's', 'e']; pure (.bool false)
    | '"' => do skip; pure (.string (← string))
    | '[' => pure .list
    | '\x7b' => pure .object
    | c => if c = '-' || c.isDigit then number else refuse .noValue
  complain (.wrongType found wanted)

def integer (type : Natural) : Scan Unit := do
  let c ← ahead .value
  if c = '-' || c.isDigit then
    match ← number with
    | .integer n =>
      if n < 0 ∨ type.most < n then complain (.wrongValue n type.name)
    | found => complain (.wrongType found type.name)
  else mismatch type.name

/-- Reads the fields of a record that is given as a list.  All of them may be
absent, from some field on. -/
def items : List Natural → (first : Bool) → Scan Unit
  | [], _ => do
    let c ← ahead .list
    if c = ']' then skip
    else
      if c = ',' then
        skip
        let _ ← takeWhile isBlank
        if ← isNext (· = ']') then refuse .trailingComma
      refuse .surplus
  | type :: types, first => do
    let c ← ahead .list
    if c = ']' then skip
    else
      if !first then
        if c ≠ ',' then refuse .noItemEnd
        skip
        if (← ahead .value) = ']' then refuse .trailingComma
      integer type
      items types false

/-- Passes what stands before the key of a member: nothing, or a comma. -/
def beforeKey (first : Bool) (c : Char) : Scan Unit := do
  if first then
    if c ≠ '"' then refuse .noKey
  else
    if c ≠ ',' then refuse .noMemberEnd
    skip
    let c ← ahead .value
    if c = '\x7d' then refuse .trailingComma
    if c ≠ '"' then refuse .noKey

/-- Reads the members of a record after those with the keys in `seen`.  A
second member for a field is a flaw at what follows its key; the end of the
object there counts as read. -/
def members (fields : List (String × Natural)) :
    (bound : Nat) → (seen : List String) → (first : Bool) → Scan Unit
  | 0, _, _ => complain (.brokenOff .object)
  | bound + 1, seen, first => do
    let c ← ahead .object
    if c = '\x7d' then skip
    else
      beforeKey first c
      skip
      let key ← string
      match fields.lookup key with
      | some type =>
        if seen.contains key then
          let _ ← takeWhile isBlank
          if ← isNext (· = '\x7d') then skip
          complain (.repeated key)
        colon
        integer type
      | none =>
        colon
        passOver
      members fields bound (key :: seen) false

def record (shape : Shape) : Scan Unit := do
  match ← ahead .value with
  | '[' => skip; items (shape.fields.map Prod.snd) true
  | '\x7b' => skip; members shape.fields (← size) [] true
  | _ => mismatch shape.name

def ended : Scan Unit := do
  let _ ← takeWhile isBlank
  if (← peek?).isSome then refuse .surplus

end Scan

/-- The first flaw of a text, if it has one. -/
def finding? (shape : Option Shape) (bytes : List UInt8) : Option Finding :=
  let scan : Scan Unit := do
    shape.elim Scan.passOver Scan.record
    Scan.ended
  match scan bytes.length bytes with
  | .ok _ => none
  | .error finding => some finding

/-- The complaint about a text that does not hold what was asked for. -/
def complaint (shape : Option Shape) (text : String) : String :=
  let bytes := text.toUTF8.toList
  match finding? shape bytes with
  | some finding => finding.complaint bytes
  | none => "unexpected content"

end VirtualCamera.Json
