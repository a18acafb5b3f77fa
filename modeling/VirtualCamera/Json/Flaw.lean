import VirtualCamera.Decimal.Shortest
import VirtualCamera.Text.Quoted

/-!
# Flaws of texts

What can be wrong with a text that should hold a record, and how a complaint
about it is worded.  A complaint ends with a place: the line, and how many
bytes of the line have been read there.
-/

namespace VirtualCamera.Json

/-! ## Places -/

/-- A place in a text. -/
structure Place where
  line : Nat := 1
  column : Nat := 0
  deriving DecidableEq, Repr

namespace Place

def after (p : Place) (byte : UInt8) : Place :=
  if byte = '\n'.toUInt8 then ⟨p.line + 1, 0⟩ else ⟨p.line, p.column + 1⟩

def ofBytes (bytes : List UInt8) : Place :=
  bytes.foldl after {}

end Place

/-! ## Flaws -/

/-- The parts of a text that have an end of their own. -/
inductive Part where
  | value
  | list
  | object
  | string
  deriving DecidableEq, Repr

/-- The name of a part, with its article. -/
def Part.name : Part → String
  | value => "a value"
  | list => "a list"
  | object => "an object"
  | string => "a string"

/-- What was found where a record or an integer is wanted. -/
inductive Found where
  | null
  | bool (b : Bool)
  | integer (n : Int)
  | real (x : Float)
  | string (text : String)
  | list
  | object
  deriving Repr

/-- What was found, in words. -/
def Found.description : Found → String
  | null => "null"
  | bool b => "boolean `" ++ Text.shownBool b ++ "`"
  | integer n => "integer `" ++ toString n ++ "`"
  | real x => "floating point `" ++ Decimal.ofFloat x ++ "`"
  | string text => "string " ++ Text.quoted text
  | list => "sequence"
  | object => "map"

/-- What is wrong with a text. -/
inductive Flaw where
  /-- the text ends inside a part -/
  | brokenOff (part : Part)
  /-- something else where a value has to begin -/
  | noValue
  /-- a literal that is misspelt -/
  | noLiteral
  | noColon
  /-- neither a comma nor the end after an item of a list -/
  | noItemEnd
  /-- neither a comma nor the end after a member of an object -/
  | noMemberEnd
  /-- a key that is no string -/
  | noKey
  /-- a comma before the end of a list or object -/
  | trailingComma
  /-- more text after the end -/
  | surplus
  | badNumber
  /-- a number beyond all floating-point numbers -/
  | hugeNumber
  | badEscape
  /-- a low half of a surrogate pair, or a high half that no low half follows -/
  | loneHalf
  /-- a high half of a surrogate pair that no escape follows -/
  | missingHalf
  /-- a control character inside a string -/
  | control
  /-- a value of another type than the wanted one -/
  | wrongType (found : Found) (wanted : String)
  /-- an integer outside the range of the wanted type -/
  | wrongValue (n : Int) (wanted : String)
  /-- a second member for one field -/
  | repeated (field : String)
  deriving Repr

def Flaw.message : Flaw → String
  | brokenOff part => "EOF while parsing " ++ part.name
  | noValue => "expected value"
  | noLiteral => "expected ident"
  | noColon => "expected `:`"
  | noItemEnd => "expected `,` or `]`"
  | noMemberEnd => "expected `,` or `\x7d`"
  | noKey => "key must be a string"
  | trailingComma => "trailing comma"
  | surplus => "trailing characters"
  | badNumber => "invalid number"
  | hugeNumber => "number out of range"
  | badEscape => "invalid escape"
  | loneHalf => "lone leading surrogate in hex escape"
  | missingHalf => "unexpected end of hex escape"
  | control => "control character (\\u0000-\\u001F) found while parsing a string"
  | wrongType found wanted => s!"invalid type: {found.description}, expected {wanted}"
  | wrongValue n wanted =>
    "invalid value: " ++ (Found.integer n).description ++ ", expected " ++ wanted
  | repeated field => s!"duplicate field `{field}`"

/-- A flaw, and what follows its place in the text. -/
structure Finding where
  flaw : Flaw
  rest : List UInt8
  deriving Repr

/-- The complaint about a flaw that was found in a text. -/
def Finding.complaint (finding : Finding) (bytes : List UInt8) : String :=
  let p := Place.ofBytes (bytes.take (bytes.length - finding.rest.length))
  s!"{finding.flaw.message} at line {p.line} column {p.column}"

end VirtualCamera.Json
