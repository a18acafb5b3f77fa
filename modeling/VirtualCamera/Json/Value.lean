/-!
# JSON values

A value keeps what reading a record out of it can tell apart.  Integers are
exact.  Of a number with a fraction or an exponent only the fact remains, and
the same holds of minus zero, which is not an integer here.  A string whose
escapes name no text (half of a surrogate pair stands alone) is a string
without a text.  Objects keep their members in order, repetitions included.
-/

namespace VirtualCamera.Json

inductive Value where
  | null
  | bool (b : Bool)
  | integer (n : Int)
  /-- a number that is written with a fraction or an exponent, or `-0` -/
  | real
  | string (text : Option String)
  | array (items : List Value)
  | object (members : List (Option String × Value))
  deriving Repr, Inhabited

/-- A member of an object. -/
abbrev Member := Option String × Value

namespace Value

def text (s : String) : Value :=
  .string (some s)

def ofFields (fields : List (String × Value)) : Value :=
  .object (fields.map fun f => (some f.1, f.2))

end Value

end VirtualCamera.Json
