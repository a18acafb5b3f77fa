import VirtualCamera.Json.Reader
import VirtualCamera.Json.Writer
import VirtualCamera.Limits
import VirtualCamera.Vocabulary

/-!
# Records in JSON

How the values of this library are written as JSON values and read back.

A record is an object with one member per field, or an array of the fields in
their order.  Members with other keys are ignored; a field that occurs twice
is refused, and so is a key that is no text.  A member of an enumeration is
its word, or an object whose only key is the word and whose only value is
null.  Integers have to be in the range of their type.
-/

namespace VirtualCamera.Json

/-- A type whose values are written as JSON values and read back. -/
class Codec (α : Type) where
  encode : α → Value
  decode : Value → Option α

export Codec (encode decode)

def render {α : Type} [Codec α] (a : α) : String :=
  (encode a).compact

def parse? {α : Type} [Codec α] (text : String) : Option α := do
  decode (← Value.ofText? text)

/-! ## Plain types -/

/-- The integer of a value, if it is one within bounds. -/
def integerIn? (least most : Int) : Value → Option Int
  | .integer n => if least ≤ n ∧ n ≤ most then some n else none
  | _ => none

instance : Codec UInt8 where
  encode n := .integer n.toNat
  decode v := (integerIn? 0 0xff v).map fun n => UInt8.ofNat n.toNat

instance : Codec UInt32 where
  encode n := .integer n.toNat
  decode v := (integerIn? 0 0xffffffff v).map fun n => UInt32.ofNat n.toNat

instance : Codec UInt64 where
  encode n := .integer n.toNat
  decode v := (integerIn? 0 0xffffffffffffffff v).map fun n => UInt64.ofNat n.toNat

instance : Codec Int32 where
  encode n := .integer n.toInt
  decode v := (integerIn? (-0x80000000) 0x7fffffff v).map Int32.ofInt

instance : Codec Bool where
  encode b := .bool b
  decode
    | .bool b => some b
    | _ => none

instance {α : Type} [Vocabulary α] : Codec α where
  encode a := .text (Vocabulary.word a)
  decode
    | .string (some word) => Vocabulary.ofWord? word
    | .object [(some word, .null)] => Vocabulary.ofWord? word
    | _ => none

instance {α : Type} [Codec α] : Codec (List α) where
  encode items := .array (items.map encode)
  decode
    | .array items => items.mapM decode
    | _ => none

/-- An absent entry is written as null. -/
instance {α : Type} [Codec α] : Codec (Option α) where
  encode
    | some a => encode a
    | none => .null
  decode
    | .null => some none
    | v => (decode v).map some

instance {α : Type} [Codec α] : Codec (Range α) where
  encode r := .array [encode r.least, encode r.most]
  decode
    | .array [least, most] => do return ⟨← decode least, ← decode most⟩
    | _ => none

/-! ## Records -/

/-- What a record holds, by field name; later fields of a short array are
absent. -/
abbrev Entries := List (String × Value)

def occursOnce (entries : Entries) (name : String) : Bool :=
  (entries.filter fun e => e.1 == name).length ≤ 1

def entries? (fields : List String) : Value → Option Entries
  | .array items => if items.length ≤ fields.length then some (fields.zip items) else none
  | .object members => do
    let entries ← members.mapM fun m => m.1.map fun key => (key, m.2)
    if fields.all (occursOnce entries) then some entries else none
  | _ => none

namespace Entries

variable {α : Type} [Codec α]

def field? (entries : Entries) (name : String) : Option α := do
  decode (← entries.lookup name)

def fieldOr? (entries : Entries) (name : String) (default : α) : Option α :=
  match entries.lookup name with
  | some v => decode v
  | none => some default

end Entries

def field {α : Type} [Codec α] (name : String) (a : α) : Entries :=
  [(name, encode a)]

/-- A field for writing that is left out when it is absent. -/
def presentField {α : Type} [Codec α] (name : String) : Option α → Entries
  | some a => [(name, encode a)]
  | none => []

end VirtualCamera.Json
