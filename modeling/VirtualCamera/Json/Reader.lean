import VirtualCamera.Json.Token

/-!
# Reading JSON values

The tokens of a text are put together by a machine that takes one token at a
time.  `Context` is what surrounds the value that is being read, innermost
first; `Reader` says what may come next.  Any depth of nesting is read, and a
text holds exactly one value.
-/

namespace VirtualCamera.Json

/-- What surrounds a value: its earlier neighbours (last one first), its key
inside an object, and what surrounds the array or object. -/
inductive Context where
  | top
  | inArray (items : List Value) (outer : Context)
  | inObject (members : List Member) (key : Option String) (outer : Context)
  deriving Repr

/-- What may come next. -/
inductive Reader where
  /-- a value -/
  | value (place : Context)
  /-- a value or the end of the array, just after its start -/
  | firstItem (outer : Context)
  /-- a key or the end of the object, just after its start -/
  | firstKey (outer : Context)
  /-- a key, after a comma -/
  | key (members : List Member) (outer : Context)
  /-- the colon after a key -/
  | colon (members : List Member) (key : Option String) (outer : Context)
  /-- whatever may follow a complete value -/
  | after (v : Value) (place : Context)
  deriving Repr

namespace Reader

def start (place : Context) : Token → Option Reader
  | .openArray => some (firstItem place)
  | .openObject => some (firstKey place)
  | .scalar v => some (after v place)
  | _ => none

def next : Reader → Token → Option Reader
  | value place, t => start place t
  | firstItem outer, .closeArray => some (after (.array []) outer)
  | firstItem outer, t => start (.inArray [] outer) t
  | firstKey outer, .closeObject => some (after (.object []) outer)
  | firstKey outer, .scalar (.string k) => some (colon [] k outer)
  | key members outer, .scalar (.string k) => some (colon members k outer)
  | colon members k outer, .colon => some (value (.inObject members k outer))
  | after v (.inArray items outer), .comma => some (value (.inArray (v :: items) outer))
  | after v (.inArray items outer), .closeArray =>
    some (after (.array (v :: items).reverse) outer)
  | after v (.inObject members k outer), .comma => some (key ((k, v) :: members) outer)
  | after v (.inObject members k outer), .closeObject =>
    some (after (.object ((k, v) :: members).reverse) outer)
  | _, _ => none

/-- The value that is complete when the tokens end here. -/
def result : Reader → Option Value
  | after v .top => some v
  | _ => none

end Reader

def Value.ofTokens? (tokens : List Token) : Option Value := do
  (← tokens.foldlM Reader.next (.value .top)).result

def Value.ofText? (text : String) : Option Value := do
  Value.ofTokens? (← tokens? text.toList)

end VirtualCamera.Json
