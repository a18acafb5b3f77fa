import VirtualCamera.Word

/-!
# Limits of the device

The ranges and defaults that hold for every virtual camera, and the four
operations on limits that have no answer for some arguments: rounding up to a
multiple of zero, moving a value into an empty range, reserving more memory
than has addresses, and adding sizes to more than can be counted.  Such a
request stops the thread that makes it, as does the use of bytes that a buffer
does not have (`Crash`).
-/

namespace VirtualCamera

/-- Why a thread stopped in the middle of an operation. -/
inductive Crash where
  | zeroStep
  | emptyRange
  | outOfAddresses
  | outOfBounds
  | overflow
  deriving DecidableEq, Repr

def Crash.message : Crash → String
  | .zeroStep => "no multiple of zero to round up to"
  | .emptyRange => "no value in an empty range"
  | .outOfAddresses => "capacity overflow"
  | .outOfBounds => "region reaches beyond the end of its buffer"
  | .overflow => "attempt to add with overflow"

/-- A range of values with both ends included; empty if `least` exceeds
`most`. -/
structure Range (α : Type) where
  least : α
  most : α
  deriving DecidableEq, Repr

namespace Range

variable {α : Type} [LE α] [DecidableLE α]

/-- Whether `x` lies in the range. -/
def contains (r : Range α) (x : α) : Bool :=
  decide (r.least ≤ x) && decide (x ≤ r.most)

/-- The value of the range that is nearest to `x`. -/
def clamp (r : Range α) (x : α) : Except Crash α :=
  if r.least ≤ r.most then
    .ok (if r.least ≤ x then (if x ≤ r.most then x else r.most) else r.least)
  else .error .emptyRange

end Range

/-- The least multiple of `step` that is at least `value`: `none` if it is no
32-bit word, a crash if there are no multiples to choose from. -/
def alignUp (value step : UInt32) : Except Crash (Option UInt32) :=
  if step = 0 then .error .zeroStep else .ok (Word.roundUp? value step)

namespace Limits

def pipelineDepth : UInt64 := 4

/-- Frame durations in nanoseconds: a thirtieth of a second to 30 s. -/
def frameDuration : Range UInt64 := ⟨33331760, 30000000000⟩

/-- Exposure times in nanoseconds: a microsecond to 30 s. -/
def exposureTime : Range UInt64 := ⟨1000, 30000000000⟩

def sensitivity : Range Int32 := ⟨100, 1600⟩

def defaultSensitivity : Int32 := 100

def defaultExposureTime : UInt64 := 15000000

def defaultFrameDuration : UInt64 := 33000000

/-- Every frame is answered by one result, never by several partial ones. -/
def partialResults : UInt32 := 1

/-- The usage bits of a buffer that the processor writes often. -/
def writeOften : UInt64 := 0x30

/-- How many bytes can be reserved at once: as many as a signed 64-bit word
counts. -/
def addressable : Nat := 0x7fffffffffffffff

/-- The bytes of one slot of the request queue. -/
def slotBytes : Nat := 136

/-- The shortest rest of a thread, in nanoseconds. -/
def leastRest : Nat := 50000

/-- Width and height of the preview that the command line captures. -/
def previewWidth : UInt32 := 320

def previewHeight : UInt32 := 240

end Limits

/-- Reserves memory for `count` values of `bytes` bytes each. -/
def reserve (count bytes : Nat) : Except Crash Unit :=
  if count * bytes ≤ Limits.addressable then .ok () else .error .outOfAddresses

/-- The sum of two sizes, which has to be a 64-bit word. -/
def addSizes (a b : UInt64) : Except Crash UInt64 :=
  if a.toNat + b.toNat < UInt64.size then .ok (a + b) else .error .overflow

end VirtualCamera
