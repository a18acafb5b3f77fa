import VirtualCamera.Layout
import VirtualCamera.Limits

/-!
# Client memory

Clients own the buffers that the camera fills.  A buffer is locked before the
processor may touch it; a lock hands out byte regions of the buffer and is
counted until it is released.  The count is a 32-bit word, and releasing a
buffer that is not locked changes nothing.

Buffers are referred to by their position in the memory.
-/

namespace VirtualCamera

/-- A client buffer: its bytes and how often it is locked at present. -/
structure Buffer where
  bytes : Array UInt8
  locks : UInt32 := 0
  deriving DecidableEq, Repr

namespace Buffer

/-- A buffer of `size` zero bytes. -/
def zeroed (size : Nat) : Buffer :=
  ⟨Array.replicate size 0, 0⟩

def size (b : Buffer) : Nat :=
  b.bytes.size

def isLocked (b : Buffer) : Bool :=
  b.locks != 0

end Buffer

/-- Consecutive bytes of a buffer. -/
structure Region where
  buffer : Nat
  offset : Nat
  size : Nat
  deriving DecidableEq, Repr

namespace Region

/-- Whether the byte at a position of the region's buffer belongs to it. -/
def covers (r : Region) (position : Nat) : Bool :=
  decide (r.offset ≤ position) && decide (position < r.offset + r.size)

end Region

/-- The regions of a locked planar buffer. -/
structure PlanarRegions where
  luma : Region
  cb : Region
  cr : Region
  lumaStride : UInt32
  chromaStride : UInt32
  /-- the distance from one chroma sample to the next -/
  chromaStep : UInt32
  deriving DecidableEq, Repr

/-- All client buffers. -/
structure Memory where
  buffers : Array Buffer
  deriving DecidableEq, Repr

namespace Memory

/-- Zeroed buffers of the given sizes, each of which has to be addressable. -/
def ofSizes (sizes : List Nat) : Except Crash Memory := do
  let buffers ← sizes.mapM fun size => do
    reserve size 1
    return Buffer.zeroed size
  return ⟨buffers.toArray⟩

/-- One more buffer, and its position. -/
def add (m : Memory) (b : Buffer) : Memory × Nat :=
  (⟨m.buffers.push b⟩, m.buffers.size)

/-- Changes one buffer; a position without a buffer is left alone. -/
def update (m : Memory) (i : Nat) (f : Buffer → Buffer) : Memory :=
  ⟨m.buffers.modify i f⟩

/-- The bytes of a buffer; none at a position without one. -/
def sizeOf (m : Memory) (i : Nat) : Nat :=
  (m.buffers[i]?.map Buffer.size).getD 0

/-! ## Locks -/

def acquire (m : Memory) (i : Nat) : Memory :=
  m.update i fun b => { b with locks := b.locks + 1 }

def release (m : Memory) (i : Nat) : Memory :=
  m.update i fun b => { b with locks := if b.locks = 0 then 0 else b.locks - 1 }

/-- Locks the first `size` bytes of a buffer: at least one byte, and no more
than there are. -/
def lock? (m : Memory) (i : Nat) (size : UInt32) : Option (Memory × Region) :=
  if size = 0 ∨ m.sizeOf i < size.toNat then none
  else some (m.acquire i, ⟨i, 0, size.toNat⟩)

/-- Locks the three planes of an image: at least one byte, and no more than
there are.  The size of an image without luma is not asked for. -/
def lockPlanar? (m : Memory) (i : Nat) (width height : UInt32) :
    Except Crash (Option (Memory × PlanarRegions)) :=
  let p := Planar.ofSize width height
  if p.lumaSize = 0 then .ok none
  else p.total.map fun total =>
    if m.sizeOf i < total.toNat then none
    else some (m.acquire i, {
      luma := ⟨i, 0, p.lumaSize.toNat⟩
      cb := ⟨i, p.lumaSize.toNat, p.chromaSize.toNat⟩
      cr := ⟨i, (p.lumaSize + p.chromaSize).toNat, p.chromaSize.toNat⟩
      lumaStride := p.lumaStride.toUInt32
      chromaStride := p.chromaStride.toUInt32
      chromaStep := 1 })

/-! ## Bytes -/

/-- Changes the bytes of a region; `f` is given the position inside the region
and the byte. -/
def mapRegion (m : Memory) (r : Region) (f : Nat → UInt8 → UInt8) : Memory :=
  m.update r.buffer fun b => { b with
    bytes := b.bytes.mapIdx fun i byte => if r.covers i then f (i - r.offset) byte else byte }

def fill (m : Memory) (r : Region) (value : UInt8) : Memory :=
  m.mapRegion r fun _ _ => value

/-- Whether all bytes of a region are in its buffer. -/
def holds (m : Memory) (r : Region) : Bool :=
  decide (r.offset + r.size ≤ m.sizeOf r.buffer)

/-- Changes the bytes of a region, all of which have to be in its buffer. -/
def write (m : Memory) (r : Region) (f : Nat → UInt8 → UInt8) : Except Crash Memory :=
  if m.holds r then .ok (m.mapRegion r f) else .error .outOfBounds

def regionBytes (m : Memory) (r : Region) : List UInt8 :=
  match m.buffers[r.buffer]? with
  | some b => (b.bytes.toList.drop r.offset).take r.size
  | none => []

def contents (m : Memory) (i : Nat) : List UInt8 :=
  match m.buffers[i]? with
  | some b => b.bytes.toList
  | none => []

def lockedBuffers (m : Memory) : List Bool :=
  m.buffers.toList.map Buffer.isLocked

end Memory

def consRun {α : Type} [BEq α] (a : α) : List (α × Nat) → List (α × Nat)
  | (b, n) :: runs => if a == b then (b, n + 1) :: runs else (a, 1) :: (b, n) :: runs
  | [] => [(a, 1)]

/-- A list as runs of equal elements with their lengths. -/
def runLengths {α : Type} [BEq α] (l : List α) : List (α × Nat) :=
  l.foldr consRun []

end VirtualCamera
