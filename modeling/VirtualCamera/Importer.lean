import VirtualCamera.Stage

/-!
# The importer

The importer is what a client and a camera have in common: it locks buffers and
hands out regions of them, and maps buffers for frames.  Whoever was given a
region may write to it at any later time, and the sensor paints what was mapped
for it.  A write to a region stops its thread if some of the bytes are not in
the buffer (`Memory.write`), and so does the lock of a planar buffer if the size
of the image cannot be counted (`Memory.lockPlanar?`).  A plain lock only
compares its size and always returns.

`Importer` keeps all that was handed out so far, so that later uses can refer to
it by position.
-/

namespace VirtualCamera

namespace Store

/-- Paints the planes of a mapping one after the other, as long as each is
inside its buffer. -/
def paintWithin (s : Store) (m : Mapping) (shade : UInt8) : Except Crash Store := do
  let memory ← (m.planes.strokes shade).foldlM
    (fun memory stroke => memory.write stroke.1 fun _ _ => stroke.2) s.memory
  return { s with memory }

end Store

/-- What clients own and what was handed out of it. -/
structure Importer where
  store : Store
  /-- the oldest first -/
  regions : Array Region := #[]
  /-- the oldest first -/
  mappings : Array Mapping := #[]
  deriving DecidableEq, Repr

/-- A use of the importer, or of what it handed out. -/
inductive Use where
  | lock (buffer : Nat) (size : UInt32)
  | lockPlanar (buffer : Nat) (width height : UInt32)
  | unlock (buffer : Nat)
  /-- the function is given the position inside the region and the byte -/
  | write (region : Nat) (f : Nat → UInt8 → UInt8)
  | map (override : PixelFormat → PixelFormat) (tag : FrameTag) (stream : Stream)
      (attachment : Attachment)
  | paint (mapping : Nat) (shade : UInt8)
  | setFence (fence : Nat) (f : Fence)

namespace Importer

def withMemory (s : Importer) (memory : Memory) : Importer :=
  { s with store := { s.store with memory } }

def lock (s : Importer) (buffer : Nat) (size : UInt32) : Importer × Option Region :=
  match s.store.memory.lock? buffer size with
  | some (memory, r) => ({ s.withMemory memory with regions := s.regions.push r }, some r)
  | none => (s, none)

/-- Locks a planar buffer; its regions are handed out luma first. -/
def lockPlanar (s : Importer) (buffer : Nat) (width height : UInt32) :
    Except Crash (Importer × Option PlanarRegions) := do
  match ← s.store.memory.lockPlanar? buffer width height with
  | some (memory, p) =>
    return ({ s.withMemory memory with regions := s.regions ++ #[p.luma, p.cb, p.cr] }, some p)
  | none => return (s, none)

def write (s : Importer) (r : Region) (f : Nat → UInt8 → UInt8) : Except Crash Importer := do
  return s.withMemory (← s.store.memory.write r f)

def map (s : Importer) (override : PixelFormat → PixelFormat) (tag : FrameTag) (stream : Stream)
    (attachment : Attachment) : Except Crash (Importer × Except Fault Mapping) :=
  match s.store.map override tag stream attachment with
  | (store, .ok m) => .ok ({ s with store, mappings := s.mappings.push m }, .ok m)
  | (store, .error (.refused fault)) => .ok ({ s with store }, .error fault)
  | (_, .error (.crashed crash)) => .error crash

def paint (s : Importer) (m : Mapping) (shade : UInt8) : Except Crash Importer := do
  return { s with store := ← s.store.paintWithin m shade }

/-- Uses the importer; a region or mapping that was never handed out cannot be
used. -/
def step (s : Importer) : Use → Except Crash Importer
  | .lock buffer size => .ok (s.lock buffer size).1
  | .lockPlanar buffer width height => (·.1) <$> s.lockPlanar buffer width height
  | .unlock buffer => .ok { s with store := s.store.release buffer }
  | .write i f =>
    match s.regions[i]? with
    | some r => s.write r f
    | none => .ok s
  | .map override tag stream attachment => (·.1) <$> s.map override tag stream attachment
  | .paint i shade =>
    match s.mappings[i]? with
    | some m => s.paint m shade
    | none => .ok s
  | .setFence i f => .ok { s with store := s.store.setFence i f }

def run (s : Importer) (uses : List Use) : Except Crash Importer :=
  uses.foldlM step s

end Importer

end VirtualCamera
