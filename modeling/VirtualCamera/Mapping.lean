import VirtualCamera.Event
import VirtualCamera.Fence
import VirtualCamera.Memory

/-!
# Mapped buffers

Before a client buffer can be used for a frame it is mapped: it is locked with
the layout of its stream, and the fence that came with it is imported.  A
mapping is live until it is released, and keeps one lock on its buffer for all
that time.

Mapping may fail, and a buffer that fails is left out: it does not fail the
request that brought it.  Later the fences of the mapped buffers are awaited;
a buffer whose fence did not signal is released and left out as well.

A planar image whose size cannot be counted stops the thread that maps it.  The
buffers that it has mapped for the same request are then given back.
-/

namespace VirtualCamera

/-- Which frame something belongs to and who is told about it. -/
structure FrameTag where
  /-- numbers admitted requests, in the order of their admission -/
  ticket : Nat
  frame : UInt32
  pipeline : UInt32
  camera : UInt32
  listener : Listener
  deriving DecidableEq, Repr

/-- The locked bytes of a buffer. -/
inductive Planes where
  | packed (region : Region) (stride size : UInt32)
  | planar (regions : PlanarRegions)
  deriving DecidableEq, Repr

namespace Planes

/-- What the sensor fills each plane with: the shade of the frame, and neutral
chroma. -/
def strokes (p : Planes) (shade : UInt8) : List (Region × UInt8) :=
  match p with
  | packed region _ _ => [(region, shade)]
  | planar r => [(r.luma, shade), (r.cb, 128), (r.cr, 128)]

end Planes

/-- A client buffer that is mapped for a frame. -/
structure Mapping where
  tag : FrameTag
  width : UInt32
  height : UInt32
  format : PixelFormat
  dataspace : Dataspace
  isInput : Bool
  planes : Planes
  /-- the buffer as it will be given back -/
  attachment : Attachment
  /-- the imported fence -/
  fence : Option Nat
  deriving DecidableEq, Repr

namespace Mapping

def buffer (m : Mapping) : Nat :=
  m.attachment.buffer

def filled (m : Mapping) : Mapping :=
  { m with attachment.status := .ok }

def diagnostic (m : Mapping) : String :=
  Text.shownRecord "SensorBuffer"
    [("frame_number", toString m.tag.frame), ("pipeline_id", toString m.tag.pipeline),
      ("stream_id", toString m.attachment.stream), ("width", toString m.width),
      ("height", toString m.height), ("format", Vocabulary.word m.format),
      ("is_input", Text.shownBool m.isInput),
      ("status", Vocabulary.word m.attachment.status)] ", .."

/-- Buffers to be awaited: none at all and an empty list are the same. -/
def awaited : Option (List Mapping) → Option (List Mapping)
  | none | some [] => none
  | some (m :: rest) => some (m :: rest)

end Mapping

namespace Stream

/-- A stream as the sensor sees it: the sensor chooses the format in which it
consumes an input stream. -/
def seenThrough (override : PixelFormat → PixelFormat) (s : Stream) : Stream :=
  if s.isInput then { s with format := override s.format } else s

end Stream

/-- What clients own: buffers and fences. -/
structure Store where
  memory : Memory
  fences : Array Fence
  deriving DecidableEq, Repr

namespace Store

/-- A fence; a position without one counts as closed. -/
def fence (s : Store) (i : Nat) : Fence :=
  s.fences[i]?.getD .closed

def setFence (s : Store) (i : Nat) (f : Fence) : Store :=
  { s with fences := s.fences.modify i fun _ => f }

def release (s : Store) (buffer : Nat) : Store :=
  { s with memory := s.memory.release buffer }

/-- Releases several mappings, in order. -/
def releaseAll (s : Store) (mappings : List Mapping) : Store :=
  mappings.foldl (fun s m => s.release m.buffer) s

/-! ## Mapping -/

def lockPacked (s : Store) (stream : Stream) (buffer : Nat) : Except Fault (Store × Planes) := do
  let extent ← Extent.ofStream stream
  match s.memory.lock? buffer extent.size with
  | some (memory, region) => .ok ({ s with memory }, .packed region extent.stride extent.size)
  | none => .error (.lockFailed s!"stream {stream.id} lock of {extent.size} bytes")

def lockPlanes (s : Store) (stream : Stream) (buffer : Nat) : Except Stop (Store × Planes) :=
  if stream.format.isPlanar then
    match s.memory.lockPlanar? buffer stream.width stream.height with
    | .ok (some (memory, regions)) => .ok ({ s with memory }, .planar regions)
    | .ok none => .error (.refused (.lockFailed s!"stream {stream.id} planar lock"))
    | .error crash => .error (.crashed crash)
  else (s.lockPacked stream buffer).mapError .refused

/-- Maps a client buffer for a frame: first the lock, then the fence.  If the
fence cannot be imported the lock is given back. -/
def map (s : Store) (override : PixelFormat → PixelFormat) (tag : FrameTag) (stream : Stream)
    (attachment : Attachment) : Store × Except Stop Mapping :=
  let stream := stream.seenThrough override
  match s.lockPlanes stream attachment.buffer with
  | .error stop => (s, .error stop)
  | .ok (locked, planes) =>
    if attachment.fence.all fun i => (locked.fence i).importable then
      (locked, .ok {
        tag, planes
        width := stream.width
        height := stream.height
        format := stream.format
        dataspace := stream.dataspace
        isInput := stream.isInput
        attachment := { attachment with status := .error }
        fence := attachment.fence })
    else (locked.release attachment.buffer, .error (.refused .fenceNotImported))

/-- Maps a buffer of a pipeline with the given streams, if its stream is among
them and nothing fails. -/
def mapKnown (s : Store) (override : PixelFormat → PixelFormat) (tag : FrameTag)
    (streams : List Stream) (attachment : Attachment) : Store × Except Crash (Option Mapping) :=
  match Stream.find? streams attachment.stream with
  | none => (s, .ok none)
  | some stream =>
    match s.map override tag stream attachment with
    | (s, .ok m) => (s, .ok (some m))
    | (s, .error (.refused _)) => (s, .ok none)
    | (s, .error (.crashed crash)) => (s, .error crash)

/-- Maps buffers in order and leaves those out that fail. -/
def mapEach (s : Store) (override : PixelFormat → PixelFormat) (tag : FrameTag)
    (streams : List Stream) : List Attachment → Store × Except Crash (List Mapping)
  | [] => (s, .ok [])
  | a :: rest =>
    match s.mapKnown override tag streams a with
    | (s, .error crash) => (s, .error crash)
    | (s, .ok first) =>
      match s.mapEach override tag streams rest with
      | (s, .error crash) => (s.releaseAll first.toList, .error crash)
      | (s, .ok others) => (s, .ok (first.toList ++ others))

/-- Maps the buffers of a request: `none` if it brings none, which differs
from bringing some that all fail. -/
def mapAll (s : Store) (override : PixelFormat → PixelFormat) (tag : FrameTag)
    (streams : List Stream) (attachments : List Attachment) :
    Store × Except Crash (Option (List Mapping)) :=
  if attachments.isEmpty then (s, .ok none)
  else
    let (s, mappings) := s.mapEach override tag streams attachments
    (s, mappings.map some)

/-! ## Waiting -/

/-- How a wait for a mapped buffer ends that finds the fences as they are
now. -/
def outcome (s : Store) (m : Mapping) : Except FenceFault Unit :=
  match m.fence with
  | none => .ok ()
  | some i => (s.fence i).outcome

def isSettled (s : Store) (m : Mapping) : Bool :=
  m.fence.all fun i => (s.fence i).isSettled

/-- Ends the wait for one buffer: it is kept if its fence signaled, and
released otherwise. -/
def settle (s : Store) (m : Mapping) : Store × Option Mapping :=
  match s.outcome m with
  | .ok _ => (s, some m)
  | .error _ => (s.release m.buffer, none)

/-- Ends the waits for several buffers, in order. -/
def settleEach (s : Store) : List Mapping → Store × List Mapping
  | [] => (s, [])
  | m :: rest =>
    let (s, first) := s.settle m
    let (s, others) := s.settleEach rest
    (s, first.toList ++ others)

def settleAll (s : Store) (mappings : Option (List Mapping)) : Store × Option (List Mapping) :=
  match Mapping.awaited mappings with
  | none => (s, none)
  | some ms =>
    let (s, kept) := s.settleEach ms
    (s, some kept)

end Store

end VirtualCamera
