import VirtualCamera.Format
import VirtualCamera.Text.Quoted

/-!
# Streams

A stream is a sequence of images of one size and format that flows through a
pipeline, out of the sensor or (for reprocessing) into it.
-/

namespace VirtualCamera

/-- A configured stream; it does not change while its pipeline lives. -/
structure Stream where
  id : UInt32
  width : UInt32
  height : UInt32
  format : PixelFormat
  dataspace : Dataspace
  /-- the declared size of a buffer, used for blobs alone -/
  bufferSize : UInt32
  /-- how the producer uses the buffers, as bits -/
  usage : UInt64
  isInput : Bool
  deriving DecidableEq, Repr

namespace Stream

def diagnostic (s : Stream) : String :=
  Text.shownRecord "StreamDescriptor"
    [("id", toString s.id), ("width", toString s.width), ("height", toString s.height),
      ("format", Vocabulary.word s.format), ("dataspace", Vocabulary.word s.dataspace),
      ("buffer_size", toString s.bufferSize), ("producer_usage", toString s.usage),
      ("is_input", Text.shownBool s.isInput)] ""

/-- The stream with an id among several; ids are unique in a pipeline. -/
def find? (streams : List Stream) (id : UInt32) : Option Stream :=
  streams.find? (·.id == id)

/-- Streams as a table by id: a stream takes the place of an earlier one with
its id. -/
def table : List Stream → List Stream
  | [] => []
  | s :: rest =>
    let rest := table rest
    if rest.any (·.id == s.id) then rest else s :: rest

/-- The first id that occurs a second time, in list order. -/
def repeatedId? : List Stream → Option UInt32 :=
  go []
where
  go (seen : List UInt32) : List Stream → Option UInt32
    | [] => none
    | s :: rest => if s.id ∈ seen then some s.id else go (s.id :: seen) rest

end Stream

end VirtualCamera
