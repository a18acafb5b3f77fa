import VirtualCamera.Settings
import VirtualCamera.Stream

/-!
# Capture requests

A request asks for one frame on one pipeline.  It brings the client buffers
that the frame is to be written to, and those it is to be made from.  Buffers
and fences are referred to by their position in the client's memory.
-/

namespace VirtualCamera

/-- Whether a buffer came back filled. -/
inductive Status where
  | ok
  | error
  deriving DecidableEq, Repr

instance : Vocabulary Status where
  members := [.ok, .error]
  word
    | .ok => "Ok"
    | .error => "Error"

/-- A client buffer that is attached to a request. -/
structure Attachment where
  stream : UInt32
  buffer : Nat
  /-- has to signal before the buffer may be touched -/
  fence : Option Nat
  status : Status
  deriving DecidableEq, Repr

/-- Who is told about the frames of a pipeline: the channel that events go to,
and whether results are taken from it or only notices. -/
structure Listener where
  channel : Nat
  wantsResults : Bool := true
  deriving DecidableEq, Repr

/-- A configured set of streams with one listener. -/
structure Pipeline where
  id : UInt32
  camera : UInt32
  listener : Listener
  streams : List Stream
  deriving DecidableEq, Repr

/-- A pipeline as a diagnostic shows it: its streams by id, the listener left
out. -/
def Pipeline.diagnostic (p : Pipeline) : String :=
  Text.shownRecord "Pipeline"
    [("id", toString p.id), ("physical_camera_id", toString p.camera),
      ("streams", "\x7b" ++ String.intercalate ", "
        (p.streams.map fun s => toString s.id ++ ": " ++ s.diagnostic) ++ "\x7d")] ", .."

/-- A request for one frame. -/
structure CaptureRequest where
  pipeline : UInt32
  /-- absent: those of the last request that brought any -/
  settings : Option CaptureSettings
  inputs : List Attachment
  outputs : List Attachment
  deriving DecidableEq, Repr

end VirtualCamera
