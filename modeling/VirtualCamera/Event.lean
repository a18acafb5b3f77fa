import VirtualCamera.Request

/-!
# Events

What a listener is told: that the exposure of a frame began, that something
failed, or the result of a frame.
-/

namespace VirtualCamera

/-- What an error notice is about. -/
inductive ErrorCode where
  /-- the device cannot go on -/
  | device
  /-- the request failed as a whole: neither result nor buffers will follow -/
  | request
  /-- there will be no result for the frame -/
  | result
  /-- a single buffer failed -/
  | buffer
  deriving DecidableEq, Repr

instance : Vocabulary ErrorCode where
  members := [.device, .request, .result, .buffer]
  word
    | .device => "Device"
    | .request => "Request"
    | .result => "Result"
    | .buffer => "Buffer"

/-- The result of a frame. -/
structure ResultRecord where
  camera : UInt32
  pipeline : UInt32
  frame : UInt32
  metadata : CaptureSettings
  depth : UInt8
  outputs : List Attachment
  inputs : List Attachment
  /-- how many partial results the frame is answered with -/
  partials : UInt32
  deriving DecidableEq, Repr

/-- What a listener is told. -/
inductive Event where
  /-- an error of a frame, of one of its streams if that is known -/
  | error (pipeline : UInt32) (code : ErrorCode) (frame : UInt32) (stream : Option UInt32)
  /-- the exposure of a frame began, at a time in nanoseconds -/
  | shutter (pipeline : UInt32) (frame : UInt32) (time : UInt64)
  | result (record : ResultRecord)
  deriving DecidableEq, Repr

namespace Event

/-- Whether the event is the last that a listener is told about a frame. -/
def isFinal : Event → Bool
  | shutter .. => false
  | _ => true

/-- Whether an event reaches a listener: results only if it wants them. -/
def reaches (e : Event) (listener : Listener) : Bool :=
  match e with
  | result _ => listener.wantsResults
  | _ => true

/-- Whether there are as many last events of frames as wanted. -/
def haveFinals (n : Nat) (events : List Event) : Bool :=
  n ≤ events.countP isFinal

/-- The events up to the one that is the `n`-th last one of a frame, or all of
them if there are not so many. -/
def throughFinal (n : Nat) : List Event → List Event
  | [] => []
  | e :: rest =>
    if n = 0 then []
    else if e.isFinal then e :: throughFinal (n - 1) rest
    else e :: throughFinal n rest

end Event

end VirtualCamera
