import VirtualCamera.Mapping

/-!
# Effects and their record

All that the processor and the sensor do to the outside is an effect: they
tell a listener, paint a buffer, or release one (`Effect`).  What happens is
written down as it happens, the newest first (`Occurrence`); an operation that
takes several effects performs them one by one, and threads may come in
between.

A `Stage` is what the threads share apart from their locks: the sensor, the
buffers and fences, and the record.
-/

namespace VirtualCamera

/-- A frame as it is handed to the sensor. -/
structure Shot where
  settings : SensorSettings
  /-- the result to be completed with the buffers -/
  result : ResultRecord
  inputs : Option (List Mapping)
  outputs : List Mapping
  deriving DecidableEq, Repr

namespace Shot

/-- All buffers of a shot that are mapped: outputs first. -/
def mappings (shot : Shot) : List Mapping :=
  shot.outputs ++ shot.inputs.getD []

end Shot

/-- What is done to the outside. -/
inductive Effect where
  | tell (tag : FrameTag) (event : Event)
  | paint (mapping : Mapping) (shade : UInt8)
  | release (mapping : Mapping)
  deriving DecidableEq, Repr

/-- Who tells a listener something. -/
inductive Speaker where
  | processor
  | sensor
  deriving DecidableEq, Repr

/-- A request that was admitted, with its buffers mapped. -/
structure Admission where
  tag : FrameTag
  settings : Option CaptureSettings
  inputs : Option (List Mapping)
  outputs : Option (List Mapping)
  deriving DecidableEq, Repr

namespace Admission

/-- All buffers of a request that are mapped: inputs first. -/
def mappings (a : Admission) : List Mapping :=
  a.inputs.getD [] ++ a.outputs.getD []

def failure (a : Admission) (code : ErrorCode) : Effect :=
  .tell a.tag (.error a.tag.pipeline code a.tag.frame none)

end Admission

/-- What happened. -/
inductive Occurrence where
  /-- a call put a request into the queue -/
  | admitted (call : Nat) (admission : Admission)
  /-- the worker took a request from the queue -/
  | popped (admission : Admission)
  /-- the worker turned the settings that apply to a request into sensor
  parameters, or could not -/
  | resolved (tag : FrameTag) (settings : Option CaptureSettings)
      (sensor : Option SensorSettings)
  /-- the worker was stopped by the settings of a request -/
  | crashed (tag : FrameTag)
  /-- a flush took these requests from the queue -/
  | drained (call : Nat) (admissions : List Admission)
  /-- the worker's wait for the fence of a buffer ended -/
  | waited (mapping : Mapping) (outcome : Except FenceFault Unit)
  /-- the worker handed a frame to the sensor -/
  | handedOver (tag : FrameTag) (shot : Shot)
  | told (speaker : Speaker) (tag : FrameTag) (event : Event)
  | painted (mapping : Mapping) (shade : UInt8)
  | released (mapping : Mapping)
  /-- a wait for the sensor ended, that of a call or else the worker's: with a
  tick, or without one -/
  | paced (call : Option Nat) (ticked : Bool)
  | returned (call : Nat) (answer : Except Fault Unit)
  /-- a call was stopped by a crash and never returns -/
  | aborted (call : Nat) (crash : Crash)
  deriving Repr

namespace Occurrence

/-- The event that was told, if it reaches the listeners of a channel. -/
def heardOn (channel : Nat) : Occurrence → Option Event
  | told _ tag event =>
    if tag.listener.channel = channel ∧ event.reaches tag.listener then some event else none
  | _ => none

end Occurrence

/-- What threads share apart from their locks. -/
structure Stage (σ : Type) where
  sensor : σ
  store : Store
  /-- the newest first -/
  record : List Occurrence := []

namespace Store

def paint (s : Store) (m : Mapping) (shade : UInt8) : Store :=
  let fill (memory : Memory) (stroke : Region × UInt8) := memory.fill stroke.1 stroke.2
  { s with memory := (m.planes.strokes shade).foldl fill s.memory }

end Store

namespace Stage

variable {σ : Type}

def note (s : Stage σ) (o : Occurrence) : Stage σ :=
  { s with record := o :: s.record }

def perform (s : Stage σ) (speaker : Speaker) : Effect → Stage σ
  | .tell tag event => s.note (.told speaker tag event)
  | .paint m shade => { s with store := s.store.paint m shade }.note (.painted m shade)
  | .release m => { s with store := s.store.release m.buffer }.note (.released m)

def performAll (s : Stage σ) (speaker : Speaker) (effects : List Effect) : Stage σ :=
  effects.foldl (fun s e => s.perform speaker e) s

/-! ## What listeners hear -/

/-- All that was heard on a channel, the oldest first. -/
def heard (s : Stage σ) (channel : Nat) : List Event :=
  s.record.reverse.filterMap (·.heardOn channel)

def answer? (s : Stage σ) (call : Nat) : Option (Except Fault Unit) :=
  s.record.findSome? fun
    | .returned c answer => if c = call then some answer else none
    | _ => none

def crash? (s : Stage σ) (call : Nat) : Option Crash :=
  s.record.findSome? fun
    | .aborted c crash => if c = call then some crash else none
    | _ => none

def tickAnswer? (s : Stage σ) (call : Nat) : Option Bool :=
  s.record.findSome? fun
    | .paced c ticked => if c = some call then some ticked else none
    | _ => none

end Stage

end VirtualCamera
