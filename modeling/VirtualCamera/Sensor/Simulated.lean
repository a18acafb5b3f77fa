import VirtualCamera.Sensor.Engine

/-!
# The simulated sensor

The simulated sensor paints every buffer in one shade, which is the frame
number modulo 256; chroma stays neutral.  It holds one frame that waits for
the next tick (the slot).  A frame that is handed over while another one waits
replaces it, and the listener of the one replaced is told that its request
failed.

The sensor has a thread.  At a tick it takes the frame out of the slot, counts
the tick and captures the frame: it tells the listener that exposure began,
paints the outputs, gives all buffers back, counts the frame and delivers the
result, in this order.  Then it rests for the duration of the frame, or for
its own period if that is longer; no rest is shorter than
`Limits.leastRest`.  A frame whose outputs are all gone has no
listener to be told and is dropped.

Once the sensor is shutting down, its thread ends instead of ticking.
-/

namespace VirtualCamera

namespace Shot

/-- Who is told about a shot: the listener of its first output. -/
def tag? (shot : Shot) : Option FrameTag :=
  shot.outputs.head?.map Mapping.tag

def completed (shot : Shot) : ResultRecord :=
  { shot.result with
    outputs := shot.outputs.map fun m => m.filled.attachment
    inputs := (shot.inputs.getD []).map fun m => m.filled.attachment }

/-- The effects of giving a shot up before it was captured. -/
def abandon (shot : Shot) : List Effect :=
  let notice (tag : FrameTag) :=
    Effect.tell tag (.error shot.result.pipeline .request shot.result.frame none)
  shot.tag?.toList.map notice ++ (shot.inputs.getD []).map .release ++
    shot.outputs.map .release

def shade (shot : Shot) : UInt8 :=
  shot.result.frame.toUInt8

end Shot

namespace Sensor

/-- One action of a capture. -/
inductive Action where
  | perform (effect : Effect)
  /-- count the frame as captured -/
  | count
  deriving DecidableEq, Repr

/-- The actions of capturing a shot whose exposure begins at `time`. -/
def capture (time : UInt64) (shot : Shot) : List Action :=
  match shot.tag? with
  | none => (shot.inputs.getD []).map fun m => .perform (.release m)
  | some tag =>
    .perform (.tell tag (.shutter shot.result.pipeline shot.result.frame time)) ::
      shot.outputs.map (fun m => .perform (.paint m shot.shade)) ++
      shot.mappings.map (fun m => .perform (.release m)) ++
      [.count, .perform (.tell tag (.result shot.completed))]

/-- What the sensor's thread is doing. -/
inductive Thread where
  /-- about to tick -/
  | ready
  /-- in the middle of a capture: these actions are left -/
  | capturing (actions : List Action)
  | ended
  deriving DecidableEq, Repr

/-- The state of a simulated sensor. -/
structure Simulated where
  /-- the least time from tick to tick, in nanoseconds -/
  period : Nat
  slot : Option Shot := none
  ticks : UInt64 := 0
  captured : UInt64 := 0
  isShuttingDown : Bool := false
  /-- whether a caller waits or has waited for the end of the thread -/
  isJoined : Bool := false
  thread : Thread := .ready
  /-- the time of the last tick -/
  clock : Nat := 0
  /-- the time from the last tick to the next -/
  pause : Nat := 0
  deriving DecidableEq, Repr

namespace Simulated

def accept (s : Simulated) (shot : Shot) : Simulated × List Effect :=
  ({ s with slot := some shot }, s.slot.toList.flatMap Shot.abandon)

def flush (s : Simulated) : Simulated × List Effect × Except Fault Unit :=
  ({ s with slot := none }, s.slot.toList.flatMap Shot.abandon, .ok ())

/-- Begins to shut down; the first caller waits for the thread. -/
def halt (s : Simulated) : Simulated × Bool :=
  ({ s with isShuttingDown := true, isJoined := true }, !s.isJoined)

/-- A tick: takes the frame out of the slot and begins to capture it. -/
def tick (s : Simulated) : Simulated :=
  if s.isShuttingDown then { s with thread := .ended }
  else
    let time := s.clock + s.pause
    let frame := s.slot.elim 0 fun shot => shot.settings.frameDuration.toNat
    { s with
      slot := none
      ticks := s.ticks + 1
      clock := time
      pause := max (max frame s.period) Limits.leastRest
      thread := .capturing (s.slot.toList.flatMap (capture time.toUInt64)) }

def next? (s : Simulated) : Option (Simulated × List Effect) :=
  match s.thread with
  | .ready => some (s.tick, [])
  | .capturing [] => some ({ s with thread := .ready }, [])
  | .capturing (.perform effect :: rest) =>
    some ({ s with thread := .capturing rest }, [effect])
  | .capturing (.count :: rest) =>
    some ({ s with captured := s.captured + 1, thread := .capturing rest }, [])
  | .ended => none

def engine : Engine Simulated where
  overrideFormat := PixelFormat.asInput
  accept := accept
  mark? s := if s.isShuttingDown then none else some s.ticks
  ticked? s mark :=
    if s.isShuttingDown then some false
    else if s.ticks = mark then none else some true
  flush := flush
  halt := halt
  isHalted s := s.thread == .ended
  close := flush
  next? := next?

/-- When the thread goes on: at the end of its rest, which a shutdown cuts
short. -/
def due? (s : Simulated) (now : Nat) : Option Nat :=
  match s.thread with
  | .ended => none
  | .ready | .capturing _ => some (if s.isShuttingDown then now else s.clock + s.pause)

/-- How many steps bring the thread to its next tick at the latest. -/
def stepsToTick (s : Simulated) : Nat :=
  match s.thread with
  | .capturing actions => actions.length + 1
  | .ready | .ended => 0

end Simulated

end Sensor

namespace Stage

open Sensor (Simulated)

/-- Lets the sensor's thread go on until it is about to tick. -/
def finishCapture (s : Stage Simulated) : Stage Simulated :=
  Nat.repeat (fun s => (s.sensorStep? Simulated.engine).getD s) s.sensor.stepsToTick s

/-- Lets the sensor's thread tick and do all that the tick brings. -/
def sensorTurn (s : Stage Simulated) : Stage Simulated :=
  let s := s.finishCapture
  ((s.sensorStep? Simulated.engine).getD s).finishCapture

/-- The same, if a tick is due by now. -/
def sensorTurnBy (now : Nat) (s : Stage Simulated) : Stage Simulated :=
  if (s.sensor.due? now).any (· ≤ now) then s.sensorTurn else s

end Stage

end VirtualCamera
