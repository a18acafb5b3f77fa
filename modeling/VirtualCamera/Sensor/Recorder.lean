import VirtualCamera.Sensor.Engine

/-!
# A sensor that records

The recorder captures nothing.  It keeps the frames that are handed to it
until they are collected, ticks when it is told to, and counts flushes.  Its
flush and its shutdown fail with a given reason, or succeed if none is given.
-/

namespace VirtualCamera.Sensor

/-- The state of a recorder. -/
structure Recorder where
  /-- the frames handed over and not yet collected, the oldest first -/
  shots : List Shot := []
  ticks : UInt64 := 0
  flushes : Nat := 0
  isShutDown : Bool := false
  flushReason : Option String := none
  closeReason : Option String := none
  deriving DecidableEq, Repr

namespace Recorder

/-- Success, or the sensor's fault with a reason. -/
def status (reason : Option String) : Except Fault Unit :=
  match reason with
  | none => .ok ()
  | some text => .error (.sensor text)

def engine : Engine Recorder where
  overrideFormat := PixelFormat.asInput
  accept s shot := ({ s with shots := s.shots ++ [shot] }, [])
  mark? s := some s.ticks
  ticked? s mark := if s.ticks = mark then none else some true
  flush s := ({ s with flushes := s.flushes + 1 }, [], status s.flushReason)
  halt s := (s, false)
  isHalted _ := true
  close s := ({ s with isShutDown := true }, [], status s.closeReason)
  next? _ := none

def tick (s : Recorder) : Recorder :=
  { s with ticks := s.ticks + 1 }

end Recorder

end VirtualCamera.Sensor

namespace VirtualCamera.Stage

open Sensor (Recorder)

/-- Takes the frames out of a recorder and gives their buffers back. -/
def collect (s : Stage Recorder) : List Shot × Stage Recorder :=
  let shots := s.sensor.shots
  let effects := shots.flatMap fun shot => shot.mappings.map Effect.release
  (shots, { s with sensor := { s.sensor with shots := [] } }.performAll .sensor effects)

end VirtualCamera.Stage
