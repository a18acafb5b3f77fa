import VirtualCamera.Stage

/-!
# Sensors

A sensor produces the frames that are handed to it.  The processor knows no
more about it than an `Engine`: what it does with a frame, when it ticks, how
it is flushed and shut down.  The operations change the sensor at one moment
and return the effects that follow; the caller's thread performs those one by
one.  A sensor may have a thread of its own (`next?`).
-/

namespace VirtualCamera

/-- How a sensor with states of type `σ` works. -/
structure Engine (σ : Type) where
  /-- the format in which an input stream of a format is consumed -/
  overrideFormat : PixelFormat → PixelFormat
  /-- takes a frame that is to be captured at the next tick -/
  accept : σ → Shot → σ × List Effect
  /-- begins a wait for the next tick: what the wait will be told by, or
  nothing if there is none to wait for -/
  mark? : σ → Option UInt64
  /-- how a wait with this mark ends; nothing while it goes on -/
  ticked? : σ → UInt64 → Option Bool
  /-- drops the frame that was not captured yet -/
  flush : σ → σ × List Effect × Except Fault Unit
  /-- begins to shut down, so that no more frames are produced, and says
  whether the caller has to wait for the end of the sensor's thread -/
  halt : σ → σ × Bool
  /-- whether the sensor's thread has ended -/
  isHalted : σ → Bool
  /-- completes a shutdown -/
  close : σ → σ × List Effect × Except Fault Unit
  /-- what the sensor's own thread does next -/
  next? : σ → Option (σ × List Effect)

namespace Stage

variable {σ : Type}

def sensorStep? (E : Engine σ) (s : Stage σ) : Option (Stage σ) :=
  (E.next? s.sensor).map fun (sensor, effects) =>
    { s with sensor }.performAll .sensor effects

end Stage

end VirtualCamera
