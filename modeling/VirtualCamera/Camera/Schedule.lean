import VirtualCamera.Clock
import VirtualCamera.Camera.Step
import VirtualCamera.Sensor.Recorder
import VirtualCamera.Sensor.Simulated

/-!
# Schedules

A schedule chooses among the moves that are possible.  The schedules here let
one client make one call at a time (`Camera.complete`).  While the call cannot
go on, time passes, and what happens then is up to a `Conductor`.

With a recorder nothing happens, except that a stop lets the worker go; time
counts its ticks.  With the simulated sensor all threads follow the clock: the
sensor rests between its ticks, the worker waits for a tick and for fences, and
a submission for a slot, each for no longer than the configuration says.  Of
what is due at the same moment, the sensor's part comes first, then the
worker's, then the client's.  Nobody wakes a submission as long as the queue is
full.

Within a moment the threads run until all of them wait.  These runs are
bounded by the work that is left in the state.
-/

namespace VirtualCamera

/-- How many steps end the present phase of the worker at the latest. -/
def Worker.stepsLeft : Worker → Nat
  | awaitingOutputs _ _ _ left | awaitingInputs _ _ left => left.length + 1
  | finishing _ effects | unwinding effects => effects.length + 1
  | checking | ready | resolving _ | recording .. | unpaced | pacing _ | ended => 1

/-- How many steps end the present phase of a call at the latest. -/
def Call.stepsLeft : Call → Nat
  | submitting _ _ _ left => left.length + 2
  | clearing _ effects | reporting _ effects | closing _ effects => effects.length + 1
  | flushing | joining | halting _ => 1

namespace Camera

variable {σ : Type}

def attempt (E : Engine σ) (m : Move) (c : Camera σ) : Camera σ :=
  (c.step? E m).getD c

/-! ## Calls -/

def isOpen (c : Camera σ) (i : Nat) : Bool :=
  (c.calls.lookup i).isSome

/-- Whether a call waits for a slot in a full queue. -/
def isAsleep (c : Camera σ) (i : Nat) : Bool :=
  match c.calls.lookup i with
  | some (.submitting .parked ..) => c.isFull
  | _ => false

/-- The next step of a call that is awake. -/
def callTurn? (E : Engine σ) (c : Camera σ) (i : Nat) : Option (Camera σ) :=
  if c.isAsleep i then none else c.callStep? E i

/-- Lets a call go on as far as locks allow.  No call has more than four
phases. -/
def pursue (E : Engine σ) (i : Nat) (c : Camera σ) : Camera σ :=
  let stretch (c : Camera σ) :=
    exhaust (·.callTurn? E i) ((c.calls.lookup i).elim 0 Call.stepsLeft) c
  Nat.repeat stretch 4 c

def pursueAll (E : Engine σ) (c : Camera σ) : Camera σ :=
  c.calls.foldl (fun c call => c.pursue E call.1) c

/-- How cameras go on while a client waits. -/
structure Conductor (σ : Type) where
  engine : Engine σ
  /-- a camera once its threads have started -/
  start : Camera σ → Timed (Camera σ)
  clockwork : Clockwork (Camera σ)

/-- Makes a call and waits for its end; a call that cannot go on any more gives
up. -/
def complete (K : Conductor σ) (m : Move) (t : Timed (Camera σ)) : Timed (Camera σ) :=
  let i := t.value.opened
  let begun := { t with
    value := (t.value.attempt K.engine m).pursue K.engine i
    clientSince := t.now }
  let waited := K.clockwork.elapse (fun c => !c.isOpen i) Timed.eternity begun
  waited.map (attempt K.engine (.expire i))

def answer (c : Camera σ) (i : Nat) : Except Fault Unit :=
  (c.stage.answer? i).getD (.error .timeout)

/-- How a submission ended. -/
def submitted (c : Camera σ) (i : Nat) : Except Stop Unit :=
  match c.stage.crash? i with
  | some crash => .error (.crashed crash)
  | none => (c.answer i).mapError .refused

def submit (K : Conductor σ) (frame : UInt32) (requests : List CaptureRequest)
    (table : List Pipeline) (t : Timed (Camera σ)) : Timed (Camera σ) × Except Stop Unit :=
  let done := complete K (.submit frame requests table) t
  (done, done.value.submitted t.value.opened)

def flush (K : Conductor σ) (t : Timed (Camera σ)) : Timed (Camera σ) × Except Fault Unit :=
  let done := complete K .flush t
  (done, done.value.answer t.value.opened)

/-- Stops the worker and shuts the sensor down: waits for the two threads. -/
def stop (K : Conductor σ) (t : Timed (Camera σ)) : Timed (Camera σ) × Except Fault Unit :=
  let done := complete K .stop t
  (done, done.value.answer t.value.opened)

/-! ## With a recorder -/

open Sensor (Recorder)

/-- Lets the worker go on to its next wait for a tick, as far as locks allow.
A fence that is pending stays so.  Ten phases bring the worker from one such
wait to the next. -/
def workerTurn (E : Engine σ) (c : Camera σ) : Camera σ :=
  Nat.repeat (fun c => exhaust (·.workerStep? E) c.worker.stepsLeft c) 10 c

/-- Lets the recorder tick once, and the worker do what the tick brings. -/
def tickOnce (c : Camera Recorder) : Camera Recorder :=
  let stage := { c.stage with sensor := c.stage.sensor.tick }
  { c with stage }.workerTurn Recorder.engine

def isJoined (c : Camera σ) : Bool :=
  c.calls.any fun
    | (_, .joining) => true
    | _ => false

/-- A recorder does not tick by itself, but a worker that is told to stop is
let go. -/
def recording : Conductor Recorder where
  engine := Recorder.engine
  start c := { value := c.workerTurn Recorder.engine }
  clockwork := {
    due? := fun t => if t.value.isJoined then some (t.now + 1) else none
    turn := Timed.map fun c => c.tickOnce.pursueAll Recorder.engine }

/-- Submits a batch while the recorder ticks some times. -/
def submitWhileTicking (frame : UInt32) (requests : List CaptureRequest)
    (table : List Pipeline) (ticks : Nat) (t : Timed (Camera Recorder)) :
    Timed (Camera Recorder) × Except Stop Unit :=
  let E := Recorder.engine
  let i := t.value.opened
  let begun := t.map fun c => (c.attempt E (.submit frame requests table)).pursue E i
  let ticked := Nat.repeat (Timed.map fun c => (tickOnce c).pursue E i) ticks begun
  let done := ticked.map (attempt E (.expire i))
  (done, done.value.submitted i)

/-- Begins a flush, submits a batch once the flush has got as far as the
sensor, and lets the flush go on; answers for both. -/
def submitWhileFlushing (frame : UInt32) (requests : List CaptureRequest)
    (table : List Pipeline) (t : Timed (Camera Recorder)) :
    Timed (Camera Recorder) × Except Fault Unit × Except Stop Unit :=
  let E := Recorder.engine
  let i := t.value.opened
  let begin (c : Camera Recorder) :=
    (((c.attempt E .flush).attempt E (.advance i)).attempt E
      (.submit frame requests table)).pursue E (i + 1)
  let done := t.map fun c =>
    (((begin c).pursue E i).pursue E (i + 1)).attempt E (.expire (i + 1))
  (done, done.value.answer i, done.value.submitted (i + 1))

/-! ## With the simulated sensor -/

open Sensor (Simulated)

/-- How long the worker's present wait lasts at most, if it has to wait: for a
fence, or for a tick. -/
def workerPatience? (E : Engine σ) (c : Camera σ) : Option Nat :=
  match c.worker with
  | .awaitingOutputs _ _ _ (m :: _) | .awaitingInputs _ _ (m :: _) =>
    if c.stage.store.isSettled m then none else some (c.config.fenceTimeoutMs.toNat * 1000000)
  | .pacing mark =>
    if (E.ticked? c.stage.sensor mark).isSome then none
    else some c.config.maxFrameDuration.toNat
  | _ => none

/-- When the worker goes on, unless it waits for a lock or has ended. -/
def workerDue? (E : Engine σ) (t : Timed (Camera σ)) : Option Nat :=
  match t.value.workerPatience? E with
  | some time => some (t.workerSince + max time Limits.leastRest)
  | none => (t.value.step? E .worker).map fun _ => t.now

/-- The next step of the worker, if it is due. -/
def workerMove? (E : Engine σ) (t : Timed (Camera σ)) : Option (Timed (Camera σ)) := do
  let due ← workerDue? E t
  if due ≤ t.now then
    let c ← (t.value.step? E .giveUp).or (t.value.step? E .worker)
    some { t with value := c, workerSince := t.now }
  else none

def threadsTurn (t : Timed (Camera Simulated)) : Timed (Camera Simulated) :=
  let ticked := t.map fun c => { c with stage := c.stage.sensorTurnBy t.now }
  let phase (t : Timed (Camera Simulated)) :=
    exhaust (workerMove? Simulated.engine) t.value.worker.stepsLeft t
  Nat.repeat phase 10 ticked

def threadsDue? (t : Timed (Camera Simulated)) : Option Nat :=
  earliest [t.value.stage.sensor.due? t.now, workerDue? Simulated.engine t]

/-- When a call goes on, or gives up. -/
def callsDue? (E : Engine σ) (t : Timed (Camera σ)) : Option Nat :=
  let c := t.value
  if c.calls.any fun call => (c.callTurn? E call.1).isSome then some t.now
  else if c.calls.any fun call => (c.expire? call.1).isSome then
    some (t.clientSince + c.config.maxFrameDuration.toNat)
  else none

/-- Lets the calls go on as far as they can.  Each slot is waited for anew. -/
def callsTurn (E : Engine σ) (t : Timed (Camera σ)) : Timed (Camera σ) :=
  let c := t.value.pursueAll E
  if c.admitted ≠ t.value.admitted then { t with value := c, clientSince := t.now }
  else if t.clientSince + c.config.maxFrameDuration.toNat ≤ t.now then
    { t with value := c.calls.foldl (fun c call => c.attempt E (.expire call.1)) c }
  else { t with value := c }

/-- All threads follow the clock.  Three rounds are enough for a moment: what
the sensor does may let the worker go on, that may let a call go on, and that
may let the first two go on once more. -/
def simulating : Conductor Simulated where
  engine := Simulated.engine
  start c := threadsTurn { value := c }
  clockwork := {
    due? := fun t => earliest [threadsDue? t, callsDue? Simulated.engine t]
    turn := Nat.repeat (fun t => callsTurn Simulated.engine (threadsTurn t)) 3 }

end Camera

end VirtualCamera
