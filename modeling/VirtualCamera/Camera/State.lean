import VirtualCamera.Config
import VirtualCamera.Controls
import VirtualCamera.Sensor.Engine

/-!
# The request processor: states

Clients submit requests, which wait in a queue of bounded length.  A worker
thread takes them out one at a time, prepares each and hands it to the sensor,
once per tick of the sensor.  A flush fails all that is in the queue.

Two locks order these threads.

* The *dispatch lock* is held by the worker from taking a request to its
  outcome, and by a flush from beginning to end.
* The *queue lock* guards the queue and the controls.  A submission holds it
  from one request of its batch to the next, except while it waits for a free
  slot; a flush holds it from the flush of the sensor to the end of the drain.
  The worker needs it for single moments.

Who holds a lock can be read off the phases that the threads are in
(`holdsDispatch`, `holdsQueue`); a step that takes a lock is possible only if
nobody holds it.

A thread that crashes while it holds the queue lock leaves the lock poisoned.
Nobody minds when taking it, but a wait for a slot that ends on a poisoned lock
ends without another look at the queue.
-/

namespace VirtualCamera

/-- What the worker is doing. -/
inductive Worker where
  /-- about to look whether it shall stop -/
  | checking
  /-- about to take a request -/
  | ready
  /-- about to turn the settings of a request into sensor parameters -/
  | resolving (a : Admission)
  /-- waits for the outputs of a request, whose settings were resolved or
  not: some are ready, others are left -/
  | awaitingOutputs (a : Admission) (resolved : Option (CaptureSettings × SensorSettings))
      (ready left : List Mapping)
  /-- about to write the record for the result -/
  | recording (a : Admission) (settings : CaptureSettings) (sensor : SensorSettings)
      (outputs : List Mapping)
  /-- waits for the inputs of a request: the shot has those that are ready -/
  | awaitingInputs (tag : FrameTag) (shot : Shot) (left : List Mapping)
  /-- the outcome of the request is fixed and these effects are left -/
  | finishing (speaker : Speaker) (effects : List Effect)
  /-- stopped by a crash: gives its buffers back -/
  | unwinding (effects : List Effect)
  /-- about to wait for the sensor -/
  | unpaced
  /-- waits for a tick of the sensor -/
  | pacing (mark : UInt64)
  | ended
  deriving Repr

namespace Worker

/-- Whether the worker holds the dispatch lock: it has a request without an
outcome, or an outcome that is not complete. -/
def holdsDispatch : Worker → Bool
  | resolving .. | awaitingOutputs .. | recording .. | awaitingInputs .. | finishing ..
  | unwinding .. => true
  | checking | ready | unpaced | pacing _ | ended => false

end Worker

/-- How far a submission has come. -/
inductive SubmitPhase where
  /-- waits for the queue lock -/
  | entering
  /-- holds the queue lock and is about to admit the next request -/
  | admitting
  /-- waits for a free slot in the queue -/
  | parked
  deriving DecidableEq, Repr

/-- A call that has not returned yet. -/
inductive Call where
  /-- submits what is left of a batch for one frame; pipelines are looked up
  in the table by position -/
  | submitting (phase : SubmitPhase) (frame : UInt32) (table : List Pipeline)
      (left : List CaptureRequest)
  /-- a flush that waits for both locks -/
  | flushing
  /-- a flush that has flushed the sensor, with this status, and goes on to
  the queue after these effects -/
  | clearing (status : Except Fault Unit) (effects : List Effect)
  /-- a flush that has emptied the queue and fails what was in it -/
  | reporting (status : Except Fault Unit) (effects : List Effect)
  /-- a stop that waits for the end of the worker -/
  | joining
  /-- a stop that shuts the sensor down: it may have to wait for the end of
  the sensor's thread -/
  | halting (mustWait : Bool)
  /-- a stop that is complete but for these effects -/
  | closing (status : Except Fault Unit) (effects : List Effect)
  deriving Repr

namespace Call

def holdsDispatch : Call → Bool
  | clearing .. | reporting .. => true
  | submitting .. | flushing | joining | halting _ | closing .. => false

def holdsQueue : Call → Bool
  | submitting .admitting .. | clearing .. => true
  | submitting .entering .. | submitting .parked .. | flushing | reporting .. | joining
  | halting _ | closing .. => false

/-- Whether the call stops the processor; no other call is open then. -/
def isStop : Call → Bool
  | joining | halting _ | closing .. => true
  | submitting .. | flushing | clearing .. | reporting .. => false

end Call

/-- A camera: the request processor with its sensor and its clients. -/
structure Camera (σ : Type) where
  config : Config
  stage : Stage σ
  controls : Controls
  /-- admitted requests, the oldest first -/
  queue : List Admission := []
  /-- how many requests were ever admitted -/
  admitted : Nat := 0
  worker : Worker := .checking
  /-- the settings of the last request that the worker took and that brought
  any -/
  repeating : Option CaptureSettings := none
  /-- whether the worker was told to stop -/
  isStopping : Bool := false
  /-- whether a thread has crashed with the queue lock in its hands -/
  isPoisoned : Bool := false
  /-- the open calls by number -/
  calls : List (Nat × Call) := []
  /-- how many calls were made -/
  opened : Nat := 0

namespace Camera

variable {σ : Type}

/-- A camera whose worker is about to start.  All slots of its queue are
reserved now. -/
def create (config : Config) (sensor : σ) (store : Store) (controls : Controls) :
    Except Stop (Camera σ) :=
  if config.pipelineDepth = 0 then
    .error (.refused (.invalidArgument "pipeline depth must be non-zero"))
  else
    match reserve config.pipelineDepth.toNat Limits.slotBytes with
    | .error crash => .error (.crashed crash)
    | .ok _ => .ok { config, controls, stage := { sensor, store } }

/-! ## Locks -/

def dispatchIsFree (c : Camera σ) : Bool :=
  !c.worker.holdsDispatch && c.calls.all fun call => !call.2.holdsDispatch

def queueIsFree (c : Camera σ) : Bool :=
  c.calls.all fun call => !call.2.holdsQueue

def isFull (c : Camera σ) : Bool :=
  c.config.pipelineDepth.toNat ≤ c.queue.length

def isWorking (c : Camera σ) : Bool :=
  match c.worker with
  | .ended => false
  | _ => true

/-! ## Calls -/

def begin (c : Camera σ) (call : Call) : Camera σ :=
  { c with calls := c.calls ++ [(c.opened, call)], opened := c.opened + 1 }

def put (c : Camera σ) (i : Nat) (call : Call) : Camera σ :=
  { c with calls := c.calls.map fun other => if other.1 = i then (i, call) else other }

def finish (c : Camera σ) (i : Nat) (answer : Except Fault Unit) : Camera σ :=
  { c with
    stage := c.stage.note (.returned i answer)
    calls := c.calls.filter (·.1 ≠ i) }

/-- A submission crashes while it holds the queue lock. -/
def abort (c : Camera σ) (i : Nat) (crash : Crash) : Camera σ :=
  { c with
    stage := c.stage.note (.aborted i crash)
    calls := c.calls.filter (·.1 ≠ i)
    isPoisoned := true }

def withStore (c : Camera σ) (store : Store) : Camera σ :=
  { c with stage := { c.stage with store } }

/-! ## Controls -/

def takeUp (c : Camera σ) (description : Characteristics) : Except Fault (Camera σ) := do
  let controls ← c.controls.takeUp description
  return { c with controls }

end Camera

end VirtualCamera
