import VirtualCamera.Session.Schedule

/-!
# Capture runs

A capture run opens a session on the simulated sensor and submits a number of
frames, each to two new preview buffers.  The first frame carries the preview
settings, the later ones repeat them.  After each submission it reads the
events that have arrived.  Once all frames are submitted it waits for the
events that are outstanding; when none arrives for two seconds it gives up.
Then it totals up and closes the session.

The run is a thread of its own beside those of worker and sensor, and is
described step by step (`Capture.step?`).  It counts what it has read: a
result as a frame completed, an error as a frame that failed.
-/

namespace VirtualCamera

open Sensor (Simulated)

/-- What a run reports at its end. -/
structure CaptureTotals where
  submitted : Nat
  completed : Nat
  failed : Nat
  /-- how many frames the sensor has captured -/
  captured : UInt64
  /-- whether the run gave up waiting -/
  gaveUp : Bool
  deriving DecidableEq, Repr

/-- Where a run is. -/
inductive CapturePhase where
  /-- about to submit the next frame, if there is one -/
  | next
  /-- waits for its submission to return -/
  | submitting (call : Nat)
  /-- reads what has arrived -/
  | reading
  /-- waits for the events that are outstanding -/
  | draining
  /-- has totalled up and closes the session -/
  | closing (totals : CaptureTotals)
  | done (totals : CaptureTotals) (closed : Except Fault Unit)
  | failed (stop : Stop)
  deriving Repr

/-- A capture run. -/
structure Capture where
  session : Session Simulated
  /-- how many frames to submit -/
  frames : Nat
  settings : CaptureSettings
  /-- what every frame is given anew: its streams, each with a buffer of zero bytes -/
  blanks : Except Stop (List (UInt32 × Buffer))
  submitted : Nat := 0
  /-- the events read so far, the oldest first -/
  read : List Event := []
  phase : CapturePhase := .next

namespace Capture

def previewStreams : List Stream :=
  [stream 0 .rgba8888, stream 1 .ycbcr420]
where
  stream (id : UInt32) (format : PixelFormat) : Stream := {
    id, format
    width := Limits.previewWidth
    height := Limits.previewHeight
    dataspace := .unknown
    bufferSize := 0
    usage := 0
    isInput := false }

def channel : Nat := 0

/-- How many bytes a client allocates for a buffer of a stream. -/
def bufferSize (s : Stream) : Except Stop Nat :=
  if s.format.isPlanar then
    (Planar.ofSize s.width s.height).total.map UInt64.toNat |>.mapError .crashed
  else
    (Extent.ofStream s).map (·.size.toNat) |>.mapError .refused

/-- A buffer of zero bytes for each stream, in order. -/
def blanksFor (streams : List Stream) : Except Stop (List (UInt32 × Buffer)) :=
  streams.mapM fun s => do
    return (s.id, .zeroed (← bufferSize s))

/-- Opens a session, builds its one pipeline and takes the preview settings and
buffers for its streams. -/
def open? (config : Config) (description : Characteristics) (frames : Nat) :
    Except Stop Capture := do
  let sensor : Simulated := { period := config.minFrameDuration.toNat }
  let camera ← Camera.create config sensor ⟨⟨#[]⟩, #[]⟩ { camera := config.cameraId }
  let opened : Except Fault Capture := do
    let session ← Session.create camera description
    let (_, session) ← session.configure config.cameraId { channel } previewStreams
    let session ← session.build
    let settings ← session.template .preview
    let blanks := (session.streams 0).mapError .refused >>= blanksFor
    return { session, frames, settings, blanks }
  opened.mapError Stop.refused

/-! ## Counting -/

def completed (c : Capture) : Nat :=
  c.read.countP fun
    | .result _ => true
    | _ => false

def failures (c : Capture) : Nat :=
  c.read.countP fun
    | .error .. => true
    | _ => false

def finished (c : Capture) : Nat :=
  c.completed + c.failures

/-- The events that have arrived and were not read yet. -/
def unread (c : Capture) : List Event :=
  (c.session.camera.stage.heard channel).drop c.read.length

def total (c : Capture) (gaveUp : Bool) : CaptureTotals where
  submitted := c.submitted
  completed := c.completed
  failed := c.failures
  captured := c.session.camera.stage.sensor.captured
  gaveUp := gaveUp

/-! ## Steps -/

/-- Adds new buffers to the memory, in order. -/
def attachAll (memory : Memory) : List (UInt32 × Buffer) → Memory × List Attachment
  | [] => (memory, [])
  | (stream, b) :: rest =>
    let (memory, buffer) := memory.add b
    let (memory, others) := attachAll memory rest
    (memory, ⟨stream, buffer, none, .error⟩ :: others)

def withMemory (s : Session Simulated) (memory : Memory) : Session Simulated :=
  let stage := { s.camera.stage with store := { s.camera.stage.store with memory } }
  { s with camera := { s.camera with stage } }

def submitNext? (c : Capture) : Option Capture :=
  match c.blanks with
  | .error stop => some { c with phase := .failed stop }
  | .ok blanks =>
    let (memory, outputs) := attachAll c.session.camera.stage.store.memory blanks
    let request : CaptureRequest := {
      outputs
      pipeline := 0
      settings := if c.submitted = 0 then some c.settings else none
      inputs := [] }
    let call := c.session.camera.opened
    (withMemory c.session memory).step? Simulated.engine
        (.submit c.submitted.toUInt32 [request])
      |>.map fun session => { c with session, phase := .submitting call }

def sessionStep? (c : Capture) (m : Session.Move) : Option Capture :=
  (c.session.step? Simulated.engine m).map fun session => { c with session }

def readNext (c : Capture) (e : Event) : Capture :=
  { c with read := c.read ++ [e] }

def closeStep? (c : Capture) (totals : CaptureTotals) : Option Capture :=
  match c.session.phase with
  | .ready => c.sessionStep? .close
  | .destroying call _ | .stopping call _ =>
    (c.sessionStep? .proceed).or (c.sessionStep? (.advance call))
  | .closed answer => some { c with phase := .done totals answer }

def loopStep? (c : Capture) : Option Capture :=
  match c.phase with
  | .next => if c.submitted < c.frames then c.submitNext? else some { c with phase := .draining }
  | .submitting call =>
    match c.session.camera.stage.answer? call with
    | some (.ok _) => some { c with submitted := c.submitted + 1, phase := .reading }
    | some (.error fault) => some { c with phase := .failed (.refused fault) }
    | none =>
      match c.session.camera.stage.crash? call with
      | some crash => some { c with phase := .failed (.crashed crash) }
      | none => c.sessionStep? (.advance call)
  | .reading =>
    match c.unread with
    | e :: _ => some (c.readNext e)
    | [] => some { c with phase := .next }
  | .draining =>
    if c.submitted ≤ c.finished then some { c with phase := .closing (c.total false) }
    else c.unread.head?.map c.readNext
  | .closing totals => c.closeStep? totals
  | .done .. | .failed _ => none

def giveUp? (c : Capture) : Option Capture :=
  match c.phase with
  | .submitting call => c.sessionStep? (.expire call)
  | .draining =>
    if c.unread.isEmpty ∧ c.finished < c.submitted then
      some { c with phase := .closing (c.total true) }
    else none
  | _ => none

/-- What can happen next. -/
inductive Move where
  /-- the run goes on -/
  | loop
  /-- the run gives up a wait -/
  | giveUp
  | worker
  /-- the worker gives up its wait for the sensor -/
  | workerGivesUp
  | sensor
  deriving DecidableEq, Repr

/-- One atomic step; `none` if the move is not possible now. -/
def step? (c : Capture) : Move → Option Capture
  | .loop => c.loopStep?
  | .giveUp => c.giveUp?
  | .worker => c.sessionStep? .worker
  | .workerGivesUp => c.sessionStep? .giveUp
  | .sensor => c.sessionStep? .sensor

def run? (c : Capture) (moves : List Move) : Option Capture :=
  moves.foldlM (fun c m => c.step? m) c

/-! ## Following the clock -/

/-- How long a run waits for events, in nanoseconds. -/
def drainTime : Nat := 2000000000

/-- How long the run waits in its present phase; without a limit while it
closes. -/
def patience (c : Capture) : Option Nat :=
  match c.phase with
  | .closing _ => none
  | .submitting _ => some c.session.camera.config.maxFrameDuration.toNat
  | _ => some drainTime

def camera (c : Capture) : Camera Simulated :=
  c.session.camera

def threadsTurn (t : Timed Capture) : Timed Capture :=
  let turned := Camera.threadsTurn (t.map camera)
  turned.map fun camera => { t.value with session := { t.value.session with camera } }

/-- The next step of the run, unless it waits for a slot. -/
def loopTurn? (c : Capture) : Option Capture :=
  match c.phase with
  | .submitting call => if c.camera.isAsleep call then none else c.step? .loop
  | _ => c.step? .loop

/-- When the run goes on, or gives up. -/
def loopDue? (t : Timed Capture) : Option Nat :=
  match t.value.loopTurn? with
  | some _ => some t.now
  | none => t.value.patience.map (t.clientSince + ·)

/-- The next step of the run, if it is due. -/
def loopMove? (t : Timed Capture) : Option (Timed Capture) := do
  let due ← loopDue? t
  if due ≤ t.now then
    let c ← t.value.loopTurn?.or (t.value.step? .giveUp)
    some { t with value := c, clientSince := t.now }
  else none

def clockwork : Clockwork Capture where
  due? t := earliest [Camera.threadsDue? (t.map camera), loopDue? t]
  turn t :=
    Nat.repeat (fun t => exhaust loopMove? (64 * (t.value.frames + 4)) (threadsTurn t)) 3 t

def isOver (c : Capture) : Bool :=
  match c.phase with
  | .done .. | .failed _ => true
  | _ => false

/-- Follows the clock from the beginning of a run to its end. -/
def follow (c : Capture) : Capture :=
  (clockwork.elapse isOver Timed.eternity (threadsTurn { value := c })).value

end Capture

end VirtualCamera
