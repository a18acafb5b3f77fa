import VirtualCamera.Camera.State

/-!
# The request processor: steps

A move is one atomic step of one thread: of the worker, of the sensor, of a
call, or of a client that changes a fence (`Camera.step?`).  Time is not
counted.  Waits that are limited in time end by a move of their own: a
submission may give up as long as the queue is full (`expire`), the worker may
give up its wait for the sensor as long as there was no tick (`giveUp`), and its
wait for a fence ends with the state that the fence has at the step.

A submission that waits for a slot looks at the queue whenever it is woken, and
waits on while it is full.  On a poisoned lock it does not look: woken, it
admits its request even into a full queue, and out of time, it gives up even if
there is a slot.

The outcome of a request that the worker took is either that it is handed to
the sensor or that its listener is told that there will be no result.
-/

namespace VirtualCamera

namespace Camera

variable {σ : Type}

/-! ## The worker -/

/-- Takes the oldest request, if there is one. -/
def pop (c : Camera σ) : Camera σ :=
  match c.queue with
  | [] => { c with worker := .unpaced }
  | a :: rest =>
    { c with queue := rest, stage := c.stage.note (.popped a), worker := .resolving a }

/-- The settings that apply to a request: its own, or those of the last
request that brought any. -/
def effectiveSettings (c : Camera σ) (a : Admission) : Option CaptureSettings :=
  a.settings.or c.repeating

/-- Goes on to the outputs of a request, with the settings that apply to it
and the sensor parameters that they were turned into. -/
def awaitOutputs (c : Camera σ) (a : Admission) (settings : Option CaptureSettings)
    (sensor : Option SensorSettings) : Camera σ :=
  let resolved := do return (← settings, ← sensor)
  { c with
    stage := c.stage.note (.resolved a.tag settings sensor)
    worker := .awaitingOutputs a resolved [] (a.outputs.getD []) }

/-- The worker is stopped while it holds the queue lock; the buffers of its
request are given back. -/
def crash (c : Camera σ) (a : Admission) : Camera σ :=
  { c with
    stage := c.stage.note (.crashed a.tag)
    worker := .unwinding (a.mappings.map .release)
    isPoisoned := true }

/-- Turns the settings of a request into sensor parameters.  A request without
settings, or with settings that are refused, will fail, but its buffers are
awaited all the same. -/
def resolve (c : Camera σ) (a : Admission) : Camera σ :=
  let settings := c.effectiveSettings a
  let c := { c with repeating := settings }
  match settings with
  | none => c.awaitOutputs a none none
  | some r =>
    match c.controls.apply r with
    | (controls, .ok sensor) => { c with controls }.awaitOutputs a settings (some sensor)
    | (controls, .error (.refused _)) => { c with controls }.awaitOutputs a settings none
    | (controls, .error (.crashed _)) => { c with controls }.crash a

/-- The effects of failing a request whose outputs `ready` are left: the
notice, and then the buffers are given back. -/
def failing (a : Admission) (ready : List Mapping) : List Effect :=
  a.failure .result :: ready.map .release ++ (a.inputs.getD []).map .release

/-- The next phase of a request once all its outputs were awaited. -/
def outputsAwaited (a : Admission) (resolved : Option (CaptureSettings × SensorSettings))
    (ready : List Mapping) : Worker :=
  match resolved, ready with
  | some (settings, sensor), _ :: _ => .recording a settings sensor ready
  | _, _ => .finishing .processor (failing a ready)

def settle (c : Camera σ) (m : Mapping) : Camera σ × Option Mapping :=
  let (store, kept) := c.stage.store.settle m
  ({ c with stage := { c.stage with store }.note (.waited m (c.stage.store.outcome m)) }, kept)

/-- Writes the record for the result of a request and begins with its
inputs. -/
def prepareShot (c : Camera σ) (a : Admission) (settings : CaptureSettings)
    (sensor : SensorSettings) (outputs : List Mapping) : Worker :=
  let inputs := Mapping.awaited a.inputs
  let shot : Shot := {
    outputs
    settings := sensor
    result := c.controls.record a.tag.pipeline a.tag.frame settings
    inputs := inputs.map fun _ => [] }
  .awaitingInputs a.tag shot (inputs.getD [])

def handOver (E : Engine σ) (c : Camera σ) (tag : FrameTag) (shot : Shot) : Camera σ :=
  let (sensor, effects) := E.accept c.stage.sensor shot
  { c with
    stage := { c.stage with sensor }.note (.handedOver tag shot)
    worker := .finishing .sensor effects }

def paced (c : Camera σ) (ticked : Bool) : Camera σ :=
  { c with stage := c.stage.note (.paced none ticked), worker := .checking }

def workerStep? (E : Engine σ) (c : Camera σ) : Option (Camera σ) :=
  match c.worker with
  | .checking => some { c with worker := if c.isStopping then .ended else .ready }
  | .ready => if c.dispatchIsFree && c.queueIsFree then some c.pop else none
  | .resolving a => if c.queueIsFree then some (c.resolve a) else none
  | .awaitingOutputs a resolved ready [] =>
    some { c with worker := outputsAwaited a resolved ready }
  | .awaitingOutputs a resolved ready (m :: left) =>
    let (c, kept) := c.settle m
    some { c with worker := .awaitingOutputs a resolved (ready ++ kept.toList) left }
  | .recording a settings sensor outputs =>
    if c.queueIsFree then some { c with worker := c.prepareShot a settings sensor outputs }
    else none
  | .awaitingInputs tag shot [] => some (c.handOver E tag shot)
  | .awaitingInputs tag shot (m :: left) =>
    let (c, kept) := c.settle m
    let shot := { shot with inputs := shot.inputs.map (· ++ kept.toList) }
    some { c with worker := .awaitingInputs tag shot left }
  | .finishing _ [] => some { c with worker := .unpaced }
  | .finishing speaker (e :: rest) =>
    some { c with stage := c.stage.perform speaker e, worker := .finishing speaker rest }
  | .unwinding [] => some { c with worker := .ended }
  | .unwinding (e :: rest) =>
    some { c with stage := c.stage.perform .processor e, worker := .unwinding rest }
  | .unpaced =>
    match E.mark? c.stage.sensor with
    | some mark => some { c with worker := .pacing mark }
    | none => some (c.paced false)
  | .pacing mark => (E.ticked? c.stage.sensor mark).map c.paced
  | .ended => none

def giveUp? (E : Engine σ) (c : Camera σ) : Option (Camera σ) :=
  match c.worker with
  | .pacing mark =>
    if (E.ticked? c.stage.sensor mark).isNone then some (c.paced false) else none
  | _ => none

/-! ## Submissions -/

/-- Why a request cannot be admitted, whatever the queue is like; otherwise
its pipeline. -/
def checkRequest (table : List Pipeline) (r : CaptureRequest) : Except Fault Pipeline :=
  match table[r.pipeline.toNat]? with
  | none => .error (.invalidArgument s!"pipeline id {r.pipeline} out of range")
  | some p =>
    if r.outputs.isEmpty then .error (.invalidArgument "request carries no output buffers")
    else .ok p

/-- Maps the buffers of a request, outputs first. -/
def mapRequest (E : Engine σ) (c : Camera σ) (frame : UInt32) (p : Pipeline)
    (r : CaptureRequest) : Store × Except Crash Admission :=
  let tag : FrameTag := ⟨c.admitted, frame, p.id, p.camera, p.listener⟩
  match c.stage.store.mapAll E.overrideFormat tag p.streams r.outputs with
  | (store, .error crash) => (store, .error crash)
  | (store, .ok outputs) =>
    match store.mapAll E.overrideFormat tag p.streams r.inputs with
    | (store, .error crash) => (store.releaseAll (outputs.getD []), .error crash)
    | (store, .ok inputs) => (store, .ok { tag, inputs, outputs, settings := r.settings })

def enqueue (c : Camera σ) (i : Nat) (a : Admission) : Camera σ :=
  { c with
    stage := c.stage.note (.admitted i a)
    queue := c.queue ++ [a]
    admitted := c.admitted + 1 }

/-- Maps the buffers of a request and puts it into the queue, unless the
submission crashes at that. -/
def admitRequest (E : Engine σ) (c : Camera σ) (i : Nat) (frame : UInt32) (table : List Pipeline)
    (p : Pipeline) (r : CaptureRequest) (rest : List CaptureRequest) : Camera σ :=
  match c.mapRequest E frame p r with
  | (store, .ok a) =>
    ((c.withStore store).enqueue i a).put i (.submitting .admitting frame table rest)
  | (store, .error crash) => (c.withStore store).abort i crash

/-- The next step of a submission that holds the queue lock: the next request
is admitted, or refused, or has to wait for a slot. -/
def submitNext (E : Engine σ) (c : Camera σ) (i : Nat) (hasSlot : Bool) (frame : UInt32)
    (table : List Pipeline) (left : List CaptureRequest) : Camera σ :=
  match left with
  | [] => c.finish i (.ok ())
  | r :: rest =>
    match checkRequest table r with
    | .error fault => c.finish i (.error fault)
    | .ok p =>
      if hasSlot then c.admitRequest E i frame table p r rest
      else c.put i (.submitting .parked frame table left)

/-! ## Flushes -/

def flushSensor (E : Engine σ) (c : Camera σ) (i : Nat) : Camera σ :=
  let (sensor, effects, status) := E.flush c.stage.sensor
  { c with stage := { c.stage with sensor } }.put i (.clearing status effects)

/-- The effects of failing requests from the queue: all notices in the order
of admission, and then the buffers are given back. -/
def failingAll (drained : List Admission) : List Effect :=
  drained.map (·.failure .request) ++ drained.flatMap fun a => a.mappings.map .release

def drain (c : Camera σ) (i : Nat) (status : Except Fault Unit) : Camera σ :=
  { c with queue := [], stage := c.stage.note (.drained i c.queue) }.put i
    (.reporting status (failingAll c.queue))

/-! ## Stops -/

def haltSensor (E : Engine σ) (c : Camera σ) (i : Nat) : Camera σ :=
  let (sensor, mustWait) := E.halt c.stage.sensor
  { c with stage := { c.stage with sensor } }.put i (.halting mustWait)

def closeSensor (E : Engine σ) (c : Camera σ) (i : Nat) : Camera σ :=
  let (sensor, effects, status) := E.close c.stage.sensor
  { c with stage := { c.stage with sensor } }.put i (.closing status effects)

/-! ## Calls -/

def callStep? (E : Engine σ) (c : Camera σ) (i : Nat) : Option (Camera σ) :=
  match c.calls.lookup i with
  | none => none
  | some (.submitting .entering frame table left) =>
    if c.queueIsFree then some (c.put i (.submitting .admitting frame table left)) else none
  | some (.submitting .admitting frame table left) =>
    some (c.submitNext E i (!c.isFull) frame table left)
  | some (.submitting .parked frame table left) =>
    if c.queueIsFree && (!c.isFull || c.isPoisoned) then
      some (c.submitNext E i true frame table left)
    else none
  | some .flushing =>
    if c.dispatchIsFree && c.queueIsFree then some (c.flushSensor E i) else none
  | some (.clearing status []) => some (c.drain i status)
  | some (.clearing status (e :: rest)) =>
    some ({ c with stage := c.stage.perform .sensor e }.put i (.clearing status rest))
  | some (.reporting status []) => some (c.finish i status)
  | some (.reporting status (e :: rest)) =>
    some ({ c with stage := c.stage.perform .processor e }.put i (.reporting status rest))
  | some .joining => if c.isWorking then none else some (c.haltSensor E i)
  | some (.halting mustWait) =>
    if mustWait ∧ !E.isHalted c.stage.sensor then none else some (c.closeSensor E i)
  | some (.closing status []) => some (c.finish i status)
  | some (.closing status (e :: rest)) =>
    some ({ c with stage := c.stage.perform .sensor e }.put i (.closing status rest))

def expire? (c : Camera σ) (i : Nat) : Option (Camera σ) :=
  match c.calls.lookup i with
  | some (.submitting .parked ..) =>
    if c.queueIsFree && (c.isFull || c.isPoisoned) then some (c.finish i (.error .timeout))
    else none
  | _ => none

/-! ## Moves -/

/-- What can happen next. -/
inductive Move where
  /-- a client submits a batch of requests for one frame -/
  | submit (frame : UInt32) (requests : List CaptureRequest) (table : List Pipeline)
  | flush
  /-- the owner stops the worker and shuts the sensor down -/
  | stop
  /-- a call goes on -/
  | advance (call : Nat)
  /-- a submission gives up its wait for a slot -/
  | expire (call : Nat)
  | worker
  /-- the worker gives up its wait for the sensor -/
  | giveUp
  | sensor
  /-- a client changes a fence -/
  | fence (i : Nat) (f : Fence)
  deriving Repr

/-- Begins a stop.  A worker that was told to stop before needs no second
stop. -/
def beginStop (c : Camera σ) : Camera σ :=
  if c.isStopping then
    { c with stage := c.stage.note (.returned c.opened (.ok ())), opened := c.opened + 1 }
  else { c with isStopping := true }.begin .joining

/-- One atomic step; `none` if the move is not possible now.  A stop excludes
all other calls. -/
def step? (E : Engine σ) (c : Camera σ) : Move → Option (Camera σ)
  | .submit frame requests table =>
    if c.calls.any (·.2.isStop) then none
    else some (c.begin (.submitting .entering frame table requests))
  | .flush => if c.calls.any (·.2.isStop) then none else some (c.begin .flushing)
  | .stop => if c.calls.isEmpty then some c.beginStop else none
  | .advance i => c.callStep? E i
  | .expire i => c.expire? i
  | .worker => c.workerStep? E
  | .giveUp => c.giveUp? E
  | .sensor => (c.stage.sensorStep? E).map fun stage => { c with stage }
  | .fence i f =>
    some { c with stage := { c.stage with store := c.stage.store.setFence i f } }

def run? (E : Engine σ) (c : Camera σ) (moves : List Move) : Option (Camera σ) :=
  moves.foldlM (fun c m => c.step? E m) c

end Camera

end VirtualCamera
