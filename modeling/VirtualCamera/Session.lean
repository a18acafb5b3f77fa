import VirtualCamera.Camera.Step

/-!
# Sessions

A session is an open camera.  Pipelines are configured first and then built;
requests can be submitted only while pipelines are built, and no pipeline can
be configured then.  Pipelines are numbered in the order of configuration.

Destroying the pipelines flushes the camera first, so that nothing is left in
the queue that belongs to a pipeline that is gone.  Closing a session destroys
its pipelines, stops the worker and shuts the sensor down; if the flush fails
the rest is done all the same, but the answer is the fault of the flush.

To configure, build, destroy and close takes the session alone: no other call
may be open.  Destroying and closing go through calls of the camera, and the
threads of worker and sensor move in between (`Session.step?`).
-/

namespace VirtualCamera

/-- What the owner of a session is doing with it. -/
inductive SessionPhase where
  | ready
  /-- waits for the flush with which destroying begins; the session may be
  about to close -/
  | destroying (call : Nat) (isClosing : Bool)
  /-- waits for the camera to stop, with what destroying answered -/
  | stopping (call : Nat) (destroyed : Except Fault Unit)
  | closed (answer : Except Fault Unit)
  deriving Repr

/-- An open camera with its pipelines. -/
structure Session (σ : Type) where
  camera : Camera σ
  characteristics : Characteristics
  pipelines : List Pipeline := []
  isBuilt : Bool := false
  phase : SessionPhase := .ready

namespace Session

variable {σ : Type}

/-- Opens a session on a camera that was just created; the camera takes up the
description. -/
def create (camera : Camera σ) (description : Characteristics) : Except Fault (Session σ) := do
  let camera ← camera.takeUp description
  return { camera, characteristics := description }

/-! ## Pipelines -/

/-- The streams of a pipeline: the processor writes to the buffers often, and
no id may occur twice. -/
def pipelineStreams (streams : List Stream) : Except Fault (List Stream) :=
  match Stream.repeatedId? streams with
  | some id => .error (.invalidArgument s!"duplicate stream id {id}")
  | none => .ok (streams.map fun s => { s with usage := Limits.writeOften })

/-- Adds a pipeline; answers with its id. -/
def configure (s : Session σ) (camera : UInt32) (listener : Listener) (streams : List Stream) :
    Except Fault (UInt32 × Session σ) :=
  if s.isBuilt then .error (.invalidState "pipelines already built")
  else do
    let streams ← pipelineStreams streams
    let id := s.pipelines.length.toUInt32
    let p : Pipeline := { id, camera, listener, streams }
    return (id, { s with pipelines := s.pipelines ++ [p] })

def build (s : Session σ) : Except Fault (Session σ) :=
  if s.isBuilt then .error (.invalidState "pipelines already built")
  else if s.pipelines.isEmpty then .error (.invalidState "no pipelines configured")
  else .ok { s with isBuilt := true }

def forgetPipelines (s : Session σ) : Session σ :=
  { s with pipelines := [], isBuilt := false }

/-- The streams of a pipeline in the order of their ids. -/
def streams (s : Session σ) (pipeline : UInt32) : Except Fault (List Stream) :=
  match s.pipelines[pipeline.toNat]? with
  | some p => .ok (p.streams.mergeSort fun a b => a.id ≤ b.id)
  | none => .error (.invalidArgument s!"unknown pipeline id {pipeline}")

def checkBuilt (s : Session σ) : Except Fault Unit :=
  if s.isBuilt then .ok () else .error (.invalidState "pipelines not built")

def template (s : Session σ) (t : Template) : Except Fault CaptureSettings :=
  s.camera.controls.template t

def pending (s : Session σ) : Nat :=
  s.camera.queue.length

/-! ## Moves -/

/-- What can happen next. -/
inductive Move where
  | configure (camera : UInt32) (listener : Listener) (streams : List Stream)
  | build
  | destroy
  | submit (frame : UInt32) (requests : List CaptureRequest)
  | flush
  | close
  /-- the owner goes on to destroy or to close -/
  | proceed
  /-- an open call goes on -/
  | advance (call : Nat)
  /-- a submission gives up its wait for a slot -/
  | expire (call : Nat)
  | worker
  /-- the worker gives up its wait for the sensor -/
  | giveUp
  | sensor
  /-- a client changes a fence -/
  | fence (i : Nat) (f : Fence)
  deriving Repr

def cameraStep? (E : Engine σ) (s : Session σ) (m : Camera.Move) : Option (Session σ) :=
  (s.camera.step? E m).map fun camera => { s with camera }

def isReady (s : Session σ) : Bool :=
  match s.phase with
  | .ready => true
  | _ => false

def isExclusive (s : Session σ) : Bool :=
  s.isReady && s.camera.calls.isEmpty

/-- Begins to stop the camera, after destroying gave this answer. -/
def beginStop? (E : Engine σ) (s : Session σ) (destroyed : Except Fault Unit) :
    Option (Session σ) :=
  s.cameraStep? E .stop |>.map fun t =>
    { t with phase := .stopping s.camera.opened destroyed }

/-- Begins to destroy the pipelines, on the way to closing or not.  Without
built pipelines there is nothing to destroy. -/
def beginDestroy? (E : Engine σ) (s : Session σ) (isClosing : Bool) : Option (Session σ) :=
  if s.isBuilt then
    s.cameraStep? E .flush |>.map fun t =>
      { t with phase := .destroying s.camera.opened isClosing }
  else if isClosing then s.beginStop? E (.ok ())
  else some s

/-- The answer of closing: the first fault. -/
def closeAnswer : Except Fault Unit → Except Fault Unit → Except Fault Unit
  | .error fault, _ => .error fault
  | .ok _, stopped => stopped

/-- The owner goes on once the call that it waits for has returned. -/
def proceed? (E : Engine σ) (s : Session σ) : Option (Session σ) :=
  match s.phase with
  | .destroying call isClosing =>
    match s.camera.stage.answer? call with
    | none => none
    | some answer =>
      let s := { s.forgetPipelines with phase := .ready }
      if isClosing then s.beginStop? E answer else some s
  | .stopping call destroyed =>
    (s.camera.stage.answer? call).map fun stopped =>
      { s with phase := .closed (closeAnswer destroyed stopped) }
  | .ready | .closed _ => none

/-- What a fallible operation leaves: the session as it was, if it fails. -/
def orSame (s : Session σ) : Except Fault (Session σ) → Session σ
  | .ok t => t
  | .error _ => s

/-- One atomic step; `none` if the move is not possible now. -/
def step? (E : Engine σ) (s : Session σ) : Move → Option (Session σ)
  | .configure camera listener streams =>
    if s.isExclusive then some (s.orSame ((s.configure camera listener streams).map (·.2)))
    else none
  | .build => if s.isExclusive then some (s.orSame s.build) else none
  | .destroy => if s.isExclusive then s.beginDestroy? E false else none
  | .close => if s.isExclusive then s.beginDestroy? E true else none
  | .proceed => s.proceed? E
  | .submit frame requests =>
    if s.isReady then
      match s.checkBuilt with
      | .ok _ => s.cameraStep? E (.submit frame requests s.pipelines)
      | .error _ => some s
    else none
  | .flush => if s.isReady then s.cameraStep? E .flush else none
  | .advance i => s.cameraStep? E (.advance i)
  | .expire i => s.cameraStep? E (.expire i)
  | .worker => s.cameraStep? E .worker
  | .giveUp => s.cameraStep? E .giveUp
  | .sensor => s.cameraStep? E .sensor
  | .fence i f => s.cameraStep? E (.fence i f)

def run? (E : Engine σ) (s : Session σ) (moves : List Move) : Option (Session σ) :=
  moves.foldlM (fun s m => s.step? E m) s

end Session

end VirtualCamera
