import VirtualCamera.Session
import VirtualCamera.Camera.Schedule

/-!
# Sessions with one caller

The operations of a session for a client that makes one call at a time, or
waits.  What the threads of worker and sensor do meanwhile is up to the
conductor.
-/

namespace VirtualCamera.Session

variable {σ : Type}

/-- Opens a session on a camera that was just created, and starts its threads.
If the camera refuses the description it is stopped. -/
def openOn (K : Camera.Conductor σ) (camera : Camera σ) (description : Characteristics) :
    Except (Fault × Camera σ) (Timed (Session σ)) :=
  match create camera description with
  | .ok s => .ok ((K.start s.camera).map fun camera => { s with camera })
  | .error fault => .error (fault, (Camera.stop K (K.start camera)).1.value)

/-- What happens to the camera of a session, with an answer. -/
def onCamera {α : Type} (call : Timed (Camera σ) → Timed (Camera σ) × α) (t : Timed (Session σ)) :
    Timed (Session σ) × α :=
  let (done, answer) := call (t.map Session.camera)
  (done.map fun camera => { t.value with camera }, answer)

def submit (K : Camera.Conductor σ) (frame : UInt32) (requests : List CaptureRequest)
    (t : Timed (Session σ)) : Timed (Session σ) × Except Stop Unit :=
  match t.value.checkBuilt with
  | .ok _ => onCamera (Camera.submit K frame requests t.value.pipelines) t
  | .error fault => (t, .error (.refused fault))

def flush (K : Camera.Conductor σ) (t : Timed (Session σ)) :
    Timed (Session σ) × Except Fault Unit :=
  onCamera (Camera.flush K) t

/-- Flushes what is outstanding and forgets all pipelines. -/
def destroy (K : Camera.Conductor σ) (t : Timed (Session σ)) :
    Timed (Session σ) × Except Fault Unit :=
  if t.value.isBuilt then
    let (t, answer) := flush K t
    (t.map forgetPipelines, answer)
  else (t, .ok ())

def stop (K : Camera.Conductor σ) (t : Timed (Session σ)) : Timed (Session σ) × Except Fault Unit :=
  let (t, answer) := onCamera (Camera.stop K) t
  (t.map fun s => { s with phase := .closed answer }, answer)

def close (K : Camera.Conductor σ) (t : Timed (Session σ)) :
    Timed (Session σ) × Except Fault Unit :=
  let (t, destroyed) := destroy K t
  let (t, stopped) := stop K t
  let answer := closeAnswer destroyed stopped
  (t.map fun s => { s with phase := .closed answer }, answer)

end VirtualCamera.Session
