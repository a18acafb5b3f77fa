import VirtualCamera.Capture
import VirtualCamera.Proofs.Finals
import VirtualCamera.Proofs.Lifecycle
import VirtualCamera.Proofs.Regions

/-!
# The totals of a capture run

A capture run counts the events that it has read.  They are a part of what its
listener heard, so there are no more results and errors among them than requests
were admitted, and no more requests are admitted than the run submitted
(`Camera.committed`).  A run that did not give up waiting has read as many results
and errors as it submitted frames; then nothing can be under way any more, and the
sensor counted exactly the results that were read.

`Books` is what holds in every state of a run.  The session moves in the same
way for all its moves but a submission (`Books.sessionStep`); the run itself
moves by submitting, by reading, and from phase to phase.
-/

namespace VirtualCamera

open Sensor (Simulated)

/-! ## What is submitted and admitted -/

/-- How many requests of its batch a call has still to admit. -/
def Call.left (call : Call) : Nat :=
  (call.batch?.map (·.left.length)).getD 0

namespace Camera

variable {c d : Camera Simulated} {m : Move}

/-- The requests that were admitted, and those that open calls may still
admit. -/
def committed (c : Camera Simulated) : Nat :=
  c.admitted + (c.calls.map (·.2.left)).sum

def Move.submits : Move → Nat
  | submit _ requests _ => requests.length
  | _ => 0

theorem Transition.committed_le (h : Transition Simulated.engine c m d) :
    d.committed ≤ c.committed + m.submits := by
  cases h with
  | submit | flush | stop =>
      simp [committed, begin, Call.left, Call.batch?, Move.submits, Nat.add_assoc]
  | admitOne hc | refuse hc | abort hc | expire hc =>
      simp only [committed, hc, Call.left, Call.batch?, List.map_append, List.map_cons,
        List.sum_append, List.sum_cons, Option.map_some, Option.getD_some, List.length_cons]
      omega
  | enter hc | submitted hc | park hc | flushSensor hc | clear hc | drain hc | report hc
  | flushed hc | halt hc | close hc | closeEffect hc | stopped hc =>
      simp [committed, hc, Call.left, Call.batch?]
  | _ => exact Nat.le_refl _

/-- What a request becomes, once it is known how its buffers are mapped. -/
theorem mapRequest_of_mapAll {frame : UInt32} {p : Pipeline} {r : CaptureRequest}
    {tag : FrameTag} {s t : Store} {outputs inputs : Option (List Mapping)}
    (htag : tag = ⟨c.admitted, frame, p.id, p.camera, p.listener⟩)
    (houtputs : c.stage.store.mapAll Simulated.engine.overrideFormat tag p.streams r.outputs =
      (s, .ok outputs))
    (hinputs : s.mapAll Simulated.engine.overrideFormat tag p.streams r.inputs =
      (t, .ok inputs)) :
    c.mapRequest Simulated.engine frame p r = (t, .ok ⟨tag, r.settings, inputs, outputs⟩) := by
  subst htag
  simp only [mapRequest, houtputs, hinputs]

end Camera

namespace Session

variable {s t : Session Simulated} {m : Move}

def Move.submits : Move → Nat
  | submit _ requests => requests.length
  | _ => 0

/-- The camera of a session stays sound, its record only grows, and no request is
admitted that was not submitted. -/
theorem camera_of_step? (hs : s.camera.Sound) (h : s.step? Simulated.engine m = some t) :
    t.camera.Sound ∧ s.camera.stage.record <:+ t.camera.stage.record ∧
      t.camera.committed ≤ s.camera.committed + m.submits := by
  rcases (transition_of_step? h).camera with heq | ⟨n, hn, hsubmit⟩
  · rw [heq]
    exact ⟨hs, List.suffix_rfl, Nat.le_add_right _ _⟩
  · have hstep := Camera.transition_of_step? hs.orderly.toNumbered hn
    refine ⟨hs.step hn, hstep.record_suffix, hstep.committed_le.trans ?_⟩
    cases n with
    | submit frame requests table =>
        obtain ⟨rfl, -⟩ := hsubmit frame requests table rfl
        exact Nat.le_refl _
    | _ => exact Nat.le_add_right _ _

end Session

/-! ## The books of a run -/

/-- The totals of a run that submits so many frames. -/
structure CaptureTotals.AddUp (t : CaptureTotals) (frames : Nat) : Prop where
  submitted : t.submitted = frames
  finished : t.completed + t.failed ≤ t.submitted
  /-- unless the run gave up waiting, every frame was finished, and the sensor
  counted those that were completed -/
  complete : t.gaveUp = false →
    t.completed + t.failed = t.submitted ∧ t.captured = .ofNat t.completed

namespace Capture

variable {c d : Capture} {frames : Nat}

theorem completed_eq (c : Capture) : c.completed = c.read.countP Event.isResult := by
  refine List.countP_congr fun e _ => ?_
  cases e <;> rfl

theorem failures_eq (c : Capture) : c.failures = c.read.countP Event.isError := by
  refine List.countP_congr fun e _ => ?_
  cases e <;> rfl

theorem finished_eq (c : Capture) : c.finished = c.read.countP Event.isFinal := by
  rw [finished, completed_eq, failures_eq, Event.countP_isFinal]

/-- How many requests may have been admitted so far. -/
def due (c : Capture) : Nat :=
  match c.phase with
  | .submitting _ | .failed _ => c.submitted + 1
  | .next | .reading | .draining | .closing _ | .done .. => c.submitted

/-- How far a run has come with its frames. -/
def OnSchedule (c : Capture) (frames : Nat) : Prop :=
  match c.phase with
  | .next | .reading | .failed _ => c.submitted ≤ frames
  | .submitting _ => c.submitted < frames
  | .draining => c.submitted = frames
  | .closing totals | .done totals _ => totals.AddUp frames

structure Books (frames : Nat) (c : Capture) : Prop where
  frames_eq : c.frames = frames
  sound : c.session.camera.Sound
  committed : c.session.camera.committed ≤ c.due
  read : c.read <+: c.session.camera.stage.heard channel
  finished : c.finished ≤ c.submitted
  schedule : c.OnSchedule frames

/-- The session moved, and nothing else. -/
theorem Books.withSession {session : Session Simulated} (h : c.Books frames)
    (hsound : session.camera.Sound)
    (hrecord : c.session.camera.stage.record <:+ session.camera.stage.record)
    (hcommitted : session.camera.committed ≤ c.session.camera.committed) :
    Books frames { c with session } :=
  ⟨h.frames_eq, hsound, hcommitted.trans h.committed,
    h.read.trans (Stage.history_prefix hrecord _), h.finished, h.schedule⟩

theorem Books.sessionStep {m : Session.Move} (h : c.Books frames) (hm : m.submits = 0)
    (hs : c.sessionStep? m = some d) : d.Books frames := by
  obtain ⟨session, hstep, rfl⟩ := Option.map_eq_some_iff.mp hs
  obtain ⟨hsound, hrecord, hcommitted⟩ := Session.camera_of_step? h.sound hstep
  rw [hm, Nat.add_zero] at hcommitted
  exact h.withSession hsound hrecord hcommitted

theorem sound_withMemory {s : Session Simulated} (hs : s.camera.Sound) (memory : Memory) :
    (withMemory s memory).camera.Sound :=
  hs.refitted _ _

/-- The run goes on to another phase, in which no more is due. -/
theorem Books.withPhase {phase : CapturePhase} (h : c.Books frames)
    (hdue : c.due ≤ { c with phase }.due) (hschedule : { c with phase }.OnSchedule frames) :
    Books frames { c with phase } :=
  ⟨h.frames_eq, h.sound, h.committed.trans hdue, h.read, h.finished, hschedule⟩

/-- The run submits its next frame. -/
theorem Books.submitNext (h : c.Books frames) (hphase : c.phase = .next)
    (hlt : c.submitted < c.frames) (hs : c.submitNext? = some d) : d.Books frames := by
  have hdue : c.due = c.submitted := by rw [due, hphase]
  rw [h.frames_eq] at hlt
  unfold submitNext? at hs
  split at hs
  · cases hs
    exact h.withPhase (hdue ▸ Nat.le_succ _) (Nat.le_of_lt hlt)
  · obtain ⟨session, hstep, rfl⟩ := Option.map_eq_some_iff.mp hs
    obtain ⟨hsound, hrecord, hcommitted⟩ :=
      Session.camera_of_step? (sound_withMemory h.sound _) hstep
    refine ⟨h.frames_eq, hsound, ?_, h.read.trans (Stage.history_prefix hrecord _), h.finished,
      hlt⟩
    exact hcommitted.trans (Nat.succ_le_succ (hdue ▸ h.committed))

/-- The run reads an event that has arrived. -/
theorem Books.readEvent {e : Event} {rest : List Event} (h : c.Books frames)
    (hdue : c.due = c.submitted) (hunread : c.unread = e :: rest) :
    (c.readNext e).Books frames := by
  have hread : (c.readNext e).read <+: c.session.camera.stage.heard channel := by
    obtain ⟨others, hothers⟩ := h.read
    rw [unread, ← hothers, List.drop_left] at hunread
    exact ⟨rest, by rw [readNext, ← hothers, hunread, List.append_assoc]; rfl⟩
  refine ⟨h.frames_eq, h.sound, h.committed, hread, ?_, h.schedule⟩
  rw [finished_eq]
  have hfinished := h.sound.heard_finals_le hread.sublist
  exact hfinished.trans ((Nat.le_add_right _ _).trans (hdue ▸ h.committed))

/-- The totals of a run that has read all that it waited for, or gave up. -/
theorem Books.addUp (h : c.Books frames) (hphase : c.phase = .draining) {gaveUp : Bool}
    (hdone : gaveUp = false → c.submitted ≤ c.finished) : (c.total gaveUp).AddUp frames := by
  have hschedule := h.schedule
  rw [OnSchedule, hphase] at hschedule
  refine ⟨hschedule, h.finished, fun hgave => ?_⟩
  have hle := hdone hgave
  have hcommitted := h.committed
  rw [due, hphase] at hcommitted
  have hadmitted : c.session.camera.admitted ≤ c.finished :=
    (Nat.le_add_right _ _).trans (hcommitted.trans hle)
  rw [finished_eq] at hadmitted
  refine ⟨Nat.le_antisymm h.finished hle, ?_⟩
  have hcaptured := h.sound.captured_eq h.read.sublist hadmitted
  rwa [← completed_eq] at hcaptured

/-! ## Steps and runs -/

theorem Books.closeStep {totals : CaptureTotals} (h : c.Books frames)
    (hphase : c.phase = .closing totals) (hs : c.closeStep? totals = some d) :
    d.Books frames := by
  unfold closeStep? at hs
  split at hs
  · exact h.sessionStep rfl hs
  · rcases Option.or_eq_some_iff.mp hs with hs | ⟨-, hs⟩ <;> exact h.sessionStep rfl hs
  · rcases Option.or_eq_some_iff.mp hs with hs | ⟨-, hs⟩ <;> exact h.sessionStep rfl hs
  · cases hs
    have hschedule := h.schedule
    rw [OnSchedule, hphase] at hschedule
    exact h.withPhase (by simp [due, hphase]) hschedule

theorem Books.loopStep (h : c.Books frames) (hs : c.loopStep? = some d) : d.Books frames := by
  have hschedule := h.schedule
  unfold loopStep? at hs
  unfold OnSchedule at hschedule
  split at hs
  case h_1 hphase =>
    rw [hphase] at hschedule
    split at hs
    case isTrue hlt => exact h.submitNext hphase hlt hs
    case isFalse hge =>
      cases hs
      have hall : c.submitted = frames :=
        Nat.le_antisymm hschedule (h.frames_eq ▸ Nat.le_of_not_lt hge)
      exact h.withPhase (by simp [due, hphase]) hall
  case h_2 call hphase =>
    rw [hphase] at hschedule
    split at hs
    · cases hs
      have hcommitted := h.committed
      rw [due, hphase] at hcommitted
      exact ⟨h.frames_eq, h.sound, hcommitted, h.read, Nat.le_succ_of_le h.finished, hschedule⟩
    · cases hs
      exact h.withPhase (by simp [due, hphase]) (Nat.le_of_lt hschedule)
    · split at hs
      · cases hs
        exact h.withPhase (by simp [due, hphase]) (Nat.le_of_lt hschedule)
      · exact h.sessionStep rfl hs
  case h_3 hphase =>
    rw [hphase] at hschedule
    split at hs
    case h_1 hunread =>
      cases hs
      exact h.readEvent (by rw [due, hphase]) hunread
    case h_2 =>
      cases hs
      exact h.withPhase (by simp [due, hphase]) hschedule
  case h_4 hphase =>
    split at hs
    case isTrue hle =>
      cases hs
      exact h.withPhase (by simp [due, hphase]) (h.addUp hphase fun _ => hle)
    case isFalse =>
      obtain ⟨e, hhead, rfl⟩ := Option.map_eq_some_iff.mp hs
      obtain ⟨rest, hunread⟩ := List.head?_eq_some_iff.mp hhead
      exact h.readEvent (by rw [due, hphase]) hunread
  case h_5 totals hphase => exact h.closeStep hphase hs
  case h_6 => cases hs
  case h_7 => cases hs

theorem Books.giveUp (h : c.Books frames) (hs : c.giveUp? = some d) : d.Books frames := by
  unfold giveUp? at hs
  split at hs
  case h_1 => exact h.sessionStep rfl hs
  case h_2 hphase =>
    split at hs
    · cases hs
      exact h.withPhase (by simp [due, hphase]) (h.addUp hphase nofun)
    · cases hs
  case h_3 => cases hs

theorem Books.step {m : Move} (h : c.Books frames) (hs : c.step? m = some d) :
    d.Books frames := by
  cases m with
  | loop => exact h.loopStep hs
  | giveUp => exact h.giveUp hs
  | worker | workerGivesUp | sensor => exact h.sessionStep rfl hs

theorem Books.run {moves : List Move} (h : c.Books frames) (hs : c.run? moves = some d) :
    d.Books frames := by
  induction moves generalizing c with
  | nil =>
      cases hs
      exact h
  | cons m rest ih =>
      obtain ⟨b, hb, hd⟩ := Option.bind_eq_some_iff.mp hs
      exact ih (h.step hb) hd

/-- A run begins with a new camera, and nothing was submitted or read. -/
theorem books_of_open? {config : Config} {description : Characteristics}
    (h : open? config description frames = .ok c) : c.Books frames := by
  unfold open? at h
  obtain ⟨camera, hcamera, h⟩ := exists_of_bind_eq_ok h
  obtain ⟨created, hcreated, hopened⟩ := exists_of_bind_eq_ok (eq_ok_of_mapError h)
  obtain ⟨⟨id, configured⟩, hconfigured, hopened⟩ := exists_of_bind_eq_ok hopened
  obtain ⟨built, hbuilt, hopened⟩ := exists_of_bind_eq_ok hopened
  obtain ⟨settings, -, hopened⟩ := exists_of_bind_eq_ok hopened
  obtain rfl := Except.ok.inj hopened
  obtain ⟨controls, rfl⟩ := Session.create_eq hcreated
  obtain ⟨-, -, -, rfl⟩ := Session.configure_eq_ok_iff.mp hconfigured
  obtain ⟨-, -, rfl⟩ := Session.build_eq_ok_iff.mp hbuilt
  have hsound := (Camera.sound_create hcamera).refitted camera.stage.store controls
  obtain rfl := Camera.create_eq hcamera
  exact ⟨rfl, hsound, Nat.le_refl _, List.nil_prefix, Nat.le_refl _, Nat.zero_le _⟩

/-! ## What is reported -/

/-- What a run has reported, once it has. -/
def totals? (c : Capture) : Option CaptureTotals :=
  match c.phase with
  | .closing totals | .done totals _ => some totals
  | .next | .submitting _ | .reading | .draining | .failed _ => none

theorem Books.addUp_of_totals? {totals : CaptureTotals} (h : c.Books frames)
    (ht : c.totals? = some totals) : totals.AddUp frames := by
  have hschedule := h.schedule
  unfold OnSchedule at hschedule
  unfold totals? at ht
  split at ht
  case h_1 hphase =>
    rw [hphase] at hschedule
    exact Option.some.inj ht ▸ hschedule
  case h_2 hphase =>
    rw [hphase] at hschedule
    exact Option.some.inj ht ▸ hschedule
  all_goals cases ht

/-! ## A sample run

One frame, from the submission to the end.  Its two buffers are followed as they
are, whatever bytes they hold; only their sizes matter, when they are locked. -/

def sampleStream (id : UInt32) (format : PixelFormat) : Stream :=
  { previewStreams.stream id format with usage := Limits.writeOften }

def samplePipeline : Pipeline where
  id := 0
  camera := 0
  listener := { channel }
  streams := [sampleStream 0 .rgba8888, sampleStream 1 .ycbcr420]

def sampleSession : Session Simulated where
  camera := {
    config := {}
    controls := {
      camera := 0
      characteristics := some .standard
      frameRate := ⟨15, 30⟩ }
    stage := { sensor := { period := 33331760 }, store := ⟨⟨#[]⟩, #[]⟩ } }
  characteristics := .standard
  pipelines := [samplePipeline]
  isBuilt := true

def sample (rgba ycbcr : Buffer) : Capture where
  session := sampleSession
  frames := 1
  settings := Characteristics.standard.automaticSettings .preview
  blanks := .ok [(0, rgba), (1, ycbcr)]

theorem open?_sample :
    open? {} .standard 1 = .ok (sample (.zeroed 409600) (.zeroed 115200)) := by
  have hopen : open? {} .standard 1 = .ok { sample (.zeroed 409600) (.zeroed 115200) with
      blanks := (sampleSession.streams 0).mapError .refused >>= blanksFor } := rfl
  have hstreams : sampleSession.streams 0 = .ok samplePipeline.streams :=
    congrArg Except.ok (List.mergeSort_of_pairwise (by decide))
  rw [hopen, hstreams]
  rfl

section

variable (rgba ycbcr : Buffer)

def sampleRequest : CaptureRequest where
  pipeline := 0
  settings := some (Characteristics.standard.automaticSettings .preview)
  inputs := []
  outputs := [⟨0, 0, none, .error⟩, ⟨1, 1, none, .error⟩]

def sampleTag : FrameTag :=
  ⟨0, 0, 0, 0, { channel }⟩

def sampleSubmission (phase : SubmitPhase) (left : List CaptureRequest) : Call :=
  .submitting phase 0 [samplePipeline] left

/-- The camera once the submission was called and is in this phase. -/
def sampleCamera (phase : SubmitPhase) : Camera Simulated :=
  (withMemory sampleSession ⟨#[rgba, ycbcr]⟩).camera.begin
    (sampleSubmission phase [sampleRequest])

def sampleSubmitting (camera : Camera Simulated) : Capture :=
  { sample rgba ycbcr with
    session := { sampleSession with camera }
    phase := .submitting 0 }

/-- The run calls for the submission, which takes the lock and comes to the
request. -/
theorem sample_run?_admit :
    (sample rgba ycbcr).run? [.loop, .loop, .loop] = some (sampleSubmitting rgba ycbcr
      ((sampleCamera rgba ycbcr .admitting).admitRequest Simulated.engine 0 0 [samplePipeline]
        samplePipeline sampleRequest [])) := by
  have hsubmit : (sample rgba ycbcr).step? .loop =
      some (sampleSubmitting rgba ycbcr (sampleCamera rgba ycbcr .entering)) := rfl
  have henter : (sampleSubmitting rgba ycbcr (sampleCamera rgba ycbcr .entering)).step? .loop =
      some (sampleSubmitting rgba ycbcr (sampleCamera rgba ycbcr .admitting)) := rfl
  have hadmit : (sampleSubmitting rgba ycbcr (sampleCamera rgba ycbcr .admitting)).step? .loop =
      some (sampleSubmitting rgba ycbcr ((sampleCamera rgba ycbcr .admitting).admitRequest
        Simulated.engine 0 0 [samplePipeline] samplePipeline sampleRequest [])) := rfl
  simp only [run?, List.foldlM_cons, List.foldlM_nil, hsubmit, henter, hadmit,
    Option.bind_eq_bind, Option.bind_some]
  rfl

end

/-- A buffer of a stream, mapped with these planes. -/
def sampleMapping (s : Stream) (a : Attachment) (planes : Planes) : Mapping where
  tag := sampleTag
  width := s.width
  height := s.height
  format := s.format
  dataspace := s.dataspace
  isInput := s.isInput
  planes
  attachment := { a with status := .error }
  fence := a.fence

theorem mapKnown_sample {s t : Store} {stream : Stream} {a : Attachment} {planes : Planes}
    (hfind : Stream.find? samplePipeline.streams a.stream = some stream)
    (hinput : stream.isInput = false) (hfence : a.fence = none)
    (hlock : s.lockPlanes stream a.buffer = .ok (t, planes)) :
    s.mapKnown PixelFormat.asInput sampleTag samplePipeline.streams a =
      (t, .ok (some (sampleMapping stream a planes))) := by
  simp [Store.mapKnown, hfind, Store.map, Stream.seenThrough, hinput, hlock, hfence, sampleMapping]

theorem lockPlanes_rgba {s : Store} (h : s.memory.sizeOf 0 = 409600) :
    ∃ planes, s.lockPlanes (sampleStream 0 .rgba8888) 0 =
      .ok ({ s with memory := s.memory.acquire 0 }, planes) := by
  have hextent : Extent.ofStream (sampleStream 0 .rgba8888) = .ok ⟨1280, 409600⟩ := rfl
  have hlock : s.memory.lock? 0 409600 = some (s.memory.acquire 0, ⟨0, 0, 409600⟩) := by
    simp [Memory.lock?, h]
  refine ⟨.packed ⟨0, 0, 409600⟩ 1280 409600, ?_⟩
  have hpacked : (sampleStream 0 .rgba8888).format.isPlanar = false := rfl
  simp only [Store.lockPlanes, hpacked, Store.lockPacked, hextent, bind, Except.bind, hlock]
  rfl

theorem lockPlanes_ycbcr {s : Store} (h : s.memory.sizeOf 1 = 115200) :
    ∃ planes, s.lockPlanes (sampleStream 1 .ycbcr420) 1 =
      .ok ({ s with memory := s.memory.acquire 1 }, planes) := by
  have hsize : Planar.ofSize 320 240 = ⟨320, 76800, 160, 19200⟩ := by decide
  obtain ⟨regions, hlock⟩ : ∃ regions,
      s.memory.lockPlanar? 1 320 240 = .ok (some (s.memory.acquire 1, regions)) := by
    have htotal : (Planar.ofSize 320 240).total = .ok 115200 := rfl
    rw [hsize] at htotal
    simp [Memory.lockPlanar?, hsize, htotal, h, Except.map]
  refine ⟨.planar regions, ?_⟩
  have hplanar : (sampleStream 1 .ycbcr420).format.isPlanar = true := rfl
  rw [Store.lockPlanes, if_pos hplanar]
  simp only [sampleStream, previewStreams.stream, Limits.previewWidth, Limits.previewHeight, hlock]

/-- Both buffers are mapped. -/
theorem mapAll_sample {s : Store} (hrgba : s.memory.sizeOf 0 = 409600)
    (hycbcr : s.memory.sizeOf 1 = 115200) :
    ∃ t first second, s.mapAll PixelFormat.asInput sampleTag samplePipeline.streams
        sampleRequest.outputs =
      (t, .ok (some [sampleMapping (sampleStream 0 .rgba8888) ⟨0, 0, none, .error⟩ first,
        sampleMapping (sampleStream 1 .ycbcr420) ⟨1, 1, none, .error⟩ second])) := by
  obtain ⟨first, hfirst⟩ := lockPlanes_rgba hrgba
  obtain ⟨second, hsecond⟩ := lockPlanes_ycbcr (s := { s with memory := s.memory.acquire 0 })
    ((s.memory.sameSizes_acquire 0 1).trans hycbcr)
  have hfirst' := mapKnown_sample (a := ⟨0, 0, none, .error⟩) rfl rfl rfl hfirst
  have hsecond' := mapKnown_sample (a := ⟨1, 1, none, .error⟩) rfl rfl rfl hsecond
  refine ⟨{ s with memory := (s.memory.acquire 0).acquire 1 }, first, second, ?_⟩
  simp only [Store.mapAll, sampleRequest, Store.mapEach, hfirst', hsecond']
  rfl

/-- What follows the admission: the worker takes the request to the sensor, which
captures it at the second tick; the run reads the shutter and the result, totals
up and closes the session. -/
def sampleMoves : List Move :=
  List.flatten [List.replicate 4 .loop, List.replicate 10 .worker, [.sensor],
    List.replicate 4 .worker, [.sensor, .loop], List.replicate 6 .sensor,
    List.replicate 7 .loop, List.replicate 2 .sensor, List.replicate 2 .worker, [.loop],
    List.replicate 2 .sensor, List.replicate 4 .loop]

def isDone (c : Capture) : Bool :=
  match c.phase with
  | .done _ (.ok _) => true
  | _ => false

theorem run?_sample {rgba ycbcr : Buffer} (hrgba : rgba.size = 409600)
    (hycbcr : ycbcr.size = 115200) :
    ((sample rgba ycbcr).run? ([.loop, .loop, .loop] ++ sampleMoves)).map
        (fun c => (c.isDone, c.totals?)) =
      some (true, some ⟨1, 1, 0, 1, false⟩) := by
  obtain ⟨t, first, second, hmap⟩ :=
    mapAll_sample (s := (sampleCamera rgba ycbcr .admitting).stage.store) hrgba hycbcr
  have htag : sampleTag = ⟨(sampleCamera rgba ycbcr .admitting).admitted, 0, samplePipeline.id,
      samplePipeline.camera, samplePipeline.listener⟩ := rfl
  have hinputs : t.mapAll Simulated.engine.overrideFormat sampleTag samplePipeline.streams
      sampleRequest.inputs = (t, .ok none) := rfl
  have hrequest := Camera.mapRequest_of_mapAll htag hmap hinputs
  rw [run?, List.foldlM_append, ← run?, sample_run?_admit, Camera.admitRequest, hrequest]
  rfl

/-! ## Every run -/

/-- A run never counts more frames as completed or failed than it submitted,
however its moves and those of worker and sensor come in between.  What it reports
is that it submitted all its frames; and unless it gave up waiting, each of them
was completed or failed, and the sensor counted as many frames as were
completed. -/
theorem totals_add_up {config : Config} {description : Characteristics} {frames : UInt32}
    {c₀ c : Capture} {moves : List Move}
    (h₀ : open? config description frames.toNat = .ok c₀) (h : c₀.run? moves = some c) :
    c.completed + c.failures ≤ c.submitted ∧
      ∀ totals, c.totals? = some totals →
        totals.submitted = frames.toNat ∧
        totals.completed + totals.failed ≤ totals.submitted ∧
        (totals.gaveUp = false →
          totals.completed + totals.failed = totals.submitted ∧
          totals.captured.toNat = totals.completed) := by
  have hbooks := (books_of_open? h₀).run h
  refine ⟨hbooks.finished, fun totals htotals => ?_⟩
  obtain ⟨hsubmitted, hfinished, hcomplete⟩ := hbooks.addUp_of_totals? htotals
  refine ⟨hsubmitted, hfinished, fun hgave => ?_⟩
  obtain ⟨hall, hcaptured⟩ := hcomplete hgave
  have hframes := frames.toNat_lt
  refine ⟨hall, ?_⟩
  rw [hcaptured, UInt64.toNat_ofNat', Nat.mod_eq_of_lt (by omega)]

/-- The sample run ends without a fault; its frame was completed and counted. -/
theorem totals_of_sample_add_up :
    ∃ c₀ c totals, open? {} .standard (1 : UInt32).toNat = .ok c₀ ∧
      c₀.run? ([.loop, .loop, .loop] ++ sampleMoves) = some c ∧ c.isDone = true ∧
      c.totals? = some totals ∧ totals.gaveUp = false ∧
      c.completed + c.failures ≤ c.submitted ∧ totals.submitted = 1 ∧
      totals.completed + totals.failed = totals.submitted ∧
      totals.captured.toNat = totals.completed := by
  have hsize (n : Nat) : (Buffer.zeroed n).size = n := Array.size_replicate
  obtain ⟨c, hrun, heq⟩ := Option.map_eq_some_iff.mp (run?_sample (hsize 409600) (hsize 115200))
  obtain ⟨hdone, htotals⟩ := Prod.mk.inj heq
  have hopen : open? {} .standard (1 : UInt32).toNat = .ok _ := open?_sample
  obtain ⟨hfinished, hreport⟩ := totals_add_up hopen hrun
  obtain ⟨hsubmitted, -, hcomplete⟩ := hreport _ htotals
  exact ⟨_, c, _, hopen, hrun, hdone, htotals, rfl, hfinished, hsubmitted, hcomplete rfl⟩

end Capture

end VirtualCamera
