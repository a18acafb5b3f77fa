import VirtualCamera.Proofs.Barrier
import VirtualCamera.Session

/-!
# Destroying and closing

A session moves by moves of its camera and by its owner's.  `Session.Transition`
lists them, and every reachable session has a reachable camera.

While the owner has the session alone, nothing is admitted.  So after the flush
of a destroyed session the queue is empty and stays empty (`Quiet`), and a stop
that begins then finds nothing to do but to wait for the worker, for the
sensor's thread, and to empty the slot.  This is the invariant of a session
(`Session.Orderly`); at its end, in a closed session, nothing is left anywhere
(`Camera.Ended`).
-/

namespace VirtualCamera

namespace Camera

section

variable {σ : Type} {E : Engine σ} {c d : Camera σ} {sensor : σ} {call : Nat} {m : Move}

/-- Whether a camera can be created does not depend on its controls. -/
theorem create_withControls {config : Config} {store : Store} {controls : Controls}
    (h : create config sensor store controls = .ok c) (other : Controls) :
    create config sensor store other = .ok { c with controls := other } := by
  obtain rfl := create_eq h
  unfold create at h ⊢
  split at h
  · cases h
  · split at h
    · cases h
    · simp [*]

/-! ## Quiet cameras -/

/-- Unless somebody submits, requests only leave the queue, the oldest first. -/
theorem Transition.queue_suffix (h : Transition E c m d)
    (hcalls : ∀ p ∈ c.calls, p.2.kind ≠ .submission) : d.queue <:+ c.queue := by
  cases h with
  | take _ _ _ hqueue =>
      rw [hqueue]
      exact List.suffix_cons _ _
  | admitOne hc =>
      exact absurd rfl (hcalls _ (by rw [hc]; exact List.mem_append_right _ List.mem_cons_self))
  | drain => exact List.nil_suffix
  | _ => exact List.suffix_rfl

/-- The queue is empty, and nobody is about to fill it. -/
structure Quiet (c : Camera σ) : Prop where
  queue : c.queue = []
  calls : ∀ p ∈ c.calls, p.2.kind ≠ .submission

theorem Transition.quiet (h : Transition E c m d) (hm : m.opens? ≠ some .submission)
    (hq : c.Quiet) : d.Quiet := by
  refine ⟨?_, h.kind_ne hm hq.calls⟩
  have hqueue := h.queue_suffix hq.calls
  rw [hq.queue] at hqueue
  exact List.suffix_nil.mp hqueue

/-! ## While the pipelines are destroyed -/

/-- Nobody submits, and the queue is empty or the flush will empty it. -/
structure Destroying (call : Nat) (c : Camera σ) : Prop where
  calls : ∀ p ∈ c.calls, p.2.kind ≠ .submission
  queue : c.queue = [] ∨ c.calls.lookup call = some .flushing ∨
    ∃ status effects, c.calls.lookup call = some (.clearing status effects)

theorem destroying_of_flush (hc : c.calls = []) (h : Transition E c .flush d) :
    d.Destroying c.opened := by
  cases h with
  | flush => exact ⟨by simp [begin, hc, Call.kind], Or.inr (Or.inl (by simp [begin, hc]))⟩

theorem Destroying.step (hc : Reachable E sensor c) (h : c.step? E m = some d)
    (hm : m.opens? = none) (hd : c.Destroying call) : d.Destroying call := by
  have hstep := hc.transition h
  have hsubmission : m.opens? ≠ some .submission := by simp [hm]
  refine ⟨hstep.kind_ne hsubmission hd.calls, ?_⟩
  rcases hd.queue with hqueue | hflushing | ⟨status, effects, hclearing⟩
  · exact Or.inl (hstep.quiet hsubmission ⟨hqueue, hd.calls⟩).queue
  · refine Or.inr ?_
    by_cases hcall : m.call? = some call
    · obtain ⟨-, -, hnext⟩ := step?_of_flushing hflushing hcall h
      exact Or.inr ⟨_, _, hnext⟩
    · have hlt := hc.orderly.toNumbered.lt_of_lookup hflushing
      exact Or.inl ((hstep.lookup_eq hlt hcall).trans hflushing)
  · by_cases hcall : m.call? = some call
    · rcases step?_of_clearing hclearing hcall h with ⟨e, rest, -, rfl⟩ | ⟨-, rfl⟩
      · exact Or.inr (Or.inr ⟨_, _, lookup_put hclearing⟩)
      · exact Or.inl rfl
    · exact Or.inr (Or.inr ⟨_, _,
        (hstep.lookup_eq (hc.orderly.toNumbered.lt_of_lookup hclearing) hcall).trans hclearing⟩)

/-- Once the flush has returned, the queue is empty. -/
theorem Destroying.quiet {answer : Except Fault Unit} (hc : Reachable E sensor c)
    (hd : c.Destroying call) (ha : c.stage.answer? call = some answer) : c.Quiet := by
  refine ⟨?_, hd.calls⟩
  rcases hd.queue with hqueue | hflushing | ⟨status, effects, hclearing⟩
  · exact hqueue
  · rw [hc.answer?_eq_none hflushing] at ha
    cases ha
  · rw [hc.answer?_eq_none hclearing] at ha
    cases ha

/-! ## While the camera stops -/

theorem Transition.worker_ended (h : Transition E c m d) (hw : c.worker = .ended) :
    d.worker = .ended := by
  cases h with
  | check hw' | idle hw' | take hw' | resolve hw' | crash hw' | outputsAwaited hw'
  | awaitOutput hw' | record hw' | awaitInput hw' | handOver hw' | perform hw' | finished hw'
  | unwind hw' | unwound hw' | beginPacing hw' | skipPacing hw' | pace hw' | giveUp hw' =>
      cases hw.symm.trans hw'
  | _ => exact hw

theorem Transition.isStopping_eq (h : Transition E c m d) (hm : m.opens? ≠ some .stop) :
    d.isStopping = c.isStopping := by
  cases h with
  | stop | stopAgain => exact absurd rfl hm
  | _ => rfl

theorem ended_of_not_isWorking (h : c.isWorking = false) : c.worker = .ended := by
  unfold isWorking at h
  split at h
  · assumption
  · cases h

theorem step?_of_joining (hi : c.calls.lookup call = some .joining) (hm : m.call? = some call)
    (h : c.step? E m = some d) : c.worker = .ended ∧ d = c.haltSensor E call := by
  cases m with
  | advance j =>
      obtain rfl : j = call := Option.some.inj hm
      simp only [step?, callStep?, hi, Option.ite_none_left_eq_some, Option.some.injEq] at h
      obtain ⟨hworking, rfl⟩ := h
      exact ⟨ended_of_not_isWorking (Bool.eq_false_iff.mpr hworking), rfl⟩
  | expire j =>
      obtain rfl : j = call := Option.some.inj hm
      simp [step?, expire?, hi] at h
  | _ => cases hm

/-- As long as no call begins, the only open call stays the only one. -/
theorem Transition.only_call (h : Transition E c m d) (hm : m.opens? = none)
    (hc : ∀ p ∈ c.calls, p.1 = call) : ∀ p ∈ d.calls, p.1 = call := by
  intro p hp
  rcases h.kind_eq hp with ⟨old, hold, -⟩ | hopens
  · exact hc (p.1, old) hold
  · cases hm.symm.trans hopens

theorem Transition.calls_eq_nil (h : Transition E c m d) (hm : m.opens? = none)
    (hc : c.calls = []) : d.calls = [] := by
  refine List.eq_nil_iff_forall_not_mem.mpr fun p hp => ?_
  rcases h.kind_eq hp with ⟨old, hold, -⟩ | hopens
  · cases hc ▸ hold
  · cases hm.symm.trans hopens

/-- Once the only call has returned, none is open. -/
theorem Reachable.calls_eq_nil {answer : Except Fault Unit} (hc : Reachable E sensor c)
    (honly : ∀ p ∈ c.calls, p.1 = call) (ha : c.stage.answer? call = some answer) :
    c.calls = [] := by
  refine List.eq_nil_iff_forall_not_mem.mpr fun p hp => ?_
  have hkey : p.1 = call := honly p hp
  cases hi : c.calls.lookup call with
  | none => exact bne_iff_ne.mp (List.lookup_eq_none_iff.mp hi p hp) hkey.symm
  | some phase => cases (hc.answer?_eq_none hi).symm.trans ha

end

section

open Sensor (Simulated)

variable {c d : Camera Simulated} {call period : Nat} {m : Move}

/-- The worker and the sensor's thread have ended, and the slot is empty. -/
structure Ended (c : Camera Simulated) : Prop where
  worker : c.worker = .ended
  thread : c.stage.sensor.thread = .ended
  slot : c.stage.sensor.slot = none

theorem Transition.ended (h : Transition Simulated.engine c m d) (he : c.Ended) : d.Ended := by
  have hworker := h.worker_ended he.worker
  cases h with
  | check hw | idle hw | take hw | resolve hw | crash hw | outputsAwaited hw | awaitOutput hw
  | record hw | awaitInput hw | handOver hw | perform hw | finished hw | unwind hw | unwound hw
  | beginPacing hw | skipPacing hw | pace hw | giveUp hw => cases he.worker.symm.trans hw
  | sensor hs =>
      obtain ⟨sensor, effects, hstep, -⟩ := Stage.sensorStep_of_sensorStep? hs
      cases hstep with
      | halt hthread | tick hthread | rest hthread | perform hthread | count hthread =>
          cases he.thread.symm.trans hthread
  | flushSensor | close => exact ⟨hworker, he.thread, rfl⟩
  | clear | report | closeEffect =>
      refine ⟨hworker, ?_, ?_⟩
      · rw [Stage.perform_sensor, he.thread]
      · rw [Stage.perform_sensor, he.slot]
  | _ => exact ⟨hworker, he.thread, he.slot⟩

/-- Only a stop that goes on joins the sensor's thread. -/
theorem Transition.isJoined_eq (hn : c.Numbered) (h : Transition Simulated.engine c m d)
    (hm : ∀ i, m.call? = some i → c.calls.lookup i ≠ some .joining) :
    d.stage.sensor.isJoined = c.stage.sensor.isJoined := by
  cases h with
  | halt hc => exact absurd (lookup_split hn hc) (hm _ rfl)
  | sensor hs =>
      obtain ⟨sensor, effects, hstep, rfl⟩ := Stage.sensorStep_of_sensorStep? hs
      rw [Stage.performAll_sensor]
      cases hstep <;> rfl
  | perform | unwind | clear | report | closeEffect => rw [Stage.perform_sensor]
  | _ => rfl

/-- Nobody has told the camera to stop. -/
structure Running (c : Camera Simulated) : Prop where
  isStopping : c.isStopping = false
  isJoined : c.stage.sensor.isJoined = false
  calls : ∀ p ∈ c.calls, p.2.kind ≠ .stop

theorem Transition.running (hn : c.Numbered) (h : Transition Simulated.engine c m d)
    (hm : m.opens? ≠ some .stop) (hr : c.Running) : d.Running := by
  refine ⟨(h.isStopping_eq hm).trans hr.isStopping, ?_, h.kind_ne hm hr.calls⟩
  refine (h.isJoined_eq hn fun i _ hi => ?_).trans hr.isJoined
  exact hr.calls _ (mem_of_lookup hi) rfl

/-- A stop waits for the worker, then for the sensor's thread, and empties the
slot. -/
structure Stopping (call : Nat) (c : Camera Simulated) : Prop where
  only : ∀ p ∈ c.calls, p.1 = call
  phase : c.calls.lookup call = some .joining ∧ c.stage.sensor.isJoined = false ∨
    c.calls.lookup call = some (.halting true) ∧ c.worker = .ended ∨ c.Ended

theorem Running.stopping (hr : c.Running) (h : Transition Simulated.engine c .stop d) :
    d.Stopping c.opened := by
  cases h with
  | stopAgain _ hs => cases hr.isStopping.symm.trans hs
  | stop hc =>
      refine ⟨fun p hp => ?_, Or.inl ⟨?_, hr.isJoined⟩⟩
      · rw [begin, hc, List.nil_append, List.mem_singleton] at hp
        rw [hp]
      · simp [begin, hc]

theorem step?_of_halting (hi : c.calls.lookup call = some (.halting true))
    (hm : m.call? = some call) (h : c.step? Simulated.engine m = some d) :
    c.stage.sensor.thread = .ended ∧ d = c.closeSensor Simulated.engine call := by
  cases m with
  | advance j =>
      obtain rfl : j = call := Option.some.inj hm
      simp only [step?, callStep?, hi, Option.ite_none_left_eq_some, Option.some.injEq] at h
      obtain ⟨hhalted, rfl⟩ := h
      refine ⟨?_, rfl⟩
      simpa [Simulated.engine] using hhalted
  | expire j =>
      obtain rfl : j = call := Option.some.inj hm
      simp [step?, expire?, hi] at h
  | _ => cases hm

theorem Stopping.step (hc : Reachable Simulated.engine { period } c)
    (h : c.step? Simulated.engine m = some d) (hm : m.opens? = none) (hs : c.Stopping call) :
    d.Stopping call := by
  have hstep := hc.transition h
  have hn := hc.orderly.toNumbered
  refine ⟨hstep.only_call hm hs.only, ?_⟩
  rcases hs.phase with ⟨hi, hjoined⟩ | ⟨hi, hworker⟩ | hended
  · by_cases hcall : m.call? = some call
    · obtain ⟨hworker, rfl⟩ := step?_of_joining hi hcall h
      refine Or.inr (Or.inl ⟨?_, hworker⟩)
      have hmust : (Simulated.engine.halt c.stage.sensor).2 = true := by
        simp [Simulated.engine, Simulated.halt, hjoined]
      rw [← hmust]
      exact lookup_put hi
    · refine Or.inl ⟨(hstep.lookup_eq (hn.lt_of_lookup hi) hcall).trans hi, ?_⟩
      refine (hstep.isJoined_eq hn fun i hm' hi' => hcall ?_).trans hjoined
      exact hm'.trans (congrArg some (hs.only _ (mem_of_lookup hi')))
  · by_cases hcall : m.call? = some call
    · obtain ⟨hthread, rfl⟩ := step?_of_halting hi hcall h
      exact Or.inr (Or.inr ⟨hworker, hthread, rfl⟩)
    · exact Or.inr (Or.inl ⟨(hstep.lookup_eq (hn.lt_of_lookup hi) hcall).trans hi,
        hstep.worker_ended hworker⟩)
  · exact Or.inr (Or.inr (hstep.ended hended))

/-- Once the stop has returned, nothing is left. -/
theorem Stopping.ended {answer : Except Fault Unit} (hc : Reachable Simulated.engine { period } c)
    (hs : c.Stopping call) (ha : c.stage.answer? call = some answer) :
    c.calls = [] ∧ c.Ended := by
  have hcalls := hc.calls_eq_nil hs.only ha
  refine ⟨hcalls, ?_⟩
  rcases hs.phase with ⟨hi, -⟩ | ⟨hi, -⟩ | hended
  · cases hcalls ▸ hi
  · cases hcalls ▸ hi
  · exact hended

end

end Camera

namespace Session

variable {σ : Type} {E : Engine σ} {s t : Session σ} {sensor : σ}

/-! ## Transitions -/

inductive Transition (E : Engine σ) (s : Session σ) : Move → Session σ → Prop
  /-- an operation that is refused, or that has nothing to do -/
  | stay {m : Move} : Transition E s m s
  | configure {m : Move} {p : Pipeline} (he : s.isExclusive = true) (hb : s.isBuilt = false)
      (hid : p.id = s.pipelines.length.toUInt32) :
      Transition E s m { s with pipelines := s.pipelines ++ [p] }
  | build {m : Move} (he : s.isExclusive = true) : Transition E s m { s with isBuilt := true }
  | destroy {m : Move} {isClosing : Bool} {camera : Camera σ} (he : s.isExclusive = true)
      (hb : s.isBuilt = true) (hc : s.camera.step? E .flush = some camera) :
      Transition E s m { s with camera, phase := .destroying s.camera.opened isClosing }
  | close {m : Move} {camera : Camera σ} (he : s.isExclusive = true) (hb : s.isBuilt = false)
      (hc : s.camera.step? E .stop = some camera) :
      Transition E s m { s with camera, phase := .stopping s.camera.opened (.ok ()) }
  | destroyed {call : Nat} {answer : Except Fault Unit} (hp : s.phase = .destroying call false)
      (ha : s.camera.stage.answer? call = some answer) :
      Transition E s .proceed { s.forgetPipelines with phase := .ready }
  | closing {call : Nat} {answer : Except Fault Unit} {camera : Camera σ}
      (hp : s.phase = .destroying call true)
      (ha : s.camera.stage.answer? call = some answer)
      (hc : s.camera.step? E .stop = some camera) :
      Transition E s .proceed
        { s.forgetPipelines with camera, phase := .stopping s.camera.opened answer }
  | closed {call : Nat} {answer stopped : Except Fault Unit}
      (hp : s.phase = .stopping call answer)
      (ha : s.camera.stage.answer? call = some stopped) :
      Transition E s .proceed { s with phase := .closed (closeAnswer answer stopped) }
  | submit {frame : UInt32} {requests : List CaptureRequest} {camera : Camera σ}
      (hr : s.isReady = true) (hb : s.isBuilt = true)
      (hc : s.camera.step? E (.submit frame requests s.pipelines) = some camera) :
      Transition E s (.submit frame requests) { s with camera }
  | flush {camera : Camera σ} (hr : s.isReady = true)
      (hc : s.camera.step? E .flush = some camera) :
      Transition E s .flush { s with camera }
  | inner {m : Move} {n : Camera.Move} {camera : Camera σ} (hn : n.opens? = none)
      (hc : s.camera.step? E n = some camera) : Transition E s m { s with camera }

theorem transition_of_beginDestroy? {m : Move} {isClosing : Bool} (he : s.isExclusive = true)
    (h : s.beginDestroy? E isClosing = some t) : Transition E s m t := by
  unfold beginDestroy? at h
  split at h
  case isTrue hb =>
      obtain ⟨u, hu, rfl⟩ := Option.map_eq_some_iff.mp h
      obtain ⟨camera, hc, rfl⟩ := Option.map_eq_some_iff.mp hu
      exact .destroy he hb hc
  case isFalse hb =>
      split at h
      · obtain ⟨u, hu, rfl⟩ := Option.map_eq_some_iff.mp h
        obtain ⟨camera, hc, rfl⟩ := Option.map_eq_some_iff.mp hu
        exact .close he (by simpa using hb) hc
      · obtain rfl := Option.some.inj h
        exact .stay

theorem transition_of_proceed? (h : s.proceed? E = some t) : Transition E s .proceed t := by
  unfold proceed? at h
  split at h
  case h_1 call isClosing hp =>
      split at h
      · cases h
      case h_2 answer ha =>
          cases isClosing with
          | false =>
              obtain rfl := Option.some.inj h
              exact .destroyed hp ha
          | true =>
              obtain ⟨u, hu, rfl⟩ := Option.map_eq_some_iff.mp h
              obtain ⟨camera, hc, rfl⟩ := Option.map_eq_some_iff.mp hu
              exact .closing hp ha hc
  case h_2 call destroyed hp =>
      obtain ⟨stopped, ha, rfl⟩ := Option.map_eq_some_iff.mp h
      exact .closed hp ha
  case h_3 => cases h
  case h_4 => cases h

theorem transition_of_configure {m : Move} {camera : UInt32} {listener : Listener}
    {streams : List Stream} (he : s.isExclusive = true) :
    Transition E s m (s.orSame ((s.configure camera listener streams).map (·.2))) := by
  unfold configure
  split
  · exact .stay
  case isFalse hb =>
      cases hstreams : pipelineStreams streams with
      | error fault => exact .stay
      | ok streams => exact .configure he (by simpa using hb) rfl

theorem transition_of_build {m : Move} (he : s.isExclusive = true) :
    Transition E s m (s.orSame s.build) := by
  unfold build
  split
  · exact .stay
  · split
    · exact .stay
    · exact .build he

theorem transition_of_step? {m : Move} (h : s.step? E m = some t) : Transition E s m t := by
  cases m with
  | configure camera listener streams =>
      simp only [step?, Option.ite_none_right_eq_some, Option.some.injEq] at h
      obtain ⟨he, rfl⟩ := h
      exact transition_of_configure he
  | build =>
      simp only [step?, Option.ite_none_right_eq_some, Option.some.injEq] at h
      obtain ⟨he, rfl⟩ := h
      exact transition_of_build he
  | destroy | close =>
      simp only [step?, Option.ite_none_right_eq_some] at h
      exact transition_of_beginDestroy? h.1 h.2
  | proceed => exact transition_of_proceed? h
  | submit frame requests =>
      simp only [step?, Option.ite_none_right_eq_some] at h
      obtain ⟨hr, h⟩ := h
      unfold checkBuilt at h
      cases hb : s.isBuilt with
      | false =>
          simp only [hb, Bool.false_eq_true, if_false] at h
          obtain rfl := Option.some.inj h
          exact .stay
      | true =>
          simp only [hb, if_true] at h
          obtain ⟨camera, hc, rfl⟩ := Option.map_eq_some_iff.mp h
          exact .submit hr hb hc
  | flush =>
      simp only [step?, Option.ite_none_right_eq_some] at h
      obtain ⟨camera, hc, rfl⟩ := Option.map_eq_some_iff.mp h.2
      exact .flush h.1 hc
  | advance | expire | worker | giveUp | sensor | fence =>
      simp only [step?, cameraStep?, Option.map_eq_some_iff] at h
      obtain ⟨camera, hc, rfl⟩ := h
      exact .inner rfl hc

/-! ## Reachable sessions -/

/-- The sessions that come about from one that was opened on a new camera. -/
inductive Reachable (E : Engine σ) (sensor : σ) : Session σ → Prop
  | opened {config : Config} {store : Store} {controls : Controls} {camera : Camera σ}
      {description : Characteristics} {s : Session σ}
      (hc : Camera.create config sensor store controls = .ok camera)
      (hs : create camera description = .ok s) : Reachable E sensor s
  | next {s t : Session σ} {m : Move} (hs : Reachable E sensor s)
      (h : s.step? E m = some t) : Reachable E sensor t

/-- A new session is ready and has no pipelines, and its camera is new but for
the description that it took up. -/
theorem create_eq {camera : Camera σ} {description : Characteristics}
    (h : create camera description = .ok s) :
    ∃ controls, s = { camera := { camera with controls }, characteristics := description } := by
  unfold create Camera.takeUp at h
  cases hcontrols : camera.controls.takeUp description with
  | error fault =>
      rw [hcontrols] at h
      cases h
  | ok controls =>
      rw [hcontrols] at h
      cases h
      exact ⟨controls, rfl⟩

/-- The camera moves with the session, or not at all; what is submitted to it,
with the pipelines, is what is submitted to the session. -/
theorem Transition.camera {m : Move} (h : Transition E s m t) :
    t.camera = s.camera ∨ ∃ n, s.camera.step? E n = some t.camera ∧
      ∀ frame requests table, n = .submit frame requests table →
        m = .submit frame requests ∧ table = s.pipelines := by
  cases h with
  | stay | configure | build | destroyed | closed => exact Or.inl rfl
  | destroy _ _ hc | close _ _ hc | closing _ _ hc | flush _ hc =>
      exact Or.inr ⟨_, hc, fun _ _ _ heq => by cases heq⟩
  | submit _ _ hc =>
      refine Or.inr ⟨_, hc, fun _ _ _ heq => ?_⟩
      cases heq
      exact ⟨rfl, rfl⟩
  | inner hn hc =>
      refine Or.inr ⟨_, hc, fun _ _ _ heq => ?_⟩
      rw [heq] at hn
      cases hn

theorem Reachable.camera (hs : Reachable E sensor s) : Camera.Reachable E sensor s.camera := by
  induction hs with
  | opened hc hs =>
      obtain ⟨controls, rfl⟩ := create_eq hs
      exact .created (Camera.create_withControls hc controls)
  | next _ h ih =>
      rcases (transition_of_step? h).camera with heq | ⟨n, hc, -⟩
      · exact heq ▸ ih
      · exact ih.next hc

end Session

/-! ## Closed sessions -/

namespace Session

open Sensor (Simulated)

variable {s t : Session Simulated} {period : Nat}

/-- What every reachable session satisfies, by its phase.  Nothing is in the
queue unless pipelines are built, and a camera that stops is quiet. -/
inductive Orderly (s : Session Simulated) : Prop
  | ready (hp : s.phase = .ready) (hr : s.camera.Running)
      (hq : s.isBuilt = false → s.camera.Quiet)
  | destroying {call : Nat} {isClosing : Bool} (hp : s.phase = .destroying call isClosing)
      (hr : s.camera.Running) (hd : s.camera.Destroying call)
  | stopping {call : Nat} {destroyed : Except Fault Unit}
      (hp : s.phase = .stopping call destroyed) (hq : s.camera.Quiet)
      (hs : s.camera.Stopping call)
  | closed {answer : Except Fault Unit} (hp : s.phase = .closed answer) (hq : s.camera.Quiet)
      (hc : s.camera.calls = []) (he : s.camera.Ended)

theorem Orderly.of_isReady (ho : s.Orderly) (h : s.isReady = true) :
    s.phase = .ready ∧ s.camera.Running ∧ (s.isBuilt = false → s.camera.Quiet) := by
  cases ho with
  | ready hp hr hq => exact ⟨hp, hr, hq⟩
  | destroying hp | stopping hp | closed hp =>
      rw [isReady, hp] at h
      cases h

theorem Orderly.of_isExclusive (ho : s.Orderly) (h : s.isExclusive = true) :
    (s.phase = .ready ∧ s.camera.Running ∧ (s.isBuilt = false → s.camera.Quiet)) ∧
      s.camera.calls = [] := by
  rw [isExclusive, Bool.and_eq_true] at h
  exact ⟨ho.of_isReady h.1, List.isEmpty_iff.mp h.2⟩

theorem Orderly.step {m : Move} (hs : Reachable Simulated.engine { period } s)
    (h : Transition Simulated.engine s m t) (ho : s.Orderly) : t.Orderly := by
  have hc := hs.camera
  have hn := hc.orderly.toNumbered
  cases h with
  | stay => exact ho
  | configure he =>
      obtain ⟨⟨hp, hr, hq⟩, -⟩ := ho.of_isExclusive he
      exact .ready hp hr hq
  | build he =>
      obtain ⟨⟨hp, hr, -⟩, -⟩ := ho.of_isExclusive he
      exact .ready hp hr fun hb => by cases hb
  | destroy he hb hstep =>
      obtain ⟨⟨-, hr, -⟩, hcalls⟩ := ho.of_isExclusive he
      have htrans := hc.transition hstep
      exact .destroying rfl (htrans.running hn (by simp [Camera.Move.opens?]) hr)
        (Camera.destroying_of_flush hcalls htrans)
  | close he hb hstep =>
      obtain ⟨⟨-, hr, hq⟩, -⟩ := ho.of_isExclusive he
      have htrans := hc.transition hstep
      exact .stopping rfl (htrans.quiet (by simp [Camera.Move.opens?]) (hq hb))
        (hr.stopping htrans)
  | destroyed hp ha =>
      cases ho with
      | destroying hp' hr hd =>
          obtain ⟨rfl, -⟩ := SessionPhase.destroying.inj (hp.symm.trans hp')
          exact .ready rfl hr fun _ => hd.quiet hc ha
      | ready hp' | stopping hp' | closed hp' => cases hp.symm.trans hp'
  | closing hp ha hstep =>
      have htrans := hc.transition hstep
      cases ho with
      | destroying hp' hr hd =>
          obtain ⟨rfl, -⟩ := SessionPhase.destroying.inj (hp.symm.trans hp')
          exact .stopping rfl (htrans.quiet (by simp [Camera.Move.opens?]) (hd.quiet hc ha))
            (hr.stopping htrans)
      | ready hp' | stopping hp' | closed hp' => cases hp.symm.trans hp'
  | closed hp ha =>
      cases ho with
      | stopping hp' hq hs' =>
          obtain ⟨rfl, -⟩ := SessionPhase.stopping.inj (hp.symm.trans hp')
          obtain ⟨hcalls, he⟩ := hs'.ended hc ha
          exact .closed rfl hq hcalls he
      | ready hp' | destroying hp' | closed hp' => cases hp.symm.trans hp'
  | submit hready hb hstep =>
      obtain ⟨hp, hr, -⟩ := ho.of_isReady hready
      exact .ready hp ((hc.transition hstep).running hn (by simp [Camera.Move.opens?]) hr)
        fun hb' => by cases hb.symm.trans hb'
  | flush hready hstep =>
      obtain ⟨hp, hr, hq⟩ := ho.of_isReady hready
      have htrans := hc.transition hstep
      exact .ready hp (htrans.running hn (by simp [Camera.Move.opens?]) hr)
        fun hb => htrans.quiet (by simp [Camera.Move.opens?]) (hq hb)
  | inner hm hstep =>
      have htrans := hc.transition hstep
      cases ho with
      | ready hp hr hq =>
          exact .ready hp (htrans.running hn (by simp [hm]) hr)
            fun hb => htrans.quiet (by simp [hm]) (hq hb)
      | destroying hp hr hd =>
          exact .destroying hp (htrans.running hn (by simp [hm]) hr) (hd.step hc hstep hm)
      | stopping hp hq hs' =>
          exact .stopping hp (htrans.quiet (by simp [hm]) hq) (hs'.step hc hstep hm)
      | closed hp hq hcalls he =>
          exact .closed hp (htrans.quiet (by simp [hm]) hq) (htrans.calls_eq_nil hm hcalls)
            (htrans.ended he)

theorem Reachable.orderly (hs : Reachable Simulated.engine { period } s) : s.Orderly := by
  induction hs with
  | opened hc hs =>
      obtain ⟨controls, rfl⟩ := create_eq hs
      obtain rfl := Camera.create_eq hc
      exact .ready rfl ⟨rfl, rfl, by simp⟩ fun _ => ⟨rfl, by simp⟩
  | next hs h ih => exact ih.step hs (transition_of_step? h)

/-- In a closed session nothing is left: no call, no request in the queue or
with the worker, no frame in the slot or in the middle of its capture. -/
theorem Reachable.closed {answer : Except Fault Unit}
    (hs : Reachable Simulated.engine { period } s) (hp : s.phase = .closed answer) :
    s.camera.calls = [] ∧ s.camera.queue = [] ∧ s.camera.Ended := by
  cases hs.orderly with
  | closed _ hq hc he => exact ⟨hc, hq.queue, he⟩
  | ready hp' | destroying hp' | stopping hp' => cases hp.symm.trans hp'

end Session

end VirtualCamera
