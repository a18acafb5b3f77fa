import VirtualCamera.Camera.Schedule
import VirtualCamera.Proofs.Closing
import VirtualCamera.Proofs.Loops

/-!
# The worker as a thread that is stopped

The worker of a camera is a thread: one that makes its state without fail, and
whose ticks never ask to exit.  Every move of the camera is a move of this
thread or leaves it alone (`Transition.runsLoop`), where a stop of the camera
stops the thread, and goes on to the sensor when it has joined it.  So the laws
of threads hold of the worker.

The one that matters for a stop is that no tick is running once a stop has
joined the thread.  Then the worker has ended before the sensor is shut down,
and nothing of what only the worker does comes after (`Transition.silent`).
-/

namespace VirtualCamera

/-! ## Where the thread is -/

namespace Worker

/-- Whether the worker is in a tick. -/
def isTicking : Worker → Bool
  | checking | ready | ended => false
  | resolving _ | awaitingOutputs .. | recording .. | awaitingInputs .. | finishing ..
  | unwinding _ | unpaced | pacing _ => true

/-- The worker, with the settings that repeat, is in this phase of its thread.
The tick begins when the worker looks into the queue. -/
inductive IsIn : Worker → Option CaptureSettings → LoopPhase (Option CaptureSettings) → Prop
  | checking {s : Option CaptureSettings} : IsIn .checking s (.checking s)
  | ready {s : Option CaptureSettings} : IsIn .ready s (.cleared s)
  | ticking {w : Worker} {s before : Option CaptureSettings} (hw : w.isTicking = true) :
      IsIn w s (.ticking before)
  | ended {s : Option CaptureSettings} {last : Option (Option CaptureSettings)} :
      IsIn .ended s (.ended last)

theorem IsIn.checking_eq {s : Option CaptureSettings} {p : LoopPhase (Option CaptureSettings)}
    (h : IsIn .checking s p) : p = .checking s := by
  cases h with
  | checking => rfl
  | ticking hw => cases hw

theorem IsIn.ready_eq {s : Option CaptureSettings} {p : LoopPhase (Option CaptureSettings)}
    (h : IsIn .ready s p) : p = .cleared s := by
  cases h with
  | ready => rfl
  | ticking hw => cases hw

theorem IsIn.exists_ended {s : Option CaptureSettings} {p : LoopPhase (Option CaptureSettings)}
    (h : IsIn .ended s p) : ∃ last, p = .ended last := by
  cases h with
  | ticking hw => cases hw
  | ended => exact ⟨_, rfl⟩

theorem IsIn.eq_ended {w : Worker} {s : Option CaptureSettings}
    {last : Option (Option CaptureSettings)} (h : w.IsIn s (.ended last)) : w = .ended := by
  cases h
  rfl

theorem IsIn.exists_ticking {w : Worker} {s : Option CaptureSettings}
    {p : LoopPhase (Option CaptureSettings)} (h : w.IsIn s p) (hw : w.isTicking = true) :
    ∃ before, p = .ticking before := by
  cases h with
  | ticking => exact ⟨_, rfl⟩
  | checking | ready | ended => cases hw

end Worker

namespace Camera

variable {σ : Type} {E : Engine σ} {sensor : σ} {c d e : Camera σ} {m : Move} {i : Nat}
  {l : Loop (Option CaptureSettings)}

/-! ## Stops -/

/-- An open stop is the only open call, and the camera is stopping. -/
def StopsAlone (c : Camera σ) : Prop :=
  ∀ p ∈ c.calls, p.2.kind = .stop → c.calls = [p] ∧ c.isStopping = true

theorem kind_ne_stop (h : c.calls.any (·.2.isStop) = false) : ∀ p ∈ c.calls, p.2.kind ≠ .stop := by
  intro p hp hkind
  have hstop : p.2.isStop = false := by simpa using List.any_eq_false.mp h p hp
  cases hcall : p.2 <;> rw [hcall] at hstop hkind <;> cases hstop <;> cases hkind

theorem split_eq_singleton {left right : List (Nat × Call)} {p q : Nat × Call}
    (h : left ++ p :: right = [q]) : left = [] ∧ right = [] ∧ p = q := by
  rcases List.append_eq_singleton_iff.mp h with ⟨rfl, hright⟩ | ⟨-, hright⟩
  · cases hright
    exact ⟨rfl, rfl, rfl⟩
  · cases hright

theorem CallsStep.stopsAlone (h : CallsStep c m d) (hm : m.opens? = none)
    (hs : d.isStopping = c.isStopping) (hc : c.StopsAlone) : d.StopsAlone := by
  intro p hp hkind
  rw [hs]
  cases h with
  | still hd =>
      rw [hd] at hp ⊢
      exact hc p hp hkind
  | answered _ hd => cases hd ▸ hp
  | goesOn _ hcalls hd hsame =>
      rw [hd, mem_split] at hp
      rcases hp with rfl | hp
      · obtain ⟨honly, hstopping⟩ :=
          hc _ (hcalls ▸ mem_split.mpr (Or.inl rfl)) (hsame.symm.trans hkind)
        obtain ⟨rfl, rfl, -⟩ := split_eq_singleton (hcalls.symm.trans honly)
        exact ⟨hd, hstopping⟩
      · obtain ⟨honly, -⟩ := hc p (hcalls ▸ mem_split.mpr (Or.inr hp)) hkind
        obtain ⟨rfl, rfl, -⟩ := split_eq_singleton (hcalls.symm.trans honly)
        cases hp
  | returns _ hcalls hd =>
      rw [hd] at hp
      obtain ⟨honly, -⟩ := hc p (hcalls ▸ mem_split.mpr (Or.inr hp)) hkind
      obtain ⟨rfl, rfl, -⟩ := split_eq_singleton (hcalls.symm.trans honly)
      cases hp
  | begins hopens => cases hm.symm.trans hopens

theorem Transition.stopsAlone (h : Transition E c m d) (hc : c.StopsAlone) : d.StopsAlone := by
  have hcalls := h.callsStep
  cases h with
  | submit hno | flush hno =>
      intro p hp hkind
      rcases List.mem_append.mp hp with hp | hp
      · exact absurd hkind (kind_ne_stop hno p hp)
      · cases List.mem_singleton.mp hp
        cases hkind
  | stop hnone =>
      intro p hp _
      rw [begin, hnone, List.nil_append, List.mem_singleton] at hp
      subst hp
      exact ⟨by rw [begin, hnone, List.nil_append], rfl⟩
  | stopAgain hnone =>
      intro p hp _
      cases hnone ▸ hp
  | _ => exact hcalls.stopsAlone rfl rfl hc

theorem Reachable.stopsAlone (hc : Reachable E sensor c) : c.StopsAlone :=
  hc.induct (fun _ _ _ => nofun) fun _ h ih => h.stopsAlone ih

/-! ## Moves of the thread -/

/-- The thread of a worker makes its state without fail, and no tick asks to
exit. -/
def workerLaw : LoopLaw (Option CaptureSettings) where
  makes made := made = .ok none
  ticks _ _ how := how ≠ .exit

/-- Who has the handle of the worker: a stop takes it, joins the thread, and
goes on to the sensor. -/
def workerHandle (c : Camera σ) : LoopHandle :=
  if c.isStopping then if c.isJoined then .awaited else .joined else .kept

/-- The worker of a camera is this thread. -/
structure RunsLoop (c : Camera σ) (l : Loop (Option CaptureSettings)) : Prop where
  phase : c.worker.IsIn c.repeating l.phase
  isStopping : l.isStopping = c.isStopping
  handle : l.handle = c.workerHandle

theorem RunsLoop.congr (hf : c.RunsLoop l) (hworker : d.worker.IsIn d.repeating l.phase)
    (hs : d.isStopping = c.isStopping) (hj : d.isJoined = c.isJoined) : d.RunsLoop l :=
  ⟨hworker, hf.isStopping.trans hs.symm, by rw [hf.handle, workerHandle, workerHandle, hs, hj]⟩

/-- The thread stays in its tick. -/
theorem RunsLoop.ticking (hf : c.RunsLoop l) (hc : c.worker.isTicking = true)
    (hd : d.worker.isTicking = true) (hs : d.isStopping = c.isStopping)
    (hj : d.isJoined = c.isJoined) : d.RunsLoop l := by
  obtain ⟨before, hphase⟩ := hf.phase.exists_ticking hc
  refine hf.congr ?_ hs hj
  rw [hphase]
  exact .ticking hd

theorem isJoined_of_split {left right : List (Nat × Call)} {old new : Call}
    (hc : c.calls = left ++ (i, old) :: right) (hd : d.calls = left ++ (i, new) :: right)
    (hold : old ≠ .joining) (hnew : new ≠ .joining) : d.isJoined = c.isJoined := by
  rw [isJoined, isJoined, hc, hd]
  cases old <;> cases new <;> simp_all

theorem isJoined_of_remove {left right : List (Nat × Call)} {old : Call}
    (hc : c.calls = left ++ (i, old) :: right) (hd : d.calls = left ++ right)
    (hold : old ≠ .joining) : d.isJoined = c.isJoined := by
  rw [isJoined, isJoined, hc, hd]
  cases old <;> simp_all

theorem isJoined_begin {call : Call} (h : call ≠ .joining) :
    (c.begin call).isJoined = c.isJoined := by
  rw [isJoined, isJoined, begin]
  cases call <;> simp_all

theorem isTicking_outputsAwaited (a : Admission)
    (resolved : Option (CaptureSettings × SensorSettings)) (ready : List Mapping) :
    (outputsAwaited a resolved ready).isTicking = true := by
  rcases outputsAwaited_cases a resolved ready with ⟨settings, x, heq, -⟩ | heq <;> rw [heq] <;> rfl

/-- When the worker looks at the flag, the thread does. -/
theorem RunsLoop.check (hf : c.RunsLoop l) (hw : c.worker = .checking) :
    ∃ l', Loop.Transition workerLaw l .thread l' ∧
      RunsLoop { c with worker := if c.isStopping then .ended else .ready } l' := by
  have hphase := (hw ▸ hf.phase).checking_eq
  by_cases hs : c.isStopping = true
  · refine ⟨_, .leave hphase (hf.isStopping.trans hs), ?_, hf.isStopping, hf.handle⟩
    rw [if_pos hs]
    exact .ended
  · have hrunning : l.isStopping = false := hf.isStopping.trans (Bool.eq_false_iff.mpr hs)
    refine ⟨_, .pass hphase hrunning, ?_, hf.isStopping, hf.handle⟩
    rw [if_neg hs]
    exact .ready

/-- When the worker looks into the queue, the thread begins a tick. -/
theorem RunsLoop.beginTick (hf : c.RunsLoop l) (hw : c.worker = .ready)
    (hd : d.worker.isTicking = true) (hs : d.isStopping = c.isStopping)
    (hj : d.isJoined = c.isJoined) :
    ∃ l', Loop.Transition workerLaw l .thread l' ∧ d.RunsLoop l' := by
  refine ⟨_, .beginTick (hw ▸ hf.phase).ready_eq, .ticking hd, hf.isStopping.trans hs.symm, ?_⟩
  rw [workerHandle, hs, hj]
  exact hf.handle

/-- When the worker has waited for the sensor, the tick of the thread ends. -/
theorem RunsLoop.paced (hf : c.RunsLoop l) (hw : c.worker.isTicking = true) (ticked : Bool) :
    ∃ l', Loop.Transition workerLaw l .thread l' ∧ (c.paced ticked).RunsLoop l' := by
  obtain ⟨before, hphase⟩ := hf.phase.exists_ticking hw
  have htick : workerLaw.ticks before c.repeating .goOn := nofun
  exact ⟨_, .goOn hphase htick, .checking, hf.isStopping, hf.handle⟩

/-- When the worker has given back the buffers after a crash, the thread has
crashed. -/
theorem RunsLoop.unwound (hf : c.RunsLoop l) (hw : c.worker.isTicking = true) :
    ∃ l', Loop.Transition workerLaw l .thread l' ∧ RunsLoop { c with worker := .ended } l' := by
  obtain ⟨before, hphase⟩ := hf.phase.exists_ticking hw
  have htick : workerLaw.ticks before c.repeating .crash := nofun
  exact ⟨_, .last hphase htick nofun, .ended, hf.isStopping, hf.handle⟩

/-- A stop of the camera stops the thread. -/
theorem RunsLoop.stop (hf : c.RunsLoop l) (hs : c.isStopping = false) :
    ∃ l', Loop.Transition workerLaw l .stop l' ∧
      RunsLoop ({ c with isStopping := true }.begin .joining) l' := by
  have hkept : l.handle = .kept := by
    rw [hf.handle, workerHandle, hs]
    rfl
  refine ⟨_, .stop hkept, hf.phase, rfl, ?_⟩
  simp [workerHandle, isJoined, begin]

/-- Before it goes on to the sensor, a stop joins the thread. -/
theorem RunsLoop.join (hf : c.RunsLoop l) (ha : c.StopsAlone) (hi : (i, .joining) ∈ c.calls)
    (hw : c.worker = .ended) (hworker : d.worker = .ended) (hs : d.isStopping = c.isStopping)
    (hj : d.isJoined = false) :
    ∃ l', Loop.Transition workerLaw l .join l' ∧ d.RunsLoop l' := by
  obtain ⟨honly, hstopping⟩ := ha _ hi rfl
  have hawaited : l.handle = .awaited := by
    rw [hf.handle, workerHandle, hstopping, isJoined, honly]
    rfl
  obtain ⟨last, hphase⟩ := (hw ▸ hf.phase).exists_ended
  refine ⟨_, .join hawaited (Loop.hasEnded_iff.mpr ⟨last, hphase⟩), ?_, ?_, ?_⟩
  · show d.worker.IsIn d.repeating l.phase
    rw [hworker, hphase]
    exact .ended
  · exact hf.isStopping.trans hs.symm
  · rw [workerHandle, hs, hstopping, hj]
    rfl

/-- A move of the camera is a move of the worker's thread or leaves it alone. -/
theorem Transition.runsLoop (ha : c.StopsAlone) (h : Transition E c m d) (hf : c.RunsLoop l) :
    d.RunsLoop l ∨ ∃ k l', Loop.Transition workerLaw l k l' ∧ d.RunsLoop l' := by
  cases h with
  -- the worker
  | check hw => exact Or.inr ⟨_, hf.check hw⟩
  | idle hw | take hw => exact Or.inr ⟨_, hf.beginTick hw rfl rfl rfl⟩
  | skipPacing hw | pace hw | giveUp hw => exact Or.inr ⟨_, hf.paced (by rw [hw]; rfl) _⟩
  | unwound hw => exact Or.inr ⟨_, hf.unwound (by rw [hw]; rfl)⟩
  | resolve hw | crash hw | awaitOutput hw | record hw | awaitInput hw | handOver hw | perform hw
  | finished hw | unwind hw | beginPacing hw =>
      exact Or.inl (hf.ticking (by rw [hw]; rfl) rfl rfl rfl)
  | outputsAwaited hw =>
      exact Or.inl (hf.ticking (by rw [hw]; rfl) (isTicking_outputsAwaited ..) rfl rfl)
  -- stops
  | stop _ hs => exact Or.inr ⟨_, hf.stop hs⟩
  | @halt left right i hcalls hworking =>
      have hi : (i, .joining) ∈ c.calls := hcalls ▸ mem_split.mpr (Or.inl rfl)
      have hw : c.worker = .ended := ended_of_not_isWorking hworking
      obtain ⟨rfl, rfl, -⟩ := split_eq_singleton (hcalls.symm.trans (ha _ hi rfl).1)
      exact Or.inr ⟨_, hf.join ha hi hw hw rfl rfl⟩
  -- everything else leaves the worker alone
  | submit | flush => exact Or.inl (hf.congr hf.phase rfl (isJoined_begin nofun))
  | enter hcalls | park hcalls | admitOne hcalls | flushSensor hcalls | clear hcalls
  | drain hcalls | report hcalls | close hcalls | closeEffect hcalls =>
      exact Or.inl (hf.congr hf.phase rfl (isJoined_of_split hcalls rfl nofun nofun))
  | submitted hcalls | refuse hcalls | abort hcalls | expire hcalls | flushed hcalls
  | stopped hcalls =>
      exact Or.inl (hf.congr hf.phase rfl (isJoined_of_remove hcalls rfl nofun))
  | stopAgain | sensor | fence => exact Or.inl (hf.congr hf.phase rfl rfl)

/-- Every reachable camera's worker is a thread that came about from a new one. -/
theorem Reachable.exists_runsLoop (hc : Reachable E sensor c) :
    ∃ l, Loop.Reachable workerLaw l ∧ c.RunsLoop l := by
  induction hc with
  | created h =>
      obtain rfl := create_eq h
      have hmade : workerLaw.makes (.ok none) := rfl
      exact ⟨_, Loop.Reachable.created.next (.make rfl hmade), .checking, rfl, rfl⟩
  | next hc h ih =>
      obtain ⟨l, hl, hf⟩ := ih
      rcases (hc.transition h).runsLoop hc.stopsAlone hf with hf' | ⟨k, l', hmove, hf'⟩
      · exact ⟨l, hl, hf'⟩
      · exact ⟨l', hl.next hmove, hf'⟩

/-! ## After the join -/

/-- A stop has joined the thread of the worker. -/
def IsParted (c : Camera σ) : Prop :=
  ∃ l, Loop.Reachable workerLaw l ∧ c.RunsLoop l ∧ l.handle = .joined

theorem IsParted.worker (h : c.IsParted) : c.worker = .ended := by
  obtain ⟨l, hl, hf, hjoined⟩ := h
  obtain ⟨last, hphase⟩ := Loop.hasEnded_iff.mp (hl.hasEnded_of_joined hjoined)
  exact (hphase ▸ hf.phase).eq_ended

theorem IsParted.step (hp : c.IsParted) (ha : c.StopsAlone) (h : Transition E c m d) :
    d.IsParted := by
  obtain ⟨l, hl, hf, hjoined⟩ := hp
  rcases h.runsLoop ha hf with hf' | ⟨k, l', hmove, hf'⟩
  · exact ⟨l, hl, hf', hjoined⟩
  · exact ⟨l', hl.next hmove, hf', hmove.handle_eq_joined hjoined⟩

/-- A stop that goes on to the sensor has joined the thread. -/
theorem isParted_of_halt (hc : Reachable E sensor c) (hi : c.calls.lookup i = some .joining)
    (h : c.step? E (.advance i) = some d) : d.IsParted := by
  obtain ⟨l, hl, hf⟩ := (hc.next h).exists_runsLoop
  refine ⟨l, hl, hf, ?_⟩
  obtain ⟨honly, hstopping⟩ := hc.stopsAlone _ (mem_of_lookup hi) rfl
  obtain ⟨-, rfl⟩ := step?_of_joining hi rfl h
  rw [hf.handle]
  simp [workerHandle, isJoined, haltSensor, put, honly, hstopping]

end Camera

/-! ## What only the worker does -/

/-- Whether nobody but the worker does this. -/
def Occurrence.isByWorker : Occurrence → Bool
  | popped _ | resolved .. | crashed _ | waited .. | handedOver .. => true
  | told .processor _ (.error _ .result _ _) => true
  | paced call _ => call = none
  | _ => false

namespace Camera

open Sensor (Recorder)

variable {σ : Type} {E : Engine σ} {sensor : σ} {c d e : Camera σ} {m : Move} {i : Nat}

def Move.isByWorker : Move → Bool
  | worker | giveUp => true
  | submit .. | flush | stop | advance _ | expire _ | .sensor | fence .. => false

/-- From `c` to `d` the worker did nothing. -/
structure Silent (c : Camera σ) (moves : List Move) (d : Camera σ) : Prop where
  moves : ∀ m ∈ moves, m.isByWorker = false
  record : ∃ new, d.stage.record = new ++ c.stage.record ∧ ∀ o ∈ new, o.isByWorker = false

theorem isByWorker_effect_sensor (e : Effect) : (e.occurrence .sensor).isByWorker = false := by
  cases e <;> rfl

/-- What a flush tells of a request, the worker does not. -/
theorem isByWorker_report {left right : List (Nat × Call)} {status : Except Fault Unit}
    {e : Effect} {rest : List Effect} (ht : c.ledger.Truthful)
    (hcalls : c.calls = left ++ (i, .reporting status (e :: rest)) :: right) :
    (e.occurrence .processor).isByWorker = false := by
  cases e with
  | paint | release => rfl
  | tell tag event =>
      have hreport : (tag, event) ∈ c.ledger.reports := by
        show (tag, event) ∈ c.calls.flatMap (·.2.notices)
        simp [hcalls, Effect.notice?]
      have hevent : event = tag.failure .request := ht.reports _ hreport
      rw [hevent]
      rfl

/-- A worker that has ended does nothing. -/
theorem Transition.silent (ht : c.ledger.Truthful) (hw : c.worker = .ended)
    (h : Transition E c m d) : m.isByWorker = false ∧
      ∃ new, d.stage.record = new ++ c.stage.record ∧ ∀ o ∈ new, o.isByWorker = false := by
  cases h with
  | check hw' | idle hw' | take hw' | resolve hw' | crash hw' | outputsAwaited hw'
  | awaitOutput hw' | record hw' | awaitInput hw' | handOver hw' | perform hw' | finished hw'
  | unwind hw' | unwound hw' | beginPacing hw' | skipPacing hw' | pace hw' | giveUp hw' =>
      cases hw.symm.trans hw'
  | sensor hs =>
      obtain ⟨sensor, effects, -, rfl⟩ := Stage.sensorStep?_eq_some hs
      refine ⟨rfl, _, Stage.performAll_record .., ?_⟩
      intro o ho
      obtain ⟨e, -, rfl⟩ := List.mem_map.mp (List.mem_reverse.mp ho)
      exact isByWorker_effect_sensor e
  | clear | closeEffect =>
      refine ⟨rfl, [_], Stage.perform_record .., ?_⟩
      simp [isByWorker_effect_sensor]
  | @report left right i status e rest hcalls =>
      refine ⟨rfl, [_], Stage.perform_record .., ?_⟩
      simp [isByWorker_report ht hcalls]
  | submitted | refuse | abort | expire | admitOne | drain | flushed | stopAgain | stopped =>
      exact ⟨rfl, [_], rfl, by simp [Occurrence.isByWorker]⟩
  | _ => exact ⟨rfl, [], rfl, by simp⟩

/-- Once a stop has joined the thread, the worker does nothing any more. -/
theorem IsParted.silent {moves : List Move} (hc : Reachable E sensor c) (hp : c.IsParted)
    (h : c.run? E moves = some d) : d.IsParted ∧ c.Silent moves d := by
  induction moves generalizing c with
  | nil =>
      cases h
      exact ⟨hp, by simp, [], rfl, by simp⟩
  | cons m rest ih =>
      obtain ⟨b, hb, hd⟩ := Option.bind_eq_some_iff.mp (run?_cons ▸ h)
      have hstep := hc.transition hb
      obtain ⟨hmove, new, hnew, hquiet⟩ := hstep.silent hc.truthful hp.worker
      obtain ⟨hparted, hmoves, later, hlater, hquiet'⟩ :=
        ih (hc.next hb) (hp.step hc.stopsAlone hstep) hd
      refine ⟨hparted, List.forall_mem_cons.mpr ⟨hmove, hmoves⟩, later ++ new, ?_, ?_⟩
      · rw [hlater, hnew, List.append_assoc]
      · intro o ho
        rcases List.mem_append.mp ho with ho | ho
        · exact hquiet' o ho
        · exact hquiet o ho

/-! ## Stops wait for threads -/

/-- Whatever the ticks of a thread do, and whoever stops it meanwhile: its ticks
run one after another on the state that was made at first, none if none was
made, none after one that asked to exit or crashed, and at most one begins after
the flag was set; when a stop by another thread has returned, none is running
and none begins.

The worker is such a thread, and a stop of the camera has joined it before it
shuts the sensor down; so the worker does nothing after that. -/
theorem threads_end_before_stops_return {α : Type} {body : LoopBody α} {l : Loop α}
    {loopMoves : List Loop.Move} {moves : List Move}
    (hl : Loop.run? body {} loopMoves = some l) (hc : Reachable E sensor c)
    (hi : c.calls.lookup i = some .joining) (hd : c.step? E (.advance i) = some d)
    (he : d.run? E moves = some e) :
    l.Lawful body.law ∧ (.stopSelf ∉ loopMoves → l.QuietSince (·.isReturn)) ∧
      (∃ w, w.Lawful workerLaw ∧ w.QuietSince (·.isReturn) ∧ w.handle = .joined ∧
        e.RunsLoop w) ∧
      e.worker = .ended ∧ d.Silent moves e := by
  have hreach : Loop.Reachable body.law l := Loop.reachable_of_run? hl
  obtain ⟨hparted, hsilent⟩ := (isParted_of_halt hc hi hd).silent (hc.next hd) he
  refine ⟨hreach.lawful, ?_, ?_, hparted.worker, hsilent⟩
  · intro hmoves
    exact hreach.quietSince_stop (Loop.handle_ne_lost_of_run? hl hmoves)
  · obtain ⟨w, hw, hf, hjoined⟩ := hparted
    have hlost : w.handle ≠ .lost := by
      rw [hjoined]
      nofun
    exact ⟨w, hw.lawful, hw.quietSince_stop hlost, hjoined, hf⟩

/-- The flag of a counting thread is set between its look at it and a tick. -/
def stopBeforeTick : List Loop.Move :=
  [.thread, .thread, .stop, .thread, .thread, .thread, .join]

/-- A stop falls between the worker's look at the flag and its look into the
queue.  Of two requests it hands over one, and ends. -/
def joinedAfterHandOver : Camera Recorder :=
  Sample.after Recorder.engine {}
    (List.flatten [
      .submit 7 [Sample.preview, Sample.preview] [Sample.pipeline] ::
        List.replicate 4 (.advance 0),
      [.worker, .stop], List.replicate 8 .worker, [.giveUp, .worker]])
    (by decide +kernel)

/-- The stop returns, and a flush fails the other request. -/
def flushAfterStop : List Move :=
  [.advance 1, .advance 1, .flush, .advance 2, .advance 2, .advance 2]

/-- One tick begins after the flag was set, and the worker takes a request after
the camera was told to stop; both have ended when the stops return. -/
theorem ticks_after_flag_end_before_stops_return :
    ∃ l d e, Loop.run? (Loop.counting 5 0 .exit) {} stopBeforeTick = some l ∧
      l.record = [.stopReturned, .threadEnded, .tickEnded (1, 2) .goOn, .tickBegan (0, 0),
        .stopSet] ∧
      joinedAfterHandOver.calls.lookup 1 = some .joining ∧
      joinedAfterHandOver.outcomes = [(Sample.tag 0, .handedOver)] ∧
      joinedAfterHandOver.step? Recorder.engine (.advance 1) = some d ∧
      d.run? Recorder.engine flushAfterStop = some e ∧
      e.outcomes = [(Sample.tag 0, .handedOver),
        (Sample.tag 1, .told ((Sample.tag 1).failure .request))] ∧
      l.Lawful (Loop.counting 5 0 .exit).law ∧ l.QuietSince (·.isReturn) ∧
      e.worker = .ended ∧ d.Silent flushAfterStop e := by
  have hloop : (Loop.run? (Loop.counting 5 0 .exit) {} stopBeforeTick).map (·.record) =
      some [.stopReturned, .threadEnded, .tickEnded (1, 2) .goOn, .tickBegan (0, 0),
        .stopSet] := by
    decide +kernel
  have hrun : ((joinedAfterHandOver.step? Recorder.engine (.advance 1)).bind fun d =>
      d.run? Recorder.engine flushAfterStop).map (·.outcomes) =
      some [(Sample.tag 0, .handedOver),
        (Sample.tag 1, .told ((Sample.tag 1).failure .request))] := by
    decide +kernel
  have hjoining : joinedAfterHandOver.calls.lookup 1 = some .joining := rfl
  have hhanded : joinedAfterHandOver.outcomes = [(Sample.tag 0, .handedOver)] := by
    decide +kernel
  obtain ⟨l, hl, hrecord⟩ := Option.map_eq_some_iff.mp hloop
  obtain ⟨e, he, houtcomes⟩ := Option.map_eq_some_iff.mp hrun
  obtain ⟨d, hd, he⟩ := Option.bind_eq_some_iff.mp he
  obtain ⟨hlawful, hquiet, -, hworker, hsilent⟩ :=
    threads_end_before_stops_return hl Sample.reachable_after hjoining hd he
  exact ⟨l, d, e, hl, hrecord, hjoining, hhanded, hd, he, houtcomes, hlawful,
    hquiet (by decide), hworker, hsilent⟩

end Camera

end VirtualCamera
