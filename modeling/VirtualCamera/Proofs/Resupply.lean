import VirtualCamera.Proofs.Admission
import VirtualCamera.Proofs.CarriedSettings

/-!
# Runs with other settings

A run is repeated with other settings for its requests: `f` says which ones for
the admission that a request becomes.  As long as the settings that apply to the
requests that the worker takes stay the same (`Camera.Supplies`), so does all else.
The settings of requests that a flush takes do not matter at all.  One such choice
makes the settings explicit that are carried forward (`Camera.explicitSettings`).

The camera of the second run is that of the first with other settings
everywhere (`Camera.resupplied`): in the queue, in the worker, in the record, and
in what the open submissions have left.  A submission has requests, not
admissions; the settings of a request are those for the admission that it becomes
later in the first run (`Camera.ahead`).  Each transition of the first run is one of
the second (`Transition.resupplied`), and by `Transition.step?_eq` the moves of the
first run lead to it.
-/

namespace VirtualCamera

/-! ## Other settings -/

def Admission.resupplied (f : Admission → Option CaptureSettings) (a : Admission) : Admission :=
  { a with settings := f a }

/-- Requests with the settings that `f` gives to the admissions `as` which they
become.  The requests beyond those keep their own. -/
def supply (f : Admission → Option CaptureSettings) :
    List Admission → List CaptureRequest → List CaptureRequest
  | a :: as, r :: rs => { r with settings := f a } :: supply f as rs
  | [], rs => rs
  | _ :: _, [] => []

@[simp] theorem supply_nil (f : Admission → Option CaptureSettings) (as : List Admission) :
    supply f as [] = [] := by
  cases as <;> rfl

/-- The request that comes first is the same up to its settings. -/
theorem exists_supply_cons (f : Admission → Option CaptureSettings) (as : List Admission)
    (r : CaptureRequest) (rs : List CaptureRequest) :
    ∃ settings rest, supply f as (r :: rs) = { r with settings } :: rest := by
  cases as with
  | nil => exact ⟨r.settings, rs, rfl⟩
  | cons a as => exact ⟨f a, supply f as rs, rfl⟩

namespace Worker

def resupplied (f : Admission → Option CaptureSettings) : Worker → Worker
  | resolving a => resolving (a.resupplied f)
  | awaitingOutputs a resolved kept left => awaitingOutputs (a.resupplied f) resolved kept left
  | recording a r x outputs => recording (a.resupplied f) r x outputs
  | w => w

@[simp] theorem resupplied_holdsDispatch (f : Admission → Option CaptureSettings) (w : Worker) :
    (w.resupplied f).holdsDispatch = w.holdsDispatch := by
  cases w <;> rfl

end Worker

namespace Call

/-- A call that is still going to admit `as`. -/
def resupplied (f : Admission → Option CaptureSettings) (as : List Admission) : Call → Call
  | submitting phase frame table left => submitting phase frame table (supply f as left)
  | call => call

variable (f : Admission → Option CaptureSettings) (as : List Admission) (call : Call)

@[simp] theorem resupplied_holdsDispatch :
    (call.resupplied f as).holdsDispatch = call.holdsDispatch := by
  cases call <;> rfl

@[simp] theorem resupplied_holdsQueue : (call.resupplied f as).holdsQueue = call.holdsQueue := by
  cases call with
  | submitting phase => cases phase <;> rfl
  | _ => rfl

@[simp] theorem resupplied_isStop : (call.resupplied f as).isStop = call.isStop := by
  cases call <;> rfl

end Call

def Occurrence.resupplied (f : Admission → Option CaptureSettings) : Occurrence → Occurrence
  | admitted i a => admitted i (a.resupplied f)
  | popped a => popped (a.resupplied f)
  | drained i as => drained i (as.map (·.resupplied f))
  | o => o

namespace Stage

variable {σ α : Type} {E : Engine σ} {f : Admission → Option CaptureSettings}

def resupplied (f : Admission → Option CaptureSettings) (s : Stage σ) : Stage σ :=
  { s with record := s.record.map (·.resupplied f) }

@[simp] theorem resupplied_perform (s : Stage σ) (speaker : Speaker) (e : Effect) :
    (s.perform speaker e).resupplied f = (s.resupplied f).perform speaker e := by
  cases e <;> rfl

theorem resupplied_performAll (s : Stage σ) (speaker : Speaker) (effects : List Effect) :
    (s.performAll speaker effects).resupplied f =
      (s.resupplied f).performAll speaker effects := by
  induction effects generalizing s with
  | nil => rfl
  | cons e rest ih =>
      calc (s.performAll speaker (e :: rest)).resupplied f
          = ((s.perform speaker e).resupplied f).performAll speaker rest := ih _
        _ = (s.resupplied f).performAll speaker (e :: rest) := by rw [resupplied_perform]; rfl

theorem resupplied_sensorStep? {s t : Stage σ} (h : s.sensorStep? E = some t) :
    (s.resupplied f).sensorStep? E = some (t.resupplied f) := by
  obtain ⟨sensor, effects, hnext, rfl⟩ := sensorStep?_eq_some h
  rw [resupplied_performAll]
  exact Option.map_eq_some_iff.mpr ⟨_, hnext, rfl⟩

theorem history_resupplied {g : Occurrence → Option α} {k : α → α}
    (hg : ∀ o : Occurrence, g (o.resupplied f) = (g o).map k) (s : Stage σ) :
    (s.resupplied f).history g = (s.history g).map k := by
  have hcomp : (g ∘ fun o => o.resupplied f) = fun o => (g o).map k := funext hg
  rw [history, history, resupplied, ← List.map_reverse, List.filterMap_map, hcomp,
    List.map_filterMap]

end Stage

namespace Camera

variable {σ : Type} {E : Engine σ} {c d e : Camera σ} {sensor : σ} {m : Move}
  {f : Admission → Option CaptureSettings} {plan : Nat → List Admission}

def resuppliedCalls (f : Admission → Option CaptureSettings) (plan : Nat → List Admission)
    (calls : List (Nat × Call)) : List (Nat × Call) :=
  calls.map fun p => (p.1, p.2.resupplied f (plan p.1))

/-- A camera whose requests have other settings, where each call is going to admit
what is planned for it. -/
def resupplied (f : Admission → Option CaptureSettings) (plan : Nat → List Admission)
    (c : Camera σ) : Camera σ :=
  { c with
    stage := c.stage.resupplied f
    queue := c.queue.map (·.resupplied f)
    worker := c.worker.resupplied f
    calls := resuppliedCalls f plan c.calls }

/-- A move in which a submission is going to admit `as`. -/
def Move.resupplied (f : Admission → Option CaptureSettings) (as : List Admission) : Move → Move
  | submit frame requests table => submit frame (supply f as requests) table
  | m => m

@[simp] theorem resuppliedCalls_cons {i : Nat} {call : Call} {rest : List (Nat × Call)} :
    resuppliedCalls f plan ((i, call) :: rest) =
      (i, call.resupplied f (plan i)) :: resuppliedCalls f plan rest := rfl

@[simp] theorem resuppliedCalls_append {l r : List (Nat × Call)} :
    resuppliedCalls f plan (l ++ r) = resuppliedCalls f plan l ++ resuppliedCalls f plan r :=
  List.map_append

theorem resupplied_worker {w : Worker} (hw : c.worker = w) :
    (c.resupplied f plan).worker = w.resupplied f :=
  congrArg (·.resupplied f) hw

theorem resupplied_calls (f : Admission → Option CaptureSettings) (plan : Nat → List Admission)
    {l r : List (Nat × Call)} {i : Nat} {call : Call} (hc : c.calls = l ++ (i, call) :: r) :
    (c.resupplied f plan).calls =
      resuppliedCalls f plan l ++ (i, call.resupplied f (plan i)) :: resuppliedCalls f plan r := by
  simp [resupplied, hc]

theorem resupplied_calls_eq_nil (hc : c.calls = []) : (c.resupplied f plan).calls = [] := by
  rw [resupplied, hc]
  rfl

/-! ## What does not change -/

section

variable (c : Camera σ) (f : Admission → Option CaptureSettings) (plan : Nat → List Admission)

theorem resupplied_dispatchIsFree :
    (c.resupplied f plan).dispatchIsFree = c.dispatchIsFree := by
  simp [dispatchIsFree, resupplied, resuppliedCalls, Function.comp_def]

theorem resupplied_queueIsFree : (c.resupplied f plan).queueIsFree = c.queueIsFree := by
  simp [queueIsFree, resupplied, resuppliedCalls, Function.comp_def]

theorem resupplied_isFull : (c.resupplied f plan).isFull = c.isFull := by
  simp [isFull, resupplied]

theorem resupplied_takesSlot (phase : SubmitPhase) :
    (c.resupplied f plan).TakesSlot phase ↔ c.TakesSlot phase := by
  rw [TakesSlot, resupplied_isFull]
  rfl

theorem resupplied_mayAdmit (phase : SubmitPhase) :
    (c.resupplied f plan).MayAdmit phase ↔ c.MayAdmit phase := by
  rw [MayAdmit, resupplied_queueIsFree, resupplied_takesSlot]
  rfl

theorem resupplied_mayGiveUp : (c.resupplied f plan).MayGiveUp ↔ c.MayGiveUp := by
  rw [MayGiveUp, resupplied_isFull]
  rfl

/-- Nothing that mapping a request does depends on its settings. -/
theorem resupplied_mapRequest (frame : UInt32) (p : Pipeline) (q : CaptureRequest)
    (settings : Option CaptureSettings) :
    (c.resupplied f plan).mapRequest E frame p { q with settings } =
      ((c.mapRequest E frame p q).1,
        (c.mapRequest E frame p q).2.map fun a => { a with settings }) := by
  have hstore : (c.resupplied f plan).stage.store = c.stage.store := rfl
  have hadmitted : (c.resupplied f plan).admitted = c.admitted := rfl
  simp only [mapRequest, hstore, hadmitted]
  split
  · rfl
  · split <;> rfl

theorem resupplied_isWorking : (c.resupplied f plan).isWorking = c.isWorking := by
  unfold isWorking resupplied
  cases c.worker <;> rfl

theorem resupplied_any_isStop :
    (c.resupplied f plan).calls.any (·.2.isStop) = c.calls.any (·.2.isStop) := by
  simp [resupplied, resuppliedCalls, Function.comp_def]

end

@[simp] theorem resupplied_failingAll (as : List Admission) :
    failingAll (as.map (·.resupplied f)) = failingAll as := by
  simp only [failingAll, List.map_map, List.flatMap_map]
  rfl

@[simp] theorem resupplied_outputsAwaited (a : Admission)
    (resolved : Option (CaptureSettings × SensorSettings)) (kept : List Mapping) :
    (outputsAwaited a resolved kept).resupplied f =
      outputsAwaited (a.resupplied f) resolved kept := by
  unfold outputsAwaited
  split <;> rfl

/-! ## Steps -/

theorem Transition.of_eq {d' : Camera σ} (h : Transition E c m d) (hd : d = d') :
    Transition E c m d' :=
  hd ▸ h

/-- A step that admits nothing.  The branches that a step takes do not depend on
settings, but for the one in which the worker looks at them. -/
theorem Transition.resupplied_of_quiet (h : Transition E c m d)
    (hquiet : ∀ i, d.admittedBy i = c.admittedBy i)
    (hsettings : ∀ a, c.worker = .resolving a →
      (f a).or c.repeating = a.settings.or c.repeating) :
    Transition E (c.resupplied f plan) (m.resupplied f (plan c.opened))
      (d.resupplied f plan) := by
  have hdispatch := c.resupplied_dispatchIsFree f plan
  have hqueue := c.resupplied_queueIsFree f plan
  have hnostop := c.resupplied_any_isStop f plan
  cases h with
  | check hw =>
      refine (Transition.check (resupplied_worker hw)).of_eq ?_
      unfold Camera.resupplied
      cases c.isStopping <;> rfl
  | idle hw hfree hlock hq =>
      refine .idle (resupplied_worker hw) (hdispatch.trans hfree) (hqueue.trans hlock) ?_
      simp [Camera.resupplied, hq]
  | take hw hfree hlock hq =>
      refine (Transition.take (resupplied_worker hw) (hdispatch.trans hfree)
        (hqueue.trans hlock) ?_).of_eq rfl
      simp only [Camera.resupplied, hq]
      rfl
  | @resolve a controls x hw hlock hr =>
      have hsame : (c.resupplied f plan).effectiveSettings (a.resupplied f) =
        c.effectiveSettings a := hsettings a hw
      have hr' : (c.resupplied f plan).Resolves (a.resupplied f) controls x := by
        unfold Resolves at hr ⊢
        rwa [hsame]
      have h' := Transition.resolve (E := E) (resupplied_worker hw) (hqueue.trans hlock) hr'
      rw [hsame] at h'
      exact h'
  | @crash a r controls crash hw hlock hs hr =>
      have hsame : (c.resupplied f plan).effectiveSettings (a.resupplied f) =
        c.effectiveSettings a := hsettings a hw
      have h' := Transition.crash (E := E) (resupplied_worker hw) (hqueue.trans hlock)
        (hsame.trans hs) hr
      rw [hsame] at h'
      exact h'
  | outputsAwaited hw =>
      refine (Transition.outputsAwaited (resupplied_worker hw)).of_eq ?_
      rw [← resupplied_outputsAwaited]
      rfl
  | awaitOutput hw => exact .awaitOutput (resupplied_worker hw)
  | record hw hlock =>
      exact (Transition.record (resupplied_worker hw) (hqueue.trans hlock)).of_eq rfl
  | awaitInput hw => exact .awaitInput (resupplied_worker hw)
  | handOver hw => exact .handOver (resupplied_worker hw)
  | perform hw =>
      refine (Transition.perform (resupplied_worker hw)).of_eq ?_
      simp only [Camera.resupplied, Stage.resupplied_perform]
      rfl
  | finished hw => exact .finished (resupplied_worker hw)
  | unwind hw =>
      refine (Transition.unwind (resupplied_worker hw)).of_eq ?_
      simp only [Camera.resupplied, Stage.resupplied_perform]
      rfl
  | unwound hw => exact .unwound (resupplied_worker hw)
  | beginPacing hw hm => exact .beginPacing (resupplied_worker hw) hm
  | skipPacing hw hm => exact .skipPacing (resupplied_worker hw) hm
  | pace hw ht => exact .pace (resupplied_worker hw) ht
  | giveUp hw ht => exact .giveUp (resupplied_worker hw) ht
  -- with other settings the calls split in the same place, but only up to
  -- `resuppliedCalls_append`, so the camera afterwards is equal and not the same by definition
  | submit hstop =>
      refine (Transition.submit (hnostop.trans hstop)).of_eq ?_
      simp only [Camera.resupplied, begin, resuppliedCalls_append]
      rfl
  | flush hstop =>
      refine (Transition.flush (hnostop.trans hstop)).of_eq ?_
      simp only [Camera.resupplied, begin, resuppliedCalls_append]
      rfl
  | enter hc hlock =>
      refine (Transition.enter (resupplied_calls f plan hc) (hqueue.trans hlock)).of_eq ?_
      simp only [Camera.resupplied, resuppliedCalls_append]
      rfl
  | @submitted l r i phase frame table hc hgo =>
      have hc' := resupplied_calls f plan hc
      rw [Call.resupplied, supply_nil] at hc'
      refine (Transition.submitted hc' ((c.resupplied_mayAdmit f plan phase).mpr hgo)).of_eq ?_
      simp only [Camera.resupplied, resuppliedCalls_append]
      rfl
  | @refuse l r i phase frame table q left fault hc hgo hcheck =>
      have hc' := resupplied_calls f plan hc
      obtain ⟨settings, rest, hsupply⟩ := exists_supply_cons f (plan i) q left
      rw [Call.resupplied, hsupply] at hc'
      refine (Transition.refuse hc' ((c.resupplied_mayAdmit f plan phase).mpr hgo) hcheck).of_eq ?_
      simp only [Camera.resupplied, resuppliedCalls_append]
      rfl
  | @park l r i frame table q left p hc hcheck hfull =>
      have hc' := resupplied_calls f plan hc
      obtain ⟨settings, rest, hsupply⟩ := exists_supply_cons f (plan i) q left
      rw [Call.resupplied, hsupply] at hc'
      refine (Transition.park hc' hcheck ((c.resupplied_isFull f plan).trans hfull)).of_eq ?_
      simp [Camera.resupplied, Call.resupplied, hsupply]
  | @admitOne l r i =>
      have hadmitted := hquiet i
      simp [admittedBy, Occurrence.admittedBy?] at hadmitted
  | @abort l r i phase frame table q left p store crash hc hgo hcheck hroom hmap =>
      have hc' := resupplied_calls f plan hc
      obtain ⟨settings, rest, hsupply⟩ := exists_supply_cons f (plan i) q left
      rw [Call.resupplied, hsupply] at hc'
      have hmap' := c.resupplied_mapRequest (E := E) f plan frame p q settings
      rw [hmap] at hmap'
      refine (Transition.abort hc' ((c.resupplied_mayAdmit f plan phase).mpr hgo) hcheck
        ((c.resupplied_takesSlot f plan phase).mpr hroom) hmap').of_eq ?_
      simp only [Camera.resupplied, resuppliedCalls_append]
      rfl
  | expire hc hlock hgo =>
      refine (Transition.expire (resupplied_calls f plan hc) (hqueue.trans hlock)
        ((c.resupplied_mayGiveUp f plan).mpr hgo)).of_eq ?_
      simp only [Camera.resupplied, resuppliedCalls_append]
      rfl
  | flushSensor hc hfree hlock =>
      refine (Transition.flushSensor (resupplied_calls f plan hc) (hdispatch.trans hfree)
        (hqueue.trans hlock)).of_eq ?_
      simp only [Camera.resupplied, resuppliedCalls_append]
      rfl
  | clear hc =>
      refine (Transition.clear (resupplied_calls f plan hc)).of_eq ?_
      simp only [Camera.resupplied, resuppliedCalls_append, Stage.resupplied_perform]
      rfl
  | drain hc =>
      refine (Transition.drain (resupplied_calls f plan hc)).of_eq ?_
      simp only [Camera.resupplied, resuppliedCalls_append, resupplied_failingAll]
      rfl
  | report hc =>
      refine (Transition.report (resupplied_calls f plan hc)).of_eq ?_
      simp only [Camera.resupplied, resuppliedCalls_append, Stage.resupplied_perform]
      rfl
  | flushed hc =>
      refine (Transition.flushed (resupplied_calls f plan hc)).of_eq ?_
      simp only [Camera.resupplied, resuppliedCalls_append]
      rfl
  | stopAgain hc hs => exact .stopAgain (resupplied_calls_eq_nil hc) hs
  | stop hc hs =>
      refine (Transition.stop (resupplied_calls_eq_nil hc) hs).of_eq ?_
      simp only [Camera.resupplied, begin, resuppliedCalls_append]
      rfl
  | halt hc hw =>
      refine (Transition.halt (resupplied_calls f plan hc)
        ((c.resupplied_isWorking f plan).trans hw)).of_eq ?_
      simp only [Camera.resupplied, resuppliedCalls_append]
      rfl
  | close hc hgo =>
      refine (Transition.close (resupplied_calls f plan hc) hgo).of_eq ?_
      simp only [Camera.resupplied, resuppliedCalls_append]
      rfl
  | closeEffect hc =>
      refine (Transition.closeEffect (resupplied_calls f plan hc)).of_eq ?_
      simp only [Camera.resupplied, resuppliedCalls_append, Stage.resupplied_perform]
      rfl
  | stopped hc =>
      refine (Transition.stopped (resupplied_calls f plan hc)).of_eq ?_
      simp only [Camera.resupplied, resuppliedCalls_append]
      rfl
  | sensor hs => exact .sensor (Stage.resupplied_sensorStep? hs)
  | fence => exact .fence

theorem resuppliedCalls_congr {plan' : Nat → List Admission} {calls : List (Nat × Call)}
    (h : ∀ p ∈ calls, plan p.1 = plan' p.1) :
    resuppliedCalls f plan calls = resuppliedCalls f plan' calls :=
  List.map_congr_left fun p hp => by rw [h p hp]

/-- A request is admitted with its other settings, as planned. -/
theorem transition_resupplied_of_admission {plan' : Nat → List Admission}
    {l r : List (Nat × Call)} {i : Nat} {phase : SubmitPhase} {frame : UInt32}
    {table : List Pipeline} {q : CaptureRequest} {left : List CaptureRequest} {p : Pipeline}
    {store : Store} {a : Admission} (hn : c.Numbered)
    (hc : c.calls = l ++ (i, .submitting phase frame table (q :: left)) :: r)
    (hgo : c.MayAdmit phase) (hcheck : checkRequest table q = .ok p) (hroom : c.TakesSlot phase)
    (hmap : c.mapRequest E frame p q = (store, .ok a)) (hplan : plan i = a :: plan' i)
    (hothers : ∀ j, j ≠ i → plan j = plan' j) :
    Transition E (c.resupplied f plan) (.advance i)
      ({ c with
        stage := { c.stage with store }.note (.admitted i a)
        queue := c.queue ++ [a]
        admitted := c.admitted + 1
        calls := l ++ (i, Call.submitting .admitting frame table left) :: r }.resupplied f
          plan') := by
  obtain ⟨hl, hr⟩ := ne_of_nodup_split (hc ▸ hn.nodup)
  have hc' := resupplied_calls f plan hc
  rw [hplan] at hc'
  have hmap' := c.resupplied_mapRequest (E := E) f plan frame p q (f a)
  rw [hmap] at hmap'
  refine (Transition.admitOne hc' ((c.resupplied_mayAdmit f plan phase).mpr hgo) hcheck
    ((c.resupplied_takesSlot f plan phase).mpr hroom) hmap').of_eq ?_
  rw [resuppliedCalls_congr fun p hp => hothers p.1 (hl p hp),
    resuppliedCalls_congr fun p hp => hothers p.1 (hr p hp)]
  simp only [Camera.resupplied, resuppliedCalls_append, List.map_append]
  rfl

/-! ## Runs -/

/-- What each call still admits up to the camera `e`. -/
def ahead (c e : Camera σ) : Nat → List Admission :=
  fun i => (e.admittedBy i).drop (c.admittedBy i).length

theorem ahead_congr {i : Nat} (h : d.admittedBy i = c.admittedBy i) :
    c.ahead e i = d.ahead e i := by
  rw [ahead, ahead, h]

theorem ahead_eq_cons {i : Nat} {a : Admission} (h : d.admittedBy i = c.admittedBy i ++ [a])
    (hahead : d.admittedBy i <+: e.admittedBy i) : c.ahead e i = a :: d.ahead e i := by
  obtain ⟨as, has⟩ := hahead
  simp [ahead, ← has, h]

/-- A step of a run that leads to the camera `e`. -/
theorem Transition.resupplied (hc : Reachable E sensor c) (h : Transition E c m d)
    (hahead : ∀ i, d.admittedBy i <+: e.admittedBy i)
    (hsettings : ∀ a, c.worker = .resolving a →
      (f a).or c.repeating = a.settings.or c.repeating) :
    Transition E (c.resupplied f (c.ahead e)) (m.resupplied f (e.admittedBy c.opened))
      (d.resupplied f (d.ahead e)) := by
  by_cases hquiet : ∀ i, d.admittedBy i = c.admittedBy i
  · have hplan : c.ahead e = d.ahead e := funext fun i => ahead_congr (hquiet i)
    have hfirst : c.ahead e c.opened = e.admittedBy c.opened := by
      rw [ahead, hc.admittedBy_eq_nil (Nat.le_refl _)]
      rfl
    rw [← hplan, ← hfirst]
    exact h.resupplied_of_quiet hquiet hsettings
  · have hstep := h
    cases h with
    | admitOne hsplit hgo hcheck hroom hmap =>
        refine transition_resupplied_of_admission hc.orderly.toNumbered hsplit hgo hcheck hroom
          hmap ?_ fun j hj => ?_
        · exact ahead_eq_cons (by simp [admittedBy, Occurrence.admittedBy?]) (hahead _)
        · exact ahead_congr (hstep.admittedBy_eq fun heq => hj (Option.some.inj heq).symm)
    | sensor hs =>
        obtain ⟨sensor, effects, -, rfl⟩ := Stage.sensorStep?_eq_some hs
        exact absurd (fun i => by simp [admittedBy]) hquiet
    | perform | unwind | clear | report | closeEffect =>
        exact absurd (fun i => by simp [admittedBy]) hquiet
    | _ =>
        exact absurd (fun i => by simp [admittedBy, Occurrence.admittedBy?, begin, paced]) hquiet

theorem resupplied_numbered (hn : c.Numbered) : (c.resupplied f plan).Numbered := by
  have hkeys : (c.resupplied f plan).calls.map (·.1) = c.calls.map (·.1) := by
    simp [Camera.resupplied, resuppliedCalls, Function.comp_def]
  refine ⟨⟨hkeys ▸ hn.nodup, fun p hp => ?_⟩⟩
  obtain ⟨q, hq, rfl⟩ := List.mem_map.mp hp
  exact hn.lt q hq

theorem Transition.opened_eq (h : Transition E c m d) :
    d.opened = if m.opens?.isSome then c.opened + 1 else c.opened := by
  cases h <;> rfl

/-- The moves of a run that leads to the camera `e`, with other settings: `n` calls were
made before. -/
def suppliedMoves (f : Admission → Option CaptureSettings) (e : Camera σ) :
    Nat → List Move → List Move
  | _, [] => []
  | n, m :: rest =>
    m.resupplied f (e.admittedBy n) ::
      suppliedMoves f e (if m.opens?.isSome then n + 1 else n) rest

/-- Other settings that come to the same for the requests that the worker took. -/
def Supplies (c : Camera σ) (f : Admission → Option CaptureSettings) : Prop :=
  ∀ l a, l ++ [a] <+: c.popped → (f a).or (latestSettings l) = a.settings.or (latestSettings l)

theorem Reachable.run?_resupplied {moves : List Move} (hc : Reachable E sensor c)
    (h : c.run? E moves = some e) (hf : e.Supplies f) :
    (c.resupplied f (c.ahead e)).run? E (suppliedMoves f e c.opened moves) =
      some (e.resupplied f (e.ahead e)) := by
  induction moves generalizing c with
  | nil =>
      cases h
      rfl
  | cons m rest ih =>
      obtain ⟨d, hd, he⟩ := Option.bind_eq_some_iff.mp (run?_cons ▸ h)
      have hstep := hc.transition hd
      have hsettings : ∀ a, c.worker = .resolving a →
          (f a).or c.repeating = a.settings.or c.repeating := by
        intro a hw
        obtain ⟨l, hl, hrepeating⟩ := hc.repeating_of_resolving hw
        rw [hrepeating]
        refine hf l a (hl ▸ ?_)
        exact Stage.history_prefix (record_suffix_of_run? hc h) _
      have hahead : ∀ i, d.admittedBy i <+: e.admittedBy i := fun i =>
        Stage.history_prefix (record_suffix_of_run? (hc.next hd) he) _
      have hresupplied := hstep.resupplied hc hahead hsettings
      rw [suppliedMoves, run?_cons,
        hresupplied.step?_eq (resupplied_numbered hc.orderly.toNumbered), Option.bind_some,
        ← hstep.opened_eq]
      exact ih (hc.next hd) he

/-! ## Settings are carried forward -/

/-- The settings of a request that the worker took are made explicit; the other
requests keep theirs. -/
def explicitSettings (c : Camera σ) (a : Admission) : Option CaptureSettings :=
  if a ∈ c.popped then a.settings.or (latestSettings (c.popped.takeWhile (· ≠ a)))
  else a.settings

theorem takeWhile_ne_of_prefix {as l : List Admission} {a : Admission} (hnodup : as.Nodup)
    (hl : l ++ [a] <+: as) : as.takeWhile (· ≠ a) = l := by
  obtain ⟨rest, rfl⟩ := hl
  rw [List.append_assoc, List.nodup_append] at hnodup
  have hl : ∀ b ∈ l, decide (b ≠ a) = true := fun b hb =>
    decide_eq_true (hnodup.2.2 b hb a (by simp))
  rw [List.append_assoc, List.takeWhile_append_of_pos hl, List.singleton_append,
    List.takeWhile_cons_of_neg (by simp), List.append_nil]

theorem Reachable.supplies_explicitSettings (hc : Reachable E sensor c) :
    c.Supplies c.explicitSettings := by
  intro l a hl
  have hnodup : c.popped.Nodup := (List.nodup_append.mp (List.nodup_append.mp hc.nodup_taken).1).1
  have hmem : a ∈ c.popped := hl.subset (by simp)
  rw [explicitSettings, if_pos hmem, takeWhile_ne_of_prefix hnodup hl]
  cases a.settings <;> simp

end Camera

namespace Occurrence

/-- Frames that were handed over and events that were told. -/
def visible? : Occurrence → Option (FrameTag × (Shot ⊕ Event))
  | handedOver tag shot => some (tag, .inl shot)
  | told _ tag event => some (tag, .inr event)
  | _ => none

end Occurrence

namespace Camera

variable {σ : Type} {E : Engine σ} {c d e : Camera σ} {sensor : σ}

def visible (c : Camera σ) : List (FrameTag × (Shot ⊕ Event)) :=
  c.stage.history Occurrence.visible?

/-- Settings are carried forward over the requests that the worker takes.

* The worker remembers the settings of the last one that brought any, whatever became
  of it, and the controls are those after the settings that applied to each.
* A frame that was handed over was made from the settings that apply to its request.
* A request to which none apply is not handed over; its one outcome is the notice
  that there will be no result.
* With other settings that come to the same for the requests taken, the run is the
  same: the worker takes the same requests, the same frames and notices come out in
  the same order, and the sensor and the buffers end up the same.  Such are the
  explicit settings, and the requests that were flushed may have any. -/
theorem settings_are_carried_forward {config : Config} {store : Store} {s : Controls}
    {moves : List Move} (h₀ : create config sensor store s = .ok c)
    (h : c.run? E moves = some e) :
    (∃ l, e.popped = l ++ e.worker.unresolved ∧ e.repeating = latestSettings l ∧
        e.controls = s.afterRequests l) ∧
      (∀ p ∈ e.handOvers, ∃ l a, l ++ [a] <+: e.popped ∧ a.tag = p.1 ∧ p.2.IsMadeFrom s l a) ∧
      (∀ l a, l ++ [a] <+: e.popped → a.settings.or (latestSettings l) = none →
        a.tag ∉ e.handOvers.map (·.1) ∧
          (a.tag ∈ e.inHand ∨
            e.outcomes.filter (·.1 = a.tag) = [(a.tag, .told (a.tag.failure .result))])) ∧
      (∀ a ∈ e.flushedRequests, a ∉ e.popped) ∧
      e.Supplies e.explicitSettings ∧
      ∀ f, e.Supplies f → ∃ d, c.run? E (suppliedMoves f e c.opened moves) = some d ∧
        d.popped = e.popped.map (·.resupplied f) ∧ d.visible = e.visible ∧
        d.stage.sensor = e.stage.sensor ∧ d.stage.store = e.stage.store := by
  have hc : Reachable E sensor c := .created h₀
  have he := hc.run? h
  obtain ⟨l, hl⟩ := carries_of_run? h₀ h
  refine ⟨⟨l, hl.popped, hl.repeating, hl.controls⟩, fun p hp => ?_,
    fun k a hk hnone => he.outcome_of_no_settings hk hnone, fun a ha hpopped => ?_,
    he.supplies_explicitSettings, fun f hf => ?_⟩
  · obtain ⟨k, a, hk, hmade⟩ := hl.handOvers p hp
    exact ⟨k, a, hk.trans (hl.popped ▸ List.prefix_append _ _), hmade⟩
  · have hnodup := (List.nodup_append.mp he.nodup_taken).1
    exact (List.nodup_append.mp hnodup).2.2 a hpopped a ha rfl
  · have hrun := hc.run?_resupplied h hf
    have hcreated : c.resupplied f (c.ahead e) = c := by
      obtain rfl := create_eq h₀
      rfl
    rw [hcreated] at hrun
    refine ⟨_, hrun, ?_, ?_, rfl, rfl⟩
    · exact Stage.history_resupplied (fun o => by cases o <;> rfl) _
    · refine (Stage.history_resupplied (k := id) (fun o => ?_) _).trans (List.map_id _)
      cases o <;> rfl

open Sensor (Recorder)

/-- The worker takes three requests, and a flush the fourth. -/
def carryingMoves : List Move :=
  List.flatten [
    .submit 7 [Sample.plain, Sample.preview, Sample.plain, Sample.preview] [Sample.pipeline] ::
      List.replicate 6 (.advance 0),
    List.replicate 9 .worker,
    .giveUp :: List.replicate 9 .worker,
    .giveUp :: List.replicate 9 .worker,
    .flush :: List.replicate 5 (.advance 1)]

/-- To the first request no settings apply.  The third is captured with those of the
second, and made explicit they lead to the same. -/
theorem sample_settings_are_carried_forward :
    ∃ e d : Camera Recorder,
      (Sample.camera {}).run? Recorder.engine carryingMoves = some e ∧
      e.popped.map (·.settings) = [none, Sample.preview.settings, none] ∧
      e.handOvers.map (·.1) = [1, 2].map Sample.tag ∧
      e.flushedRequests.map (·.tag) = [Sample.tag 3] ∧
      (Sample.camera {}).run? Recorder.engine
        (suppliedMoves e.explicitSettings e 0 carryingMoves) = some d ∧
      d.popped.map (·.settings) = [none, Sample.preview.settings, Sample.preview.settings] ∧
      d.visible = e.visible := by
  have hrun : ((Sample.camera {}).run? Recorder.engine carryingMoves).map (fun e =>
      (e.popped.map (·.settings), e.popped.map e.explicitSettings, e.handOvers.map (·.1),
        e.flushedRequests.map (·.tag))) =
      some ([none, Sample.preview.settings, none],
        [none, Sample.preview.settings, Sample.preview.settings], [1, 2].map Sample.tag,
        [Sample.tag 3]) := by
    decide +kernel
  obtain ⟨e, he, heq⟩ := Option.map_eq_some_iff.mp hrun
  simp only [Prod.mk.injEq] at heq
  obtain ⟨hsettings, hexplicit, hhanded, hflushed⟩ := heq
  have hcreate : create {} ({} : Recorder) Sample.store Sample.controls =
      .ok (Sample.camera {}) := rfl
  obtain ⟨-, -, -, -, hsupplies, hsame⟩ := settings_are_carried_forward hcreate he
  obtain ⟨d, hd, hpopped, hvisible, -⟩ := hsame _ hsupplies
  refine ⟨e, d, he, hsettings, hhanded, hflushed, hd, ?_, hvisible⟩
  rw [hpopped, List.map_map]
  exact hexplicit

end Camera

end VirtualCamera
