import VirtualCamera.Proofs.Record

/-!
# Where an admitted request is

A request that was admitted waits in the queue, or the worker has it, or a
flush took it and has not told its listener yet, or it has its outcome.  The
`Ledger` of a camera lists these requests, read off its state and its record.

Of all that a transition does only eight things show in the ledger
(`Ledger.Step`), and `Transition.ledger` is the one place where this is
checked.  The worker takes a request, and a flush empties the queue, only while
nobody else has undelivered requests: both need the dispatch lock, and whoever
has undelivered requests holds it (`Orderly`).  Nothing is assumed of the
sensor; what it tells is no outcome.
-/

namespace VirtualCamera

/-! ## Outcomes -/

/-- What became of a request. -/
inductive Outcome where
  /-- it was handed to the sensor -/
  | handedOver
  /-- the processor told its listener something instead -/
  | told (event : Event)
  /-- the worker crashed over it, and nobody is told; it counts as settled all the
  same -/
  | lost
  deriving DecidableEq, Repr

namespace Occurrence

def admission? : Occurrence → Option FrameTag
  | admitted _ a => some a.tag
  | _ => none

/-- The request whose outcome this is.  What the sensor tells is none. -/
def outcome? : Occurrence → Option (FrameTag × Outcome)
  | handedOver tag _ => some (tag, .handedOver)
  | told .processor tag event => some (tag, .told event)
  | crashed tag => some (tag, .lost)
  | _ => none

@[simp] theorem admission?_effect (e : Effect) (speaker : Speaker) :
    (e.occurrence speaker).admission? = none := by
  cases e <;> rfl

@[simp] theorem outcome?_effect_sensor (e : Effect) :
    (e.occurrence .sensor).outcome? = none := by
  cases e <;> rfl

theorem outcome?_effect_processor (e : Effect) :
    (e.occurrence .processor).outcome? = e.notice?.map fun p => (p.1, .told p.2) := by
  cases e <;> rfl

end Occurrence

/-! ## Undelivered requests -/

namespace Worker

/-- The request that the worker took and whose outcome is open. -/
def undecided : Worker → List FrameTag
  | resolving a | awaitingOutputs a .. | recording a .. => [a.tag]
  | awaitingInputs tag .. => [tag]
  | checking | ready | finishing .. | unwinding _ | unpaced | pacing _ | ended => []

/-- What the worker is about to tell in the name of the processor. -/
def notices : Worker → List (FrameTag × Event)
  | finishing .processor effects | unwinding effects => VirtualCamera.notices effects
  | checking | ready | resolving _ | awaitingOutputs .. | recording .. | awaitingInputs ..
  | finishing .sensor _ | unpaced | pacing _ | ended => []

@[simp] theorem notices_finishing_nil (speaker : Speaker) :
    (finishing speaker []).notices = [] := by
  cases speaker <;> rfl

/-- Without the dispatch lock the worker has no request. -/
theorem undelivered_eq_nil {w : Worker} (h : w.holdsDispatch = false) :
    w.undecided = [] ∧ w.notices = [] := by
  cases w <;> simp_all [holdsDispatch, undecided, notices]

end Worker

namespace Call

/-- What a flush is about to tell in the name of the processor. -/
def notices : Call → List (FrameTag × Event)
  | reporting _ effects => VirtualCamera.notices effects
  | submitting .. | flushing | clearing .. | joining | halting _ | closing .. => []

@[simp] theorem notices_clearing (status : Except Fault Unit) (effects : List Effect) :
    (clearing status effects).notices = [] := rfl

@[simp] theorem notices_reporting (status : Except Fault Unit) (effects : List Effect) :
    (reporting status effects).notices = VirtualCamera.notices effects := rfl

/-- Without the dispatch lock a call has nothing to tell for the processor. -/
theorem notices_eq_nil {call : Call} (h : call.holdsDispatch = false) : call.notices = [] := by
  cases call <;> simp_all [holdsDispatch, notices]

end Call

/-! ## Ledgers -/

/-- All admitted requests and the places they are in. -/
structure Ledger where
  /-- how many tickets were given out -/
  issued : Nat
  /-- all requests that were ever admitted, the oldest first -/
  admissions : List FrameTag
  /-- the requests that have their outcome, the oldest outcome first -/
  outcomes : List (FrameTag × Outcome)
  /-- the request that the worker took and whose outcome is open -/
  undecided : List FrameTag
  /-- what the worker is about to tell of the request that it took -/
  failing : List (FrameTag × Event)
  /-- what flushes are about to tell of requests that they took -/
  reports : List (FrameTag × Event)
  /-- the requests in the queue -/
  waiting : List FrameTag

namespace Ledger

/-- Nobody has a request that is neither in the queue nor answered. -/
structure IsSettled (b : Ledger) : Prop where
  undecided : b.undecided = []
  failing : b.failing = []
  reports : b.reports = []

inductive Step (b : Ledger) : Ledger → Prop
  | still : Step b b
  | admitOne {tag : FrameTag} (hticket : tag.ticket = b.issued) :
      Step b { b with
        issued := b.issued + 1
        admissions := b.admissions ++ [tag]
        waiting := b.waiting ++ [tag] }
  | take {tag : FrameTag} {rest : List FrameTag} (hsettled : b.IsSettled)
      (hw : b.waiting = tag :: rest) : Step b { b with undecided := [tag], waiting := rest }
  | handOver {tag : FrameTag} (hu : b.undecided = [tag]) :
      Step b { b with outcomes := b.outcomes ++ [(tag, .handedOver)], undecided := [] }
  | lose {tag : FrameTag} (hu : b.undecided = [tag]) :
      Step b { b with outcomes := b.outcomes ++ [(tag, .lost)], undecided := [] }
  | fail {tag : FrameTag} (hu : b.undecided = [tag]) (hf : b.failing = []) :
      Step b { b with undecided := [], failing := [(tag, tag.failure .result)] }
  | tell {p : FrameTag × Event} {rest : List (FrameTag × Event)} (hf : b.failing = p :: rest)
      (hu : b.undecided = []) :
      Step b { b with outcomes := b.outcomes ++ [(p.1, .told p.2)], failing := rest }
  | drain (hsettled : b.IsSettled) :
      Step b { b with
        reports := b.waiting.map fun tag => (tag, tag.failure .request)
        waiting := [] }
  | report {p : FrameTag × Event} {rest : List (FrameTag × Event)} (hr : b.reports = p :: rest)
      (hu : b.undecided = []) (hf : b.failing = []) :
      Step b { b with outcomes := b.outcomes ++ [(p.1, .told p.2)], reports := rest }

end Ledger

namespace Camera

variable {σ : Type} {E : Engine σ} {c d : Camera σ} {sensor : σ}

def admissions (c : Camera σ) : List FrameTag :=
  c.stage.history Occurrence.admission?

def outcomes (c : Camera σ) : List (FrameTag × Outcome) :=
  c.stage.history Occurrence.outcome?

def reports (c : Camera σ) : List (FrameTag × Event) :=
  c.calls.flatMap (·.2.notices)

def waiting (c : Camera σ) : List FrameTag :=
  c.queue.map (·.tag)

def ledger (c : Camera σ) : Ledger where
  issued := c.admitted
  admissions := c.admissions
  outcomes := c.outcomes
  undecided := c.worker.undecided
  failing := c.worker.notices
  reports := c.reports
  waiting := c.waiting

theorem ledger_def (c : Camera σ) : c.ledger = {
    issued := c.admitted
    admissions := c.stage.history Occurrence.admission?
    outcomes := c.stage.history Occurrence.outcome?
    undecided := c.worker.undecided
    failing := c.worker.notices
    reports := c.calls.flatMap (·.2.notices)
    waiting := c.queue.map (·.tag) } := rfl

/-! ## While the dispatch lock is held -/

theorem flatMap_notices_eq_nil {calls : List (Nat × Call)}
    (h : calls.countP (·.2.holdsDispatch) = 0) : calls.flatMap (·.2.notices) = [] := by
  rw [List.flatMap_eq_nil_iff]
  intro p hp
  exact Call.notices_eq_nil (by simpa using List.countP_eq_zero.mp h p hp)

/-- Nobody has a request while the dispatch lock is free. -/
theorem isSettled_of_free (h : c.dispatchIsFree = true) : c.ledger.IsSettled := by
  rw [dispatchIsFree_iff, dispatchHolders, Nat.add_eq_zero_iff] at h
  obtain ⟨hundecided, hnotices⟩ := Worker.undelivered_eq_nil (by simpa using h.1)
  exact ⟨hundecided, hnotices, flatMap_notices_eq_nil h.2⟩

/-- While a call holds the dispatch lock, the worker has no request, and no
other call has anything to report. -/
theorem Orderly.alone (ho : c.Orderly) {l r : List (Nat × Call)} {i : Nat} {call : Call}
    (hc : c.calls = l ++ (i, call) :: r) (hcall : call.holdsDispatch = true) :
    (c.worker.undecided = [] ∧ c.worker.notices = []) ∧
      l.flatMap (·.2.notices) = [] ∧ r.flatMap (·.2.notices) = [] := by
  have hle := ho.dispatch
  simp only [dispatchHolders, hc, List.countP_append, List.countP_cons, hcall, if_true] at hle
  refine ⟨Worker.undelivered_eq_nil ?_, flatMap_notices_eq_nil (by omega),
    flatMap_notices_eq_nil (by omega)⟩
  cases hw : c.worker.holdsDispatch with
  | false => rfl
  | true =>
      rw [hw, Bool.toNat_true] at hle
      omega

/-! ## Transitions in the ledger -/

theorem ledger_still (h : d.ledger = c.ledger) : c.ledger.Step d.ledger := by
  rw [h]
  exact .still

/-- The worker performs an effect in the name of the processor: if that tells
something, it is the outcome of a request. -/
theorem ledger_perform {e : Effect} {rest : List Effect} {w : Worker}
    (hundecided : c.worker.undecided = []) (hnotices : c.worker.notices = notices (e :: rest))
    (hundecided' : w.undecided = []) (hnotices' : w.notices = notices rest) :
    c.ledger.Step
      { c with stage := c.stage.perform .processor e, worker := w : Camera σ }.ledger := by
  rw [notices_cons] at hnotices
  cases he : e.notice? with
  | none =>
      refine ledger_still ?_
      simp [ledger_def, Occurrence.outcome?_effect_processor, he, hundecided, hundecided',
        hnotices, hnotices']
  | some p =>
      have hfailing : c.ledger.failing = p :: notices rest := by
        simp [ledger_def, hnotices, he]
      have hstep := Ledger.Step.tell hfailing hundecided
      simpa [ledger_def, Occurrence.outcome?_effect_processor, he, hundecided, hundecided',
        hnotices'] using hstep

theorem Transition.ledger {m : Move} (ho : c.Orderly) (h : Transition E c m d) :
    c.ledger.Step d.ledger := by
  cases h with
  | take hw hfree hlock hq =>
      have hstep := Ledger.Step.take (isSettled_of_free hfree)
        (show c.ledger.waiting = _ :: _ by rw [Camera.ledger, waiting, hq, List.map_cons])
      simpa [ledger_def, Occurrence.outcome?, Occurrence.admission?, Worker.undecided,
        Worker.notices, hw] using hstep
  | crash hw =>
      have hstep := Ledger.Step.lose (b := c.ledger) (by rw [Camera.ledger, hw]; rfl)
      simpa [ledger_def, Occurrence.outcome?, Occurrence.admission?, Worker.undecided,
        Worker.notices, hw] using hstep
  | handOver hw =>
      have hstep := Ledger.Step.handOver (b := c.ledger) (by rw [Camera.ledger, hw]; rfl)
      simpa [ledger_def, Occurrence.outcome?, Occurrence.admission?, Worker.undecided,
        Worker.notices, hw] using hstep
  | @admitOne l r i phase frame table q left p store a hc hgo hcheck hroom hmap =>
      have hticket : a.tag.ticket = c.ledger.issued := by rw [(mapRequest_eq_ok hmap).1]; rfl
      have hstep := Ledger.Step.admitOne hticket
      simpa [ledger_def, Occurrence.outcome?, Occurrence.admission?, hc, Call.notices] using hstep
  | @outputsAwaited a resolved ready hw =>
      rcases outputsAwaited_cases a resolved ready with ⟨s, sensor, heq, -⟩ | heq
      · refine ledger_still ?_
        simp [ledger_def, heq, hw, Worker.undecided, Worker.notices]
      · have hundecided : c.ledger.undecided = [a.tag] := by rw [ledger_def, hw]; rfl
        have hstep := Ledger.Step.fail hundecided (by rw [ledger_def, hw]; rfl)
        simpa [ledger_def, heq, Worker.undecided, Worker.notices] using hstep
  | @perform speaker e rest hw =>
      cases speaker with
      | sensor =>
          refine ledger_still ?_
          simp [ledger_def, hw, Worker.undecided, Worker.notices]
      | processor =>
          exact ledger_perform (by rw [hw]; rfl) (by rw [hw]; rfl) rfl rfl
  | unwind hw => exact ledger_perform (by rw [hw]; rfl) (by rw [hw]; rfl) rfl rfl
  | @drain l r i status hc =>
      obtain ⟨⟨hundecided, hnotices⟩, hl, hr⟩ := ho.alone hc rfl
      have hstep := Ledger.Step.drain (b := c.ledger)
        ⟨hundecided, hnotices, by simp [ledger_def, hc, hl, hr]⟩
      simpa [ledger_def, Occurrence.outcome?, Occurrence.admission?, hl, hr, notices_failingAll,
        Function.comp_def] using hstep
  | @report l r i status e rest hc =>
      obtain ⟨⟨hundecided, hnotices⟩, hl, hr⟩ := ho.alone hc rfl
      cases he : e.notice? with
      | none =>
          refine ledger_still ?_
          simp [ledger_def, hc, he, Occurrence.outcome?_effect_processor]
      | some p =>
          have hreports : c.ledger.reports = p :: notices rest := by
            simp [ledger_def, hc, hl, hr, he]
          have hstep := Ledger.Step.report hreports hundecided hnotices
          simpa [ledger_def, hl, hr, he, Occurrence.outcome?_effect_processor] using hstep
  | sensor hs =>
      obtain ⟨sensor, effects, -, rfl⟩ := Stage.sensorStep?_eq_some hs
      refine ledger_still ?_
      simp [ledger_def]
  | check hw =>
      refine ledger_still ?_
      cases hs : c.isStopping <;>
        simp [ledger_def, hw, Worker.undecided, Worker.notices]
  | finished hw =>
      refine ledger_still ?_
      rw [ledger_def, ledger_def, hw, Worker.notices_finishing_nil]
      rfl
  | idle hw | resolve hw | awaitOutput hw | record hw | awaitInput hw | unwound hw
  | beginPacing hw | skipPacing hw | pace hw | giveUp hw =>
      refine ledger_still ?_
      simp [ledger_def, hw, Worker.undecided, Worker.notices, Occurrence.outcome?,
        Occurrence.admission?, prepareShot, paced]
  | enter hc | submitted hc | refuse hc | park hc | abort hc | expire hc | flushSensor hc
  | flushed hc | stopAgain hc | halt hc | close hc | stopped hc =>
      refine ledger_still ?_
      simp [ledger_def, hc, Call.notices, Occurrence.outcome?, Occurrence.admission?]
  | clear hc | closeEffect hc =>
      refine ledger_still ?_
      simp only [ledger_def, hc, Stage.history_perform, Occurrence.admission?_effect,
        Occurrence.outcome?_effect_sensor, Option.toList_none, List.append_nil,
        List.flatMap_append, List.flatMap_cons, Call.notices]
  | submit | flush | stop =>
      refine ledger_still ?_
      simp [ledger_def, begin, Call.notices]
  | fence => exact ledger_still rfl

end Camera

end VirtualCamera
