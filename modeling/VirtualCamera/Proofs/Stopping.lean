import VirtualCamera.Proofs.Delivery

/-!
# What a stop leaves behind

A stop waits for the worker and then shuts the sensor down.  The worker takes no
request once it was told to stop, and it ends with an outcome for the request
that it has; a flush returns with an outcome for all that it took, and none is
under way when a stop begins.  So when the stop returns, a request has its one
outcome unless it is still in the queue (`Reachable.accounted_iff`), and nothing
has emptied the queue: the stop is over with every request answered just if no
request was left for it to forget.

That the worker has ended is an invariant (`Reachable.worker_of_isStopping`):
while the camera is stopping, a stop waits for the worker, or the worker has
ended.
-/

namespace VirtualCamera

namespace Camera

open Sensor (Recorder)

variable {σ : Type} {E : Engine σ} {b c d : Camera σ} {sensor : σ} {m : Move}
  {tag : FrameTag}

/-! ## One outcome -/

/-- One thing became of a request: it was handed to the sensor once, or its
listener was told once that it failed. -/
def Accounted (c : Camera σ) (tag : FrameTag) : Prop :=
  ∃ outcome : Outcome, outcome.IsRegular tag ∧ c.outcomes.filter (·.1 = tag) = [(tag, outcome)]

theorem Reachable.accounted_iff_mem (hc : Reachable E sensor c) (hcrash : c.hasCrashed = false) :
    c.Accounted tag ↔ tag ∈ c.outcomes.map (·.1) := by
  constructor
  · rintro ⟨outcome, -, hone⟩
    have hmem : (tag, outcome) ∈ c.outcomes.filter (·.1 = tag) := hone ▸ List.mem_cons_self
    exact List.mem_map_of_mem (List.mem_filter.mp hmem).1
  · intro htag
    obtain ⟨⟨tag, outcome⟩, hmem, rfl⟩ := List.mem_map.mp htag
    exact ⟨outcome, hc.isRegular hcrash _ hmem, filter_key_eq_singleton hc.nodup_outcomes hmem⟩

/-- While nobody has a request, one that was admitted is accounted for unless it
waits. -/
theorem Reachable.accounted_iff (hc : Reachable E sensor c) (hcrash : c.hasCrashed = false)
    (hs : c.ledger.IsSettled) (htag : tag ∈ c.admissions) :
    c.Accounted tag ↔ tag ∉ c.waiting := by
  have hbalance := hc.balance_of_settled hs
  have hnodup : c.admissions.Nodup := hc.balanced.nodup
  rw [← hbalance, List.nodup_append] at hnodup
  rw [← hbalance, List.mem_append] at htag
  rw [hc.accounted_iff_mem hcrash]
  constructor
  · intro houtcome hwaiting
    exact hnodup.2.2 tag houtcome tag hwaiting rfl
  · exact htag.resolve_right

/-! ## Stopping -/

/-- While a camera is stopping, a stop waits for the worker, or the worker has
ended. -/
theorem Reachable.worker_of_isStopping (hc : Reachable E sensor c) (hs : c.isStopping = true) :
    (∃ i, c.calls.lookup i = some .joining) ∨ c.worker = .ended := by
  induction hc with
  | created h =>
      obtain rfl := create_eq h
      cases hs
  | @next c d m hc h ih =>
      have hstep := hc.transition h
      by_cases hm : m.opens? = some .stop
      · cases hstep with
        | stopAgain hcalls hstopping =>
            refine Or.inr ((ih hstopping).resolve_left ?_)
            rintro ⟨i, hi⟩
            cases hcalls ▸ hi
        | stop hcalls => exact Or.inl ⟨c.opened, by simp [begin, hcalls]⟩
        | _ => cases hm
      · rcases ih ((hstep.isStopping_eq hm).symm.trans hs) with ⟨i, hi⟩ | hworker
        · by_cases hcall : m.call? = some i
          · exact Or.inr (hstep.worker_ended (step?_of_joining hi hcall h).1)
          · have hlt := hc.orderly.toNumbered.lt_of_lookup hi
            exact Or.inl ⟨i, (hstep.lookup_eq hlt hcall).trans hi⟩
        · exact Or.inr (hstep.worker_ended hworker)

/-- `c` is stopping since `b`: no other call is open, and nothing was put into
the queue. -/
structure StoppingSince (b c : Camera σ) : Prop where
  isStopping : c.isStopping = true
  only : ∀ p ∈ c.calls, p.1 = b.opened
  calls : ∀ p ∈ c.calls, p.2.kind ≠ .submission
  queue : c.queue <:+ b.queue

theorem stoppingSince_of_stop (h : Transition E b .stop c) : b.StoppingSince c := by
  cases h with
  | stopAgain hc hs => exact ⟨hs, by simp [hc], by simp [hc], List.suffix_rfl⟩
  | stop hc => exact ⟨rfl, by simp [begin, hc], by simp [begin, hc, Call.kind], List.suffix_rfl⟩

theorem StoppingSince.step (hs : b.StoppingSince c) (h : Transition E c m d)
    (hm : m.opens? = none) : b.StoppingSince d where
  isStopping := (h.isStopping_eq (by simp [hm])).trans hs.isStopping
  only := h.only_call hm hs.only
  calls := h.kind_ne (by simp [hm]) hs.calls
  queue := (h.queue_suffix hs.calls).trans hs.queue

/-- When a stop returns, the worker has ended and all that was ever admitted has
its one outcome, but for the requests that are still in the queue.  They were
there when the stop began, and only if there are none is every request
accounted for. -/
theorem accounted_after_stop_iff {moves : List Move} {answer : Except Fault Unit}
    (hb : Reachable E sensor b) (hstop : b.step? E .stop = some c)
    (hrun : c.run? E moves = some d) (hmoves : ∀ m ∈ moves, m.opens? = none)
    (hreturn : d.stage.answer? b.opened = some answer) (hcrash : d.hasCrashed = false) :
    d.calls = [] ∧ d.worker = .ended ∧ d.waiting <:+ b.waiting ∧
      (∀ tag ∈ d.admissions, d.Accounted tag ↔ tag ∉ d.waiting) ∧
      ((∀ tag ∈ d.admissions, d.Accounted tag) ↔ d.queue = []) := by
  have hc := hb.next hstop
  have hd := hc.run? hrun
  have hs : b.StoppingSince d :=
    hc.run_induct_mem hrun (stoppingSince_of_stop (hb.transition hstop))
      fun hm hc h hs => hs.step (hc.transition h) (hmoves _ hm)
  have hcalls := hd.calls_eq_nil hs.only hreturn
  have hworker : d.worker = .ended := by
    rcases hd.worker_of_isStopping hs.isStopping with ⟨i, hi⟩ | hworker
    · cases hcalls ▸ hi
    · exact hworker
  have hsettled : d.ledger.IsSettled := by
    refine isSettled_of_free ?_
    simp [dispatchIsFree, hcalls, hworker, Worker.holdsDispatch]
  have haccounted : ∀ tag ∈ d.admissions, d.Accounted tag ↔ tag ∉ d.waiting :=
    fun tag htag => hd.accounted_iff hcrash hsettled htag
  refine ⟨hcalls, hworker, hs.queue.map _, haccounted, ?_⟩
  constructor
  · intro hall
    have hnone : d.waiting = [] := by
      refine List.eq_nil_iff_forall_not_mem.mpr fun tag htag => ?_
      have hadmitted : tag ∈ d.admissions := by
        rw [← hd.balance_of_settled hsettled]
        exact List.mem_append_right _ htag
      exact (haccounted tag hadmitted).mp (hall tag hadmitted) htag
    exact List.map_eq_nil_iff.mp hnone
  · intro hqueue tag htag
    refine (haccounted tag htag).mpr ?_
    simp [waiting, hqueue]

/-- A request was handed to a recorder, and the worker waits for a tick. -/
def afterHandOver : Camera Recorder :=
  Sample.after Recorder.engine {}
    (List.flatten [
      .submit 7 [Sample.preview] [Sample.pipeline] :: List.replicate 3 (.advance 0),
      List.replicate 9 .worker])
    (by decide +kernel)

/-- One request is in the queue of a camera whose worker is about to look whether
it shall stop. -/
def beforeStop : Camera Recorder :=
  Sample.after Recorder.engine {}
    (.submit 7 [Sample.preview] [Sample.pipeline] :: List.replicate 3 (.advance 0))
    (by decide +kernel)

/-- The worker looks and ends, and the stop shuts the sensor down. -/
def stopMoves : List Move :=
  .worker :: List.replicate 3 (.advance 1)

theorem handed_over_request_is_accounted_after_stop :
    ∃ c d, Reachable Recorder.engine {} afterHandOver ∧
      afterHandOver.step? Recorder.engine .stop = some c ∧
      c.run? Recorder.engine (.giveUp :: stopMoves) = some d ∧
      d.stage.answer? 1 = some (.ok ()) ∧ d.admissions = [Sample.tag 0] ∧
      ∀ tag ∈ d.admissions, d.Accounted tag := by
  have hrun : ((afterHandOver.step? Recorder.engine .stop).bind fun c =>
      c.run? Recorder.engine (.giveUp :: stopMoves)).map (fun d =>
        (d.stage.answer? 1, d.hasCrashed, d.admissions, d.queue)) =
      some (some (.ok ()), false, [Sample.tag 0], []) := by
    decide +kernel
  obtain ⟨d, hd, heq⟩ := Option.map_eq_some_iff.mp hrun
  obtain ⟨c, hc, hd⟩ := Option.bind_eq_some_iff.mp hd
  simp only [Prod.mk.injEq] at heq
  obtain ⟨hreturn, hcrash, hadmissions, hqueue⟩ := heq
  have hmoves : ∀ m ∈ .giveUp :: stopMoves, m.opens? = none := by decide
  obtain ⟨-, -, -, -, hiff⟩ :=
    accounted_after_stop_iff Sample.reachable_after hc hd hmoves hreturn hcrash
  exact ⟨c, d, Sample.reachable_after, hc, hd, hreturn, hadmissions, hiff.mpr hqueue⟩

/-- The stop returns, and nothing became of the one request: it was not handed
over, and its listener was told nothing. -/
theorem stop_forgets_waiting_request :
    ∃ c d, Reachable Recorder.engine {} beforeStop ∧
      beforeStop.step? Recorder.engine .stop = some c ∧
      c.run? Recorder.engine stopMoves = some d ∧
      d.stage.answer? 1 = some (.ok ()) ∧ d.hasCrashed = false ∧
      d.admissions = [Sample.tag 0] ∧ d.outcomes = [] ∧ d.tells = [] ∧
      ¬ d.Accounted (Sample.tag 0) := by
  have hrun : ((beforeStop.step? Recorder.engine .stop).bind fun c =>
      c.run? Recorder.engine stopMoves).map (fun d =>
        (d.stage.answer? 1, d.hasCrashed, d.admissions, d.outcomes.isEmpty, d.tells.isEmpty)) =
      some (some (.ok ()), false, [Sample.tag 0], true, true) := by
    decide +kernel
  obtain ⟨d, hd, heq⟩ := Option.map_eq_some_iff.mp hrun
  obtain ⟨c, hc, hd⟩ := Option.bind_eq_some_iff.mp hd
  simp only [Prod.mk.injEq] at heq
  obtain ⟨hreturn, hcrash, hadmissions, houtcomes, htells⟩ := heq
  rw [List.isEmpty_iff] at houtcomes htells
  refine ⟨c, d, Sample.reachable_after, hc, hd, hreturn, hcrash, hadmissions, houtcomes, htells, ?_⟩
  rintro ⟨outcome, -, hone⟩
  rw [houtcomes] at hone
  cases hone

end Camera

end VirtualCamera
