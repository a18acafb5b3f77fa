import VirtualCamera.Proofs.Exposure
import VirtualCamera.Proofs.Tags

/-!
# Outcomes come in the order of admission

That the outcomes of requests follow their admissions is the balance of the
ledger, read from the left.  For a flush it says more: from the drain on the
processor heads for the notices of the drained requests, and no other outcome
comes before the last of them (`Ledger.HeadsFor`), since whoever has another
outcome needs the dispatch lock that the flush holds until then.

The simulated sensor is handed its frames in the order of admission, and what
it tells of captured frames is a list of pairs of shutter and result
(`Roll.Since`), so its results are in that order too, each right after its own
shutter.
-/

namespace VirtualCamera

def Outcome.ofNotice (p : FrameTag × Event) : FrameTag × Outcome :=
  (p.1, .told p.2)

/-! ## After a drain -/

namespace Ledger

variable {b b' : Ledger} {goal : List (FrameTag × Outcome)}

/-- All outcomes up to a goal are reached, or a flush is on the way there and
nobody else has a request. -/
def HeadsFor (goal : List (FrameTag × Outcome)) (b : Ledger) : Prop :=
  (b.undecided = [] ∧ b.failing = [] ∧ b.outcomes ++ b.reports.map Outcome.ofNotice = goal) ∨
    goal <+: b.outcomes

theorem Step.headsFor (h : b.Step b') (hb : b.HeadsFor goal) : b'.HeadsFor goal := by
  rcases hb with ⟨hundecided, hfailing, hgoal⟩ | hreached
  · cases h with
    | still => exact Or.inl ⟨hundecided, hfailing, hgoal⟩
    | admitOne => exact Or.inl ⟨hundecided, hfailing, hgoal⟩
    | take hsettled | drain hsettled =>
        rw [hsettled.reports, List.map_nil, List.append_nil] at hgoal
        exact Or.inr ⟨[], by rw [List.append_nil, hgoal]⟩
    | handOver hu | lose hu | fail hu =>
        rw [hundecided] at hu
        cases hu
    | tell hf =>
        rw [hfailing] at hf
        cases hf
    | report hr =>
        refine Or.inl ⟨hundecided, hfailing, ?_⟩
        rw [← hgoal, hr]
        simp [Outcome.ofNotice]
  · refine Or.inr (hreached.trans ?_)
    cases h with
    | handOver | lose | tell | report => exact List.prefix_append _ _
    | _ => exact List.prefix_rfl

/-- An outcome that is not part of the goal comes after all of it. -/
theorem HeadsFor.prefix_before {p : FrameTag × Outcome} {before after : List (FrameTag × Outcome)}
    (hb : b.HeadsFor goal) (hsplit : b.outcomes = before ++ p :: after) (hp : p ∉ goal) :
    goal <+: before := by
  rcases hb with ⟨-, -, hgoal⟩ | hreached
  · refine absurd ?_ hp
    rw [← hgoal, hsplit]
    simp
  · have hbefore : before <+: b.outcomes := hsplit ▸ List.prefix_append _ _
    rcases List.prefix_or_prefix_of_prefix hreached hbefore with h | ⟨rest, hrest⟩
    · exact h
    · have hrest' : rest <+: p :: after := by
        rwa [← hrest, hsplit, List.prefix_append_right_inj] at hreached
      cases rest with
      | nil => exact ⟨[], by simpa using hrest.symm⟩
      | cons q rest =>
          obtain ⟨rfl, -⟩ := List.cons_prefix_cons.mp hrest'
          exact absurd (by simp [← hrest]) hp

end Ledger

namespace Camera

variable {σ : Type} {E : Engine σ} {c d e : Camera σ} {sensor : σ}

/-- What a flush makes of the requests that it takes from the queue. -/
def flushOutcomes (waiting : List FrameTag) : List (FrameTag × Outcome) :=
  waiting.map fun tag => (tag, .told (tag.failure .request))

theorem transition_drain {i : Nat} {status : Except Fault Unit} (hn : c.Numbered)
    (hi : c.calls.lookup i = some (.clearing status [])) (h : c.step? E (.advance i) = some d) :
    ∃ l r, c.calls = l ++ (i, .clearing status []) :: r ∧
      d = { c with
        queue := []
        stage := c.stage.note (.drained i c.queue)
        calls := l ++ (i, .reporting status (failingAll c.queue)) :: r } := by
  obtain ⟨l, r, hc⟩ := exists_split_of_lookup hi
  refine ⟨l, r, hc, ?_⟩
  have hput := put_calls hn hc (.reporting status (failingAll c.queue))
  simp only [step?, callStep?, hi, Option.some.injEq] at h
  rw [← h, drain, put, ← hput]
  rfl

/-- A flush that empties the queue heads for the failure of all that was in
it. -/
theorem headsFor_of_drain {i : Nat} {status : Except Fault Unit} (ho : c.Orderly)
    (hi : c.calls.lookup i = some (.clearing status [])) (h : c.step? E (.advance i) = some d) :
    c.ledger.IsSettled ∧ d.ledger.HeadsFor (c.outcomes ++ flushOutcomes c.waiting) := by
  obtain ⟨l, r, hc, rfl⟩ := transition_drain ho.toNumbered hi h
  obtain ⟨⟨hundecided, hnotices⟩, hl, hr⟩ := ho.alone hc rfl
  refine ⟨⟨hundecided, hnotices, by simp [ledger_def, hc, hl, hr]⟩,
    Or.inl ⟨hundecided, hnotices, ?_⟩⟩
  simp [ledger_def, hl, hr, notices_failingAll, outcomes, Occurrence.outcome?, flushOutcomes,
    waiting, Outcome.ofNotice, Function.comp_def]

theorem Reachable.headsFor {moves : List Move} {goal : List (FrameTag × Outcome)}
    (hc : Reachable E sensor c) (h : c.run? E moves = some d) (hgoal : c.ledger.HeadsFor goal) :
    d.ledger.HeadsFor goal :=
  hc.run_induct (P := fun c => c.ledger.HeadsFor goal) h hgoal
    fun hb hstep => ((hb.transition hstep).ledger hb.orderly).headsFor

/-- While nobody has a request, all requests have their outcome or wait. -/
theorem Reachable.balance_of_settled (hc : Reachable E sensor c) (hs : c.ledger.IsSettled) :
    c.outcomes.map (·.1) ++ c.waiting = c.admissions := by
  have hbalance := hc.balanced.balance
  simp only [Ledger.inHand, Ledger.drained, hs.undecided, hs.failing, hs.reports, List.map_nil,
    List.append_nil] at hbalance
  exact hbalance

/-- No request that is admitted after a flush emptied the queue has its outcome
before the flush told of all requests that it took. -/
theorem Reachable.flush_reports_first {i : Nat} {status : Except Fault Unit}
    {moves : List Move} {before after : List (FrameTag × Outcome)} {p : FrameTag × Outcome}
    (hc : Reachable E sensor c) (hi : c.calls.lookup i = some (.clearing status []))
    (hd : c.step? E (.advance i) = some d) (he : d.run? E moves = some e)
    (hsplit : e.outcomes = before ++ p :: after) (hp : p.1 ∉ c.admissions) :
    c.outcomes ++ flushOutcomes c.waiting <+: before := by
  obtain ⟨hsettled, hheads⟩ := headsFor_of_drain hc.orderly hi hd
  refine ((hc.next hd).headsFor he hheads).prefix_before hsplit fun hmem => hp ?_
  rw [← hc.balance_of_settled hsettled, List.mem_append]
  rcases List.mem_append.mp hmem with hmem | hmem
  · exact Or.inl (List.mem_map_of_mem hmem)
  · obtain ⟨tag, htag, rfl⟩ := List.mem_map.mp hmem
    exact Or.inr htag

/-! ## Exposures -/

end Camera

namespace Occurrence

def exposure? : Occurrence → Option (FrameTag × Event)
  | told _ tag event => if event.isExposure then some (tag, event) else none
  | _ => none

def result? : Occurrence → Option (FrameTag × ResultRecord)
  | told _ tag (.result record) => some (tag, record)
  | _ => none

end Occurrence

def resultNotice? : FrameTag × Event → Option (FrameTag × ResultRecord)
  | (tag, .result record) => some (tag, record)
  | (_, .shutter ..) | (_, .error ..) => none

theorem eq_of_resultNotice? {q : FrameTag × Event} {p : FrameTag × ResultRecord}
    (h : resultNotice? q = some p) : q = (p.1, .result p.2) := by
  obtain ⟨tag, event⟩ := q
  cases event with
  | result record =>
      cases h
      rfl
  | _ => cases h

namespace Shot

/-- There is one result in what is told of a captured frame. -/
theorem results_of_exposures (captured : List (UInt64 × Shot)) :
    ((captured.flatMap fun p => p.2.exposure p.1).filterMap resultNotice?).map (·.1) =
      (captured.map (·.2)).filterMap tag? := by
  induction captured with
  | nil => rfl
  | cons p rest ih =>
      rw [List.flatMap_cons, List.filterMap_append, List.map_append, ih, List.map_cons]
      cases htag : p.2.tag? with
      | none => simp [exposure, htag]
      | some tag =>
          rw [exposure, htag, List.filterMap_cons_some htag]
          rfl

theorem tag?_eq {shot : Shot} {tag : FrameTag} (h : shot.BelongsTo tag) :
    shot.tag? = some tag := by
  obtain ⟨m, rest, hm, htag⟩ := h.exists_cons
  simp [tag?, hm, htag]

/-- The result in what is told of captured frames comes right after its own
shutter. -/
theorem shutter_before_result {captured : List (UInt64 × Shot)}
    {before after : List (FrameTag × Event)} {tag : FrameTag} {record : ResultRecord}
    (h : before ++ (tag, .result record) :: after = captured.flatMap fun p => p.2.exposure p.1) :
    ∃ time shot earlier, (time, shot) ∈ captured ∧ shot.tag? = some tag ∧
      record = shot.completed ∧
      before = earlier ++ [(tag, .shutter shot.result.pipeline shot.result.frame time)] := by
  induction captured generalizing before with
  | nil => simp at h
  | cons p rest ih =>
      obtain ⟨time, shot⟩ := p
      rw [List.flatMap_cons] at h
      cases htag : shot.tag? with
      | none =>
          rw [exposure, htag] at h
          obtain ⟨time', shot', earlier, hmem, hrest⟩ := ih h
          exact ⟨time', shot', earlier, List.mem_cons_of_mem _ hmem, hrest⟩
      | some owner =>
          rw [exposure, htag] at h
          simp only [Option.toList_some, List.flatMap_singleton, List.cons_append,
            List.nil_append] at h
          -- where the result stands: it is no shutter, it is the second notice, or it is later
          match before with
          | [] => simp at h
          | [b] =>
              obtain ⟨rfl, heq, -⟩ := by simpa using h
              obtain ⟨rfl, rfl⟩ := heq
              exact ⟨time, shot, [], List.mem_cons_self, htag, rfl, rfl⟩
          | b :: b' :: before =>
              simp only [List.cons_append, List.cons.injEq] at h
              obtain ⟨rfl, rfl, h⟩ := h
              obtain ⟨time', shot', earlier, hmem, htag', hrecord, rfl⟩ := ih h
              exact ⟨time', shot', _ :: _ :: earlier, List.mem_cons_of_mem _ hmem, htag',
                hrecord, rfl⟩

end Shot

/-! ## The order of results -/

namespace Camera

open Sensor (Recorder Simulated)

variable {σ : Type} {E : Engine σ} {sensor : σ}

def exposures (c : Camera σ) : List (FrameTag × Event) :=
  c.stage.history Occurrence.exposure?

def results (c : Camera σ) : List (FrameTag × ResultRecord) :=
  c.stage.history Occurrence.result?

/-- What the processor tells is no exposure. -/
theorem Reachable.exposures_eq {c : Camera σ} (hc : Reachable E sensor c) :
    c.exposures =
      (c.stage.history Occurrence.sensorNotice?).filter (·.2.isExposure) := by
  have hmem : ∀ o ∈ c.stage.record,
      o.exposure? = (o.sensorNotice?).filter (·.2.isExposure) := by
    intro o ho
    cases o with
    | told speaker tag event =>
        cases speaker with
        | sensor => simp [Occurrence.exposure?, Occurrence.sensorNotice?, Option.filter]
        | processor =>
            have houtcome : (tag, .told event) ∈ c.outcomes := Stage.mem_history.mpr ⟨_, ho, rfl⟩
            have hevent : event.isExposure = false := by
              rcases hc.truthful.outcomes _ houtcome with (h | h | h) | h
              · cases h
              · exact Outcome.told.inj h ▸ rfl
              · exact Outcome.told.inj h ▸ rfl
              · cases h
            simp [Occurrence.exposure?, Occurrence.sensorNotice?, hevent]
    | _ => rfl
  rw [exposures, Stage.history, Stage.history, List.filter_filterMap]
  exact List.filterMap_congr fun o ho => hmem o (List.mem_reverse.mp ho)

variable {period : Nat} {c : Camera Simulated}

theorem roll_handed (c : Camera Simulated) : c.roll.handed = c.handOvers.map (·.2) := by
  rw [handOvers, Stage.history, List.map_filterMap]
  refine congrArg (List.filterMap · c.stage.record.reverse) (funext fun o => ?_)
  cases o <;> rfl

/-- Frames are told about in the name of the requests that they were handed over
for. -/
theorem Reachable.tags_of_handed (hc : Reachable Simulated.engine { period } c) :
    c.roll.handed.filterMap Shot.tag? = c.handOvers.map (·.1) := by
  rw [roll_handed, List.filterMap_map, ← List.filterMap_eq_map]
  refine List.filterMap_congr fun p hp => ?_
  exact Shot.tag?_eq (hc.tagged.handOvers p hp)

theorem Reachable.exists_tag (hc : Reachable Simulated.engine { period } c) {shot : Shot}
    (hshot : shot ∈ c.roll.handed) : ∃ tag, shot.tag? = some tag ∧ shot.BelongsTo tag := by
  rw [roll_handed] at hshot
  obtain ⟨p, hp, rfl⟩ := List.mem_map.mp hshot
  have hbelongs := hc.tagged.handOvers p hp
  exact ⟨p.1, Shot.tag?_eq hbelongs, hbelongs⟩

theorem Reachable.handed_sublist (hc : Reachable Simulated.engine { period } c) :
    (c.roll.handed.filterMap Shot.tag?).Sublist c.admissions := by
  rw [hc.tags_of_handed]
  exact (handOvers_sublist c).trans hc.balanced.outcomes_prefix.sublist

theorem results_eq (c : Camera σ) : c.results = c.exposures.filterMap resultNotice? := by
  rw [results, exposures, Stage.history, Stage.history, List.filterMap_filterMap]
  congr
  funext o
  cases o with
  | told speaker tag event => cases event <;> rfl
  | _ => rfl

theorem Reachable.results_sublist (hc : Reachable Simulated.engine { period } c) :
    (c.results.map (·.1)).Sublist c.admissions := by
  obtain ⟨captured, given, hexposures, -, horder, -⟩ := hc.rolled.whole
  have hall : c.exposures <+: captured.flatMap fun p => p.2.exposure p.1 := by
    rw [← hexposures, hc.exposures_eq]
    exact List.prefix_append _ _
  have hcaptured : (captured.map (·.2)).Sublist c.roll.handed :=
    (List.sublist_append_left _ _).trans horder
  have hresults : (c.results.map (·.1)).Sublist ((captured.map (·.2)).filterMap Shot.tag?) := by
    rw [results_eq, ← Shot.results_of_exposures]
    exact (hall.sublist.filterMap _).map _
  exact hresults.trans ((hcaptured.filterMap _).trans hc.handed_sublist)

theorem Reachable.shutter_before_result (hc : Reachable Simulated.engine { period } c)
    {before after : List (FrameTag × Event)} {tag : FrameTag} {record : ResultRecord}
    (h : c.exposures = before ++ (tag, .result record) :: after) :
    ∃ time earlier, before = earlier ++ [(tag, .shutter tag.pipeline tag.frame time)] ∧
      record.pipeline = tag.pipeline ∧ record.frame = tag.frame := by
  obtain ⟨captured, given, hexposures, -, horder, -⟩ := hc.rolled.whole
  have hall : before ++ (tag, .result record) :: (after ++ c.roll.exposing) =
      captured.flatMap fun p => p.2.exposure p.1 := by
    rw [← hexposures, ← List.cons_append, ← List.append_assoc, ← h, hc.exposures_eq]
    rfl
  obtain ⟨time, shot, earlier, hmem, htag, rfl, rfl⟩ := Shot.shutter_before_result hall
  have hshot : shot ∈ c.roll.handed :=
    horder.subset (List.mem_append_left _ (List.mem_map_of_mem hmem))
  obtain ⟨owner, howner, -, -, hpipeline, hframe⟩ := hc.exists_tag hshot
  obtain rfl : tag = owner := Option.some.inj (htag.symm.trans howner)
  exact ⟨time, earlier, by rw [hpipeline, hframe], hpipeline, hframe⟩

/-- The outcomes of the processor come in the order of admission; no request
admitted after a flush emptied the queue has its outcome before the flush told
of all requests that it took.  The results of the simulated sensor come in the
order of admission too, and each is told right after the shutter of its own
frame. -/
theorem outcomes_follow_admissions :
    (∀ {σ : Type} {E : Engine σ} {sensor : σ} {c : Camera σ}, Reachable E sensor c →
      c.admissions.Nodup ∧ c.outcomes.map (·.1) <+: c.admissions ∧
        ∀ {i : Nat} {status : Except Fault Unit} {d e : Camera σ} {moves : List Move},
          c.calls.lookup i = some (.clearing status []) → c.step? E (.advance i) = some d →
          d.run? E moves = some e →
          ∀ before p after, e.outcomes = before ++ p :: after → p.1 ∉ c.admissions →
            c.outcomes ++ flushOutcomes c.waiting <+: before) ∧
      ∀ {period : Nat} {c : Camera Simulated}, Reachable Simulated.engine { period } c →
        (c.results.map (·.1)).Sublist c.admissions ∧
          ∀ before tag record after, c.exposures = before ++ (tag, Event.result record) :: after →
            ∃ time earlier,
              before = earlier ++ [(tag, Event.shutter tag.pipeline tag.frame time)] ∧
                record.pipeline = tag.pipeline ∧ record.frame = tag.frame := by
  constructor
  · intro σ E sensor c hc
    refine ⟨hc.balanced.nodup, hc.balanced.outcomes_prefix, ?_⟩
    intro i status d e moves hi hd he before p after hsplit hp
    exact hc.flush_reports_first hi hd he hsplit hp
  · intro period c hc
    refine ⟨hc.results_sublist, ?_⟩
    intro before tag record after h
    exact hc.shutter_before_result h

/-- Two requests wait, and a flush is about to take them. -/
def beforeDrain : Camera Recorder :=
  Sample.after Recorder.engine {}
    (List.flatten [
      .submit 7 [Sample.plain, Sample.preview] [Sample.pipeline] :: List.replicate 4 (.advance 0),
      [.flush, .advance 1]])
    (by decide +kernel)

/-- The flush takes them, and a third request is admitted before it has told of
them; the worker hands that over in the end. -/
def fromDrain : List Move :=
  List.flatten [
    .submit 7 [Sample.preview] [Sample.pipeline] :: List.replicate 3 (.advance 2),
    List.replicate 5 (.advance 1), List.replicate 7 .worker]

/-- A request, and a tick that captures its frame. -/
def afterCapture : Camera Simulated :=
  Sample.after Simulated.engine { period := 0 }
    (List.flatten [
      .submit 7 [Sample.preview] [Sample.pipeline] :: List.replicate 3 (.advance 0),
      List.replicate 7 .worker, List.replicate 6 .sensor])
    (by decide +kernel)

theorem outcomes_follow_admissions_past_drain :
    (∃ d e : Camera Recorder, Reachable Recorder.engine {} beforeDrain ∧
      beforeDrain.calls.lookup 1 = some (.clearing (.ok ()) []) ∧
      beforeDrain.step? Recorder.engine (.advance 1) = some d ∧
      d.run? Recorder.engine fromDrain = some e ∧
      e.outcomes =
        flushOutcomes [Sample.tag 0, Sample.tag 1] ++ [(Sample.tag 2, Outcome.handedOver)] ∧
      beforeDrain.outcomes ++ flushOutcomes beforeDrain.waiting <+:
        flushOutcomes [Sample.tag 0, Sample.tag 1]) ∧
    Reachable Simulated.engine { period := 0 } afterCapture ∧
      (afterCapture.results.map (·.1)).Sublist afterCapture.admissions ∧
      ∃ before tag record after,
        afterCapture.exposures = before ++ (tag, Event.result record) :: after ∧
          ∃ time earlier,
            before = earlier ++ [(tag, Event.shutter tag.pipeline tag.frame time)] ∧
              record.pipeline = tag.pipeline ∧ record.frame = tag.frame := by
  constructor
  · have hlookup : beforeDrain.calls.lookup 1 = some (.clearing (.ok ()) []) := rfl
    have hrun : ((beforeDrain.step? Recorder.engine (.advance 1)).bind fun d =>
        d.run? Recorder.engine fromDrain).map outcomes =
          some (flushOutcomes [Sample.tag 0, Sample.tag 1] ++ [(Sample.tag 2, .handedOver)]) := by
      decide +kernel
    obtain ⟨e, he, houtcomes⟩ := Option.map_eq_some_iff.mp hrun
    obtain ⟨d, hd, he⟩ := Option.bind_eq_some_iff.mp he
    have hnew : Sample.tag 2 ∉ beforeDrain.admissions := by decide +kernel
    obtain ⟨-, -, hbarrier⟩ := outcomes_follow_admissions.1 Sample.reachable_after
    exact ⟨d, e, Sample.reachable_after, hlookup, hd, he, houtcomes,
      hbarrier hlookup hd he _ _ [] houtcomes hnew⟩
  · have hresult : afterCapture.exposures.filterMap resultNotice? ≠ [] := by decide +kernel
    obtain ⟨p, hp⟩ := List.exists_mem_of_ne_nil _ hresult
    obtain ⟨q, hq, hqp⟩ := List.mem_filterMap.mp hp
    obtain rfl := eq_of_resultNotice? hqp
    obtain ⟨before, after, hsplit⟩ := List.append_of_mem hq
    obtain ⟨hresults, hshutters⟩ := outcomes_follow_admissions.2 Sample.reachable_after
    exact ⟨Sample.reachable_after, hresults, before, p.1, p.2, after, hsplit,
      hshutters before p.1 p.2 after hsplit⟩

end Camera

end VirtualCamera
