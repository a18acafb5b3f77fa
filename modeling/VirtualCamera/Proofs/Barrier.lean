import VirtualCamera.Proofs.Calls
import VirtualCamera.Proofs.Order

/-!
# A flush is a barrier

A flush waits until it can take both locks at once; then it flushes the sensor
and empties the queue before it gives the queue lock back (`CriticalSection`).
In between nothing happens to requests: the worker has none, because the flush
holds the dispatch lock, and none is admitted, because it holds the queue lock.

From then on the processor heads for the notices of the requests that were in
the queue (`Ledger.HeadsFor`), so none of the requests from before is handed
over any more.  The notices are the flush's own (`callTells`), and what it
returns is the status that the sensor gave.
-/

namespace VirtualCamera

/-- A step of the ledger that admits nothing, with nobody having a request
before and after. -/
theorem Ledger.Step.eq_of_isSettled {b b' : Ledger} (h : b.Step b') (hb : b.IsSettled)
    (hb' : b'.IsSettled) (hissued : b'.issued = b.issued) : b' = b := by
  obtain ⟨hundecided, hfailing, hreports⟩ := hb
  cases h with
  | still => rfl
  | admitOne => exact absurd hissued (Nat.succ_ne_self _)
  | take => cases hb'.undecided
  | handOver hu | lose hu | fail hu => cases hundecided ▸ hu
  | tell hf => cases hfailing ▸ hf
  | report hr => cases hreports ▸ hr
  | drain =>
      have hwaiting : b.waiting = [] := List.map_eq_nil_iff.mp hb'.reports
      cases b
      simp_all

def Occurrence.notice? : Occurrence → Option (FrameTag × Event)
  | told _ tag event => some (tag, event)
  | _ => none

@[simp] theorem Occurrence.notice?_effect (e : Effect) (speaker : Speaker) :
    (e.occurrence speaker).notice? = e.notice? := by
  cases e <;> rfl

namespace Camera

variable {σ : Type} {E : Engine σ} {c d e : Camera σ} {sensor : σ} {i : Nat}
  {status : Except Fault Unit}

/-! ## While a flush holds both locks -/

/-- While a flush holds the dispatch lock, nobody else has a request, and it
has none before it empties the queue. -/
theorem Orderly.isSettled {effects : List Effect} (ho : c.Orderly)
    (hi : c.calls.lookup i = some (.clearing status effects)) : c.ledger.IsSettled := by
  obtain ⟨l, r, hc⟩ := exists_split_of_lookup hi
  obtain ⟨⟨hundecided, hnotices⟩, hl, hr⟩ := ho.alone hc rfl
  exact ⟨hundecided, hnotices, by simp [ledger_def, hc, hl, hr]⟩

/-- While a flush holds the queue lock, nothing is admitted. -/
theorem Orderly.admitted_eq {effects : List Effect} {m : Move} (ho : c.Orderly)
    (hi : c.calls.lookup i = some (.clearing status effects)) (h : Transition E c m d) :
    d.admitted = c.admitted := by
  obtain ⟨l, r, hc⟩ := exists_split_of_lookup hi
  have hmem : (i, Call.clearing status effects) ∈ c.calls := by simp [hc]
  cases h with
  | @admitOne l' r' j phase frame table q left p store a hc' hgo =>
      exfalso
      rcases hgo with rfl | ⟨-, hlock, -⟩
      · -- two calls would hold the lock
        have hqueue := ho.queue
        have hother : (i, Call.clearing status effects) ∈ l' ++ r' := by
          rw [hc'] at hmem
          simpa using hmem
        have hpos : 0 < (l' ++ r').countP (·.2.holdsQueue) :=
          List.countP_pos_iff.mpr ⟨_, hother, rfl⟩
        simp only [queueHolders, hc', List.countP_append, List.countP_cons, Call.holdsQueue,
          if_true] at hqueue hpos
        omega
      · rw [queueIsFree_iff, queueHolders] at hlock
        have hpos : 0 < c.calls.countP (·.2.holdsQueue) :=
          List.countP_pos_iff.mpr ⟨_, hmem, rfl⟩
        omega
  | _ => rfl

theorem ledger_of_clearing {effects rest : List Effect} {m : Move} (hc : Reachable E sensor c)
    (hi : c.calls.lookup i = some (.clearing status effects)) (h : c.step? E m = some d)
    (hi' : d.calls.lookup i = some (.clearing status rest)) : d.ledger = c.ledger :=
  ((hc.transition h).ledger hc.orderly).eq_of_isSettled (hc.orderly.isSettled hi)
    ((hc.next h).orderly.isSettled hi') (hc.orderly.admitted_eq hi (hc.transition h))

/-! ## The moves of a flush -/

/-- The first move of a flush takes both locks and flushes the sensor. -/
theorem step?_of_flushing {m : Move} (hi : c.calls.lookup i = some .flushing)
    (hm : m.call? = some i) (h : c.step? E m = some d) :
    c.dispatchIsFree = true ∧ d = c.flushSensor E i ∧
      d.calls.lookup i = some (.clearing (E.flush c.stage.sensor).2.2
        (E.flush c.stage.sensor).2.1) := by
  cases m with
  | advance j =>
      obtain rfl : j = i := Option.some.inj hm
      simp only [step?, callStep?, hi, Option.ite_none_right_eq_some, Bool.and_eq_true,
        Option.some.injEq] at h
      obtain ⟨⟨hfree, -⟩, rfl⟩ := h
      exact ⟨hfree, rfl, lookup_put hi⟩
  | expire j =>
      obtain rfl : j = i := Option.some.inj hm
      simp [step?, expire?, hi] at h
  | _ => cases hm

theorem step?_of_clearing {effects : List Effect} {m : Move}
    (hi : c.calls.lookup i = some (.clearing status effects)) (hm : m.call? = some i)
    (h : c.step? E m = some d) :
    (∃ e rest, effects = e :: rest ∧
      d = { c with stage := c.stage.perform .sensor e }.put i (.clearing status rest)) ∨
      effects = [] ∧ d = c.drain i status := by
  cases m with
  | advance j =>
      obtain rfl : j = i := Option.some.inj hm
      cases effects with
      | nil => exact Or.inr ⟨rfl, by simpa [step?, callStep?, hi, eq_comm] using h⟩
      | cons e rest =>
          exact Or.inl ⟨e, rest, rfl, by simpa [step?, callStep?, hi, eq_comm] using h⟩
  | expire j =>
      obtain rfl : j = i := Option.some.inj hm
      simp [step?, expire?, hi] at h
  | _ => cases hm

theorem step?_of_reporting {effects : List Effect} {m : Move}
    (hi : c.calls.lookup i = some (.reporting status effects)) (hm : m.call? = some i)
    (h : c.step? E m = some d) :
    (∃ e rest, effects = e :: rest ∧
      d = { c with stage := c.stage.perform .processor e }.put i (.reporting status rest)) ∨
      effects = [] ∧ d = c.finish i status := by
  cases m with
  | advance j =>
      obtain rfl : j = i := Option.some.inj hm
      cases effects with
      | nil => exact Or.inr ⟨rfl, by simpa [step?, callStep?, hi, eq_comm] using h⟩
      | cons e rest =>
          exact Or.inl ⟨e, rest, rfl, by simpa [step?, callStep?, hi, eq_comm] using h⟩
  | expire j =>
      obtain rfl : j = i := Option.some.inj hm
      simp [step?, expire?, hi] at h
  | _ => cases hm

/-! ## A flush after the drain -/

/-- A flush with this status has emptied the queue: it tells of the requests
that it took, or it has returned the status. -/
inductive HasDrained (i : Nat) (status : Except Fault Unit) (c : Camera σ) : Prop
  | reporting {effects : List Effect}
      (hi : c.calls.lookup i = some (.reporting status effects))
  | returned (hi : c.calls.lookup i = none) (hlt : i < c.opened)
      (ha : c.stage.answer? i = some status)

theorem HasDrained.step {m : Move} (hc : Reachable E sensor c) (h : c.step? E m = some d)
    (hd : c.HasDrained i status) : d.HasDrained i status := by
  have hstep := hc.transition h
  cases hd with
  | @reporting effects hi =>
      have hlt := hc.orderly.toNumbered.lt_of_lookup hi
      by_cases hm : m.call? = some i
      · rcases step?_of_reporting hi hm h with ⟨e, rest, -, rfl⟩ | ⟨-, rfl⟩
        · exact .reporting (lookup_put hi)
        · exact .returned lookup_finish hlt (answer?_finish c i status)
      · exact .reporting ((hstep.lookup_eq hlt hm).trans hi)
  | returned hi hlt ha =>
      by_cases hm : m.call? = some i
      · rw [step?_of_returned hi hm] at h
        cases h
      · exact .returned ((hstep.lookup_eq hlt hm).trans hi) (Nat.lt_of_lt_of_le hlt hstep.opened_le)
          ((hstep.answer?_eq hlt hm).trans ha)

theorem HasDrained.run {moves : List Move} (hc : Reachable E sensor c)
    (h : c.run? E moves = some d) (hd : c.HasDrained i status) : d.HasDrained i status :=
  hc.run_induct (P := fun c => c.HasDrained i status) h hd fun hb hstep ih => ih.step hb hstep

theorem HasDrained.answer_eq {answer : Except Fault Unit} (hc : Reachable E sensor c)
    (hd : c.HasDrained i status) (ha : c.stage.answer? i = some answer) :
    answer = status ∧ c.calls.lookup i = none := by
  cases hd with
  | reporting hi =>
      rw [hc.answer?_eq_none hi] at ha
      cases ha
  | returned hi _ ha' => exact ⟨Option.some.inj (ha.symm.trans ha'), hi⟩

/-! ## What a flush tells -/

def tells (c : Camera σ) : List (FrameTag × Event) :=
  c.stage.history Occurrence.notice?

/-- What a call tells listeners in a run: what its own moves add. -/
def callTells (E : Engine σ) (i : Nat) (c : Camera σ) : List Move → List (FrameTag × Event)
  | [] => []
  | m :: rest =>
    match c.step? E m with
    | none => []
    | some d =>
      (if m.call? = some i then d.tells.drop c.tells.length else []) ++ d.callTells E i rest

/-- What a call is about to tell in the name of the processor. -/
def pendingTells (c : Camera σ) (i : Nat) : List (FrameTag × Event) :=
  ((c.calls.lookup i).map Call.notices).getD []

/-- What a flush tells is taken from what it is about to tell. -/
theorem HasDrained.tells_step {m : Move} (hc : Reachable E sensor c)
    (hd : c.HasDrained i status) (h : c.step? E m = some d) :
    (if m.call? = some i then d.tells.drop c.tells.length else []) ++ d.pendingTells i =
      c.pendingTells i := by
  have hstep := hc.transition h
  by_cases hm : m.call? = some i
  · rw [if_pos hm]
    cases hd with
    | @reporting effects hi =>
        rcases step?_of_reporting hi hm h with ⟨e, rest, rfl, rfl⟩ | ⟨rfl, rfl⟩
        · have htells : tells ({ c with stage := c.stage.perform .processor e }.put i
              (.reporting status rest)) = c.tells ++ e.notice?.toList := by
            simp [tells, put]
          have hput : ({ c with stage := c.stage.perform .processor e }.put i
              (.reporting status rest)).calls.lookup i = some (.reporting status rest) :=
            lookup_put hi
          rw [htells, List.drop_left, pendingTells, pendingTells, hput, hi]
          exact (notices_cons e rest).symm
        · have htells : (c.finish i status).tells = c.tells := by
            simp [tells, finish, Occurrence.notice?]
          rw [htells, List.drop_length, pendingTells, pendingTells, lookup_finish, hi]
          rfl
    | returned hi =>
        rw [step?_of_returned hi hm] at h
        cases h
  · have hlt : i < c.opened := by
      cases hd with
      | reporting hi => exact hc.orderly.toNumbered.lt_of_lookup hi
      | returned _ hlt => exact hlt
    rw [if_neg hm, List.nil_append, pendingTells, pendingTells, hstep.lookup_eq hlt hm]

/-- In a run a flush tells of the requests that it took, in order, as far as it
gets. -/
theorem HasDrained.callTells_eq {moves : List Move} (hc : Reachable E sensor c)
    (hd : c.HasDrained i status) (h : c.run? E moves = some e) :
    c.callTells E i moves ++ e.pendingTells i = c.pendingTells i := by
  induction moves generalizing c with
  | nil =>
      cases h
      rfl
  | cons m rest ih =>
      obtain ⟨b, hb, he⟩ := Option.bind_eq_some_iff.mp (run?_cons ▸ h)
      have hrest := ih (hc.next hb) (hd.step hc hb) he
      simp only [callTells, hb, List.append_assoc, hrest]
      exact hd.tells_step hc hb

/-! ## The critical section -/

/-- From `c` to `d` a flush holds both locks: it takes them and flushes the
sensor, and at the end it empties the queue. -/
def CriticalSection (E : Engine σ) (i : Nat) (c d : Camera σ) : Prop :=
  c.calls.lookup i = some .flushing ∧
    ∃ (s b : Camera σ) (status : Except Fault Unit) (inside : List Move),
      c.step? E (.advance i) = some s ∧ s.run? E inside = some b ∧
        b.calls.lookup i = some (.clearing status []) ∧ b.step? E (.advance i) = some d

theorem ledger_of_flushing (hc : Reachable E sensor c) (hi : c.calls.lookup i = some .flushing)
    (h : c.step? E (.advance i) = some d) : d.ledger = c.ledger := by
  obtain ⟨hfree, hd, hi'⟩ := step?_of_flushing hi rfl h
  exact ((hc.transition h).ledger hc.orderly).eq_of_isSettled (isSettled_of_free hfree)
    ((hc.next h).orderly.isSettled hi') (hd ▸ rfl)

theorem ledger_inside {moves : List Move} {effects : List Effect} (hc : Reachable E sensor c)
    (hi : c.calls.lookup i = some (.clearing status effects)) (h : c.run? E moves = some d) :
    (∃ rest, d.calls.lookup i = some (.clearing status rest) ∧ d.ledger = c.ledger) ∨
      d.HasDrained i status := by
  refine hc.run_induct (P := fun b => (∃ rest, b.calls.lookup i = some (.clearing status rest) ∧
    b.ledger = c.ledger) ∨ b.HasDrained i status) h (Or.inl ⟨effects, hi, rfl⟩) ?_
  rintro a b m ha hstep (⟨left, hleft, hledger⟩ | hdrained)
  · have hlt := ha.orderly.toNumbered.lt_of_lookup hleft
    have hnext (rest : List Effect) (hrest : b.calls.lookup i = some (.clearing status rest)) :
        b.ledger = c.ledger := (ledger_of_clearing ha hleft hstep hrest).trans hledger
    by_cases hm : m.call? = some i
    · rcases step?_of_clearing hleft hm hstep with ⟨e, rest, -, hb⟩ | ⟨-, hb⟩
      · have hrest : b.calls.lookup i = some (.clearing status rest) := hb ▸ lookup_put hleft
        exact Or.inl ⟨rest, hrest, hnext rest hrest⟩
      · have hreporting : b.calls.lookup i = some (.reporting status (failingAll a.queue)) := by
          rw [hb]
          exact lookup_put hleft
        exact Or.inr (.reporting hreporting)
    · have hrest := ((ha.transition hstep).lookup_eq hlt hm).trans hleft
      exact Or.inl ⟨left, hrest, hnext left hrest⟩
  · exact Or.inr (hdrained.step ha hstep)

/-- What a critical section comes to: nobody had a request when it began, it
changed no outcome, and at its end the flush is about to tell of all requests
that waited. -/
structure Cleared (E : Engine σ) (i : Nat) (c d : Camera σ) : Prop where
  settled : c.ledger.IsSettled
  queue : d.queue = []
  admissions : d.admissions = c.admissions
  outcomes : d.outcomes = c.outcomes
  heads : d.ledger.HeadsFor (c.outcomes ++ flushOutcomes c.waiting)
  drained : d.HasDrained i (E.flush c.stage.sensor).2.2
  pending : d.pendingTells i = c.waiting.map fun tag => (tag, tag.failure .request)

theorem CriticalSection.reachable (hc : Reachable E sensor c) (h : CriticalSection E i c d) :
    Reachable E sensor d := by
  obtain ⟨-, s, b, status, inside, hs, hb, -, hd⟩ := h
  exact ((hc.next hs).run? hb).next hd

theorem CriticalSection.cleared (hc : Reachable E sensor c) (h : CriticalSection E i c d) :
    Cleared E i c d := by
  obtain ⟨hi, s, b, status, inside, hs, hb, hi', hd⟩ := h
  obtain ⟨hfree, -, his⟩ := step?_of_flushing hi rfl hs
  have hbreach := (hc.next hs).run? hb
  rcases ledger_inside (hc.next hs) his hb with ⟨rest, hrest, hledger⟩ | hdrained
  · rw [ledger_of_flushing hc hi hs] at hledger
    obtain ⟨rfl, rfl⟩ : (E.flush c.stage.sensor).2.2 = status ∧ rest = [] := by
      simpa [hi'] using hrest.symm
    have houtcomes : b.outcomes = c.outcomes := congrArg Ledger.outcomes hledger
    have hwaiting : b.waiting = c.waiting := congrArg Ledger.waiting hledger
    have hadmissions : b.admissions = c.admissions := congrArg Ledger.admissions hledger
    have hheads := (headsFor_of_drain hbreach.orderly hi' hd).2
    rw [houtcomes, hwaiting] at hheads
    have hdrain : d = b.drain i (E.flush c.stage.sensor).2.2 := by
      simpa [step?, callStep?, hi', eq_comm] using hd
    have hreporting : d.calls.lookup i =
        some (.reporting (E.flush c.stage.sensor).2.2 (failingAll b.queue)) := by
      rw [hdrain]
      exact lookup_put hi'
    refine ⟨isSettled_of_free hfree, by rw [hdrain]; rfl, ?_, ?_, hheads, .reporting hreporting, ?_⟩
    · rw [← hadmissions, hdrain]
      simp [admissions, drain, put, Occurrence.admission?]
    · rw [← houtcomes, hdrain]
      simp [outcomes, drain, put, Occurrence.outcome?]
    · rw [pendingTells, hreporting, ← hwaiting, waiting, List.map_map]
      exact notices_failingAll b.queue
  · -- a flush that emptied the queue does not come back
    cases hdrained with
    | reporting hr => cases hi'.symm.trans hr
    | returned hr => cases hi'.symm.trans hr

/-! ## After the critical section -/

/-- What the requests from before a critical section come to after it: they are
failed by the flush. -/
theorem Cleared.outcomes_after {moves : List Move} (hc : Reachable E sensor c)
    (hd : Reachable E sensor d) (h : Cleared E i c d) (he : d.run? E moves = some e) :
    ∃ new, e.outcomes = c.outcomes ++ new ∧
      ∀ p ∈ new, p.1 ∈ c.admissions → p ∈ flushOutcomes c.waiting := by
  obtain ⟨new, hnew⟩ : c.outcomes <+: e.outcomes :=
    h.outcomes ▸ Stage.history_prefix (record_suffix_of_run? hd he) _
  refine ⟨new, hnew.symm, fun p hp hadmitted => ?_⟩
  rcases hd.headsFor he h.heads with ⟨-, -, hgoal⟩ | ⟨late, hlate⟩
  · have hflush : new ++ e.ledger.reports.map Outcome.ofNotice = flushOutcomes c.waiting := by
      rw [← List.append_right_inj c.outcomes, ← hgoal, ← List.append_assoc, hnew]
      rfl
    exact hflush ▸ List.mem_append_left _ hp
  · replace hlate : c.outcomes ++ flushOutcomes c.waiting ++ late = e.outcomes := hlate
    have hsplit : new = flushOutcomes c.waiting ++ late := by
      rw [← List.append_right_inj c.outcomes, hnew, ← hlate, List.append_assoc]
    rw [hsplit, List.mem_append] at hp
    refine hp.resolve_right fun hp => ?_
    -- all requests from before have their outcome by then, and none has two
    have hnodup := (hd.run? he).nodup_outcomes
    have hbefore : (c.outcomes ++ flushOutcomes c.waiting).map (·.1) = c.admissions := by
      rw [← hc.balance_of_settled h.settled, List.map_append, flushOutcomes, List.map_map]
      simp [Function.comp_def]
    rw [← hlate, List.map_append, hbefore, List.nodup_append] at hnodup
    exact hnodup.2.2 _ hadmitted _ (List.mem_map_of_mem hp) rfl

/-- If the sensor tells nothing when it is flushed, a critical section is two
moves long. -/
theorem criticalSection_of_steps {s : Camera σ} (hi : c.calls.lookup i = some .flushing)
    (hs : c.step? E (.advance i) = some s) (heffects : (E.flush c.stage.sensor).2.1 = [])
    (hd : s.step? E (.advance i) = some d) : CriticalSection E i c d := by
  obtain ⟨-, -, hi'⟩ := step?_of_flushing hi rfl hs
  rw [heffects] at hi'
  exact ⟨hi, s, s, _, [], hs, rfl, hi', hd⟩

/-- The runs that go through a critical section, from its first step on. -/
theorem CriticalSection.exists_run {moves : List Move} (h : CriticalSection E i c d)
    (he : d.run? E moves = some e) :
    ∃ all, (c.flushSensor E i).run? E all = some e ∧
      c.step? E (.advance i) = some (c.flushSensor E i) := by
  obtain ⟨hi, s, b, status, inside, hs, hb, -, hd⟩ := h
  obtain ⟨-, rfl, -⟩ := step?_of_flushing hi rfl hs
  refine ⟨inside ++ .advance i :: moves, ?_, hs⟩
  rw [run?_append, hb]
  exact run?_cons.trans (by rw [hd]; exact he)

end Camera

/-! ## The simulated sensor after the critical section -/

namespace Camera

open Sensor (Recorder Simulated)

variable {c d e : Camera Simulated} {i : Nat} {period : Nat}

theorem CriticalSection.roll_since {moves : List Move}
    (hc : Reachable Simulated.engine { period } c) (h : CriticalSection Simulated.engine i c d)
    (he : d.run? Simulated.engine moves = some e) :
    ∃ b : Roll, b.handed = c.roll.handed ∧ b.told = c.roll.told ∧
      b.exposing = c.roll.exposing ∧ b.Since e.roll := by
  obtain ⟨all, hall, hs⟩ := h.exists_run he
  exact ⟨(c.flushSensor Simulated.engine i).roll, rfl, rfl, rfl, (hc.next hs).roll_since hall rfl⟩

/-- The frames handed over after a critical section, as far as it goes, belong
to requests that were admitted after it. -/
theorem CriticalSection.not_mem_handed {moves : List Move} {handed : List Shot} {shot : Shot}
    {tag : FrameTag} (hc : Reachable Simulated.engine { period } c)
    (h : CriticalSection Simulated.engine i c d) (he : d.run? Simulated.engine moves = some e)
    (hhanded : e.roll.handed = c.roll.handed ++ handed) (hshot : shot ∈ handed)
    (htag : shot.tag? = some tag) : tag ∉ c.admissions := by
  intro hadmitted
  have hd := h.reachable hc
  obtain ⟨new, hnew, hold⟩ := (h.cleared hc).outcomes_after hc hd he
  have htags : handed.filterMap Shot.tag? = (new.filter (·.2 = .handedOver)).map (·.1) := by
    have hall := (hd.run? he).tags_of_handed
    rw [hhanded, List.filterMap_append, hc.tags_of_handed, tags_of_handOvers, tags_of_handOvers,
      hnew, List.filter_append, List.map_append] at hall
    exact List.append_cancel_left hall
  have hmem : tag ∈ handed.filterMap Shot.tag? := List.mem_filterMap.mpr ⟨shot, hshot, htag⟩
  rw [htags] at hmem
  obtain ⟨p, hp, rfl⟩ := List.mem_map.mp hmem
  obtain ⟨hp, hhandedOver⟩ := List.mem_filter.mp hp
  obtain ⟨tag', -, rfl⟩ := List.mem_map.mp (hold p hp hadmitted)
  simp at hhandedOver

theorem CriticalSection.slot_eq_none (hc : Reachable Simulated.engine { period } c)
    (h : CriticalSection Simulated.engine i c d) : d.stage.sensor.slot = none := by
  have hd := h.reachable hc
  have hrun : d.run? Simulated.engine [] = some d := rfl
  obtain ⟨b, hhanded, -, -, handed, captured, given, told, hhanded', -, -, -, horder, -⟩ :=
    h.roll_since hc hrun
  rw [hhanded] at hhanded'
  have hnone : handed = [] := by
    refine List.eq_nil_iff_forall_not_mem.mpr fun shot hshot => ?_
    have hmem : shot ∈ d.roll.handed := hhanded' ▸ List.mem_append_right _ hshot
    obtain ⟨tag, htag, -⟩ := hd.exists_tag hmem
    refine h.not_mem_handed hc hrun hhanded' hshot htag ?_
    rw [← (h.cleared hc).admissions]
    exact hd.handed_sublist.subset (List.mem_filterMap.mpr ⟨shot, hmem, htag⟩)
  rw [hnone, List.sublist_nil, List.append_eq_nil_iff] at horder
  exact Option.toList_eq_nil_iff.mp horder.2

/-- A request admitted before a critical section can have its result after it
only if the sensor was about to tell it when the section began. -/
theorem CriticalSection.result_pending {moves : List Move} {new : List (FrameTag × ResultRecord)}
    {p : FrameTag × ResultRecord} (hc : Reachable Simulated.engine { period } c)
    (h : CriticalSection Simulated.engine i c d) (he : d.run? Simulated.engine moves = some e)
    (hnew : e.results = c.results ++ new) (hp : p ∈ new) (hadmitted : p.1 ∈ c.admissions) :
    (p.1, .result p.2) ∈ c.stage.sensor.exposing := by
  obtain ⟨b, hhanded, htold, hexposing, handed, captured, given, told, hhanded', htold',
    hexposures, -, horder, -⟩ := h.roll_since hc he
  rw [hhanded] at hhanded'
  rw [htold] at htold'
  rw [hexposing] at hexposures
  have hresults : new = (told.filter (·.2.isExposure)).filterMap resultNotice? := by
    have hexp : e.exposures = c.exposures ++ told.filter (·.2.isExposure) := by
      rw [((h.reachable hc).run? he).exposures_eq, hc.exposures_eq, ← List.filter_append]
      exact congrArg _ htold'
    rw [results_eq, results_eq, hexp, List.filterMap_append] at hnew
    exact (List.append_cancel_left hnew).symm
  rw [hresults] at hp
  obtain ⟨q, hq, hqp⟩ := List.mem_filterMap.mp hp
  obtain rfl := eq_of_resultNotice? hqp
  have hmem : (p.1, .result p.2) ∈ c.roll.exposing ++ captured.flatMap fun p => p.2.exposure p.1 :=
    hexposures ▸ List.mem_append_left _ hq
  refine (List.mem_append.mp hmem).resolve_right fun hcaptured => ?_
  obtain ⟨⟨time, shot⟩, hshot, hexposure⟩ := List.mem_flatMap.mp hcaptured
  have htag : shot.tag? = some p.1 := Shot.tag?_of_mem_exposure hexposure
  have hin : shot ∈ handed :=
    horder.subset (List.mem_append_left _ (List.mem_map_of_mem hshot))
  exact h.not_mem_handed hc he hhanded' hin htag hadmitted

/-- A flush is a barrier.  When it takes both locks, nobody has a request: each
that was popped is settled, and one over which the worker crashed counts as
settled too (`Outcome.lost`).  When it gives the queue lock back, the queue is
empty, and nothing was admitted in between.  No request from before is handed to the sensor any more.  The flush
tells of exactly the requests that waited in the queue, each once and in their
order, and what it returns is the status that the sensor gave, whatever that
is.  The slot of the simulated sensor is empty then, so a request from before
has its result later only if a tick had taken it out of the slot. -/
theorem flush_is_a_barrier :
    (∀ {σ : Type} {E : Engine σ} {sensor : σ} {i : Nat} {c d e : Camera σ} {moves : List Move},
      Reachable E sensor c → CriticalSection E i c d → d.run? E moves = some e →
        (c.inHand = [] ∧ c.drained = [] ∧ d.queue = [] ∧ d.admissions = c.admissions) ∧
        (∃ new, e.outcomes = c.outcomes ++ new ∧
          ∀ tag ∈ c.admissions, (tag, .handedOver) ∉ new) ∧
        (c.waiting.Nodup ∧ d.callTells E i moves ++ e.pendingTells i =
          c.waiting.map fun tag => (tag, tag.failure .request)) ∧
        ∀ answer, e.stage.answer? i = some answer →
          answer = (E.flush c.stage.sensor).2.2 ∧ e.pendingTells i = []) ∧
      ∀ {period : Nat} {i : Nat} {c d e : Camera Simulated} {moves : List Move},
        Reachable Simulated.engine { period } c → CriticalSection Simulated.engine i c d →
          d.run? Simulated.engine moves = some e →
          d.stage.sensor.slot = none ∧
            ∀ new, e.results = c.results ++ new → ∀ p ∈ new, p.1 ∈ c.admissions →
              (p.1, .result p.2) ∈ c.stage.sensor.exposing := by
  refine ⟨fun {σ E sensor i c d e moves} hc h he => ?_, fun hc h he => ⟨h.slot_eq_none hc, ?_⟩⟩
  · have hcleared := h.cleared hc
    have hd := h.reachable hc
    obtain ⟨hundecided, hfailing, hreports⟩ := hcleared.settled
    obtain ⟨new, hnew, hold⟩ := hcleared.outcomes_after hc hd he
    refine ⟨⟨?_, ?_, hcleared.queue, hcleared.admissions⟩, ⟨new, hnew, ?_⟩, ?_, ?_⟩
    · rw [inHand, Ledger.inHand, hundecided, hfailing]
      rfl
    · rw [drained, Ledger.drained, hreports]
      rfl
    · intro tag hadmitted hmem
      obtain ⟨tag', -, heq⟩ := List.mem_map.mp (hold _ hmem hadmitted)
      simp at heq
    · refine ⟨?_, by rw [hcleared.drained.callTells_eq hd he, hcleared.pending]⟩
      have hwaiting : c.waiting.Sublist c.admissions :=
        hc.balance_of_settled hcleared.settled ▸ List.sublist_append_right _ _
      exact hc.balanced.nodup.sublist hwaiting
    · intro answer ha
      obtain ⟨hstatus, hi⟩ := (hcleared.drained.run hd he).answer_eq (hd.run? he) ha
      exact ⟨hstatus, by rw [pendingTells, hi]; rfl⟩
  · intro new hnew p hp hadmitted
    exact h.result_pending hc he hnew hp hadmitted

/-- Two requests wait, and a flush is about to begin, on a sensor that cannot
be flushed. -/
def beforeFlush : Camera Recorder :=
  Sample.after Recorder.engine { flushReason := some "stuck" }
    (List.flatten [
      .submit 7 [Sample.plain, Sample.preview] [Sample.pipeline] :: List.replicate 4 (.advance 0),
      [.flush]])
    (by decide +kernel)

/-- A third request is admitted, and the flush returns. -/
def fromFlush : List Move :=
  List.flatten [
    .submit 7 [Sample.preview] [Sample.pipeline] :: List.replicate 3 (.advance 2),
    List.replicate 5 (.advance 1)]

/-- A flush is about to begin when a tick has just taken a frame out of the
slot. -/
def afterTick : Camera Simulated :=
  Sample.after Simulated.engine { period := 0 }
    (List.flatten [
      .submit 7 [Sample.preview] [Sample.pipeline] :: List.replicate 3 (.advance 0),
      List.replicate 8 .worker, [.sensor, .flush]])
    (by decide +kernel)

theorem flush_is_a_barrier_on_samples :
    (∃ d e : Camera Recorder,
      Reachable Recorder.engine { flushReason := some "stuck" } beforeFlush ∧
        CriticalSection Recorder.engine 1 beforeFlush d ∧
        d.run? Recorder.engine fromFlush = some e ∧ d.queue = [] ∧
        e.admissions = [0, 1, 2].map Sample.tag ∧
        d.callTells Recorder.engine 1 fromFlush ++ e.pendingTells 1 =
          beforeFlush.waiting.map (fun tag => (tag, tag.failure .request)) ∧
        ∃ answer, e.stage.answer? 1 = some answer ∧ answer = .error (.sensor "stuck")) ∧
    ∃ (d e : Camera Simulated) (p : FrameTag × ResultRecord),
      Reachable Simulated.engine { period := 0 } afterTick ∧
        CriticalSection Simulated.engine 1 afterTick d ∧
        d.run? Simulated.engine (List.replicate 5 .sensor) = some e ∧
        d.stage.sensor.slot = none ∧ p ∈ e.results ∧ p.1 ∈ afterTick.admissions ∧
        (p.1, .result p.2) ∈ afterTick.stage.sensor.exposing := by
  constructor
  · have hrun : (((beforeFlush.step? Recorder.engine (.advance 1)).bind fun s =>
        s.step? Recorder.engine (.advance 1)).bind fun d =>
          d.run? Recorder.engine fromFlush).map
            (fun e => (e.admissions, (e.stage.answer? 1).isSome)) =
          some ([0, 1, 2].map Sample.tag, true) := by
      decide +kernel
    obtain ⟨e, he, heq⟩ := Option.map_eq_some_iff.mp hrun
    obtain ⟨d, hd, he⟩ := Option.bind_eq_some_iff.mp he
    obtain ⟨s, hs, hd⟩ := Option.bind_eq_some_iff.mp hd
    obtain ⟨hadmissions, hanswer⟩ := Prod.mk.inj heq
    obtain ⟨answer, hanswer⟩ := Option.isSome_iff_exists.mp hanswer
    have hsection : CriticalSection Recorder.engine 1 beforeFlush d :=
      criticalSection_of_steps rfl hs rfl hd
    obtain ⟨⟨-, -, hqueue, -⟩, -, ⟨-, htells⟩, hstatus⟩ :=
      flush_is_a_barrier.1 Sample.reachable_after hsection he
    exact ⟨d, e, Sample.reachable_after, hsection, he, hqueue, hadmissions, htells, answer, hanswer,
      (hstatus answer hanswer).1⟩
  · have hrun : (((afterTick.step? Simulated.engine (.advance 1)).bind fun s =>
        s.step? Simulated.engine (.advance 1)).bind fun d =>
          d.run? Simulated.engine (List.replicate 5 .sensor)).map
            (fun e => e.results.map (·.1)) = some [Sample.tag 0] := by
      decide +kernel
    obtain ⟨e, he, hresults⟩ := Option.map_eq_some_iff.mp hrun
    obtain ⟨d, hd, he⟩ := Option.bind_eq_some_iff.mp he
    obtain ⟨s, hs, hd⟩ := Option.bind_eq_some_iff.mp hd
    obtain ⟨p, hp, htag⟩ : ∃ p ∈ e.results, p.1 = Sample.tag 0 :=
      List.mem_map.mp (hresults ▸ List.mem_singleton_self _)
    have hadmitted : p.1 ∈ afterTick.admissions := by
      rw [htag]
      decide +kernel
    have hnone : afterTick.results = [] := by decide +kernel
    have hnew : e.results = afterTick.results ++ e.results := by rw [hnone, List.nil_append]
    have hsection : CriticalSection Simulated.engine 1 afterTick d :=
      criticalSection_of_steps rfl hs rfl hd
    have hreach : Reachable Simulated.engine { period := 0 } afterTick := Sample.reachable_after
    obtain ⟨hslot, hpending⟩ := flush_is_a_barrier.2 hreach hsection he
    exact ⟨d, e, p, hreach, hsection, he, hslot, hp, hadmitted,
      hpending e.results hnew p hp hadmitted⟩

end Camera

end VirtualCamera
