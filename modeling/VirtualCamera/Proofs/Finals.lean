import VirtualCamera.Proofs.Delivery
import VirtualCamera.Proofs.Jobs

/-!
# How many frames are finished

The last event that a listener is told of a frame is a result or an error
(`Event.isFinal`).  There are never more of them than requests were admitted: an
error of the processor is the outcome of a request, as it is an outcome to be
handed to the sensor, and the sensor tells at most one of every frame that it was
handed (`Roll.Since.finals_le`).

The sensor counts a frame right before it delivers the result.  So its counter is
the number of results that it told, or is about to tell, but for those that the
capture at hand has still to count (`Camera.Counted`).

None of this depends on the clients' memory.  It is proved of any camera that is
`Sound`, which transitions preserve and changes of the memory as well, so that it
can be used of a client that allocates buffers between its submissions.
-/

namespace VirtualCamera

/-- Two kinds that exclude one another. -/
theorem countP_add_countP_le_length {α : Type} {p q : α → Bool} (l : List α)
    (h : ∀ a, p a = true → q a = false) : l.countP p + l.countP q ≤ l.length := by
  rw [List.length_eq_countP_add_countP p]
  refine Nat.add_le_add_left (List.countP_mono_left fun a _ hq => ?_) _
  cases hp : p a with
  | false => simp
  | true => simp [h a hp] at hq

theorem countP_le_add {α : Type} {p q r : α → Bool} (l : List α)
    (h : ∀ a, p a = true → q a = true ∨ r a = true) : l.countP p ≤ l.countP q + l.countP r := by
  induction l with
  | nil => exact Nat.zero_le _
  | cons a rest ih =>
      have ha := h a
      simp only [List.countP_cons]
      grind

/-- At most one of what every element contributes is of a kind. -/
theorem countP_flatMap_le {α β : Type} {p : β → Bool} {f : α → List β} (l : List α)
    (h : ∀ a, (f a).countP p ≤ 1) : (l.flatMap f).countP p ≤ l.length := by
  induction l with
  | nil => rfl
  | cons a rest ih =>
      have ha := h a
      rw [List.flatMap_cons, List.countP_append, List.length_cons]
      omega

/-! ## Results and errors -/

namespace Event

def isResult : Event → Bool
  | result _ => true
  | _ => false

def isError : Event → Bool
  | error .. => true
  | _ => false

/-- The last event of a frame is a result or an error. -/
theorem countP_isFinal (events : List Event) :
    events.countP isFinal = events.countP isResult + events.countP isError := by
  induction events with
  | nil => rfl
  | cons e rest ih =>
      simp only [List.countP_cons, ih]
      cases e <;> simp only [isFinal, isResult, isError] <;> grind

end Event

/-! ## What a roll accounts for -/

namespace Shot

theorem countP_exposure_le (shot : Shot) (time : UInt64) :
    (shot.exposure time).countP (·.2.isFinal) ≤ 1 := by
  unfold exposure
  cases shot.tag? <;> simp [Event.isFinal]

theorem length_failure_le (shot : Shot) : shot.failure.length ≤ 1 := by
  unfold failure
  cases shot.tag? <;> simp

end Shot

namespace Roll

variable {r r' : Roll}

/-- The results that were told or that the sensor's thread is about to tell. -/
def results (r : Roll) : Nat :=
  r.told.countP (·.2.isResult) + r.exposing.countP (·.2.isResult)

/-- Of every frame that was handed over at most one last event is told. -/
theorem Since.finals_le (h : empty.Since r) :
    r.told.countP (·.2.isFinal) + r.exposing.countP (·.2.isFinal) ≤ r.handed.length := by
  obtain ⟨captured, given, hexp, hfail, -, hacc⟩ := h.whole
  have hsplit := r.told.countP_eq_countP_filter_add (·.2.isFinal) (·.2.isExposure)
  have hcaptured := congrArg (List.countP (·.2.isFinal)) hexp
  rw [List.countP_append] at hcaptured
  have hcaptures := countP_flatMap_le (f := fun p : UInt64 × Shot => p.2.exposure p.1)
    (p := (·.2.isFinal)) captured fun p => p.2.countP_exposure_le p.1
  have hgiven := congrArg Multiset.card hfail
  rw [Multiset.card_add, Multiset.card_bind, Multiset.coe_card] at hgiven
  have hgivens : (given.map (Multiset.card ∘
      fun shot => (shot.failure : Multiset (FrameTag × Event)))).sum ≤ given.card := by
    have hle := Multiset.sum_le_card_nsmul (given.map (Multiset.card ∘
      fun shot => (shot.failure : Multiset (FrameTag × Event)))) 1 fun n hn => by
        obtain ⟨shot, -, rfl⟩ := Multiset.mem_map.mp hn
        exact shot.length_failure_le
    simpa using hle
  have herrors := (r.told.filter (!·.2.isExposure)).countP_le_length (p := (·.2.isFinal))
  have hhanded := congrArg Multiset.card hacc
  simp only [Multiset.card_add, Multiset.coe_card, List.length_map] at hhanded
  omega

end Roll

/-! ## Counting before delivering -/

namespace Sensor

/-- Whatever is left of a capture counts no frame without delivering a result
later. -/
def CountsFirst (actions : List Action) : Prop :=
  ∀ left, left <:+ actions → left.count .count ≤ (told left).countP (·.2.isResult)

theorem countsFirst_nil : CountsFirst [] := by
  intro left hleft
  rw [List.suffix_nil.mp hleft]
  exact Nat.le_refl 0

theorem CountsFirst.suffix {actions rest : List Action} (h : CountsFirst actions)
    (hrest : rest <:+ actions) : CountsFirst rest :=
  fun left hleft => h left (hleft.trans hrest)

/-- A capture counts as many frames as it delivers results: one, or none if
nobody is told of it. -/
theorem count_capture_eq (time : UInt64) (shot : Shot) :
    (capture time shot).count .count = (told (capture time shot)).countP (·.2.isResult) := by
  rw [told_capture]
  cases htag : shot.tag? with
  | none =>
      rw [List.count_eq_zero_of_not_mem (by simp [capture, htag])]
      simp [Shot.exposure, htag]
  | some tag =>
      obtain ⟨before, hbefore, hcapture⟩ := exists_capture_eq time htag
      rw [hcapture, List.count_append, List.count_eq_zero_of_not_mem hbefore]
      simp [Shot.exposure, htag, Event.isResult]

theorem countsFirst_capture (time : UInt64) (shot : Shot) :
    CountsFirst (capture time shot) := by
  cases htag : shot.tag? with
  | none =>
      intro left hleft
      have hnone : Action.count ∉ left := fun hmem => by
        simpa [capture, htag] using hleft.subset hmem
      rw [List.count_eq_zero_of_not_mem hnone]
      exact Nat.zero_le _
  | some tag =>
      obtain ⟨before, hbefore, hcapture⟩ := exists_capture_eq time htag
      intro left hleft
      rw [hcapture, List.append_cons, List.suffix_concat_iff] at hleft
      rcases hleft with rfl | ⟨early, rfl, hearly⟩
      · exact Nat.le_refl 0
      -- the result is left, and the count is the only one, if it is left at all
      · have hone : (before ++ [Action.count]).count .count = 1 := by
          rw [List.count_append, List.count_eq_zero_of_not_mem hbefore]
          rfl
        have hle := hearly.sublist.count_le .count
        rw [List.count_append, told_append, List.countP_append]
        simp [told, Action.effect?, Effect.notice?, Event.isResult]
        omega

theorem Simulated.exposing_eq (s : Simulated) : s.exposing = told s.actions := by
  unfold exposing actions
  cases s.thread <;> rfl

end Sensor

namespace Roll

variable {r r' : Roll}

/-- Only a tick begins to deliver a result. -/
theorem Step.results_eq (h : r.Step r') (hs : r.Sorted) (he : r'.exposing = r.exposing) :
    r'.results = r.results := by
  unfold results
  rw [he]
  cases h with
  | still | accept | flush | tick => rfl
  | expose hexposing =>
      rw [hexposing] at he
      simp at he
  | @drop p rest hdropped =>
      have hp : p.2.isExposure = false := hs.dropped p (by simp [hdropped])
      have hresult : p.2.isResult = false := by
        revert hp
        cases p.2 <;> simp [Event.isExposure, Event.isResult]
      simp [hresult]

end Roll

namespace Camera

open Sensor (Simulated CountsFirst)

variable {c d : Camera Simulated} {m : Move}

/-- The sensor counted the results that it told or is about to tell, but for
those that are still to be counted. -/
structure Counted (c : Camera Simulated) : Prop where
  countsFirst : CountsFirst c.stage.sensor.actions
  counter : ∃ n, c.stage.sensor.captured = .ofNat n ∧
    n + c.stage.sensor.actions.count .count = c.roll.results

/-- Only its own thread goes on with a capture. -/
theorem Transition.actions_cases (h : Transition Simulated.engine c m d) :
    (∃ stage, c.stage.sensorStep? Simulated.engine = some stage ∧ d = { c with stage }) ∨
      d.stage.sensor.actions = c.stage.sensor.actions ∧
        d.stage.sensor.captured = c.stage.sensor.captured := by
  cases h with
  | sensor hs => exact Or.inl ⟨_, hs, rfl⟩
  | perform | unwind | clear | report | closeEffect =>
      exact Or.inr (by simp only [Stage.perform_sensor, and_self])
  | _ => exact Or.inr ⟨rfl, rfl⟩

theorem Counted.sensorStep {stage : Stage Simulated} (hc : c.Counted)
    (hs : c.stage.sensorStep? Simulated.engine = some stage) :
    Counted { c with stage } := by
  obtain ⟨hfirst, n, hn, hcount⟩ := hc
  simp only [Roll.results, roll, Stage.roll, Simulated.exposing_eq] at hcount
  obtain ⟨sensor, effects, hstep, rfl⟩ := Stage.sensorStep_of_sensorStep? hs
  cases hstep with
  | halt hthread | rest hthread =>
      have hactions : c.stage.sensor.actions = [] := by rw [Simulated.actions, hthread]
      rw [hactions] at hcount
      exact ⟨Sensor.countsFirst_nil, n, hn, hcount⟩
  | @tick clock pause hthread =>
      have hactions : c.stage.sensor.actions = [] := by rw [Simulated.actions, hthread]
      rw [hactions] at hcount
      have hresults : n = (c.stage.history Occurrence.sensorNotice?).countP (·.2.isResult) :=
        hcount
      cases hslot : c.stage.sensor.slot with
      | none => exact ⟨Sensor.countsFirst_nil, n, hn, hcount⟩
      | some shot =>
          have hcapture := Sensor.count_capture_eq clock.toUInt64 shot
          refine ⟨?_, n, hn, ?_⟩
          · simpa [Simulated.actions] using Sensor.countsFirst_capture clock.toUInt64 shot
          · simp [Roll.results, roll, Stage.roll, Simulated.exposing_eq, Simulated.actions,
              hcapture, hresults]
  | @perform e rest hthread =>
      have hactions := c.stage.sensor.actions_of_capturing hthread
      rw [hactions, Sensor.told_cons] at hcount
      refine ⟨?_, n, ?_, ?_⟩
      · simpa [Simulated.actions] using (hactions ▸ hfirst).suffix (List.suffix_cons _ rest)
      · simpa using hn
      · simp [Roll.results, roll, Stage.roll, Simulated.exposing_eq, Simulated.actions,
          Sensor.Action.effect?] at hcount ⊢
        omega
  | @count rest hthread =>
      have hactions := c.stage.sensor.actions_of_capturing hthread
      rw [hactions, Sensor.told_cons] at hcount
      refine ⟨(hactions ▸ hfirst).suffix (List.suffix_cons _ rest), n + 1, ?_, ?_⟩
      · simp [hn]
      · simp [Roll.results, roll, Stage.roll, Simulated.exposing_eq, Simulated.actions,
          Sensor.Action.effect?] at hcount ⊢
        omega

theorem Counted.step (hc : c.Counted) (hs : c.roll.Sorted)
    (h : Transition Simulated.engine c m d) : d.Counted := by
  rcases h.actions_cases with ⟨stage, hs, rfl⟩ | ⟨hactions, hcaptured⟩
  · exact hc.sensorStep hs
  · have hexposing : d.roll.exposing = c.roll.exposing := by
      rw [roll, roll, Stage.roll, Stage.roll, Simulated.exposing_eq, Simulated.exposing_eq,
        hactions]
    refine ⟨hactions ▸ hc.countsFirst, ?_⟩
    rw [h.roll.results_eq hs hexposing, hactions, hcaptured]
    exact hc.counter

/-! ## Sound cameras -/

/-- What holds of every camera of a client that may add buffers at any time: the
invariants that the memory does not matter for. -/
structure Sound (c : Camera Simulated) : Prop where
  orderly : c.Orderly
  balanced : c.ledger.Balanced
  truthful : c.ledger.Truthful
  sorted : c.roll.Sorted
  rolled : Roll.empty.Since c.roll
  counted : c.Counted

theorem sound_create {config : Config} {period : Nat} {store : Store} {controls : Controls}
    (h : create config { period } store controls = .ok c) : c.Sound := by
  have hc : Reachable Simulated.engine { period } c := .created h
  refine ⟨hc.orderly, hc.balanced, hc.truthful, hc.roll_sorted, hc.rolled, ?_⟩
  obtain rfl := create_eq h
  exact ⟨Sensor.countsFirst_nil, 0, rfl, rfl⟩

theorem Sound.step (hc : c.Sound) (h : c.step? Simulated.engine m = some d) : d.Sound := by
  have hstep := transition_of_step? hc.orderly.toNumbered h
  have hledger := hstep.ledger hc.orderly
  exact ⟨hc.orderly.step hstep, hledger.balanced hc.balanced, hledger.truthful hc.truthful,
    hstep.roll.sorted hc.sorted, hstep.roll.since hc.sorted hc.rolled,
    hc.counted.step hc.sorted hstep⟩

/-- The client may change the memory, and the settings model may be replaced. -/
theorem Sound.refitted (hc : c.Sound) (store : Store) (controls : Controls) :
    Sound { c with controls, stage := { c.stage with store } } :=
  ⟨⟨⟨hc.orderly.toNumberedBelow⟩, hc.orderly.dispatch, hc.orderly.queue⟩, hc.balanced,
    hc.truthful, hc.sorted, hc.rolled, ⟨hc.counted.countsFirst, hc.counted.counter⟩⟩

/-! ## What was told in all -/

/-- What the sensor told, of whatever request. -/
def toldBySensor (c : Camera Simulated) : List Event :=
  (c.stage.history Occurrence.sensorNotice?).map (·.2)

def toldByProcessor (c : Camera Simulated) : List Event :=
  c.outcomes.filterMap (·.2.event?)

/-- What is heard on a channel was told by the sensor or by the processor. -/
theorem countP_heard_le (c : Camera Simulated) (channel : Nat) (kind : Event → Bool) :
    (c.stage.heard channel).countP kind ≤
      c.toldBySensor.countP kind + c.toldByProcessor.countP kind := by
  unfold Stage.heard toldBySensor toldByProcessor outcomes Stage.history
  rw [List.countP_map, List.countP_filterMap, List.countP_filterMap, List.filterMap_filterMap,
    List.countP_filterMap]
  refine countP_le_add _ fun o ho => ?_
  cases o with
  | told speaker tag event =>
      have hkind : kind event = true := by
        by_cases hheard : tag.listener.channel = channel ∧ event.reaches tag.listener = true
        · simpa [Occurrence.heardOn, hheard] using ho
        · simp [Occurrence.heardOn, hheard] at ho
      cases speaker with
      | sensor => exact Or.inl hkind
      | processor => exact Or.inr hkind
  | _ => cases ho

/-- What was handed over is an outcome each time. -/
theorem length_handed_eq (c : Camera Simulated) :
    c.roll.handed.length = c.outcomes.countP fun p => p.2 = .handedOver := by
  unfold outcomes roll Stage.roll Stage.history
  rw [List.length_filterMap_eq_countP, List.countP_filterMap]
  refine List.countP_congr fun o _ => ?_
  cases o with
  | told speaker => cases speaker <;> simp [Occurrence.handedShot?, Occurrence.outcome?]
  | _ => simp [Occurrence.handedShot?, Occurrence.outcome?]

/-- The processor tells of failures alone. -/
theorem Sound.toldByProcessor_results (hc : c.Sound) :
    c.toldByProcessor.countP Event.isResult = 0 := by
  refine List.countP_eq_zero.mpr fun event hevent => ?_
  obtain ⟨p, hp, htold⟩ := List.mem_filterMap.mp hevent
  rcases hc.truthful.outcomes p hp with (h | h | h) | h <;>
    simp only [h, Outcome.event?, Option.some.injEq, reduceCtorEq] at htold <;>
    simp [← htold, FrameTag.failure, Event.isResult]

/-- No more frames are finished than requests were admitted; those of which the
sensor's thread is about to tell the last event are counted as well. -/
theorem Sound.finals_le (hc : c.Sound) :
    c.toldBySensor.countP Event.isFinal + c.roll.exposing.countP (·.2.isFinal) +
      c.toldByProcessor.countP Event.isFinal ≤ c.admitted := by
  have hsensor : c.toldBySensor.countP Event.isFinal + c.roll.exposing.countP (·.2.isFinal) ≤
      c.roll.handed.length := by
    rw [toldBySensor, List.countP_map]
    exact hc.rolled.finals_le
  rw [length_handed_eq] at hsensor
  have hkinds := countP_add_countP_le_length (p := fun p => decide (p.2 = Outcome.handedOver))
    (q := fun p => p.2.event?.any Event.isFinal) c.outcomes fun p hp => by
      simp [of_decide_eq_true hp, Outcome.event?]
  have hprocessor : c.toldByProcessor.countP Event.isFinal =
      c.outcomes.countP fun p => p.2.event?.any Event.isFinal := by
    rw [toldByProcessor, List.countP_filterMap]
    refine List.countP_congr fun p _ => ?_
    cases p.2.event? <;> simp
  have hprefix := hc.balanced.outcomes_prefix.length_le
  rw [List.length_map, hc.balanced.length] at hprefix
  rw [hprocessor]
  exact (Nat.add_le_add_right hsensor _).trans (hkinds.trans hprefix)

/-- Of a part of what was heard on a channel there are no more last events than
requests were admitted. -/
theorem Sound.heard_finals_le {events : List Event} {channel : Nat} (hc : c.Sound)
    (hevents : events.Sublist (c.stage.heard channel)) :
    events.countP Event.isFinal ≤ c.admitted := by
  have hfinals := hc.finals_le
  have hheard := c.countP_heard_le channel Event.isFinal
  have hle := hevents.countP_le (p := Event.isFinal)
  omega

/-- If there are as many, every result was heard and none is under way, so the
sensor counted the results that were heard. -/
theorem Sound.captured_eq {events : List Event} {channel : Nat} (hc : c.Sound)
    (hevents : events.Sublist (c.stage.heard channel))
    (hall : c.admitted ≤ events.countP Event.isFinal) :
    c.stage.sensor.captured = .ofNat (events.countP Event.isResult) := by
  have hfinals := hc.finals_le
  have hresults := hevents.countP_le (p := Event.isResult)
  have herrors := hevents.countP_le (p := Event.isError)
  have hheardResults := c.countP_heard_le channel Event.isResult
  have hheardErrors := c.countP_heard_le channel Event.isError
  have hprocessor := hc.toldByProcessor_results
  rw [Event.countP_isFinal, Event.countP_isFinal] at hfinals
  rw [Event.countP_isFinal] at hall
  have hnothing : c.roll.exposing.countP (·.2.isFinal) = 0 := by omega
  have hnone : c.roll.exposing.countP (·.2.isResult) = 0 := by
    refine Nat.le_zero.mp (hnothing ▸ List.countP_mono_left fun p _ hp => ?_)
    revert hp
    cases p.2 <;> simp [Event.isResult, Event.isFinal]
  obtain ⟨n, hn, hcount⟩ := hc.counted.counter
  have huncounted := hc.counted.countsFirst _ List.suffix_rfl
  rw [← Simulated.exposing_eq] at huncounted
  have htold : c.roll.results = c.toldBySensor.countP Event.isResult := by
    rw [Roll.results, hnone, toldBySensor, List.countP_map]
    rfl
  have hidle : c.stage.sensor.actions.count .count = 0 := Nat.le_zero.mp (hnone ▸ huncounted)
  rw [hn]
  congr 1
  omega

end Camera

end VirtualCamera
