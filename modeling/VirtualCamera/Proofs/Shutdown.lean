import VirtualCamera.Proofs.Jobs

/-!
# Shutting the sensor down

A shutdown sets a flag that is never cleared (`Transition.isShuttingDown`), and
while it is set the thread takes nothing out of the slot and every wait ends
without a tick.  The first call that shuts down waits for the end of the thread,
and nobody else has to: when no call is open any more, the thread has ended
(`Reachable.awaitsEnd`).  The last thing a shutdown does is to flush, so that
nothing is left in the slot if no frame is handed over after it (`Ending`).
-/

namespace VirtualCamera.Sensor

namespace Bench

variable {b d : Bench Simulated} {m : Move} {period : Nat}

/-! ## After a shutdown -/

theorem Transition.isShuttingDown (h : Transition b m d)
    (hflag : b.stage.sensor.isShuttingDown = true) : d.stage.sensor.isShuttingDown = true := by
  cases h with
  | shutDown => rfl
  | perform => rwa [Stage.perform_sensor]
  | sensor hs =>
      obtain ⟨sensor, effects, hstep, rfl⟩ := Stage.sensorStep_of_sensorStep? hs
      rw [Stage.performAll_sensor]
      cases hstep <;> exact hflag
  | _ => exact hflag

/-- While the sensor is shutting down, no tick takes a frame out of the slot. -/
theorem slot_eq_of_sensorStep {stage : Stage Simulated}
    (hs : b.stage.sensorStep? Simulated.engine = some stage)
    (hflag : b.stage.sensor.isShuttingDown = true) :
    stage.sensor.slot = b.stage.sensor.slot := by
  obtain ⟨sensor, effects, hstep, rfl⟩ := Stage.sensorStep_of_sensorStep? hs
  rw [Stage.performAll_sensor]
  cases hstep with
  | tick hready hrunning =>
      rw [hrunning] at hflag
      cases hflag
  | halt | rest | perform | count => rfl

/-- The wait of a call ended in this way. -/
def Ticked (b : Bench Simulated) (i : Nat) (ticked : Bool) : Prop :=
  .paced (some i) ticked ∈ b.stage.record

theorem ticked_of_tickAnswer? {i : Nat} {ticked : Bool}
    (h : b.stage.tickAnswer? i = some ticked) : b.Ticked i ticked := by
  obtain ⟨o, ho, heq⟩ := List.exists_of_findSome?_eq_some h
  cases o with
  | paced call result =>
      simp only [Option.ite_none_right_eq_some, Option.some.injEq] at heq
      obtain ⟨rfl, rfl⟩ := heq
      exact ho
  | _ => cases heq

/-- A wait ends when its call returns, or is refused; and with a tick only while
the sensor is not shutting down. -/
theorem Transition.ticked_cases {i : Nat} {ticked : Bool} (h : Transition b m d)
    (hticked : d.Ticked i ticked) :
    b.Ticked i ticked ∨
      (i < d.opened ∨ ∃ p ∈ b.calls, p.1 = i) ∧
        (b.stage.sensor.isShuttingDown = true → ticked = false) := by
  cases h with
  | refuse =>
      rcases List.mem_cons.mp hticked with heq | hold
      · cases heq
        exact Or.inr ⟨Or.inl (Nat.lt_succ_self _), fun _ => rfl⟩
      · exact Or.inl hold
  | @pace l r j mark result hcalls hresult =>
      rcases List.mem_cons.mp hticked with heq | hold
      · cases heq
        refine Or.inr ⟨Or.inr ⟨_, hcalls ▸ mem_split.mpr (Or.inl rfl), rfl⟩, fun hflag => ?_⟩
        simpa [Simulated.engine, hflag] using hresult
      · exact Or.inl hold
  | expire hcalls =>
      rcases List.mem_cons.mp hticked with heq | hold
      · cases heq
        exact Or.inr ⟨Or.inr ⟨_, hcalls ▸ mem_split.mpr (Or.inl rfl), rfl⟩, fun _ => rfl⟩
      · exact Or.inl hold
  | sensor hs =>
      obtain ⟨sensor, effects, -, rfl⟩ := Stage.sensorStep?_eq_some hs
      left
      simp only [Ticked, Stage.performAll_record, List.mem_append, List.mem_reverse,
        List.mem_map] at hticked
      rcases hticked with ⟨e, -, heq⟩ | hold
      · cases e <;> cases heq
      · exact hold
  | @perform l r j e =>
      left
      simp only [Ticked, Stage.perform_record, List.mem_cons] at hticked
      rcases hticked with heq | hold
      · cases e <;> cases heq
      · exact hold
  | hand | answer =>
      rcases List.mem_cons.mp hticked with heq | hold
      · cases heq
      · exact Or.inl hold
  | flush | wait | shutDown | close => exact Or.inl hticked

theorem Transition.opened_le (h : Transition b m d) : b.opened ≤ d.opened := by
  cases h with
  | hand | flush | wait | refuse | shutDown => exact Nat.le_succ _
  | _ => exact Nat.le_refl _

theorem Reachable.lt_of_ticked {i : Nat} {ticked : Bool} (hb : Reachable period b)
    (h : b.Ticked i ticked) : i < b.opened := by
  induction hb with
  | created => cases h
  | next hb hm hstep ih =>
      have htransition := hb.transition hm hstep
      rcases htransition.ticked_cases h with hold | ⟨hlt | ⟨p, hp, rfl⟩, -⟩
      · exact Nat.lt_of_lt_of_le (ih hold) htransition.opened_le
      · exact hlt
      · exact Nat.lt_of_lt_of_le (hb.numbered.lt p hp) htransition.opened_le

/-- The sensor is shutting down, and no wait of a call from number `n` on ended
with a tick. -/
structure ShutDownSince (n : Nat) (b : Bench Simulated) : Prop where
  flag : b.stage.sensor.isShuttingDown = true
  waits : ∀ i, n ≤ i → ¬ b.Ticked i true

theorem ShutDownSince.transition {n : Nat} (hb : b.ShutDownSince n) (h : Transition b m d) :
    d.ShutDownSince n := by
  refine ⟨h.isShuttingDown hb.flag, fun i hi hticked => ?_⟩
  rcases h.ticked_cases hticked with hold | ⟨-, hfalse⟩
  · exact hb.waits i hi hold
  · cases hfalse hb.flag

/-! ## The end of the sensor -/

/-- The thread has ended, or the call that shut down first waits for that. -/
def AwaitsEnd (b : Bench Simulated) : Prop :=
  b.stage.sensor.thread = .ended ∨ ∃ i, (i, .halting true) ∈ b.calls

theorem not_sensorStep_of_ended {stage : Stage Simulated} (h : b.stage.sensor.thread = .ended) :
    b.stage.sensorStep? Simulated.engine ≠ some stage := by
  intro hs
  obtain ⟨sensor, effects, hstep, -⟩ := Stage.sensorStep_of_sensorStep? hs
  cases hstep with
  | halt hthread | tick hthread | rest hthread | perform hthread | count hthread =>
      rw [h] at hthread
      cases hthread

theorem Transition.awaitsEnd (h : Transition b m d) (hb : b.AwaitsEnd) : d.AwaitsEnd := by
  have hother {l r : List (Nat × SensorCall)} {i : Nat} {old : SensorCall}
      (hcalls : b.calls = l ++ (i, old) :: r) (hold : old ≠ .halting true)
      (h : ∃ i, (i, .halting true) ∈ b.calls) : ∃ i, (i, .halting true) ∈ l ++ r := by
    obtain ⟨j, hj⟩ := h
    rcases mem_split.mp (hcalls ▸ hj) with heq | hj
    · exact absurd (congrArg (·.2) heq).symm hold
    · exact ⟨j, hj⟩
  cases h with
  | hand | flush | wait | shutDown =>
      exact hb.imp_right fun ⟨i, hi⟩ => ⟨i, List.mem_append_left _ hi⟩
  | refuse => exact hb
  | perform hcalls =>
      rw [AwaitsEnd, Stage.perform_sensor]
      refine hb.imp_right fun hwait => ?_
      obtain ⟨j, hj⟩ := hother hcalls (by simp) hwait
      exact ⟨j, mem_split.mpr (Or.inr hj)⟩
  | answer hcalls | pace hcalls | expire hcalls =>
      exact hb.imp_right (hother hcalls (by simp))
  | @close l r i mustWait hcalls hgo =>
      cases mustWait with
      | true => exact Or.inl (hgo rfl)
      | false =>
          refine hb.imp_right fun hwait => ?_
          obtain ⟨j, hj⟩ := hother hcalls (by simp) hwait
          exact ⟨j, mem_split.mpr (Or.inr hj)⟩
  | sensor hs =>
      rcases hb with hended | hwait
      · exact absurd hs (not_sensorStep_of_ended hended)
      · exact Or.inr hwait

theorem Reachable.awaitsEnd (hb : Reachable period b)
    (hjoined : b.stage.sensor.isJoined = true) : b.AwaitsEnd := by
  induction hb with
  | created => cases hjoined
  | @next b d m hb hm hstep ih =>
      have htransition := hb.transition hm hstep
      by_cases hbefore : b.stage.sensor.isJoined = true
      · exact htransition.awaitsEnd (ih hbefore)
      · cases htransition with
        | shutDown =>
            refine Or.inr ⟨b.opened, List.mem_append_right _ ?_⟩
            simp [Simulated.halt, hbefore]
        | perform =>
            rw [Stage.perform_sensor] at hjoined
            exact absurd hjoined hbefore
        | sensor hs =>
            obtain ⟨sensor, effects, hnext, rfl⟩ := Stage.sensorStep_of_sensorStep? hs
            rw [Stage.performAll_sensor] at hjoined
            clear hstep
            cases hnext <;> exact absurd hjoined hbefore
        | _ => exact absurd hjoined hbefore

/-- The last call of a sensor, which shuts it down. -/
inductive Ending (b : Bench Simulated) : Prop
  | halting {i : Nat} {mustWait : Bool} (hcalls : b.calls = [(i, .halting mustWait)])
      (hthread : mustWait = false → b.stage.sensor.thread = .ended)
  | closed (hslot : b.stage.sensor.slot = none) (hthread : b.stage.sensor.thread = .ended)
      (hcalls : ∀ p ∈ b.calls, ∃ effects answer, p.2 = .performing effects answer)

theorem Ending.transition (hb : b.Ending) (hm : m.begins = false) (h : Transition b m d) :
    d.Ending := by
  have hone {l r : List (Nat × SensorCall)} {p q : Nat × SensorCall} (heq : [p] = l ++ q :: r) :
      l = [] ∧ r = [] ∧ p = q := by
    rcases List.singleton_eq_append_iff.mp heq with ⟨rfl, hrest⟩ | ⟨-, hrest⟩
    · cases hrest
      exact ⟨rfl, rfl, rfl⟩
    · cases hrest
  cases hb with
  | @halting j waits hcalls hthread =>
      cases h with
      | hand | flush | wait | refuse | shutDown => cases hm
      | perform hsplit | answer hsplit | pace hsplit | expire hsplit =>
          obtain ⟨-, -, heq⟩ := hone (hcalls ▸ hsplit)
          cases heq
      | @close l r i mustWait hsplit hgo =>
          obtain ⟨rfl, rfl, heq⟩ := hone (hcalls ▸ hsplit)
          have hsame : waits = mustWait := SensorCall.halting.inj (congrArg (·.2) heq)
          have hended : b.stage.sensor.thread = .ended := by
            by_cases hwait : mustWait = true
            · exact hgo hwait
            · exact hthread (hsame.trans (Bool.eq_false_of_not_eq_true hwait))
          exact .closed rfl hended (by simp)
      | sensor hs =>
          refine .halting hcalls fun hwait => ?_
          exact absurd hs (not_sensorStep_of_ended (hthread hwait))
  | closed hslot hthread hcalls =>
      cases h with
      | hand | flush | wait | refuse | shutDown => cases hm
      | perform hsplit =>
          refine .closed ?_ ?_ ?_
          · rwa [Stage.perform_sensor]
          · rwa [Stage.perform_sensor]
          · intro p hp
            rcases mem_split.mp hp with rfl | hp
            · exact ⟨_, _, rfl⟩
            · exact hcalls p (hsplit ▸ mem_split.mpr (Or.inr hp))
      | answer hsplit =>
          exact .closed hslot hthread fun p hp => hcalls p (hsplit ▸ mem_split.mpr (Or.inr hp))
      | pace hsplit | expire hsplit | close hsplit =>
          obtain ⟨effects, answer, heq⟩ := hcalls _ (hsplit ▸ mem_split.mpr (Or.inl rfl))
          cases heq
      | sensor hs => exact absurd hs (not_sensorStep_of_ended hthread)

/-- In every state of a sensor and its callers there is an account of the jobs,
and every move is a step of it.  Each job is in one place; whoever took one out
of the slot tells of it once before the call returns; the shutter and the result
of a captured job are told once and one after the other; and the counter is that
of the captured jobs, but for the moment between the count and the result.

After a shutdown no tick takes a job out of the slot, and no wait that began
later ends with a tick.  If the shutdown is the last call of all, nothing is left
in the slot when it has returned, and the thread has ended. -/
theorem every_job_is_accounted_for (hb : Reachable period b) :
    (∃ a, b.Accounts a) ∧
      (∀ a, b.Accounts a →
        (∀ p ∈ a.pending, b.isOpen p.1 = true) ∧
        (b.stage.sensor.captured = .ofNat a.captured.length ∨
          b.stage.sensor.captured = .ofNat (a.captured.length + 1) ∧
            ∃ tag record, b.stage.sensor.actions = [.perform (.tell tag (.result record))]) ∧
        ∀ m d, m.HasOutputs → b.step? Simulated.engine m = some d →
          ∃ a', d.Accounts a' ∧ a.Step a') ∧
      ∀ moves d, (∀ m ∈ moves, m.HasOutputs) →
        b.run? Simulated.engine (.shutDown :: moves) = some d →
          (∀ e, d.step? Simulated.engine .sensor = some e →
            e.stage.sensor.slot = d.stage.sensor.slot) ∧
          (∀ i, b.opened < i → d.stage.tickAnswer? i ≠ some true) ∧
          (b.calls = [] → (∀ m ∈ moves, m.begins = false) → d.calls = [] →
            d.stage.sensor.slot = none ∧ d.stage.sensor.thread = .ended) := by
  refine ⟨hb.exists_accounts, fun a ha => ⟨fun p => ha.isOpen_of_pending, ha.captured_cases,
    fun m d hm h => (hb.transition hm h).accounts ha⟩, fun moves d hmoves h => ?_⟩
  obtain ⟨c, hstep, hrun⟩ := Option.bind_eq_some_iff.mp (run?_cons ▸ h)
  have hshut : Move.shutDown.HasOutputs := trivial
  have hc := hb.next hshut hstep
  have htransition := hb.transition hshut hstep
  have hsince : c.ShutDownSince (b.opened + 1) := by
    cases htransition with
    | shutDown =>
        refine ⟨rfl, fun i hi hticked => ?_⟩
        exact Nat.lt_irrefl i (Nat.lt_trans (hb.lt_of_ticked hticked) hi)
  obtain ⟨hd, hflag, hwaits⟩ := hc.run_induct hmoves hrun hsince fun _ h hc => hc.transition h
  refine ⟨fun e he => ?_, fun i hi hanswer => ?_, fun hcalls hends hclosed => ?_⟩
  · obtain ⟨stage, hs, rfl⟩ := Option.map_eq_some_iff.mp he
    exact slot_eq_of_sensorStep hs hflag
  · exact hwaits i hi (ticked_of_tickAnswer? hanswer)
  · have hending : c.Ending := by
      cases htransition with
      | shutDown =>
          have hlast : b.calls ++ [(b.opened, .halting b.stage.sensor.halt.2)] =
              [(b.opened, .halting b.stage.sensor.halt.2)] := by
            rw [hcalls, List.nil_append]
          refine .halting hlast fun hjoined => ?_
          have hawaits := hb.awaitsEnd (by simpa [Simulated.halt] using hjoined)
          have hended : b.stage.sensor.thread = .ended := by simpa [AwaitsEnd, hcalls] using hawaits
          exact hended
    obtain ⟨-, hending⟩ := hc.run_induct hmoves hrun hending
      fun hm h hc => hc.transition (hends _ hm) h
    cases hending with
    | halting hcalls => rw [hclosed] at hcalls; cases hcalls
    | closed hslot hthread => exact ⟨hslot, hthread⟩

/-- A frame with one output. -/
def sampleShot (ticket : Nat) : Shot where
  settings := ⟨0, 0, 100⟩
  result := ⟨0, 0, 7, {}, 4, [], [], 1⟩
  inputs := none
  outputs := [{
    tag := Sample.tag ticket
    width := 2
    height := 2
    format := .rgba8888
    dataspace := .unknown
    isInput := false
    planes := .packed ⟨0, 0, 16⟩ 8 16
    attachment := ⟨0, 0, none, .error⟩
    fence := none }]

/-- The first frame is captured, the third takes the place of the second. -/
def sampleMoves : List Move :=
  .hand (sampleShot 0) :: List.replicate 7 .sensor ++
    [.hand (sampleShot 1), .hand (sampleShot 2), .advance 0, .advance 1, .advance 2, .advance 2,
      .advance 2]

/-- The thread ends, and the shutdown gives the third frame up. -/
def sampleEnd : List Move :=
  .sensor :: List.replicate 4 (.advance 3)

theorem sample_jobs_are_accounted_for :
    ∃ b d : Bench Simulated, Reachable 0 b ∧ (∃ a, b.Accounts a) ∧ b.calls = [] ∧
      b.run? Simulated.engine (.shutDown :: sampleEnd) = some d ∧ d.calls = [] ∧
      d.stage.sensor.slot = none ∧ d.stage.sensor.thread = .ended ∧
      d.exposures.map (·.1) = [0, 0].map Sample.tag ∧
      d.errors.map (·.1) = [1, 2].map Sample.tag := by
  have hrun : ((run? Simulated.engine
      { stage := { sensor := { period := 0 }, store := Sample.store } }
      sampleMoves).bind fun b => (b.run? Simulated.engine (.shutDown :: sampleEnd)).map fun d =>
        (b.calls.isEmpty, d.calls.isEmpty, d.exposures.map (·.1), d.errors.map (·.1))) =
      some (true, true, [0, 0].map Sample.tag, [1, 2].map Sample.tag) := by
    decide +kernel
  obtain ⟨b, hb, heq⟩ := Option.bind_eq_some_iff.mp hrun
  obtain ⟨d, hd, heq⟩ := Option.map_eq_some_iff.mp heq
  simp only [Prod.mk.injEq, List.isEmpty_iff] at heq
  obtain ⟨hcalls, hclosed, hexposures, herrors⟩ := heq
  have hmoves : ∀ m ∈ sampleMoves, m.HasOutputs := by
    simp [sampleMoves, sampleShot, Move.HasOutputs]
  have hends : ∀ m ∈ sampleEnd, m.HasOutputs ∧ m.begins = false := by
    simp [sampleEnd, Move.HasOutputs, Move.begins]
  have hreach : Reachable 0 b := (Reachable.created Sample.store).run? hmoves hb
  obtain ⟨haccounts, -, hshut⟩ := every_job_is_accounted_for hreach
  obtain ⟨-, -, hlast⟩ := hshut sampleEnd d (fun m hm => (hends m hm).1) hd
  obtain ⟨hslot, hthread⟩ := hlast hcalls (fun m hm => (hends m hm).2) hclosed
  exact ⟨b, d, hreach, haccounts, hcalls, hd, hclosed, hslot, hthread, hexposures, herrors⟩

end Bench

end VirtualCamera.Sensor
