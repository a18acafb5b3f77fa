import VirtualCamera.Proofs.Delivery

/-!
# A worker that waits for its ticks loses no frame

The worker hands a frame over and then waits for a tick of the sensor.  The
slot and the tick count are read under different locks, so a tick may fall
before the wait begins, or while the frame before is still being captured.  It
does no harm: a tick empties the slot, and from the end of a wait that ended
with a tick the slot stays empty until the next frame is handed over
(`Reachable.paced`).  While the worker waits, a frame in the slot means that
there was no tick since the wait began.

What happens to frames is one of four things (`FrameStep`), and only a frame
that is handed over while another one is in the slot is lost without having
been flushed.  So, along a run in which all waits ended with a tick, every frame
that was handed over was captured, or failed by a flush or by a shutdown of the
sensor, or is in the slot (`Reachable.frames_between`).
-/

namespace VirtualCamera

/-- What was told and is about to be told of exposures changes only as the frame
in the slot is captured. -/
theorem Roll.Step.exposures_eq {r r' : Roll} (h : r.Step r') (hs : r.Sorted)
    (hslot : r'.slot = r.slot) :
    r'.told.filter (·.2.isExposure) ++ r'.exposing =
      r.told.filter (·.2.isExposure) ++ r.exposing := by
  cases h with
  | still | accept | flush => rfl
  | tick time hfull =>
      rw [hfull] at hslot
      cases hslot
  | @expose p rest he =>
      have hp : p.2.isExposure = true := hs.exposing p (by simp [he])
      simp [he, hp]
  | @drop p rest hd =>
      have hp : p.2.isExposure = false := hs.dropped p (by simp [hd])
      simp [hp]

namespace Camera

open Sensor (Simulated)

variable {c d e : Camera Simulated} {m : Move} {period : Nat}

/-! ## Waits -/

/-- Whether all waits of the worker for the sensor ended with a tick so far. -/
def allWaitsTicked (c : Camera Simulated) : Bool :=
  c.stage.record.all fun
    | .paced none ticked => ticked
    | _ => true

theorem allWaitsTicked_of_suffix (h : c.stage.record <:+ d.stage.record)
    (hd : d.allWaitsTicked = true) : c.allWaitsTicked = true :=
  List.all_eq_true.mpr fun o ho => List.all_eq_true.mp hd o (h.subset ho)

/-- Where a frame can be in the slot: the worker has just handed it over, or it
waits and there was no tick since the wait began. -/
def HoldsFrame (c : Camera Simulated) : Prop :=
  match c.worker with
  | .finishing .sensor _ | .unpaced => True
  | .pacing mark => c.stage.sensor.ticks = mark
  | _ => False

/-- There is no frame in the slot unless the worker waits for it to be taken, or
is about to. -/
def Paced (c : Camera Simulated) : Prop :=
  c.stage.sensor.slot ≠ none → c.HoldsFrame

theorem Paced.congr (hp : c.Paced) (hsensor : d.stage.sensor = c.stage.sensor)
    (hworker : d.worker = c.worker) : d.Paced := by
  unfold Paced HoldsFrame at hp ⊢
  rwa [hsensor, hworker]

theorem Paced.slot_eq_none (hp : c.Paced) (h : ¬ c.HoldsFrame) : c.stage.sensor.slot = none :=
  not_not.mp fun hslot => h (hp hslot)

/-- A step between phases of the worker in which there is no frame. -/
theorem Paced.of_slot (hslot : d.stage.sensor.slot = none) : d.Paced :=
  fun h => absurd hslot h

theorem Paced.sensorStep {stage : Stage Simulated} (hp : c.Paced)
    (hs : c.stage.sensorStep? Simulated.engine = some stage) :
    Paced { c with stage } := by
  obtain ⟨sensor, effects, hstep, rfl⟩ := Stage.sensorStep_of_sensorStep? hs
  cases hstep with
  | tick => exact .of_slot (by rw [Stage.performAll_sensor])
  | halt | rest | perform | count =>
      unfold Paced HoldsFrame at hp ⊢
      simpa only [Stage.performAll_sensor] using hp

theorem Paced.step (hp : c.Paced) (h : Transition Simulated.engine c m d)
    (hd : d.allWaitsTicked = true) : d.Paced := by
  cases h with
  | check hw | idle hw | take hw | resolve hw | crash hw | outputsAwaited hw | awaitOutput hw
  | record hw | awaitInput hw | unwound hw =>
      exact .of_slot (hp.slot_eq_none (by simp [HoldsFrame, hw]))
  | unwind hw =>
      refine .of_slot ?_
      rw [Stage.perform_sensor]
      exact hp.slot_eq_none (by simp [HoldsFrame, hw])
  | handOver => exact fun _ => trivial
  | @perform speaker e rest hw =>
      intro hslot
      rw [Stage.perform_sensor] at hslot
      have hholds := hp hslot
      cases speaker with
      | sensor => trivial
      | processor => simp [HoldsFrame, hw] at hholds
  | finished => exact fun _ => trivial
  | beginPacing _ hm =>
      intro _
      simp only [Simulated.engine, Option.ite_none_left_eq_some, Option.some.injEq] at hm
      exact hm.2
  | skipPacing | giveUp =>
      have hticked := List.all_eq_true.mp hd (.paced none false) List.mem_cons_self
      cases hticked
  | @pace mark ticked hw ht =>
      -- the wait ended with a tick, which emptied the slot
      obtain rfl : ticked = true := List.all_eq_true.mp hd (.paced none ticked) List.mem_cons_self
      refine .of_slot (hp.slot_eq_none fun hholds => ?_)
      simp only [HoldsFrame, hw] at hholds
      simp [Simulated.engine, hholds] at ht
  | flushSensor | close => exact .of_slot rfl
  | sensor hs => exact hp.sensorStep hs
  | halt => exact hp
  | clear | report | closeEffect => exact hp.congr (Stage.perform_sensor _ _ _) rfl
  | _ => exact hp.congr rfl rfl

theorem Reachable.paced (hc : Reachable Simulated.engine { period } c) :
    c.allWaitsTicked = true → c.Paced := by
  refine hc.induct (P := fun c => c.allWaitsTicked = true → c.Paced) ?_ ?_
  · intro config store controls _
    exact .of_slot rfl
  · intro c d m _ h ih hd
    exact (ih (allWaitsTicked_of_suffix h.record_suffix hd)).step h hd

/-- The worker hands frames over to an empty slot. -/
theorem Reachable.slot_of_handOver (hc : Reachable Simulated.engine { period } c)
    (hticked : c.allWaitsTicked = true) {tag : FrameTag} {shot : Shot} {left : List Mapping}
    (hw : c.worker = .awaitingInputs tag shot left) : c.stage.sensor.slot = none :=
  (hc.paced hticked).slot_eq_none (by simp [HoldsFrame, hw])

/-! ## What becomes of frames -/

/-- What was told of exposures and what the sensor's thread is about to tell. -/
def exposed (c : Camera Simulated) : List (FrameTag × Event) :=
  c.exposures ++ c.stage.sensor.exposing

/-- The frame that a move drops because a flush or a shutdown empties the slot. -/
def failedBy (c : Camera Simulated) : Move → List Shot
  | .advance i =>
    match c.calls.lookup i with
    | some .flushing | some (.halting _) => c.stage.sensor.slot.toList
    | _ => []
  | _ => []

/-- All frames that flushes and shutdowns drop in a run. -/
def failedDuring (c : Camera Simulated) : List Move → List Shot
  | [] => []
  | m :: rest =>
    match c.step? Simulated.engine m with
    | none => []
    | some d => c.failedBy m ++ d.failedDuring rest

theorem Reachable.exposed_eq (hc : Reachable Simulated.engine { period } c)
    (h : c.step? Simulated.engine m = some d)
    (hslot : d.stage.sensor.slot = c.stage.sensor.slot) : d.exposed = c.exposed := by
  rw [exposed, exposed, hc.exposures_eq, (hc.next h).exposures_eq]
  exact (hc.transition h).roll.exposures_eq hc.roll_sorted hslot

/-- What a move does to frames. -/
inductive FrameStep (c : Camera Simulated) (m : Move) (d : Camera Simulated) : Prop
  | keeps (hhanded : d.handOvers = c.handOvers)
      (hslot : d.stage.sensor.slot = c.stage.sensor.slot) (hfailed : c.failedBy m = [])
  | accepts {tag : FrameTag} {shot : Shot} (hw : c.worker = .awaitingInputs tag shot [])
      (hhanded : d.handOvers = c.handOvers ++ [(tag, shot)])
      (hslot : d.stage.sensor.slot = some shot) (hexposed : d.exposed = c.exposed)
      (hfailed : c.failedBy m = [])
  | fails (hhanded : d.handOvers = c.handOvers) (hslot : d.stage.sensor.slot = none)
      (hexposed : d.exposed = c.exposed) (hfailed : c.failedBy m = c.stage.sensor.slot.toList)
  | captures (time : UInt64) {shot : Shot} (hslot : c.stage.sensor.slot = some shot)
      (hempty : d.stage.sensor.slot = none) (hhanded : d.handOvers = c.handOvers)
      (hexposed : d.exposed = c.exposed ++ shot.exposure time) (hfailed : c.failedBy m = [])

theorem frameStep_sensor {stage : Stage Simulated}
    (hs : c.stage.sensorStep? Simulated.engine = some stage) :
    FrameStep c .sensor { c with stage } := by
  obtain ⟨sensor, effects, hstep, rfl⟩ := Stage.sensorStep_of_sensorStep? hs
  cases hstep with
  | @tick clock pause hthread =>
      cases hslot : c.stage.sensor.slot with
      | none => exact .keeps rfl hslot.symm rfl
      | some shot =>
          refine .captures clock.toUInt64 hslot rfl rfl ?_ rfl
          have hexposing : c.stage.sensor.exposing = [] := by rw [Simulated.exposing, hthread]
          simp only [exposed, hexposing, List.append_nil]
          refine congrArg (c.exposures ++ ·) ?_
          rw [← Sensor.told_capture]
          simp [Simulated.exposing, Stage.performAll]
  | halt | rest | perform | count =>
      refine .keeps ?_ ?_ rfl
      · simp [handOvers]
      · rw [Stage.performAll_sensor]

theorem failedBy_advance {l r : List (Nat × Call)} {i : Nat} {call : Call} (hn : c.Numbered)
    (hc : c.calls = l ++ (i, call) :: r) (hflush : call ≠ .flushing)
    (hhalt : ∀ mustWait, call ≠ .halting mustWait) : c.failedBy (.advance i) = [] := by
  rw [failedBy, lookup_split hn hc]
  cases call with
  | flushing => exact absurd rfl hflush
  | halting mustWait => exact absurd rfl (hhalt mustWait)
  | _ => rfl

theorem Transition.frameStep (hn : c.Numbered) (h : Transition Simulated.engine c m d) :
    FrameStep c m d := by
  cases h with
  | handOver hw =>
      refine .accepts hw ?_ rfl ?_ rfl
      · simp [handOvers, Occurrence.handOver?]
      · simp [exposed, exposures, Occurrence.exposure?, Simulated.exposing, Simulated.engine,
          Simulated.accept]
  | flushSensor hc | close hc =>
      refine .fails rfl rfl rfl ?_
      rw [failedBy, lookup_split hn hc]
  | sensor hs => exact frameStep_sensor hs
  | clear hc | report hc | closeEffect hc =>
      refine .keeps ?_ ?_ (failedBy_advance hn hc (by simp) (by simp))
      · simp [handOvers]
      · rw [Stage.perform_sensor]
  | enter hc | submitted hc | refuse hc | park hc | admitOne hc | abort hc | drain hc | flushed hc
  | halt hc | stopped hc =>
      refine .keeps ?_ rfl (failedBy_advance hn hc (by simp) (by simp))
      simp [handOvers, Occurrence.handOver?]
  | perform | unwind =>
      refine .keeps ?_ ?_ rfl
      · simp [handOvers]
      · rw [Stage.perform_sensor]
  | _ =>
      refine .keeps ?_ rfl rfl
      simp [handOvers, Occurrence.handOver?, paced, begin]

/-- From one camera to a later one, if all waits ended with a tick: the frame that
was in the slot and those handed over since then were captured, or failed by
flushes and shutdowns, or are in the slot. -/
theorem Reachable.frames_between {moves : List Move}
    (hc : Reachable Simulated.engine { period } c) (h : c.run? Simulated.engine moves = some e)
    (hticked : e.allWaitsTicked = true) :
    ∃ (captured : List (UInt64 × Shot)) (handed : List (FrameTag × Shot)),
      e.handOvers = c.handOvers ++ handed ∧
      e.exposed = c.exposed ++ captured.flatMap (fun p => p.2.exposure p.1) ∧
      (captured.map (·.2) ++ c.failedDuring moves ++ e.stage.sensor.slot.toList).Perm
        (c.stage.sensor.slot.toList ++ handed.map (·.2)) := by
  induction moves generalizing c with
  | nil =>
      cases h
      exact ⟨[], [], by simp, by simp, by simp [failedDuring]⟩
  | cons m rest ih =>
      obtain ⟨b, hb, he⟩ := Option.bind_eq_some_iff.mp (run?_cons ▸ h)
      obtain ⟨captured, handed, hhanded, hexposed, hperm⟩ := ih (hc.next hb) he
      have hfailed : c.failedDuring (m :: rest) = c.failedBy m ++ b.failedDuring rest := by
        simp only [failedDuring, hb]
      rw [hfailed]
      cases (hc.transition hb).frameStep hc.orderly.toNumbered with
      | keeps hhanded' hslot hnone =>
          refine ⟨captured, handed, hhanded' ▸ hhanded, ?_, ?_⟩
          · rw [hexposed, hc.exposed_eq hb hslot]
          · rw [hnone, List.nil_append, ← hslot]
            exact hperm
      | @accepts tag shot hw hhanded' hslot hexposed' hnone =>
          have hempty : c.stage.sensor.slot = none :=
            hc.slot_of_handOver (allWaitsTicked_of_suffix (record_suffix_of_run? hc h) hticked) hw
          refine ⟨captured, (tag, shot) :: handed, ?_, hexposed' ▸ hexposed, ?_⟩
          · rw [hhanded, hhanded', List.append_assoc, List.singleton_append]
          · rw [hnone, List.nil_append, hempty]
            rw [hslot] at hperm
            exact hperm
      | fails hhanded' hslot hexposed' hslot' =>
          refine ⟨captured, handed, hhanded' ▸ hhanded, hexposed' ▸ hexposed, ?_⟩
          rw [hslot, Option.toList_none, List.nil_append, List.perm_iff_count] at hperm
          rw [hslot', List.perm_iff_count]
          intro shot
          have hcount := hperm shot
          simp only [List.count_append] at hcount ⊢
          omega
      | @captures time shot hslot hempty hhanded' hexposed' hnone =>
          refine ⟨(time, shot) :: captured, handed, hhanded' ▸ hhanded, ?_, ?_⟩
          · rw [hexposed, hexposed', List.flatMap_cons, List.append_assoc]
          · rw [hempty, Option.toList_none, List.nil_append] at hperm
            rw [hnone, List.nil_append, hslot]
            exact hperm.cons shot

/-- From a new camera on, as long as all waits of the worker end with a tick: a
frame is handed over to an empty slot, and of the frames handed over, all of
which are distinct, every one was captured, or failed by a flush or a shutdown,
or is in the slot.  Of those captured, and of no others, the sensor tells a
shutter and a result. -/
theorem no_frame_is_lost_to_pacing {config : Config} {store : Store} {controls : Controls}
    {moves : List Move} (h₀ : create config { period } store controls = .ok c)
    (h : c.run? Simulated.engine moves = some e) (hticked : e.allWaitsTicked = true) :
    (∀ tag shot, e.worker = .awaitingInputs tag shot [] → e.stage.sensor.slot = none) ∧
      (e.handOvers.map (·.2.tag?)).Nodup ∧
      ∃ captured : List (UInt64 × Shot),
        (captured.map (·.2) ++ c.failedDuring moves ++ e.stage.sensor.slot.toList).Perm
          (e.handOvers.map (·.2)) ∧
        e.exposures ++ e.stage.sensor.exposing =
          captured.flatMap fun p => p.2.exposure p.1 := by
  have hc : Reachable Simulated.engine { period } c := .created h₀
  have he := hc.run? h
  refine ⟨fun tag shot hw => he.slot_of_handOver hticked hw, ?_, ?_⟩
  · have hnodup := he.nodup_handed
    rwa [roll_handed, List.map_map] at hnodup
  · obtain ⟨captured, handed, hhanded, hexposed, hperm⟩ := hc.frames_between h hticked
    obtain rfl := create_eq h₀
    refine ⟨captured, ?_, ?_⟩
    · rw [hhanded]
      exact hperm
    · exact hexposed

/-- Two requests.  A tick takes the frame of the first out of the slot, and a flush
that of the second while the first is being captured; a third request is
submitted then, and its frame is handed over after the next tick. -/
def pacedMoves : List Move :=
  List.flatten [
    .submit 7 [Sample.preview, Sample.preview] [Sample.pipeline] :: List.replicate 4 (.advance 0),
    List.replicate 9 .worker,
    .sensor :: List.replicate 9 .worker,
    .flush :: List.replicate 5 (.advance 1),
    .submit 7 [Sample.preview] [Sample.pipeline] :: List.replicate 3 (.advance 2),
    .worker :: List.replicate 7 .sensor,
    List.replicate 8 .worker]

theorem sample_frames_are_not_lost_to_pacing :
    ∃ e, (Sample.camera { period := 0 }).run? Simulated.engine pacedMoves = some e ∧
      e.allWaitsTicked = true ∧ e.handOvers.map (·.1) = (List.range 3).map Sample.tag ∧
      ((Sample.camera { period := 0 }).failedDuring pacedMoves).map Shot.tag? =
        [some (Sample.tag 1)] ∧
      e.stage.sensor.slot.map Shot.tag? = some (some (Sample.tag 2)) ∧
      ∃ captured : List (UInt64 × Shot),
        (captured.map (·.2) ++ (Sample.camera { period := 0 }).failedDuring pacedMoves ++
            e.stage.sensor.slot.toList).Perm (e.handOvers.map (·.2)) ∧
          e.exposures ++ e.stage.sensor.exposing =
            captured.flatMap fun p => p.2.exposure p.1 := by
  have hrun : ((Sample.camera { period := 0 }).run? Simulated.engine pacedMoves).map (fun e =>
      (e.allWaitsTicked, e.handOvers.map (·.1), e.stage.sensor.slot.map Shot.tag?)) =
      some (true, (List.range 3).map Sample.tag, some (some (Sample.tag 2))) := by
    decide +kernel
  obtain ⟨e, he, heq⟩ := Option.map_eq_some_iff.mp hrun
  simp only [Prod.mk.injEq] at heq
  obtain ⟨hticked, hhanded, hslot⟩ := heq
  have hcreate : create {} ({ period := 0 } : Simulated) Sample.store Sample.controls =
      .ok (Sample.camera { period := 0 }) := rfl
  exact ⟨e, he, hticked, hhanded, by decide +kernel, hslot,
    (no_frame_is_lost_to_pacing hcreate he hticked).2.2⟩

end Camera

end VirtualCamera
