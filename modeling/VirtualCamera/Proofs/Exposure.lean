import VirtualCamera.Proofs.Record
import VirtualCamera.Sensor.Simulated

/-!
# What the simulated sensor does with frames

A frame that was handed to the simulated sensor waits in the slot, is taken out
of it by a tick and captured, or leaves it because another frame takes its
place or the sensor is flushed.  A `Roll` lists what there is to say about this:
the frames handed over, the one in the slot, what listeners were told, and what
they are still to be told by the sensor's thread (`exposing`) and by whoever
emptied the slot (`dropped`).

`Roll.Since` compares two rolls, an earlier one with an empty slot and a later
one.  The frames handed over in between are split into those captured, those
given up and the one in the slot; what was told since then is a shutter and a
result for each one captured, in the order in which they were handed over, and
one failure for each one given up.  The shutter and the result of a frame are
never apart, because only the sensor's thread tells them and it tells nothing
else.
-/

namespace VirtualCamera

namespace Event

/-- Whether the event belongs to a frame that is captured. -/
def isExposure : Event → Bool
  | shutter .. | result _ => true
  | error .. => false

end Event

namespace Shot

/-- What is told of a frame that is captured. -/
def exposure (shot : Shot) (time : UInt64) : List (FrameTag × Event) :=
  shot.tag?.toList.flatMap fun tag =>
    [(tag, .shutter shot.result.pipeline shot.result.frame time), (tag, .result shot.completed)]

/-- What is told of a frame that is given up. -/
def failure (shot : Shot) : List (FrameTag × Event) :=
  shot.tag?.toList.map fun tag =>
    (tag, .error shot.result.pipeline .request shot.result.frame none)

theorem notices_abandon (shot : Shot) : notices shot.abandon = shot.failure := by
  cases h : shot.tag? <;> simp [abandon, failure, h, Effect.notice?]

theorem notices_abandonAll (shots : List Shot) :
    notices (shots.flatMap abandon) = shots.flatMap failure := by
  induction shots with
  | nil => rfl
  | cons shot rest ih => rw [List.flatMap_cons, List.flatMap_cons, notices_append, ih,
      notices_abandon]

theorem tag?_of_mem_exposure {shot : Shot} {time : UInt64} {p : FrameTag × Event}
    (h : p ∈ shot.exposure time) : shot.tag? = some p.1 := by
  obtain ⟨tag, htag, hp⟩ := List.mem_flatMap.mp h
  simp only [List.mem_cons, List.not_mem_nil, or_false] at hp
  rcases hp with rfl | rfl <;> exact Option.mem_toList.mp htag

theorem isExposure_of_mem_exposure {shot : Shot} {time : UInt64} {p : FrameTag × Event}
    (h : p ∈ shot.exposure time) : p.2.isExposure = true := by
  obtain ⟨tag, -, hp⟩ := List.mem_flatMap.mp h
  simp only [List.mem_cons, List.not_mem_nil, or_false] at hp
  rcases hp with rfl | rfl <;> rfl

theorem isExposure_of_mem_failure {shot : Shot} {p : FrameTag × Event}
    (h : p ∈ shot.failure) : p.2.isExposure = false := by
  obtain ⟨tag, -, rfl⟩ := List.mem_map.mp h
  rfl

end Shot

namespace Sensor

def Action.effect? : Action → Option Effect
  | perform e => some e
  | count => none

/-- What the actions of a capture are about to tell. -/
def told (actions : List Action) : List (FrameTag × Event) :=
  notices (actions.filterMap Action.effect?)

theorem told_append (l r : List Action) : told (l ++ r) = told l ++ told r := by
  simp [told]

theorem told_cons (action : Action) (rest : List Action) :
    told (action :: rest) = (action.effect?.bind Effect.notice?).toList ++ told rest := by
  cases action with
  | perform e => simp [told, Action.effect?]
  | count => rfl

/-- The effects of a capture: the shutter, the paints, the releases and the
result. -/
theorem effects_of_capture {shot : Shot} {tag : FrameTag} (time : UInt64)
    (htag : shot.tag? = some tag) :
    (capture time shot).filterMap Action.effect? =
      .tell tag (.shutter shot.result.pipeline shot.result.frame time) ::
        shot.outputs.map (fun m => .paint m shot.shade) ++ shot.mappings.map .release ++
        [.tell tag (.result shot.completed)] := by
  have hlast : [Action.count, .perform (.tell tag (.result shot.completed))].filterMap
      Action.effect? = [.tell tag (.result shot.completed)] := rfl
  simp [capture, htag, hlast, Action.effect?, List.filterMap_map, Function.comp_def]

theorem effects_of_capture_of_none {shot : Shot} (time : UInt64) (htag : shot.tag? = none) :
    (capture time shot).filterMap Action.effect? = (shot.inputs.getD []).map .release := by
  simp [capture, htag, Action.effect?, List.filterMap_map, Function.comp_def]

theorem told_capture (time : UInt64) (shot : Shot) :
    told (capture time shot) = shot.exposure time := by
  unfold told Shot.exposure
  cases htag : shot.tag? with
  | none => simp [effects_of_capture_of_none time htag]
  | some tag => simp [effects_of_capture time htag, Effect.notice?]

/-- What is left of the capture in progress. -/
def Simulated.actions (s : Simulated) : List Action :=
  match s.thread with
  | .capturing actions => actions
  | .ready | .ended => []

theorem Simulated.actions_of_capturing (s : Simulated) {actions : List Action}
    (h : s.thread = .capturing actions) : s.actions = actions := by
  rw [Simulated.actions, h]

/-- What the sensor's thread is about to tell. -/
def Simulated.exposing (s : Simulated) : List (FrameTag × Event) :=
  match s.thread with
  | .capturing actions => told actions
  | .ready | .ended => []

/-- What the sensor's thread can do: one constructor for each branch of
`Simulated.next?`. -/
inductive Simulated.Step (s : Simulated) : Simulated → List Effect → Prop
  | halt (hthread : s.thread = .ready) (hflag : s.isShuttingDown = true) :
      Step s { s with thread := .ended } []
  | tick {clock pause : Nat} (hthread : s.thread = .ready) (hflag : s.isShuttingDown = false) :
      Step s { s with
        slot := none
        ticks := s.ticks + 1
        clock, pause
        thread := .capturing (s.slot.toList.flatMap (capture clock.toUInt64)) } []
  | rest (hthread : s.thread = .capturing []) : Step s { s with thread := .ready } []
  | perform {e : Effect} {rest : List Action}
      (hthread : s.thread = .capturing (.perform e :: rest)) :
      Step s { s with thread := .capturing rest } [e]
  | count {rest : List Action} (hthread : s.thread = .capturing (.count :: rest)) :
      Step s { s with captured := s.captured + 1, thread := .capturing rest } []

theorem Simulated.step_of_next? {s t : Simulated} {effects : List Effect}
    (h : s.next? = some (t, effects)) : s.Step t effects := by
  unfold next? at h
  split at h
  case h_1 hthread =>
      cases h
      unfold tick
      split
      · rename_i hflag
        exact .halt hthread hflag
      · rename_i hflag
        exact .tick hthread (by simpa using hflag)
  case h_2 hthread => cases h; exact .rest hthread
  case h_3 hthread => cases h; exact .perform hthread
  case h_4 hthread => cases h; exact .count hthread
  case h_5 => cases h

end Sensor

/-! ## Rolls -/

/-- The frames that were handed to a sensor and what is told of them. -/
structure Roll where
  /-- all frames that were handed over, in order -/
  handed : List Shot
  /-- the frame that waits for the next tick -/
  slot : Option Shot
  /-- what the sensor's thread is about to tell -/
  exposing : List (FrameTag × Event)
  /-- what callers of the sensor are about to tell -/
  dropped : Multiset (FrameTag × Event)
  /-- what the sensor told, in order -/
  told : List (FrameTag × Event)

namespace Roll

inductive Step (r : Roll) : Roll → Prop
  | still : Step r r
  | accept (shot : Shot) :
      Step r { r with
        handed := r.handed ++ [shot]
        slot := some shot
        dropped := r.dropped + r.slot.toList.flatMap Shot.failure }
  | flush :
      Step r { r with
        slot := none
        dropped := r.dropped + r.slot.toList.flatMap Shot.failure }
  | tick {shot : Shot} (time : UInt64) (hslot : r.slot = some shot) (he : r.exposing = []) :
      Step r { r with slot := none, exposing := shot.exposure time }
  | expose {p : FrameTag × Event} {rest : List (FrameTag × Event)}
      (he : r.exposing = p :: rest) :
      Step r { r with exposing := rest, told := r.told ++ [p] }
  | drop {p : FrameTag × Event} {rest : Multiset (FrameTag × Event)}
      (hd : r.dropped = p ::ₘ rest) :
      Step r { r with dropped := rest, told := r.told ++ [p] }

/-- How the roll `b` became `r`: which frames were handed over in between, which
of them were captured (and when) or given up, and what was told. -/
structure Between (b r : Roll) (handed : List Shot) (captured : List (UInt64 × Shot))
    (given : Multiset Shot) (told : List (FrameTag × Event)) : Prop where
  handed_eq : r.handed = b.handed ++ handed
  told_eq : r.told = b.told ++ told
  exposures : told.filter (·.2.isExposure) ++ r.exposing =
    b.exposing ++ captured.flatMap fun p => p.2.exposure p.1
  failures : ↑(told.filter (!·.2.isExposure)) + r.dropped =
    b.dropped + given.bind fun shot => (shot.failure : Multiset (FrameTag × Event))
  order : (captured.map (·.2) ++ r.slot.toList).Sublist handed
  account : ↑(captured.map (·.2)) + given + ↑r.slot.toList = (handed : Multiset Shot)

/-- Such a history from `b` to `r` exists. -/
def Since (b r : Roll) : Prop :=
  ∃ handed captured given told, Between b r handed captured given told

/-- Pending notices of an exposure are told by the thread, all others by
callers. -/
structure Sorted (r : Roll) : Prop where
  exposing : ∀ p ∈ r.exposing, p.2.isExposure = true
  dropped : ∀ p ∈ r.dropped, p.2.isExposure = false

def empty : Roll :=
  ⟨[], none, [], 0, []⟩

variable {b r r' : Roll}

/-- From the beginning on, a roll accounts for all that was handed over and all
that was told. -/
theorem Since.whole (h : empty.Since r) :
    ∃ (captured : List (UInt64 × Shot)) (given : Multiset Shot),
      r.told.filter (·.2.isExposure) ++ r.exposing =
        captured.flatMap (fun p => p.2.exposure p.1) ∧
      ↑(r.told.filter (!·.2.isExposure)) + r.dropped =
        given.bind (fun shot => (shot.failure : Multiset (FrameTag × Event))) ∧
      (captured.map (·.2) ++ r.slot.toList).Sublist r.handed ∧
      ↑(captured.map (·.2)) + given + ↑r.slot.toList = (r.handed : Multiset Shot) := by
  obtain ⟨handed, captured, given, told, hhanded, htold, hexp, hfail, horder, hacc⟩ := h
  simp only [empty, List.nil_append, zero_add] at hhanded htold hexp hfail
  subst hhanded htold
  exact ⟨captured, given, hexp, hfail, horder, hacc⟩

theorem since_self (h : r.slot = none) : r.Since r :=
  ⟨[], [], 0, [], by simp, by simp, by simp, by simp, by simp [h], by simp [h]⟩

theorem Step.sorted (h : r.Step r') (hs : r.Sorted) : r'.Sorted := by
  have hgiven : ∀ p ∈ r.slot.toList.flatMap Shot.failure, p.2.isExposure = false := by
    intro p hp
    obtain ⟨shot, -, hp⟩ := List.mem_flatMap.mp hp
    exact Shot.isExposure_of_mem_failure hp
  have hdropped : ∀ p ∈ r.dropped + ↑(r.slot.toList.flatMap Shot.failure),
      p.2.isExposure = false := by
    intro p hp
    rcases Multiset.mem_add.mp hp with hp | hp
    · exact hs.dropped p hp
    · exact hgiven p (Multiset.mem_coe.mp hp)
  cases h with
  | still => exact hs
  | accept | flush => exact ⟨hs.exposing, hdropped⟩
  | tick => exact ⟨fun p => Shot.isExposure_of_mem_exposure, hs.dropped⟩
  | expose he => exact ⟨fun p hp => hs.exposing p (by simp [he, hp]), hs.dropped⟩
  | drop hd => exact ⟨hs.exposing, fun p hp => hs.dropped p (by simp [hd, hp])⟩

theorem coe_concat {α : Type} (l : List α) (x : α) :
    ((l ++ [x] : List α) : Multiset α) = ↑l + {x} := by
  rw [← Multiset.coe_add, Multiset.coe_singleton]

theorem Step.since (h : r.Step r') (hs : r.Sorted) (hb : b.Since r) : b.Since r' := by
  obtain ⟨handed, captured, given, told, hhanded, htold, hexp, hfail, horder, hacc⟩ := hb
  have hcaptured : (captured.map (·.2)).Sublist handed :=
    (List.sublist_append_left _ _).trans horder
  cases h with
  | still => exact ⟨handed, captured, given, told, hhanded, htold, hexp, hfail, horder, hacc⟩
  | accept shot =>
      refine ⟨handed ++ [shot], captured, given + ↑r.slot.toList, told, ?_, htold, hexp, ?_, ?_, ?_⟩
      · simp [hhanded]
      · rw [← add_assoc, hfail]
        simp [add_assoc, Multiset.coe_bind]
      · exact hcaptured.append (List.Sublist.refl [shot])
      · rw [← add_assoc, hacc, coe_concat]
        rfl
  | flush =>
      refine ⟨handed, captured, given + ↑r.slot.toList, told, hhanded, htold, hexp, ?_, ?_, ?_⟩
      · rw [← add_assoc, hfail]
        simp [add_assoc]
      · simpa using hcaptured
      · rw [← add_assoc, hacc]
        simp
  | @tick shot time hslot he =>
      refine ⟨handed, captured ++ [(time, shot)], given, told, hhanded, htold, ?_, hfail, ?_, ?_⟩
      · rw [he, List.append_nil] at hexp
        simp [hexp]
      · simpa [hslot] using horder
      · rw [← hacc, hslot, List.map_append, List.map_singleton, coe_concat]
        exact (add_zero _).trans (add_right_comm _ _ _)
  | @expose p rest he =>
      have hp : p.2.isExposure = true := hs.exposing p (by simp [he])
      refine ⟨handed, captured, given, told ++ [p], hhanded, by simp [htold], ?_, ?_, horder, hacc⟩
      · rw [← hexp, he]
        simp [hp]
      · rw [← hfail]
        simp [hp]
  | @drop p rest hd =>
      have hp : p.2.isExposure = false := hs.dropped p (by simp [hd])
      refine ⟨handed, captured, given, told ++ [p], hhanded, by simp [htold], ?_, ?_, horder, hacc⟩
      · rw [← hexp]
        simp [hp]
      · rw [← hfail, hd, List.filter_append, List.filter_singleton, hp]
        simp only [Bool.not_false, cond_true, coe_concat]
        rw [← Multiset.singleton_add, add_assoc]

end Roll

/-! ## The roll of a stage -/

namespace Occurrence

def handedShot? : Occurrence → Option Shot
  | handedOver _ shot => some shot
  | _ => none

def sensorNotice? : Occurrence → Option (FrameTag × Event)
  | told .sensor tag event => some (tag, event)
  | _ => none

@[simp] theorem handedShot?_effect (e : Effect) (speaker : Speaker) :
    (e.occurrence speaker).handedShot? = none := by
  cases e <;> rfl

@[simp] theorem sensorNotice?_effect_processor (e : Effect) :
    (e.occurrence .processor).sensorNotice? = none := by
  cases e <;> rfl

@[simp] theorem sensorNotice?_effect_sensor (e : Effect) :
    (e.occurrence .sensor).sensorNotice? = e.notice? := by
  cases e <;> rfl

end Occurrence

namespace Stage

open Sensor (Simulated)

/-- The roll of a simulated sensor whose callers are about to tell this. -/
def roll (s : Stage Simulated) (dropped : Multiset (FrameTag × Event)) : Roll where
  handed := s.history Occurrence.handedShot?
  slot := s.sensor.slot
  exposing := s.sensor.exposing
  dropped
  told := s.history Occurrence.sensorNotice?

variable {s t : Stage Simulated} {dropped : Multiset (FrameTag × Event)}

theorem roll_perform {e : Effect} :
    (s.roll (e.notice?.toList + dropped)).Step ((s.perform .sensor e).roll dropped) := by
  cases he : e.notice? with
  | none =>
      have heq : (s.perform .sensor e).roll dropped = s.roll dropped := by simp [roll, he]
      rw [heq, Option.toList_none, Multiset.coe_nil, zero_add]
      exact .still
  | some p =>
      have hdropped : (s.roll (↑(some p).toList + dropped)).dropped = p ::ₘ dropped := rfl
      simpa [roll, he] using Roll.Step.drop hdropped

theorem roll_perform_processor {e : Effect} :
    (s.roll dropped).Step ((s.perform .processor e).roll dropped) := by
  have heq : (s.perform .processor e).roll dropped = s.roll dropped := by simp [roll]
  rw [heq]
  exact .still

theorem roll_accept {tag : FrameTag} {shot : Shot} :
    (s.roll dropped).Step
      (({ s with sensor := (s.sensor.accept shot).1 }.note (.handedOver tag shot)).roll
        (dropped + notices (s.sensor.accept shot).2)) := by
  have hstep := Roll.Step.accept (r := s.roll dropped) shot
  rw [Simulated.accept, Shot.notices_abandonAll]
  simpa [roll, Occurrence.handedShot?, Occurrence.sensorNotice?, Simulated.exposing] using hstep

theorem roll_flush :
    (s.roll dropped).Step
      (roll { s with sensor := s.sensor.flush.1 } (dropped + notices s.sensor.flush.2.1)) := by
  have hstep := Roll.Step.flush (r := s.roll dropped)
  rw [Simulated.flush, Shot.notices_abandonAll]
  exact hstep

/-- The sensor changes in a way that does not show. -/
theorem roll_still {sensor : Simulated} (hexposing : sensor.exposing = s.sensor.exposing)
    (hslot : sensor.slot = s.sensor.slot) :
    (s.roll dropped).Step (roll { s with sensor } dropped) := by
  have heq : roll { s with sensor } dropped = s.roll dropped := by
    simp only [roll, hexposing, hslot, history_mk]
  rw [heq]
  exact .still

theorem roll_expose {e : Effect} {rest : List Sensor.Action}
    (he : s.sensor.exposing = e.notice?.toList ++ Sensor.told rest) :
    (s.roll dropped).Step
      ((perform { s with sensor := { s.sensor with thread := .capturing rest } } .sensor e).roll
        dropped) := by
  cases hnotice : e.notice? with
  | none =>
      rw [hnotice, Option.toList_none, List.nil_append] at he
      have hstep := Roll.Step.still (r := s.roll dropped)
      simp only [roll, he] at hstep ⊢
      simpa [hnotice, Simulated.exposing] using hstep
  | some p =>
      rw [hnotice] at he
      have hstep := Roll.Step.expose (r := s.roll dropped) he
      simpa [roll, hnotice, Simulated.exposing] using hstep

theorem sensorStep_of_sensorStep? (h : s.sensorStep? Simulated.engine = some t) :
    ∃ sensor effects, s.sensor.Step sensor effects ∧
      t = { s with sensor }.performAll .sensor effects := by
  obtain ⟨sensor, effects, hnext, ht⟩ := sensorStep?_eq_some h
  exact ⟨sensor, effects, Simulated.step_of_next? hnext, ht⟩

theorem roll_sensorStep (h : s.sensorStep? Simulated.engine = some t) :
    (s.roll dropped).Step (t.roll dropped) := by
  obtain ⟨sensor, effects, hstep, rfl⟩ := sensorStep_of_sensorStep? h
  cases hstep with
  | halt hthread =>
      refine roll_still ?_ rfl
      rw [Simulated.exposing, Simulated.exposing, hthread]
  | rest hthread | count hthread =>
      refine roll_still ?_ rfl
      rw [Simulated.exposing, Simulated.exposing, hthread]
      rfl
  | @tick clock pause hthread =>
      have hexposing : s.sensor.exposing = [] := by rw [Simulated.exposing, hthread]
      cases hslot : s.sensor.slot with
      | none =>
          have hstill := Roll.Step.still (r := s.roll dropped)
          simp only [roll, hexposing, hslot] at hstill ⊢
          exact hstill
      | some shot =>
          have htick := Roll.Step.tick (r := s.roll dropped) clock.toUInt64 hslot hexposing
          rw [← Sensor.told_capture] at htick
          simpa [roll, Simulated.exposing, performAll] using htick
  | @perform e rest hthread =>
      have hexposing : s.sensor.exposing = e.notice?.toList ++ Sensor.told rest := by
        rw [Simulated.exposing, hthread]
        exact Sensor.told_cons _ _
      exact roll_expose hexposing

end Stage

/-! ## The roll of a camera -/

/-- What the worker is about to tell in the name of the sensor. -/
def Worker.sensorNotices : Worker → List (FrameTag × Event)
  | finishing .sensor effects => VirtualCamera.notices effects
  | checking | ready | resolving _ | awaitingOutputs .. | recording .. | awaitingInputs ..
  | finishing .processor _ | unwinding _ | unpaced | pacing _ | ended => []

def Call.sensorNotices : Call → List (FrameTag × Event)
  | clearing _ effects | closing _ effects => VirtualCamera.notices effects
  | submitting .. | flushing | reporting .. | joining | halting _ => []

namespace Camera

open Sensor (Simulated)

variable {c d : Camera Simulated}

/-- What the callers of the sensor are about to tell in its name. -/
def sensorNotices (c : Camera Simulated) : List (FrameTag × Event) :=
  c.worker.sensorNotices ++ c.calls.flatMap (·.2.sensorNotices)

def roll (c : Camera Simulated) : Roll :=
  c.stage.roll c.sensorNotices

/-- A transition that leaves the sensor alone and has no frame. -/
theorem roll_still (hsensor : d.stage.sensor = c.stage.sensor)
    (hhanded : d.stage.history Occurrence.handedShot? = c.stage.history Occurrence.handedShot?)
    (htold : d.stage.history Occurrence.sensorNotice? =
      c.stage.history Occurrence.sensorNotice?)
    (hnotices : d.sensorNotices = c.sensorNotices) : c.roll.Step d.roll := by
  have heq : d.roll = c.roll := by
    simp only [roll, Stage.roll, hsensor, hhanded, htold, hnotices]
  rw [heq]
  exact .still

/-- A step of the stage, with what the callers are about to tell before and
after it. -/
theorem roll_of_stage {before after : Multiset (FrameTag × Event)}
    (h : (c.stage.roll before).Step (d.stage.roll after))
    (hbefore : (c.sensorNotices : Multiset _) = before)
    (hafter : (d.sensorNotices : Multiset _) = after) : c.roll.Step d.roll := by
  rw [roll, roll, hbefore, hafter]
  exact h

theorem roll_call {l r : List (Nat × Call)} {i : Nat} {old new : Call} {e : Effect}
    {rest : List Effect} (hc : c.calls = l ++ (i, old) :: r)
    (hold : old.sensorNotices = notices (e :: rest)) (hnew : new.sensorNotices = notices rest) :
    c.roll.Step (roll { c with
      stage := c.stage.perform .sensor e
      calls := l ++ (i, new) :: r }) := by
  refine roll_of_stage Stage.roll_perform ?_ rfl
  simp only [sensorNotices, hc, List.flatMap_append, List.flatMap_cons, hold, hnew,
    notices_cons, ← Multiset.coe_add]
  abel

theorem roll_flushBy {l r : List (Nat × Call)} {i : Nat} {old new : Call}
    (hc : c.calls = l ++ (i, old) :: r) (hold : old.sensorNotices = [])
    (hnew : new.sensorNotices = notices c.stage.sensor.flush.2.1) :
    c.roll.Step (roll { c with
      stage := { c.stage with sensor := c.stage.sensor.flush.1 }
      calls := l ++ (i, new) :: r }) := by
  refine roll_of_stage Stage.roll_flush rfl ?_
  simp only [sensorNotices, hc, List.flatMap_append, List.flatMap_cons, hold, hnew,
    List.nil_append, ← Multiset.coe_add]
  abel

theorem Transition.roll {m : Move} (h : Transition Simulated.engine c m d) :
    c.roll.Step d.roll := by
  cases h with
  | handOver hw =>
      refine roll_of_stage Stage.roll_accept rfl ?_
      simp only [sensorNotices, hw, Worker.sensorNotices, List.nil_append, ← Multiset.coe_add]
      exact add_comm _ _
  | @perform speaker e rest hw =>
      cases speaker with
      | sensor =>
          refine roll_of_stage Stage.roll_perform ?_ rfl
          simp only [sensorNotices, hw, Worker.sensorNotices, notices_cons, ← Multiset.coe_add]
          exact add_assoc _ _ _
      | processor =>
          refine roll_of_stage Stage.roll_perform_processor rfl ?_
          simp only [sensorNotices, hw, Worker.sensorNotices]
  | unwind hw =>
      refine roll_of_stage Stage.roll_perform_processor rfl ?_
      simp only [sensorNotices, hw, Worker.sensorNotices]
  | report hc =>
      refine roll_of_stage Stage.roll_perform_processor rfl ?_
      simp only [sensorNotices, hc, List.flatMap_append, List.flatMap_cons, Call.sensorNotices]
  | flushSensor hc | close hc => exact roll_flushBy hc rfl rfl
  | clear hc | closeEffect hc => exact roll_call hc rfl rfl
  | halt hc =>
      refine roll_of_stage (Stage.roll_still ?_ ?_) rfl ?_
      · rfl
      · rfl
      · simp only [sensorNotices, hc, List.flatMap_append, List.flatMap_cons, Call.sensorNotices]
  | sensor hs => exact roll_of_stage (Stage.roll_sensorStep hs) rfl rfl
  | check hw =>
      refine roll_still rfl rfl rfl ?_
      cases hs : c.isStopping <;> simp [sensorNotices, hw, Worker.sensorNotices]
  | @outputsAwaited a resolved ready hw =>
      refine roll_still rfl rfl rfl ?_
      rcases outputsAwaited_cases a resolved ready with ⟨s, sensor, heq, -⟩ | heq <;>
        simp [sensorNotices, hw, heq, Worker.sensorNotices]
  | @finished speaker hw =>
      refine roll_still rfl rfl rfl ?_
      cases speaker <;> simp [sensorNotices, hw, Worker.sensorNotices]
  | idle hw | take hw | resolve hw | crash hw | awaitOutput hw | record hw | awaitInput hw
  | unwound hw | beginPacing hw | skipPacing hw | pace hw | giveUp hw =>
      refine roll_still ?_ ?_ ?_ ?_ <;>
        simp [sensorNotices, hw, Worker.sensorNotices, Occurrence.handedShot?,
          Occurrence.sensorNotice?, prepareShot, paced]
  | enter hc | submitted hc | refuse hc | park hc | admitOne hc | abort hc | expire hc | drain hc
  | flushed hc | stopAgain hc | stopped hc =>
      refine roll_still ?_ ?_ ?_ ?_ <;>
        simp [sensorNotices, hc, Call.sensorNotices, Occurrence.handedShot?,
          Occurrence.sensorNotice?]
  | submit | flush | stop =>
      refine roll_still ?_ ?_ ?_ ?_ <;>
        simp [sensorNotices, begin, Call.sensorNotices]
  | fence => exact roll_still rfl rfl rfl rfl

variable {period : Nat}

theorem Reachable.roll_sorted (hc : Reachable Simulated.engine { period } c) :
    c.roll.Sorted := by
  refine hc.induct (P := fun c => c.roll.Sorted) (fun _ _ _ => ⟨?_, ?_⟩)
    fun _ h ih => h.roll.sorted ih
  · simp [roll, Stage.roll, Simulated.exposing]
  · simp [roll, Stage.roll, sensorNotices, Worker.sensorNotices]

/-- From a camera with an empty slot to any later one. -/
theorem Reachable.roll_since {moves : List Move} (hc : Reachable Simulated.engine { period } c)
    (h : c.run? Simulated.engine moves = some d) (hslot : c.stage.sensor.slot = none) :
    c.roll.Since d.roll :=
  hc.run_induct (P := fun b => c.roll.Since b.roll) h (Roll.since_self hslot)
    fun hb hstep => (hb.transition hstep).roll.since hb.roll_sorted

/-- From a new camera to any later one. -/
theorem Reachable.rolled (hc : Reachable Simulated.engine { period } c) :
    Roll.empty.Since c.roll := by
  induction hc with
  | created h =>
      obtain rfl := create_eq h
      exact Roll.since_self rfl
  | next hc h ih =>
      exact (hc.transition h).roll.since hc.roll_sorted ih

end Camera

end VirtualCamera
