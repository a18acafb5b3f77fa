import VirtualCamera.Proofs.Custody
import VirtualCamera.Proofs.Strokes
import VirtualCamera.Proofs.Waiting

/-!
# Buffers are painted after their fences

The bytes of a buffer change in one way only: the sensor's thread paints through
a mapping and says so in the record (`Transition.writesOnlyPaint`).  No caller
of the sensor paints.  What the thread painted so far, followed by what it is
about to paint in the capture at hand, are the outputs of some of the shots that
were handed over, in order (`Painted.captured`).  So what was painted for one
request begins the outputs of its shot, and these are what was kept of the waits
for the outputs of the request (`Reachable.awaiting`).

A shot is painted only after its shutter was told (`Painted.told`), and of one
frame no shutter and no failure are told together, neither by the sensor
(`Roll.isExposure_eq_of_told`) nor by the processor, whose notice would be a
second outcome.
-/

namespace VirtualCamera

/-! ## What changes the bytes of a buffer -/

namespace Store

theorem contents_settle (s : Store) (m : Mapping) (j : Nat) :
    (s.settle m).1.memory.contents j = s.memory.contents j := by
  unfold settle
  cases s.outcome m with
  | ok => rfl
  | error => exact s.memory.contents_release m.buffer j

end Store

theorem Camera.contents_mapRequest {σ : Type} {E : Engine σ} {c : Camera σ} {frame : UInt32}
    {p : Pipeline} {q : CaptureRequest} {store : Store} {mapped : Except Crash Admission}
    (hmap : c.mapRequest E frame p q = (store, mapped)) (j : Nat) :
    store.memory.contents j = c.stage.store.memory.contents j :=
  mapRequest_induct (P := fun t => t.memory.contents j = c.stage.store.memory.contents j) rfl
    (fun t i ht => (t.memory.contents_acquire i j).trans ht)
    (fun t i ht => (t.memory.contents_release i j).trans ht) hmap

namespace Occurrence

def paint? : Occurrence → Option Mapping
  | painted m _ => some m
  | _ => none

end Occurrence

namespace Effect

def paint? : Effect → Option Mapping
  | paint m _ => some m
  | tell .. | release _ => none

@[simp] theorem paint?_occurrence (e : Effect) (speaker : Speaker) :
    (e.occurrence speaker).paint? = e.paint? := by
  cases e <;> rfl

end Effect

/-- An effect that does not paint leaves the bytes alone. -/
theorem Stage.perform_cases {σ : Type} (s : Stage σ) (speaker : Speaker) (e : Effect) :
    (e.paint? = none ∧
        ∀ j, (s.perform speaker e).store.memory.contents j = s.store.memory.contents j) ∨
      ∃ m shade, e = .paint m shade ∧ (s.perform speaker e).store = s.store.paint m shade := by
  cases e with
  | tell => exact Or.inl ⟨rfl, fun _ => rfl⟩
  | paint m shade => exact Or.inr ⟨m, shade, rfl, rfl⟩
  | release m => exact Or.inl ⟨rfl, fun j => s.store.memory.contents_release m.buffer j⟩

/-! ## Who paints -/

/-- What effects are about to paint. -/
def painting (effects : List Effect) : List Mapping :=
  effects.filterMap Effect.paint?

@[simp] theorem painting_nil : painting [] = [] := rfl

@[simp] theorem painting_cons (e : Effect) (rest : List Effect) :
    painting (e :: rest) = e.paint?.toList ++ painting rest := by
  cases h : e.paint? <;> simp [painting, h]

@[simp] theorem painting_append (l r : List Effect) :
    painting (l ++ r) = painting l ++ painting r :=
  List.filterMap_append

@[simp] theorem painting_release (mappings : List Mapping) :
    painting (mappings.map .release) = [] := by
  simp [painting, List.filterMap_map, Function.comp_def, Effect.paint?]

@[simp] theorem painting_paint (mappings : List Mapping) (shade : UInt8) :
    painting (mappings.map fun m => .paint m shade) = mappings := by
  simp [painting, List.filterMap_map, Function.comp_def, Effect.paint?]

theorem painting_failing (a : Admission) (ready : List Mapping) :
    painting (Camera.failing a ready) = [] := by
  simp [Camera.failing, Admission.failure, Effect.paint?]

theorem painting_failingAll (drained : List Admission) :
    painting (Camera.failingAll drained) = [] := by
  refine List.filterMap_eq_nil_iff.mpr fun e he => ?_
  rcases List.mem_append.mp he with he | he
  · obtain ⟨a, -, rfl⟩ := List.mem_map.mp he
    rfl
  · obtain ⟨a, -, he⟩ := List.mem_flatMap.mp he
    obtain ⟨m, -, rfl⟩ := List.mem_map.mp he
    rfl

theorem Shot.painting_abandonAll (shots : List Shot) :
    painting (shots.flatMap abandon) = [] := by
  induction shots with
  | nil => rfl
  | cons shot rest ih =>
      rw [List.flatMap_cons, painting_append, ih]
      cases htag : shot.tag? <;> simp [abandon, htag, Effect.paint?]

namespace Sensor

def paintedBy (actions : List Action) : List Mapping :=
  painting (actions.filterMap Action.effect?)

@[simp] theorem paintedBy_nil : paintedBy [] = [] := rfl

@[simp] theorem paintedBy_perform (e : Effect) (rest : List Action) :
    paintedBy (.perform e :: rest) = e.paint?.toList ++ paintedBy rest := by
  simp [paintedBy, Action.effect?]

@[simp] theorem paintedBy_count (rest : List Action) :
    paintedBy (.count :: rest) = paintedBy rest := rfl

theorem paintedBy_capture (time : UInt64) (shot : Shot) :
    paintedBy (capture time shot) = shot.outputs := by
  unfold paintedBy
  cases htag : shot.tag? with
  | none =>
      have hnone : shot.outputs = [] := by simpa [Shot.tag?] using htag
      rw [effects_of_capture_of_none time htag, painting_release, hnone]
  | some tag => simp [effects_of_capture time htag, Effect.paint?]

end Sensor

namespace Camera

open Sensor (Simulated)

section

variable {σ : Type} {E : Engine σ} {c d : Camera σ}

def paints (c : Camera σ) : List Mapping :=
  c.stage.history Occurrence.paint?

def paintsFor (c : Camera σ) (tag : FrameTag) : List Mapping :=
  c.paints.filter (·.tag = tag)

structure OnlySensorPaints (c : Camera σ) : Prop where
  worker : painting c.worker.effects = []
  calls : ∀ p ∈ c.calls, painting p.2.effects = []

theorem OnlySensorPaints.of_split {l r : List (Nat × Call)} {p : Nat × Call}
    (h : c.OnlySensorPaints) (hc : c.calls = l ++ p :: r) :
    painting p.2.effects = [] ∧ ∀ q ∈ l ++ r, painting q.2.effects = [] :=
  ⟨h.calls p (hc ▸ mem_split.mpr (Or.inl rfl)),
    fun q hq => h.calls q (hc ▸ mem_split.mpr (Or.inr hq))⟩

theorem Transition.onlySensorPaints {m : Move} {c d : Camera Simulated}
    (h : Transition Simulated.engine c m d) (hp : c.OnlySensorPaints) : d.OnlySensorPaints := by
  have habandon := Shot.painting_abandonAll c.stage.sensor.slot.toList
  have hcall {l r : List (Nat × Call)} {i : Nat} {old new : Call}
      (hc : c.calls = l ++ (i, old) :: r)
      (hnew : painting old.effects = [] → painting new.effects = []) :
      ∀ q ∈ l ++ (i, new) :: r, painting q.2.effects = [] := by
    obtain ⟨hold, hothers⟩ := hp.of_split hc
    intro q hq
    rcases mem_split.mp hq with rfl | hq
    · exact hnew hold
    · exact hothers q hq
  have hworker := hp.worker
  cases h with
  | handOver hw => exact ⟨habandon, hp.calls⟩
  | perform hw | unwind hw =>
      rw [hw] at hworker
      simp only [Worker.effects, painting_cons, List.append_eq_nil_iff] at hworker
      exact ⟨hworker.2, hp.calls⟩
  | crash hw => exact ⟨painting_release _, hp.calls⟩
  | @outputsAwaited a resolved kept hw =>
      refine ⟨?_, hp.calls⟩
      rcases outputsAwaited_cases a resolved kept with ⟨s, sensor, heq, -⟩ | heq
      · simp only [heq]
        rfl
      · simp only [heq]
        exact painting_failing a kept
  | check hw =>
      refine ⟨?_, hp.calls⟩
      cases hs : c.isStopping <;> rfl
  | idle | take | resolve | awaitOutput | record | awaitInput | finished | unwound | beginPacing
  | skipPacing | pace | giveUp => exact ⟨rfl, hp.calls⟩
  | flushSensor hc | close hc => exact ⟨hworker, hcall hc fun _ => habandon⟩
  | clear hc | report hc | closeEffect hc =>
      refine ⟨hworker, hcall hc fun hold => ?_⟩
      simp only [Call.effects, painting_cons, List.append_eq_nil_iff] at hold
      exact hold.2
  | drain hc => exact ⟨hworker, hcall hc fun _ => painting_failingAll c.queue⟩
  | enter hc | park hc | admitOne hc | halt hc => exact ⟨hworker, hcall hc fun _ => rfl⟩
  | submitted hc | refuse hc | abort hc | expire hc | flushed hc | stopped hc =>
      exact ⟨hworker, (hp.of_split hc).2⟩
  | submit | flush | stop =>
      refine ⟨hworker, fun q hq => ?_⟩
      rcases List.mem_append.mp hq with hq | hq
      · exact hp.calls q hq
      · obtain rfl := List.mem_singleton.mp hq
        rfl
  | stopAgain | sensor | fence => exact ⟨hworker, hp.calls⟩

/-- Nothing was painted and the bytes are what they were, or one mapping was painted. -/
def WritesOnlyPaint (c d : Camera σ) : Prop :=
  (d.paints = c.paints ∧
      ∀ j, d.stage.store.memory.contents j = c.stage.store.memory.contents j) ∨
    ∃ m shade, d.paints = c.paints ++ [m] ∧ d.stage.store = c.stage.store.paint m shade

theorem writesOnlyPaint_of_perform {speaker : Speaker} {e : Effect}
    (hrecord : d.stage.record = (c.stage.perform speaker e).record)
    (hstore : d.stage.store = (c.stage.perform speaker e).store) : c.WritesOnlyPaint d := by
  rcases c.stage.perform_cases speaker e with ⟨hnone, hsame⟩ | ⟨m, shade, rfl, hpaint⟩
  · refine Or.inl ⟨?_, fun j => hstore ▸ hsame j⟩
    simp [paints, Stage.history, hrecord, Stage.perform_record, hnone]
  · refine Or.inr ⟨m, shade, ?_, hstore.trans hpaint⟩
    simp [paints, Stage.history, hrecord, Stage.perform_record, Effect.paint?]

end

variable {c d : Camera Simulated} {tag : FrameTag}

theorem Transition.writesOnlyPaint {m : Move} (h : Transition Simulated.engine c m d) :
    c.WritesOnlyPaint d := by
  cases h with
  | perform | unwind | clear | report | closeEffect => exact writesOnlyPaint_of_perform rfl rfl
  | awaitOutput | awaitInput =>
      refine Or.inl ⟨?_, fun j => c.stage.store.contents_settle _ j⟩
      simp [paints, Occurrence.paint?]
  | admitOne hc hgo hcheck hroom hmap | abort hc hgo hcheck hroom hmap =>
      refine Or.inl ⟨?_, contents_mapRequest hmap⟩
      simp [paints, Occurrence.paint?]
  | sensor hs =>
      obtain ⟨sensor, effects, hstep, rfl⟩ := Stage.sensorStep_of_sensorStep? hs
      cases hstep with
      | @perform e rest =>
          rw [Stage.performAll_singleton]
          have hrecord : (Stage.perform { c.stage with sensor := { c.stage.sensor with
              thread := .capturing rest } } .sensor e).record =
                (c.stage.perform .sensor e).record := by
            cases e <;> rfl
          refine writesOnlyPaint_of_perform hrecord ?_
          cases e <;> rfl
      | halt | tick | rest | count => exact Or.inl ⟨rfl, fun _ => rfl⟩
  | _ =>
      refine Or.inl ⟨?_, fun _ => rfl⟩
      simp [paints, Occurrence.paint?, begin, paced]

end Camera

/-! ## What the sensor paints -/

/-- The outputs of a shot all have the tag under which it is told of. -/
def Shot.IsTagged (shot : Shot) : Prop :=
  ∀ m ∈ shot.outputs, shot.tag? = some m.tag

namespace Stage

open Sensor (Simulated)

variable {s t : Stage Simulated} {tag : FrameTag}

/-- The sensor told that a frame of this request is captured. -/
def Exposed (s : Stage Simulated) (tag : FrameTag) : Prop :=
  ∃ event, (tag, event) ∈ s.history Occurrence.sensorNotice? ∧ event.isExposure = true

theorem Exposed.mono (hrecord : s.record <:+ t.record) (h : s.Exposed tag) : t.Exposed tag := by
  obtain ⟨event, hmem, hexposure⟩ := h
  have hnotices := history_prefix hrecord Occurrence.sensorNotice?
  exact ⟨event, hnotices.subset hmem, hexposure⟩

/-- What was painted, and what the sensor's thread is about to paint, are the
outputs of shots that were handed over, and none is painted before its shutter
was told. -/
structure Painted (s : Stage Simulated) : Prop where
  captured : ∃ captured : List Shot,
    (captured ++ s.sensor.slot.toList).Sublist (s.history Occurrence.handedShot?) ∧
      s.history Occurrence.paint? ++ Sensor.paintedBy s.sensor.actions =
        captured.flatMap Shot.outputs
  told : ∀ m ∈ s.history Occurrence.paint?, s.Exposed m.tag
  thread : ∀ m ∈ Sensor.paintedBy s.sensor.actions, s.Exposed m.tag ∨
    ∃ event rest, event.isExposure = true ∧ s.sensor.actions = .perform (.tell m.tag event) :: rest

/-- The sensor's thread does nothing, and nobody else paints. -/
theorem Painted.still (h : s.Painted) (hrecord : s.record <:+ t.record)
    (hpaints : t.history Occurrence.paint? = s.history Occurrence.paint?)
    (hactions : t.sensor.actions = s.sensor.actions)
    (hslot : ∀ captured : List Shot,
      (captured ++ s.sensor.slot.toList).Sublist (s.history Occurrence.handedShot?) →
        (captured ++ t.sensor.slot.toList).Sublist (t.history Occurrence.handedShot?)) :
    t.Painted := by
  obtain ⟨captured, hsublist, hcaptured⟩ := h.captured
  refine ⟨⟨captured, hslot captured hsublist, ?_⟩, fun m hm => ?_, fun m hm => ?_⟩
  · rw [hpaints, hactions, hcaptured]
  · exact (h.told m (hpaints ▸ hm)).mono hrecord
  · rw [hactions] at hm ⊢
    exact (h.thread m hm).imp_left (Exposed.mono hrecord)

theorem Painted.note {o : Occurrence} {store : Store} (h : s.Painted) (ho : o.paint? = none)
    (ho' : o.handedShot? = none) : (Stage.note { s with store } o).Painted := by
  refine h.still (List.suffix_cons _ _) ?_ rfl fun captured hsublist => ?_
  · simp [ho]
  · simpa [ho'] using hsublist

theorem Painted.perform {speaker : Speaker} {e : Effect} (h : s.Painted) (he : e.paint? = none) :
    (s.perform speaker e).Painted := by
  refine h.still (s.perform_record speaker e ▸ List.suffix_cons _ _) ?_ ?_ fun captured hs => ?_
  · simp [he]
  · rw [perform_sensor]
  · simpa using hs

theorem Painted.accept {tag : FrameTag} {shot : Shot} (h : s.Painted) :
    (Stage.note { s with sensor := (s.sensor.accept shot).1 } (.handedOver tag shot)).Painted := by
  refine h.still (List.suffix_cons _ _) ?_ rfl fun captured hsublist => ?_
  · simp [Occurrence.paint?]
  · have hcaptured := (List.sublist_append_left _ _).trans hsublist
    simpa [Simulated.accept, Occurrence.handedShot?] using hcaptured.append_right [shot]

theorem Painted.flush (h : s.Painted) : Painted { s with sensor := s.sensor.flush.1 } := by
  refine h.still List.suffix_rfl rfl rfl fun captured hsublist => ?_
  simpa [Simulated.flush] using (List.sublist_append_left _ _).trans hsublist

theorem Painted.sensorStep (h : s.Painted)
    (htags : ∀ shot ∈ s.history Occurrence.handedShot?, shot.IsTagged)
    (hs : s.sensorStep? Simulated.engine = some t) : t.Painted := by
  obtain ⟨captured, hsublist, hcaptured⟩ := h.captured
  obtain ⟨sensor, effects, hstep, rfl⟩ := sensorStep_of_sensorStep? hs
  have hthread := h.thread
  cases hstep with
  | halt hready | rest hready =>
      refine h.still List.suffix_rfl rfl ?_ fun _ => id
      simp [Simulated.actions, hready, performAll]
  | @count rest hcount =>
      have hactions : s.sensor.actions = .count :: rest := by rw [Simulated.actions, hcount]
      simp only [hactions, Sensor.paintedBy_count] at hcaptured hthread
      refine ⟨⟨captured, hsublist, hcaptured⟩, h.told, fun m hm => ?_⟩
      rcases hthread m hm with hexposed | ⟨event, rest, -, heq⟩
      · exact Or.inl hexposed
      · cases heq
  | @tick clock pause hready =>
      have hactions : s.sensor.actions = [] := by rw [Simulated.actions, hready]
      rw [hactions, Sensor.paintedBy_nil, List.append_nil] at hcaptured
      cases hslot : s.sensor.slot with
      | none =>
          refine h.still List.suffix_rfl rfl hactions.symm fun captured hsublist => ?_
          rwa [hslot] at hsublist
      | some shot =>
          rw [hslot, Option.toList_some] at hsublist
          have hpainted : Sensor.paintedBy
              ((some shot).toList.flatMap (Sensor.capture clock.toUInt64)) = shot.outputs := by
            simp [Sensor.paintedBy_capture]
          refine ⟨⟨captured ++ [shot], ?_, ?_⟩, h.told, fun m hm => Or.inr ?_⟩
          · simpa [performAll] using hsublist
          · simp only [performAll, List.foldl_nil, Simulated.actions, hpainted]
            simp [hcaptured]
          · have htag : shot.tag? = some m.tag := by
              refine htags shot (hsublist.subset (by simp)) m ?_
              simpa only [performAll, List.foldl_nil, Simulated.actions, hpainted] using hm
            refine ⟨.shutter shot.result.pipeline shot.result.frame clock.toUInt64, ?_⟩
            simp [performAll, Simulated.actions, Sensor.capture, htag, Event.isExposure]
  | @perform e rest hperform =>
      have hactions : s.sensor.actions = .perform e :: rest := by
        rw [Simulated.actions, hperform]
      simp only [hactions, Sensor.paintedBy_perform] at hcaptured hthread
      have hrecord : s.record <:+
          (Stage.perform { s with sensor := { s.sensor with thread := .capturing rest } }
            .sensor e).record := by
        rw [perform_record]
        exact List.suffix_cons _ _
      have hexposed : ∀ m ∈ e.paint?.toList ++ Sensor.paintedBy rest,
          (Stage.perform { s with sensor := { s.sensor with thread := .capturing rest } }
            .sensor e).Exposed m.tag := by
        intro m hm
        rcases hthread m hm with hexposed | ⟨event, rest, hevent, heq⟩
        · exact hexposed.mono hrecord
        · cases heq
          exact ⟨event, by simp [Effect.notice?], hevent⟩
      refine ⟨⟨captured, ?_, ?_⟩, fun m hm => ?_, fun m hm => Or.inl ?_⟩
      · simpa using hsublist
      · simpa [Simulated.actions] using hcaptured
      · rw [performAll_singleton, history_perform, history_mk, Effect.paint?_occurrence] at hm
        rcases List.mem_append.mp hm with hm | hm
        · exact (h.told m hm).mono hrecord
        · exact hexposed m (List.mem_append_left _ hm)
      · exact hexposed m (List.mem_append_right _ (by simpa [Simulated.actions] using hm))

end Stage

namespace Camera

open Sensor (Simulated)

variable {c d : Camera Simulated} {tag : FrameTag} {period : Nat}

theorem Transition.painted {m : Move} (hc : Reachable Simulated.engine { period } c)
    (h : Transition Simulated.engine c m d) (hcallers : c.OnlySensorPaints)
    (hp : c.stage.Painted) : d.stage.Painted := by
  have heffect {l r : List (Nat × Call)} {i : Nat} {call : Call} {e : Effect}
      {rest : List Effect} (hcalls : c.calls = l ++ (i, call) :: r)
      (heffects : call.effects = e :: rest) : e.paint? = none := by
    have hnone := (hcallers.of_split hcalls).1
    simp only [heffects, painting_cons, List.append_eq_nil_iff, Option.toList_eq_nil_iff] at hnone
    exact hnone.1
  have hworker := hcallers.worker
  cases h with
  | perform hw | unwind hw =>
      rw [hw] at hworker
      simp only [Worker.effects, painting_cons, List.append_eq_nil_iff,
        Option.toList_eq_nil_iff] at hworker
      exact hp.perform hworker.1
  | clear hcalls | report hcalls | closeEffect hcalls => exact hp.perform (heffect hcalls rfl)
  | handOver => exact hp.accept
  | flushSensor | close => exact hp.flush
  | halt => exact hp.still List.suffix_rfl rfl rfl fun _ => id
  | sensor hs =>
      refine hp.sensorStep (fun shot hshot m hm => ?_) hs
      obtain ⟨tag, htag, hbelongs⟩ := hc.exists_tag hshot
      rw [hbelongs.outputs m hm, htag]
  | fence => exact hp.still List.suffix_rfl rfl rfl fun _ => id
  | take | resolve | crash | awaitOutput | awaitInput | skipPacing | pace | giveUp | submitted
  | refuse | admitOne | abort | expire | drain | flushed | stopAgain | stopped =>
      exact hp.note rfl rfl
  | _ => exact hp

theorem Reachable.painted (hc : Reachable Simulated.engine { period } c) :
    c.OnlySensorPaints ∧ c.stage.Painted := by
  induction hc with
  | created h =>
      obtain rfl := create_eq h
      refine ⟨⟨rfl, by simp⟩, ⟨[], ?_, rfl⟩, ?_, ?_⟩
      · simp
      · simp [Stage.history]
      · simp [Simulated.actions]
  | next hc h ih =>
      have htransition := hc.transition h
      exact ⟨htransition.onlySensorPaints ih.1, htransition.painted hc ih.1 ih.2⟩

/-- What was painted for a request begins the outputs of a shot that was handed
over for it. -/
theorem Reachable.paintsFor_cases (hc : Reachable Simulated.engine { period } c)
    (tag : FrameTag) :
    c.paintsFor tag = [] ∨
      ∃ shot, (tag, shot) ∈ c.handOvers ∧ c.paintsFor tag <+: shot.outputs := by
  obtain ⟨captured, hsublist, hcaptured⟩ := hc.painted.2.captured
  have hhanded : captured.Sublist (c.handOvers.map (·.2)) := by
    rw [← roll_handed]
    exact (List.sublist_append_left _ _).trans hsublist
  have htags : ∀ shot ∈ captured, ∀ m ∈ shot.outputs, shot.tag? = some m.tag := by
    intro shot hshot m hm
    obtain ⟨p, hp, rfl⟩ := List.mem_map.mp (hhanded.subset hshot)
    have hbelongs := hc.tagged.handOvers p hp
    rw [hbelongs.outputs m hm, Shot.tag?_eq hbelongs]
  have hprefix : c.paintsFor tag <+: (captured.flatMap Shot.outputs).filter (·.tag = tag) := by
    rw [← hcaptured]
    exact (List.prefix_append _ _).filter _
  by_cases hmem : ∃ shot ∈ captured, shot.tag? = some tag
  · obtain ⟨shot, hshot, htag⟩ := hmem
    have hnodup : (captured.map Shot.tag?).Nodup := by
      refine List.Nodup.sublist ?_ hc.nodup_handed
      rw [roll_handed]
      exact hhanded.map Shot.tag?
    rw [filter_key_flatMap htags hnodup hshot htag] at hprefix
    obtain ⟨p, hp, rfl⟩ := List.mem_map.mp (hhanded.subset hshot)
    have hsame : p.1 = tag := by
      rw [Shot.tag?_eq (hc.tagged.handOvers p hp)] at htag
      exact Option.some.inj htag
    exact Or.inr ⟨p.2, hsame ▸ hp, hprefix⟩
  · have hnone : (captured.flatMap Shot.outputs).filter (·.tag = tag) = [] := by
      refine List.filter_eq_nil_iff.mpr fun m hm heq => hmem ?_
      obtain ⟨shot, hshot, hm⟩ := List.mem_flatMap.mp hm
      exact ⟨shot, hshot, (htags shot hshot m hm).trans (congrArg some (of_decide_eq_true heq))⟩
    rw [hnone, List.prefix_nil] at hprefix
    exact Or.inl hprefix

theorem Reachable.exists_request_of_painted (hc : Reachable Simulated.engine { period } c)
    {m : Mapping} (hm : m ∈ c.paints) :
    ∃ a ∈ c.requests, m ∈ a.outputs.getD [] ∧ (m, .ok ()) ∈ c.waitsFor a.tag := by
  have hfor : m ∈ c.paintsFor m.tag := List.mem_filter.mpr ⟨hm, by simp⟩
  have hne : c.paintsFor m.tag ≠ [] := List.ne_nil_of_mem hfor
  rcases hc.paintsFor_cases m.tag with hnone | ⟨shot, hshot, hprefix⟩
  · exact absurd hnone hne
  · obtain ⟨a, ha, htag, waits, hwaits, hmap, houtputs⟩ := hc.awaiting.handOvers _ hshot
    have hkept : (m, .ok ()) ∈ waits := Mapping.mem_kept.mp (houtputs ▸ hprefix.subset hfor)
    refine ⟨a, ha, ?_, htag ▸ hwaits.subset hkept⟩
    rw [← hmap]
    exact List.mem_map_of_mem hkept

def fenced : Camera Simulated :=
  { Sample.camera ({ period := 0 } : Simulated) with
    stage := {
      sensor := { period := 0 }
      store := ⟨⟨#[.zeroed 16, .zeroed 16]⟩, #[.pending, .pending]⟩ } }

/-- Two outputs with a fence each; the buffer of the second is an input too. -/
def twoFences : CaptureRequest :=
  { Sample.preview with
    inputs := [⟨0, 1, none, .error⟩]
    outputs := [⟨0, 0, some 0, .error⟩, ⟨0, 1, some 1, .error⟩] }

/-- The first fence signals while the worker has the request, the second does
not. -/
def oneSignals : List Move :=
  List.flatten [
    .submit 7 [twoFences] [Sample.pipeline] :: List.replicate 3 (.advance 0),
    List.replicate 3 .worker, .fence 0 .signaled :: List.replicate 8 .worker,
    List.replicate 4 .sensor]

end Camera

end VirtualCamera
