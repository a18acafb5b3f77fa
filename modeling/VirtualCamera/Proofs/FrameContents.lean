import VirtualCamera.Proofs.Jobs
import VirtualCamera.Proofs.Regions

/-!
# What a capture writes

The sensor's thread captures a frame in many steps, and callers of the sensor make
theirs in between.  What the capture as a whole leaves in the buffers is their bytes
of before under the strokes of the shot (`Shot.strokes`).

The record tells all that became of the store: between two stages, the bytes of
every buffer are those of before under the strokes in the record, and its locks
are fewer by the releases in the record (`Stage.Follows`).  What is left to be shown
is what gets into the record while a capture goes on.  The thread writes down the
actions of the capture, one in each step; callers, who only give frames up, write
down no strokes (`Bench.CallsAreQuiet`).  `Bench.Captures` carries this along a run,
up to the last action: then the outputs are painted, the buffers are released, and
the result is about to be told (`Bench.Captures.delivers`).
-/

namespace VirtualCamera

/-! ## The record tells what became of the store -/

def Effect.strokes : Effect → List (Region × UInt8)
  | paint m shade => m.planes.strokes shade
  | tell .. | release _ => []

namespace Occurrence

def strokes : Occurrence → List (Region × UInt8)
  | painted m shade => m.planes.strokes shade
  | _ => []

def released? : Occurrence → Option Mapping
  | released m => some m
  | _ => none

@[simp] theorem strokes_occurrence (e : Effect) (speaker : Speaker) :
    (e.occurrence speaker).strokes = e.strokes := by
  cases e <;> rfl

@[simp] theorem released?_occurrence (e : Effect) (speaker : Speaker) :
    (e.occurrence speaker).released? = e.released? := by
  cases e <;> rfl

theorem released?_occurrences (effects : List Effect) (speaker : Speaker) :
    (effects.map (·.occurrence speaker)).filterMap released? = VirtualCamera.released effects := by
  simp [VirtualCamera.released, List.filterMap_map]

end Occurrence

namespace Stage

variable {σ : Type} {s t u : Stage σ} {new new' : List Occurrence}

/-- The second stage comes after the first: what happened in between is in the record,
and buffers were painted and released only as the record tells. -/
structure Follows (s t : Stage σ) (new : List Occurrence) : Prop where
  record : t.record = new.reverse ++ s.record
  contents : ∀ i, t.store.memory.contents i =
    overlay (new.flatMap Occurrence.strokes) i (s.store.memory.contents i)
  locks : ∀ i, t.store.lockCount i =
    s.store.lockCount i - (new.filterMap Occurrence.released?).countP (·.buffer = i)

theorem Follows.refl (s : Stage σ) : s.Follows s [] :=
  ⟨rfl, by simp, by simp⟩

theorem Follows.trans (h : s.Follows t new) (h' : t.Follows u new') :
    s.Follows u (new ++ new') := by
  constructor
  · rw [h'.record, h.record, List.reverse_append, List.append_assoc]
  · intro i
    rw [h'.contents, h.contents, List.flatMap_append, overlay_append]
  · intro i
    rw [h'.locks, h.locks, List.filterMap_append, List.countP_append]
    omega

theorem follows_perform (s : Stage σ) (speaker : Speaker) (e : Effect) :
    s.Follows (s.perform speaker e) [e.occurrence speaker] := by
  constructor
  · exact s.perform_record speaker e
  · intro i
    cases e with
    | tell => exact (overlay_nil _ _).symm
    | paint m shade =>
        rw [List.flatMap_singleton]
        exact s.store.contents_paint m shade i
    | release m =>
        refine (s.store.memory.contents_release m.buffer i).trans ?_
        exact (overlay_nil _ _).symm
  · intro i
    cases e with
    | tell => rfl
    | paint m shade => exact s.store.lockCount_paint m shade i
    | release m =>
        refine (s.store.lockCount_release m.buffer i).trans ?_
        rw [← countP_buffer_singleton]
        rfl

theorem follows_performAll (s : Stage σ) (speaker : Speaker) (effects : List Effect) :
    s.Follows (s.performAll speaker effects) (effects.map (·.occurrence speaker)) := by
  induction effects generalizing s with
  | nil => exact .refl s
  | cons e rest ih => exact (s.follows_perform speaker e).trans (ih _)

/-- Something happened that concerns no buffer. -/
theorem follows_note {o : Occurrence} (s : Stage σ) (hstrokes : o.strokes = [])
    (hreleased : o.released? = none) : s.Follows (s.note o) [o] := by
  constructor
  · rfl
  · intro i
    rw [List.flatMap_singleton, hstrokes, overlay_nil]
    rfl
  · intro i
    simp [note, hreleased]

/-- The sensor is no part of the store. -/
theorem Follows.congr (h : s.Follows t new) (hstore : u.store = t.store)
    (hrecord : u.record = t.record) : s.Follows u new :=
  ⟨hrecord.trans h.record, fun i => hstore ▸ h.contents i, fun i => hstore ▸ h.locks i⟩

end Stage

namespace Sensor

/-! ## The callers of the sensor -/

/-- A call that is not about to paint. -/
def SensorCall.IsQuiet : SensorCall → Prop
  | performing effects _ => painting effects = []
  | waiting _ | halting _ => True

theorem SensorCall.isQuiet_cons {e : Effect} {rest : List Effect} {answer : Except Fault Unit} :
    (performing (e :: rest) answer).IsQuiet ↔
      e.paint? = none ∧ (performing rest answer).IsQuiet := by
  cases h : e.paint? <;> simp [IsQuiet, h]

theorem strokes_eq_nil {e : Effect} (h : e.paint? = none) : e.strokes = [] := by
  cases e with
  | paint => cases h
  | tell | release => rfl

namespace Bench

variable {b d e : Bench Simulated} {m : Move} {period : Nat}

def Move.isSensor : Move → Bool
  | .sensor => true
  | hand _ | flush | wait | shutDown | advance _ | expire _ => false

/-- No caller is about to paint. -/
def CallsAreQuiet (b : Bench Simulated) : Prop :=
  ∀ p ∈ b.calls, p.2.IsQuiet

theorem CallsAreQuiet.begin {sensor : Simulated} {call : SensorCall} (hb : b.CallsAreQuiet)
    (hcall : call.IsQuiet) : (b.begin sensor call).CallsAreQuiet := by
  intro p hp
  rcases List.mem_append.mp hp with hp | hp
  · exact hb p hp
  · obtain rfl := List.mem_singleton.mp hp
    exact hcall

/-- What a call does that begins by emptying the slot. -/
theorem isQuiet_abandon (s : Simulated) (answer : Except Fault Unit) :
    (SensorCall.performing (s.slot.toList.flatMap Shot.abandon) answer).IsQuiet :=
  Shot.painting_abandonAll _

theorem Transition.callsAreQuiet (h : Transition b m d) (hb : b.CallsAreQuiet) :
    d.CallsAreQuiet := by
  cases h with
  | hand | flush => exact CallsAreQuiet.begin hb (isQuiet_abandon _ _)
  | wait | shutDown => exact CallsAreQuiet.begin hb trivial
  | refuse | sensor => exact hb
  | @perform l r i e rest answer hcalls =>
      have hcall := hb _ (hcalls ▸ mem_split.mpr (.inl rfl))
      intro p hp
      rcases mem_split.mp hp with rfl | hp
      · exact (SensorCall.isQuiet_cons.mp hcall).2
      · exact hb p (hcalls ▸ mem_split.mpr (.inr hp))
  | answer hcalls | pace hcalls | expire hcalls =>
      exact fun p hp => hb p (hcalls ▸ mem_split.mpr (.inr hp))
  | close hcalls =>
      intro p hp
      rcases mem_split.mp hp with rfl | hp
      · exact isQuiet_abandon _ _
      · exact hb p (hcalls ▸ mem_split.mpr (.inr hp))

/-- What is true of the open calls after any moves, also after frames without outputs. -/
structure Orderly (b : Bench Simulated) : Prop where
  numbered : b.Numbered
  quiet : b.CallsAreQuiet

theorem Orderly.step? (hb : b.Orderly) (h : b.step? Simulated.engine m = some d) : d.Orderly := by
  rcases transition_or_begin_of_step? hb.numbered h with ht | ⟨shot, rfl, rfl⟩
  · exact ⟨ht.numbered hb.numbered, ht.callsAreQuiet hb.quiet⟩
  · exact ⟨⟨hb.numbered.append _⟩, hb.quiet.begin (isQuiet_abandon _ _)⟩

theorem Orderly.run? {moves : List Move} (hb : b.Orderly)
    (h : b.run? Simulated.engine moves = some d) : d.Orderly := by
  induction moves generalizing b with
  | nil =>
      cases h
      exact hb
  | cons m rest ih =>
      obtain ⟨c, hstep, hrest⟩ := Option.bind_eq_some_iff.mp (run?_cons ▸ h)
      exact ih (hb.step? hstep) hrest

theorem orderly_created (period : Nat) (store : Store) :
    Orderly { stage := { sensor := { period }, store } } :=
  ⟨⟨by simp, by simp⟩, fun p hp => by cases hp⟩

/-- A caller leaves the sensor's thread where it is, and does not paint. -/
theorem Orderly.follows_of_caller (hb : b.Orderly) (h : b.step? Simulated.engine m = some d)
    (hm : m.isSensor = false) :
    d.stage.sensor.thread = b.stage.sensor.thread ∧
      ∃ new, b.stage.Follows d.stage new ∧ new.flatMap Occurrence.strokes = [] := by
  rcases transition_or_begin_of_step? hb.numbered h with ht | ⟨shot, rfl, rfl⟩
  · cases ht with
    | hand | refuse | answer | pace | expire =>
        exact ⟨rfl, _, (b.stage.follows_note rfl rfl).congr rfl rfl, rfl⟩
    | flush | wait | shutDown | close => exact ⟨rfl, _, (Stage.Follows.refl _).congr rfl rfl, rfl⟩
    | @perform l r i e rest answer hcalls =>
        have hcall := hb.quiet _ (hcalls ▸ mem_split.mpr (.inl rfl))
        refine ⟨congrArg Simulated.thread (b.stage.perform_sensor .sensor e), _,
          b.stage.follows_perform .sensor e, ?_⟩
        simp [strokes_eq_nil (SensorCall.isQuiet_cons.mp hcall).1]
    | sensor => cases hm
  · exact ⟨rfl, _, (Stage.Follows.refl _).congr rfl rfl, rfl⟩

end Bench

/-! ## The capture -/

/-- What actions of a capture fill regions with. -/
def strokesBy (actions : List Action) : List (Region × UInt8) :=
  (actions.filterMap Action.effect?).flatMap Effect.strokes

theorem strokesBy_append (l r : List Action) : strokesBy (l ++ r) = strokesBy l ++ strokesBy r := by
  simp [strokesBy]

theorem releasedBy_append (l r : List Action) :
    releasedBy (l ++ r) = releasedBy l ++ releasedBy r := by
  simp [releasedBy]

namespace Bench

variable {b d e : Bench Simulated} {m : Move} {period : Nat} {action : Action}
  {done rest : List Action}

theorem follows_of_sensor (h : b.step? Simulated.engine .sensor = some d)
    (hthread : b.stage.sensor.thread = .capturing (action :: rest)) :
    d.stage.sensor.thread = .capturing rest ∧
      ∃ new, b.stage.Follows d.stage new ∧
        new.flatMap Occurrence.strokes = strokesBy [action] ∧
        new.filterMap Occurrence.released? = releasedBy [action] := by
  obtain ⟨stage, hs, rfl⟩ := Option.map_eq_some_iff.mp h
  obtain ⟨sensor, effects, hnext, rfl⟩ := Stage.sensorStep_of_sensorStep? hs
  obtain ⟨hrecord, hcontents, hlocks⟩ :=
    Stage.follows_performAll { b.stage with sensor } .sensor effects
  have hfollows : b.stage.Follows _ _ := ⟨hrecord, hcontents, hlocks⟩
  rw [Stage.performAll_sensor]
  cases hnext with
  | perform hperform =>
      cases hperform.symm.trans hthread
      exact ⟨rfl, _, hfollows, by simp [strokesBy, Action.effect?],
        Occurrence.released?_occurrences _ _⟩
  | count hcount =>
      cases hcount.symm.trans hthread
      exact ⟨rfl, _, hfollows, rfl, rfl⟩
  | halt hready | tick hready | rest hready => cases hready.symm.trans hthread

/-- How far a capture has come since `b`: the actions that are done and those that are
left.  Only the actions of the capture painted. -/
structure Captures (b d : Bench Simulated) (done rest : List Action) : Prop where
  thread : d.stage.sensor.thread = .capturing rest
  orderly : d.Orderly
  follows : ∃ new, b.stage.Follows d.stage new ∧
    new.flatMap Occurrence.strokes = strokesBy done ∧
    (releasedBy done).Sublist (new.filterMap Occurrence.released?)

theorem Captures.of_caller (hd : b.Captures d done rest)
    (h : d.step? Simulated.engine m = some e) (hm : m.isSensor = false) :
    b.Captures e done rest := by
  obtain ⟨new, hfollows, hstrokes, hreleased⟩ := hd.follows
  obtain ⟨hthread, new', hcaller, hquiet⟩ := hd.orderly.follows_of_caller h hm
  refine ⟨hthread.trans hd.thread, hd.orderly.step? h, new ++ new',
    hfollows.trans hcaller, ?_, ?_⟩
  · rw [List.flatMap_append, hstrokes, hquiet, List.append_nil]
  · rw [List.filterMap_append]
    exact hreleased.trans (List.sublist_append_left _ _)

theorem Captures.of_sensor (hd : b.Captures d done (action :: rest))
    (h : d.step? Simulated.engine .sensor = some e) : b.Captures e (done ++ [action]) rest := by
  obtain ⟨new, hfollows, hstrokes, hreleased⟩ := hd.follows
  obtain ⟨hthread, new', hsensor, hstroke, hrelease⟩ := follows_of_sensor h hd.thread
  refine ⟨hthread, hd.orderly.step? h, new ++ new', hfollows.trans hsensor, ?_, ?_⟩
  · rw [List.flatMap_append, hstrokes, hstroke, strokesBy_append]
  · rw [List.filterMap_append, hrelease, releasedBy_append]
    exact hreleased.append_right _

/-- The induction over a run in which the sensor's thread makes no more steps than there
are actions. -/
theorem Captures.run {moves : List Move} (hd : b.Captures d done rest)
    (hrun : d.run? Simulated.engine moves = some e)
    (hsteps : moves.countP Move.isSensor ≤ rest.length) :
    b.Captures e (done ++ rest.take (moves.countP Move.isSensor))
      (rest.drop (moves.countP Move.isSensor)) := by
  induction moves generalizing d done rest with
  | nil =>
      cases hrun
      simpa using hd
  | cons m moves ih =>
      obtain ⟨c, hstep, hothersRun⟩ := Option.bind_eq_some_iff.mp (run?_cons ▸ hrun)
      cases hsensor : m.isSensor with
      | false =>
          rw [List.countP_cons_of_neg (by simp [hsensor])] at hsteps ⊢
          exact ih (hd.of_caller hstep hsensor) hothersRun hsteps
      | true =>
          rw [List.countP_cons_of_pos hsensor] at hsteps ⊢
          obtain ⟨action, rest, rfl⟩ : ∃ action left, rest = action :: left := by
            cases rest with
            | nil => cases hsteps
            | cons action left => exact ⟨action, left, rfl⟩
          obtain rfl : m = .sensor := by
            cases m with
            | sensor => rfl
            | hand | flush | wait | shutDown | advance | expire => cases hsensor
          have hrest := ih (hd.of_sensor hstep) hothersRun (Nat.le_of_succ_le_succ hsteps)
          rwa [List.append_assoc, List.singleton_append] at hrest

/-- The thread of the sensor is never stuck in a capture. -/
theorem isSome_step?_of_capturing (h : b.stage.sensor.thread = .capturing (action :: rest)) :
    (b.step? Simulated.engine .sensor).isSome = true := by
  have hnext : b.stage.sensor.next?.isSome = true := by
    unfold Simulated.next?
    rw [h]
    cases action <;> rfl
  rw [step?, Option.isSome_map, Stage.sensorStep?, Option.isSome_map]
  exact hnext

end Bench

end Sensor

/-! ## The frame -/

namespace Shot

/-- What a captured shot fills, output by output. -/
def strokes (shot : Shot) : List (Region × UInt8) :=
  shot.outputs.flatMap fun m => m.planes.strokes shot.shade

theorem toNat_shade (shot : Shot) : shot.shade.toNat = shot.result.frame.toNat % 256 := by
  simp [shade]

end Shot

namespace Store

/-- Outputs that are inside their buffers are painted one after the other. -/
theorem foldlM_paintWithin {s : Store} {outputs : List Mapping} {shade : UInt8}
    (h : ∀ m ∈ outputs, m.planes.AreInside s.memory) :
    ∃ t, outputs.foldlM (fun s m => s.paintWithin m shade) s = .ok t ∧
      ∀ i, t.memory.contents i =
        overlay (outputs.flatMap fun m => m.planes.strokes shade) i (s.memory.contents i) := by
  induction outputs generalizing s with
  | nil => exact ⟨s, rfl, by simp⟩
  | cons m rest ih =>
      obtain ⟨t, ht, hcontents⟩ := ih (s := s.paint m shade) fun other hother =>
        (h other (List.mem_cons_of_mem _ hother)).congr (s.sameSizes_paint m shade)
      refine ⟨t, ?_, fun i => ?_⟩
      · rw [List.foldlM_cons, paintWithin_eq_ok (h m List.mem_cons_self)]
        exact ht
      · rw [hcontents, contents_paint, ← overlay_append, List.flatMap_cons]

end Store

namespace Sensor

theorem strokesBy_capture {shot : Shot} {tag : FrameTag} (time : UInt64)
    (htag : shot.tag? = some tag) : strokesBy (capture time shot) = shot.strokes := by
  rw [strokesBy, effects_of_capture time htag]
  simp [Effect.strokes, Shot.strokes, List.flatMap_map]

/-- Before the result is delivered all outputs are painted and all buffers released. -/
theorem exists_capture_eq_concat {shot : Shot} {tag : FrameTag} (time : UInt64)
    (htag : shot.tag? = some tag) :
    ∃ before, capture time shot = before ++ [.perform (.tell tag (.result shot.completed))] ∧
      strokesBy before = shot.strokes ∧ releasedBy before = shot.mappings := by
  obtain ⟨before, -, hbefore⟩ := exists_capture_eq time htag
  have hcapture : capture time shot =
      (before ++ [.count]) ++ [.perform (.tell tag (.result shot.completed))] := by
    rw [hbefore, List.append_assoc]
    rfl
  refine ⟨before ++ [.count], hcapture, ?_, ?_⟩
  · have hstrokes := strokesBy_capture time htag
    rw [hcapture, strokesBy_append] at hstrokes
    exact (List.append_nil _).symm.trans hstrokes
  · have hreleased := releasedBy_capture time shot
    rw [hcapture, releasedBy_append] at hreleased
    exact (List.append_nil _).symm.trans hreleased

namespace Bench

variable {b d e : Bench Simulated} {period : Nat} {time : UInt64} {shot : Shot}

theorem captures_self (hb : b.Orderly)
    (hthread : b.stage.sensor.thread = .capturing (capture time shot)) :
    b.Captures b [] (capture time shot) :=
  ⟨hthread, hb, [], .refl _, rfl, List.Sublist.refl _⟩

/-- When the result is all that is left of a capture, it is delivered next. -/
theorem exists_step?_of_tell {tag : FrameTag} {event : Event}
    (h : d.stage.sensor.thread = .capturing [.perform (.tell tag event)]) :
    ∃ e, d.step? Simulated.engine .sensor = some e ∧ e.stage.store = d.stage.store ∧
      e.stage.record = .told .sensor tag event :: d.stage.record := by
  have hnext : Simulated.engine.next? d.stage.sensor =
      some ({ d.stage.sensor with thread := .capturing [] }, [.tell tag event]) := by
    show d.stage.sensor.next? = _
    rw [Simulated.next?, h]
  refine ⟨{ d with
    stage := Stage.perform { d.stage with
      sensor := { d.stage.sensor with thread := .capturing [] } } .sensor (.tell tag event) },
    ?_, rfl, rfl⟩
  rw [step?, Stage.sensorStep?, hnext]
  rfl

/-- The step from `d` to `e` delivers the result of a shot whose capture began in `b`:
the outputs have been filled in order, and nothing else, and the buffers of the shot
have been released. -/
structure Delivers (shot : Shot) (b d e : Bench Simulated) : Prop where
  result : ∃ tag, shot.tag? = some tag ∧
    e.stage.record = .told .sensor tag (.result shot.completed) :: d.stage.record
  store : e.stage.store = d.stage.store
  bytes : ∀ i position, (d.stage.store.memory.contents i)[position]? =
    (b.stage.store.memory.contents i)[position]?.map fun byte =>
      (lastStroke? shot.strokes i position).getD byte
  released : ∃ new, b.stage.Follows d.stage new ∧
    shot.mappings.Sublist (new.filterMap Occurrence.released?)
  locks : ∀ i, d.stage.store.lockCount i ≤
    b.stage.store.lockCount i - shot.mappings.countP (·.buffer = i)

theorem Captures.delivers {tag : FrameTag} {done : List Action} (htag : shot.tag? = some tag)
    (hd : b.Captures d done [.perform (.tell tag (.result shot.completed))])
    (hstrokes : strokesBy done = shot.strokes) (hreleased : releasedBy done = shot.mappings) :
    ∃ e, d.step? Simulated.engine .sensor = some e ∧ Delivers shot b d e := by
  obtain ⟨e, hstep, hstore, hrecord⟩ := exists_step?_of_tell hd.thread
  obtain ⟨new, hfollows, hpainted, hgiven⟩ := hd.follows
  rw [hreleased] at hgiven
  refine ⟨e, hstep, ⟨tag, htag, hrecord⟩, hstore, fun i position => ?_, ⟨new, hfollows, hgiven⟩,
    fun i => ?_⟩
  · rw [hfollows.contents, hpainted, hstrokes, getElem?_overlay]
  · have hcount := hgiven.countP_le (p := fun m => decide (m.buffer = i))
    rw [hfollows.locks]
    omega

/-- While callers come and go, the thread of the sensor takes a capture to its end.  It
tells the result in its last step, of the buffers as they came, marked as good; and by
then the regions of the outputs have been filled in their order, luma and single planes
with the shade of the frame, chroma with 128, and all buffers of the shot have been
released. -/
theorem captures_fill_outputs {store : Store} {before : List Move}
    (hb : run? Simulated.engine { stage := { sensor := { period }, store } } before = some b)
    (hthread : b.stage.sensor.thread = .capturing (capture time shot))
    (houtputs : shot.outputs ≠ [])
    (hinside : ∀ m ∈ shot.outputs, m.planes.AreInside b.stage.store.memory) :
    (∃ t, shot.outputs.foldlM (fun s m => s.paintWithin m shot.shade) b.stage.store = .ok t ∧
        ∀ i, t.memory.contents i = overlay shot.strokes i (b.stage.store.memory.contents i)) ∧
      shot.shade.toNat = shot.result.frame.toNat % 256 ∧
      shot.completed = { shot.result with
        outputs := shot.outputs.map fun m => { m.attachment with status := .ok }
        inputs := (shot.inputs.getD []).map fun m => { m.attachment with status := .ok } } ∧
      ∀ moves d, b.run? Simulated.engine moves = some d →
        (moves.countP Move.isSensor < (capture time shot).length →
          (d.step? Simulated.engine .sensor).isSome = true) ∧
        (moves.countP Move.isSensor + 1 = (capture time shot).length →
          ∃ e, d.step? Simulated.engine .sensor = some e ∧ Delivers shot b d e) := by
  have horderly := (orderly_created period store).run? hb
  refine ⟨Store.foldlM_paintWithin hinside, shot.toNat_shade, rfl,
    fun moves d hrun => ⟨fun hleft => ?_, fun hlast => ?_⟩⟩
  · have hd := (captures_self horderly hthread).run hrun (Nat.le_of_lt hleft)
    exact isSome_step?_of_capturing
      (hd.thread.trans (congrArg Thread.capturing (List.drop_eq_getElem_cons hleft)))
  · obtain ⟨tag, htag⟩ := Shot.exists_tag houtputs
    obtain ⟨actions, hcapture, hstrokes, hreleased⟩ := exists_capture_eq_concat time htag
    have hsteps : moves.countP Move.isSensor = actions.length := by
      rw [hcapture, List.length_append] at hlast
      exact Nat.succ.inj hlast
    have hd := (captures_self horderly hthread).run hrun (by omega)
    rw [hsteps, hcapture, List.take_left, List.drop_left, List.nil_append] at hd
    exact hd.delivers htag hstrokes hreleased

/-- Twenty bytes that are locked three times. -/
def overlaidStore : Store :=
  ⟨⟨#[⟨Array.replicate 20 9, 3⟩]⟩, #[]⟩

def overlaidMapping (isInput : Bool) (planes : Planes) : Mapping where
  tag := Sample.tag 0
  width := 3
  height := 3
  format := .ycbcr420
  dataspace := .unknown
  isInput := isInput
  planes := planes
  attachment := ⟨0, 0, none, .error⟩
  fence := none

/-- A planar output of seventeen bytes, a single plane of eleven bytes over it, and the
same buffer as an input. -/
def overlaidShot : Shot where
  settings := ⟨0, 0, 100⟩
  result := ⟨0, 0, 263, {}, 4, [], [], 1⟩
  inputs := some [overlaidMapping true (.packed ⟨0, 0, 20⟩ 20 20)]
  outputs := [overlaidMapping false (.planar ⟨⟨0, 0, 9⟩, ⟨0, 9, 4⟩, ⟨0, 13, 4⟩, 3, 2, 1⟩),
    overlaidMapping false (.packed ⟨0, 0, 11⟩ 11 11)]

/-- The sensor is flushed in the middle of the capture. -/
def overlaidMoves : List Move :=
  List.replicate 3 .sensor ++ [.flush] ++ List.replicate 4 .sensor

theorem areInside_overlaid :
    ∀ m ∈ overlaidShot.outputs, m.planes.AreInside overlaidStore.memory := by
  intro m hm
  simp only [overlaidShot, List.mem_cons, List.not_mem_nil, or_false] at hm
  rcases hm with rfl | rfl
  · exact ⟨rfl, rfl, rfl, Region.apart_of_le (by decide), Region.apart_of_le (by decide),
      Region.apart_of_le (by decide)⟩
  · rfl

/-- The plane lies over the luma and half of the first chroma plane; the last three bytes
are in no region. -/
theorem overlaid_outputs_are_filled :
    ∃ b d e : Bench Simulated,
      run? Simulated.engine { stage := { sensor := { period := 0 }, store := overlaidStore } }
        [.hand overlaidShot, .sensor] = some b ∧
      b.run? Simulated.engine overlaidMoves = some d ∧
      d.step? Simulated.engine .sensor = some e ∧ Delivers overlaidShot b d e ∧
      d.stage.store.memory.contents 0 =
        List.replicate 11 7 ++ List.replicate 6 128 ++ List.replicate 3 9 ∧
      d.stage.store.lockCount 0 = 0 := by
  have hrun : ((run? Simulated.engine
      { stage := { sensor := { period := 0 }, store := overlaidStore } }
      [.hand overlaidShot, .sensor]).bind fun b =>
        (b.run? Simulated.engine overlaidMoves).map fun d =>
          (b.stage.sensor.thread, b.stage.store, d.stage.store.memory.contents 0,
            d.stage.store.lockCount 0)) =
      some (.capturing (capture 0 overlaidShot), overlaidStore,
        List.replicate 11 7 ++ List.replicate 6 128 ++ List.replicate 3 9, 0) := by
    decide +kernel
  obtain ⟨b, hb, heq⟩ := Option.bind_eq_some_iff.mp hrun
  obtain ⟨d, hd, heq⟩ := Option.map_eq_some_iff.mp heq
  simp only [Prod.mk.injEq] at heq
  obtain ⟨hthread, hstore, hcontents, hlocks⟩ := heq
  have hinside : ∀ m ∈ overlaidShot.outputs, m.planes.AreInside b.stage.store.memory := by
    rw [hstore]
    exact areInside_overlaid
  obtain ⟨-, -, -, hcapture⟩ := captures_fill_outputs hb hthread
    (by simp [overlaidShot]) hinside
  obtain ⟨e, hstep, hdelivers⟩ := (hcapture overlaidMoves d hd).2 rfl
  exact ⟨b, d, e, hb, hd, hstep, hdelivers, hcontents, hlocks⟩

end Bench

end Sensor

end VirtualCamera
