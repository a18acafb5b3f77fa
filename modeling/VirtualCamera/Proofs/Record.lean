import VirtualCamera.Proofs.Locks

/-!
# Reading the record

What is proved about runs is said of the record: which requests were admitted,
what became of them, what listeners were told.  `Stage.history` picks
occurrences from the record, the oldest first, and this file says what each way
of writing to the record adds to a history.  Effects that are still to be
performed are read in the same way (`notices`): performing one moves its notice
from the front of the list of effects to the end of the history.
-/

namespace VirtualCamera

/-! ## Effects -/

namespace Effect

def occurrence (speaker : Speaker) : Effect → Occurrence
  | tell tag event => .told speaker tag event
  | paint m shade => .painted m shade
  | release m => .released m

def notice? : Effect → Option (FrameTag × Event)
  | tell tag event => some (tag, event)
  | paint .. | release _ => none

end Effect

def notices (effects : List Effect) : List (FrameTag × Event) :=
  effects.filterMap Effect.notice?

@[simp] theorem notices_nil : notices [] = [] := rfl

@[simp] theorem notices_cons (e : Effect) (rest : List Effect) :
    notices (e :: rest) = e.notice?.toList ++ notices rest := by
  cases h : e.notice? <;> simp [notices, h]

@[simp] theorem notices_append (l r : List Effect) :
    notices (l ++ r) = notices l ++ notices r :=
  List.filterMap_append

@[simp] theorem notices_release (mappings : List Mapping) :
    notices (mappings.map .release) = [] := by
  simp [notices, List.filterMap_map, Function.comp_def, Effect.notice?]

@[simp] theorem notices_paint (mappings : List Mapping) (shade : UInt8) :
    notices (mappings.map fun m => .paint m shade) = [] := by
  simp [notices, List.filterMap_map, Function.comp_def, Effect.notice?]

namespace FrameTag

/-- What a listener is told about a request that failed. -/
def failure (tag : FrameTag) (code : ErrorCode) : Event :=
  .error tag.pipeline code tag.frame none

end FrameTag

@[simp] theorem notices_failing (a : Admission) (ready : List Mapping) :
    notices (Camera.failing a ready) = [(a.tag, a.tag.failure .result)] := by
  simp [Camera.failing, Admission.failure, Effect.notice?, FrameTag.failure]

/-- A flush tells of each request that it took from the queue, in order. -/
theorem notices_failingAll (drained : List Admission) :
    notices (Camera.failingAll drained) =
      drained.map fun a => (a.tag, a.tag.failure .request) := by
  have hreleases : notices (drained.flatMap fun a => a.mappings.map .release) = [] := by
    induction drained with
    | nil => rfl
    | cons a rest ih => simp [ih]
  rw [Camera.failingAll, notices_append, hreleases, List.append_nil, notices,
    List.filterMap_map]
  induction drained with
  | nil => rfl
  | cons a rest ih => simp_all [Admission.failure, Effect.notice?, FrameTag.failure]

/-! ## Histories -/

namespace Stage

variable {σ α : Type}

/-- Certain occurrences, the oldest first. -/
def history (s : Stage σ) (f : Occurrence → Option α) : List α :=
  s.record.reverse.filterMap f

theorem mem_history {s : Stage σ} {f : Occurrence → Option α} {x : α} :
    x ∈ s.history f ↔ ∃ o ∈ s.record, f o = some x := by
  simp [history]

@[simp] theorem history_note (s : Stage σ) (o : Occurrence) (f : Occurrence → Option α) :
    (s.note o).history f = s.history f ++ (f o).toList := by
  cases h : f o <;> simp [history, note, h]

@[simp] theorem note_sensor (s : Stage σ) (o : Occurrence) : (s.note o).sensor = s.sensor := rfl

theorem perform_record (s : Stage σ) (speaker : Speaker) (e : Effect) :
    (s.perform speaker e).record = e.occurrence speaker :: s.record := by
  cases e <;> rfl

@[simp] theorem perform_sensor (s : Stage σ) (speaker : Speaker) (e : Effect) :
    (s.perform speaker e).sensor = s.sensor := by
  cases e <;> rfl

@[simp] theorem history_perform (s : Stage σ) (speaker : Speaker) (e : Effect)
    (f : Occurrence → Option α) :
    (s.perform speaker e).history f = s.history f ++ (f (e.occurrence speaker)).toList := by
  cases h : f (e.occurrence speaker) <;> simp [history, perform_record, h]

@[simp] theorem performAll_nil (s : Stage σ) (speaker : Speaker) :
    s.performAll speaker [] = s := rfl

@[simp] theorem performAll_singleton (s : Stage σ) (speaker : Speaker) (e : Effect) :
    s.performAll speaker [e] = s.perform speaker e := rfl

@[simp] theorem performAll_sensor (s : Stage σ) (speaker : Speaker) (effects : List Effect) :
    (s.performAll speaker effects).sensor = s.sensor := by
  induction effects generalizing s with
  | nil => rfl
  | cons e rest ih => exact (ih (s.perform speaker e)).trans (s.perform_sensor speaker e)

theorem performAll_record (s : Stage σ) (speaker : Speaker) (effects : List Effect) :
    (s.performAll speaker effects).record =
      (effects.map (·.occurrence speaker)).reverse ++ s.record := by
  induction effects generalizing s with
  | nil => rfl
  | cons e rest ih =>
      refine (ih (s.perform speaker e)).trans ?_
      simp [perform_record]

@[simp] theorem history_performAll (s : Stage σ) (speaker : Speaker) (effects : List Effect)
    (f : Occurrence → Option α) :
    (s.performAll speaker effects).history f =
      s.history f ++ effects.filterMap fun e => f (e.occurrence speaker) := by
  simp [history, performAll_record, List.filterMap_map]

theorem history_prefix {s t : Stage σ} (h : s.record <:+ t.record) (f : Occurrence → Option α) :
    s.history f <+: t.history f := by
  obtain ⟨new, hnew⟩ := h
  exact ⟨new.reverse.filterMap f, by rw [history, history, ← hnew]; simp⟩

/-- A change of the sensor or of the store leaves histories alone. -/
@[simp] theorem history_mk (s : Stage σ) (sensor : σ) (store : Store)
    (f : Occurrence → Option α) :
    Stage.history { sensor, store, record := s.record } f = s.history f := rfl

theorem sensorStep?_eq_some {E : Engine σ} {s t : Stage σ} (h : s.sensorStep? E = some t) :
    ∃ sensor effects, E.next? s.sensor = some (sensor, effects) ∧
      t = { s with sensor }.performAll .sensor effects := by
  obtain ⟨⟨sensor, effects⟩, hnext, rfl⟩ := Option.map_eq_some_iff.mp h
  exact ⟨sensor, effects, hnext, rfl⟩

end Stage

/-! ## Records only grow -/

namespace Camera

variable {σ : Type} {E : Engine σ} {c d : Camera σ} {sensor : σ}

@[simp] theorem settle_fst (c : Camera σ) (m : Mapping) :
    (c.settle m).1 = { c with
      stage := { c.stage with store := (c.stage.store.settle m).1 }.note
        (.waited m (c.stage.store.outcome m)) } := rfl

@[simp] theorem settle_snd (c : Camera σ) (m : Mapping) :
    (c.settle m).2 = (c.stage.store.settle m).2 := rfl

theorem Transition.record_suffix {m : Move} (h : Transition E c m d) :
    c.stage.record <:+ d.stage.record := by
  cases h with
  | sensor hs =>
      obtain ⟨sensor, effects, -, rfl⟩ := Stage.sensorStep?_eq_some hs
      rw [Stage.performAll_record]
      exact List.suffix_append _ _
  | perform | unwind | clear | report | closeEffect =>
      rw [Stage.perform_record]
      exact List.suffix_cons _ _
  | take | resolve | crash | awaitOutput | awaitInput | handOver | skipPacing | pace | giveUp
  | submitted | refuse | admitOne | abort | expire | drain | flushed | stopAgain | stopped =>
      exact List.suffix_cons _ _
  | _ => exact List.suffix_rfl

theorem record_suffix_of_run? {moves : List Move} (hc : Reachable E sensor c)
    (h : c.run? E moves = some d) : c.stage.record <:+ d.stage.record :=
  hc.run_induct (P := fun b => c.stage.record <:+ b.stage.record) h List.suffix_rfl
    fun hb hstep ih => ih.trans (hb.transition hstep).record_suffix

end Camera

end VirtualCamera
