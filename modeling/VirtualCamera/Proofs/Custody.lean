import VirtualCamera.Proofs.Admission
import VirtualCamera.Proofs.Delivery

/-!
# Locks are held by live mappings

A lock is taken when a buffer is mapped and given back when the mapping is
released, and in between the mapping moves from place to place: it waits in the
queue, the worker has it, a call is about to release it, it lies in the sensor's
slot, or the sensor's thread has not given it back yet (`Camera.live`).  Every
transition either moves mappings, or releases one that was live, or maps new
ones; so the lock counts of the buffers follow the live mappings
(`LocksHeld.transition`), as long as no count runs over (`Camera.hasRoom`).

When the listener of every request was told its last event, no request waits and
the worker has none, since only requests with an outcome are told of
(`Reachable.mem_outcomes_of_told`); and no frame lies in the slot, since the
sensor tells of a frame only when it leaves the slot
(`Roll.ne_of_told_of_slot`).  Then nothing is live but what somebody is about to
release.
-/

namespace VirtualCamera

/-! ## Lock counts -/

namespace Memory

/-- How often a buffer is locked; a position without a buffer never is. -/
def lockCount (m : Memory) (i : Nat) : Nat :=
  (m.buffers[i]?.map (·.locks.toNat)).getD 0

/-- Whether a buffer can be locked once more without its count running over. -/
def hasRoom (m : Memory) (i : Nat) : Bool :=
  m.buffers[i]?.any fun b => b.locks.toNat + 1 < UInt32.size

theorem lockCount_update (m : Memory) (i j : Nat) (f : Buffer → Buffer) :
    (m.update i f).lockCount j =
      if i = j then (m.buffers[j]?.map fun b => (f b).locks.toNat).getD 0
      else m.lockCount j := by
  by_cases h : i = j
  · simp [lockCount, update, Array.getElem?_modify, h, Function.comp_def]
  · simp [lockCount, update, Array.getElem?_modify, h]

theorem lockCount_acquire {m : Memory} {i : Nat} (h : m.hasRoom i = true) (j : Nat) :
    (m.acquire i).lockCount j = m.lockCount j + if i = j then 1 else 0 := by
  rw [acquire, lockCount_update]
  by_cases heq : i = j
  · subst heq
    rw [if_pos rfl, if_pos rfl, lockCount]
    unfold hasRoom at h
    cases hb : m.buffers[i]? with
    | none => simp [hb] at h
    | some b =>
        have hlt : b.locks.toNat + 1 < UInt32.size := by simpa [hb] using h
        simp only [Option.map_some, Option.getD_some, UInt32.toNat_add, UInt32.toNat_one]
        exact Nat.mod_eq_of_lt hlt
  · rw [if_neg heq, if_neg heq, Nat.add_zero]

theorem lockCount_release (m : Memory) (i j : Nat) :
    (m.release i).lockCount j = m.lockCount j - if i = j then 1 else 0 := by
  rw [release, lockCount_update]
  by_cases heq : i = j
  · subst heq
    rw [if_pos rfl, if_pos rfl, lockCount]
    cases m.buffers[i]? with
    | none => rfl
    | some b =>
        by_cases hzero : b.locks = 0
        · simp [hzero]
        · have hpos : 1 ≤ b.locks.toNat := by
            have hne : b.locks.toNat ≠ 0 := fun h => hzero (UInt32.toNat.inj (by simpa using h))
            omega
          have hle : (1 : UInt32) ≤ b.locks := UInt32.le_iff_toNat_le.mpr hpos
          simp [hzero, UInt32.toNat_sub_of_le _ _ hle]
  · rw [if_neg heq, if_neg heq, Nat.sub_zero]

@[simp] theorem lockCount_mapRegion (m : Memory) (r : Region) (f : Nat → UInt8 → UInt8)
    (j : Nat) : (m.mapRegion r f).lockCount j = m.lockCount j := by
  rw [mapRegion, lockCount_update]
  split <;> rfl

theorem isLocked_eq_false {m : Memory} (h : ∀ i, m.lockCount i = 0) :
    ∀ b ∈ m.buffers, b.isLocked = false := by
  intro b hb
  obtain ⟨i, hi, rfl⟩ := Array.mem_iff_getElem.mp hb
  have hzero : m.buffers[i].locks.toNat = 0 := by simpa [lockCount, hi] using h i
  have hlocks : m.buffers[i].locks = 0 := UInt32.toNat.inj (by simpa using hzero)
  simp [Buffer.isLocked, hlocks]

end Memory

theorem countP_buffer_singleton (m : Mapping) (i : Nat) :
    [m].countP (·.buffer = i) = if m.buffer = i then 1 else 0 := by
  simp [List.countP_singleton]

namespace Store

def lockCount (s : Store) (i : Nat) : Nat :=
  s.memory.lockCount i

theorem lockCount_release (s : Store) (i j : Nat) :
    (s.release i).lockCount j = s.lockCount j - if i = j then 1 else 0 :=
  s.memory.lockCount_release i j

@[simp] theorem lockCount_setFence (s : Store) (i j : Nat) (f : Fence) :
    (s.setFence i f).lockCount j = s.lockCount j := rfl

@[simp] theorem lockCount_paint (s : Store) (m : Mapping) (shade : UInt8) (j : Nat) :
    (s.paint m shade).lockCount j = s.lockCount j := by
  unfold paint lockCount
  simp only
  generalize m.planes.strokes shade = strokes
  generalize s.memory = memory
  induction strokes generalizing memory with
  | nil => rfl
  | cons stroke rest ih => exact (ih _).trans (memory.lockCount_mapRegion _ _ j)

/-- Whether mapping a buffer takes its lock, even if it gives it back since the
fence cannot be imported. -/
def locks (s : Store) (override : PixelFormat → PixelFormat) (streams : List Stream)
    (a : Attachment) : Bool :=
  match Stream.find? streams a.stream with
  | none => false
  | some stream => (s.lockPlanes (stream.seenThrough override) a.buffer).isOk

/-- Whether all locks that are taken while buffers are mapped in order can be
counted.  After a crash no more are taken. -/
def hasRoom (s : Store) (override : PixelFormat → PixelFormat) (tag : FrameTag)
    (streams : List Stream) : List Attachment → Bool
  | [] => true
  | a :: rest =>
    (!s.locks override streams a || s.memory.hasRoom a.buffer) &&
      match s.mapKnown override tag streams a with
      | (t, .ok _) => t.hasRoom override tag streams rest
      | (_, .error _) => true

section

variable {s t : Store} {override : PixelFormat → PixelFormat} {tag : FrameTag}
  {streams : List Stream} {attachments l r : List Attachment} {a : Attachment} {crash : Crash}

theorem lockCount_releaseAll (s : Store) (ms : List Mapping) (i : Nat) :
    (s.releaseAll ms).lockCount i = s.lockCount i - ms.countP (·.buffer = i) := by
  unfold releaseAll
  induction ms generalizing s with
  | nil => rfl
  | cons m rest ih =>
      rw [List.foldl_cons, ih, lockCount_release, List.countP_cons, Nat.sub_sub, Nat.add_comm]
      simp only [decide_eq_true_eq]

/-- Mapping a buffer locks it once if the mapping is live afterwards, and not at
all otherwise. -/
theorem lockCount_map {stream : Stream}
    (hroom : (s.lockPlanes (stream.seenThrough override) a.buffer).isOk = true →
      s.memory.hasRoom a.buffer = true) (i : Nat) :
    (s.map override tag stream a).1.lockCount i =
      s.lockCount i + (s.map override tag stream a).2.toOption.toList.countP (·.buffer = i) := by
  unfold map
  simp only
  cases hlock : s.lockPlanes (stream.seenThrough override) a.buffer with
  | error stop => rfl
  | ok locked =>
      obtain ⟨t, planes⟩ := locked
      have hacquire := Memory.lockCount_acquire (hroom (by rw [hlock]; rfl)) i
      obtain ⟨rfl, -⟩ := lockPlanes_eq_ok hlock
      simp only
      split
      · rw [Except.toOption, Option.toList_some, countP_buffer_singleton]
        exact hacquire
      · have hrelease := lockCount_release { s with memory := s.memory.acquire a.buffer } a.buffer i
        simp only [lockCount] at hrelease ⊢
        simp only [Except.toOption, Option.toList_none, List.countP_nil]
        omega

theorem lockCount_mapKnown {mapped : Option Mapping}
    (hroom : s.locks override streams a = true → s.memory.hasRoom a.buffer = true)
    (h : (s.mapKnown override tag streams a).2 = .ok mapped) (i : Nat) :
    (s.mapKnown override tag streams a).1.lockCount i =
      s.lockCount i + mapped.toList.countP (·.buffer = i) := by
  unfold locks at hroom
  unfold mapKnown at h ⊢
  cases hstream : Stream.find? streams a.stream with
  | none =>
      rw [hstream] at h
      cases h
      rfl
  | some stream =>
      simp only [hstream] at hroom h ⊢
      have hcount : (s.map override tag stream a).1.lockCount i = s.lockCount i +
          (s.map override tag stream a).2.toOption.toList.countP (·.buffer = i) :=
        lockCount_map hroom i
      rcases hmap : s.map override tag stream a with ⟨t, ⟨fault | crash⟩ | m⟩
      · rw [hmap] at h hcount
        cases h
        exact hcount
      · rw [hmap] at h
        cases h
      · rw [hmap] at h hcount
        cases h
        exact hcount

/-- What has to have room for a list of buffers: the first, and the others after
it. -/
theorem hasRoom_cons (h : s.hasRoom override tag streams (a :: l) = true) :
    (s.locks override streams a = true → s.memory.hasRoom a.buffer = true) ∧
      ∀ mapped, (s.mapKnown override tag streams a).2 = .ok mapped →
        (s.mapKnown override tag streams a).1.hasRoom override tag streams l = true := by
  rw [hasRoom, Bool.and_eq_true, Bool.or_eq_true, Bool.not_eq_true'] at h
  obtain ⟨hfirst, hrest⟩ := h
  refine ⟨fun hlock => by simpa [hlock] using hfirst, fun mapped hmapped => ?_⟩
  rcases hmap : s.mapKnown override tag streams a with ⟨t, result⟩
  rw [hmap] at hrest hmapped
  cases result with
  | ok => exact hrest
  | error => cases hmapped

theorem lockCount_mapEach {ms : List Mapping}
    (hroom : s.hasRoom override tag streams attachments = true)
    (h : (s.mapEach override tag streams attachments).2 = .ok ms) (i : Nat) :
    (s.mapEach override tag streams attachments).1.lockCount i =
      s.lockCount i + ms.countP (·.buffer = i) := by
  induction attachments generalizing s ms with
  | nil =>
      cases h
      rfl
  | cons a rest ih =>
      obtain ⟨first, others, hfirst, hothers, hstore, rfl⟩ := mapEach_cons_eq_ok h
      obtain ⟨hroom', hrest⟩ := hasRoom_cons hroom
      have hone := lockCount_mapKnown hroom' hfirst i
      have hall := ih (hrest first hfirst) hothers
      rw [hstore, List.countP_append]
      omega

/-- A crash leaves no locks behind. -/
theorem lockCount_mapEach_of_crash (hroom : s.hasRoom override tag streams attachments = true)
    (h : s.mapEach override tag streams attachments = (t, .error crash)) (i : Nat) :
    t.lockCount i = s.lockCount i := by
  induction attachments generalizing s t with
  | nil => cases h
  | cons a rest ih =>
      rcases mapEach_cons_eq_error h with hfirst | ⟨first, u, hfirst, hothers, rfl⟩
      · rw [mapKnown_eq_error hfirst]
      · obtain ⟨hroom', hrest⟩ := hasRoom_cons hroom
        have hone := lockCount_mapKnown hroom' hfirst i
        have hall := ih (hrest first hfirst) hothers
        rw [lockCount_releaseAll]
        omega

theorem hasRoom_append (h : s.hasRoom override tag streams (l ++ r) = true) :
    s.hasRoom override tag streams l = true ∧
      ∀ ms, (s.mapEach override tag streams l).2 = .ok ms →
        (s.mapEach override tag streams l).1.hasRoom override tag streams r = true := by
  induction l generalizing s with
  | nil => exact ⟨rfl, fun _ _ => h⟩
  | cons a rest ih =>
      obtain ⟨-, hrest⟩ := hasRoom_cons h
      rw [List.cons_append, hasRoom, Bool.and_eq_true] at h
      constructor
      · rw [hasRoom, Bool.and_eq_true]
        refine ⟨h.1, ?_⟩
        rcases hmap : s.mapKnown override tag streams a with ⟨t, result⟩
        cases result with
        | ok mapped =>
            rw [hmap] at hrest
            exact (ih (hrest mapped rfl)).1
        | error => rfl
      · intro ms hms
        obtain ⟨first, others, hfirst, hothers, hstore, -⟩ := mapEach_cons_eq_ok hms
        rw [hstore]
        exact (ih (hrest first hfirst)).2 others hothers

end

/-- The end of the wait for a locked buffer takes one lock from it, unless the
buffer is kept. -/
theorem lockCount_settle (s : Store) (m : Mapping) (i : Nat)
    (hpos : m.buffer = i → 0 < s.lockCount i) :
    (s.settle m).1.lockCount i + (if m.buffer = i then 1 else 0) =
      s.lockCount i + (s.settle m).2.toList.countP (·.buffer = i) := by
  unfold settle
  cases s.outcome m with
  | ok => rw [Option.toList_some, countP_buffer_singleton]
  | error fault =>
      have hrelease := s.lockCount_release m.buffer i
      simp only [Option.toList_none, List.countP_nil]
      by_cases heq : m.buffer = i
      · have hlt := hpos heq
        rw [if_pos heq] at hrelease ⊢
        omega
      · rw [if_neg heq] at hrelease ⊢
        omega

end Store

/-! ## Where live mappings are -/

def Effect.released? : Effect → Option Mapping
  | release m => some m
  | tell .. | paint .. => none

/-- The mappings that effects are going to release. -/
def released (effects : List Effect) : List Mapping :=
  effects.filterMap Effect.released?

@[simp] theorem released_nil : released [] = [] := rfl

@[simp] theorem released_cons (e : Effect) (rest : List Effect) :
    released (e :: rest) = e.released?.toList ++ released rest := by
  cases h : e.released? <;> simp [released, h]

@[simp] theorem released_append (l r : List Effect) :
    released (l ++ r) = released l ++ released r :=
  List.filterMap_append

@[simp] theorem released_map_release (mappings : List Mapping) :
    released (mappings.map .release) = mappings := by
  induction mappings with
  | nil => rfl
  | cons m rest ih => simp [ih, Effect.released?]

@[simp] theorem released_map_paint (mappings : List Mapping) (shade : UInt8) :
    released (mappings.map fun m => .paint m shade) = [] := by
  simp [released, List.filterMap_map, Function.comp_def, Effect.released?]

theorem released_failing (a : Admission) (ready : List Mapping) :
    released (Camera.failing a ready) = ready ++ a.inputs.getD [] := by
  simp [Camera.failing, Admission.failure, Effect.released?]

theorem released_failingAll (drained : List Admission) :
    released (Camera.failingAll drained) = drained.flatMap Admission.mappings := by
  have hnotices : released (drained.map (·.failure .request)) = [] := by
    induction drained with
    | nil => rfl
    | cons a rest ih => simpa [Admission.failure, Effect.released?] using ih
  rw [Camera.failingAll, released_append, hnotices, List.nil_append]
  induction drained with
  | nil => rfl
  | cons a rest ih =>
      rw [List.flatMap_cons, released_append, released_map_release, List.flatMap_cons, ih]
      simp_all

theorem Stage.lockCount_perform {σ : Type} (s : Stage σ) (speaker : Speaker) (e : Effect)
    (i : Nat) (hle : e.released?.toList.countP (·.buffer = i) ≤ s.store.lockCount i) :
    (s.perform speaker e).store.lockCount i + e.released?.toList.countP (·.buffer = i) =
      s.store.lockCount i := by
  cases e with
  | tell => rfl
  | paint m shade => exact s.store.lockCount_paint m shade i
  | release m =>
      have hrelease := s.store.lockCount_release m.buffer i
      simp only [Effect.released?, Option.toList_some, countP_buffer_singleton] at hle ⊢
      simp only [perform, note]
      omega

theorem Shot.released_abandon (shot : Shot) :
    (released shot.abandon).Perm shot.mappings := by
  have heq : released shot.abandon = shot.inputs.getD [] ++ shot.outputs := by
    cases htag : shot.tag? <;> simp [abandon, htag, Effect.released?]
  rw [heq]
  exact List.perm_append_comm

theorem Shot.countP_released_abandonAll (shots : List Shot) (i : Nat) :
    (released (shots.flatMap abandon)).countP (·.buffer = i) =
      (shots.flatMap mappings).countP (·.buffer = i) := by
  induction shots with
  | nil => rfl
  | cons shot rest ih =>
      have hone := shot.released_abandon.countP_eq (p := fun m => decide (m.buffer = i))
      simp only [List.flatMap_cons, released_append, List.countP_append]
      omega

namespace Sensor

def releasedBy (actions : List Action) : List Mapping :=
  released (actions.filterMap Action.effect?)

@[simp] theorem releasedBy_nil : releasedBy [] = [] := rfl

@[simp] theorem releasedBy_perform (e : Effect) (rest : List Action) :
    releasedBy (.perform e :: rest) = e.released?.toList ++ releasedBy rest := by
  simp [releasedBy, Action.effect?]

@[simp] theorem releasedBy_count (rest : List Action) :
    releasedBy (.count :: rest) = releasedBy rest := rfl

theorem releasedBy_capture (time : UInt64) (shot : Shot) :
    releasedBy (capture time shot) = shot.mappings := by
  unfold releasedBy
  cases htag : shot.tag? with
  | none =>
      have hnone : shot.outputs = [] := by simpa [Shot.tag?] using htag
      rw [effects_of_capture_of_none time htag, released_map_release, Shot.mappings, hnone,
        List.nil_append]
  | some tag => simp [effects_of_capture time htag, Effect.released?]

/-- The mappings that the sensor has: those in its slot, and those that its
thread has not given back yet. -/
def Simulated.live (s : Simulated) : List Mapping :=
  s.slot.toList.flatMap Shot.mappings ++ releasedBy s.actions

end Sensor

/-- What the worker is still to do about an outcome. -/
def Worker.effects : Worker → List Effect
  | finishing _ effects | unwinding effects => effects
  | checking | ready | resolving _ | awaitingOutputs .. | recording .. | awaitingInputs ..
  | unpaced | pacing _ | ended => []

/-- What a call is still to do before it goes on. -/
def Call.effects : Call → List Effect
  | clearing _ effects | reporting _ effects | closing _ effects => effects
  | submitting .. | flushing | joining | halting _ => []

/-- The mappings of the request that the worker has. -/
def Worker.live : Worker → List Mapping
  | resolving a => a.mappings
  | awaitingOutputs a _ kept left => kept ++ left ++ a.inputs.getD []
  | recording a _ _ outputs => outputs ++ a.inputs.getD []
  | awaitingInputs _ shot left => shot.mappings ++ left
  | finishing _ effects | unwinding effects => released effects
  | checking | ready | unpaced | pacing _ | ended => []

theorem Worker.live_eq_nil {w : Worker} (hundecided : w.undecided = [])
    (heffects : w.effects = []) : w.live = [] := by
  cases w <;> simp_all [undecided, effects, live]

/-- The inputs that the worker keeps go into the shot. -/
def Worker.KeepsInputs : Worker → Prop
  | awaitingInputs _ shot left => shot.inputs = none → left = []
  | checking | ready | resolving _ | awaitingOutputs .. | recording .. | finishing ..
  | unwinding _ | unpaced | pacing _ | ended => True

def Call.live (call : Call) : List Mapping :=
  released call.effects

theorem Call.live_eq_nil {call : Call} (h : call.effects = []) : call.live = [] := by
  rw [live, h, released_nil]

namespace Camera

open Sensor (Simulated)

/-- All mappings that are live: in the queue, in the hands of the worker and of
the calls, in the sensor's slot and in the frame that is being captured. -/
def live (c : Camera Simulated) : List Mapping :=
  c.queue.flatMap Admission.mappings ++ c.worker.live ++ c.calls.flatMap (·.2.live) ++
    c.stage.sensor.live

section KeepsInputs

variable {σ : Type} {E : Engine σ} {c d : Camera σ} {sensor : σ}

theorem Transition.keepsInputs {m : Move} (h : Transition E c m d) (hc : c.worker.KeepsInputs) :
    d.worker.KeepsInputs := by
  cases h with
  | check =>
      cases hs : c.isStopping <;> trivial
  | @outputsAwaited a resolved ready =>
      rcases outputsAwaited_cases a resolved ready with ⟨s, sensor, heq, -⟩ | heq <;>
        simp [Worker.KeepsInputs, heq]
  | @record a =>
      intro hnone
      rw [Option.map_eq_none_iff] at hnone
      rw [hnone, Option.getD_none]
  | awaitInput hw =>
      rw [hw] at hc
      intro hnone
      cases hc (Option.map_eq_none_iff.mp hnone)
  | enter | park | submit | flush | flushSensor | stop | halt | close | fence | sensor | submitted
  | refuse | expire | flushed | stopAgain | stopped | drain | clear | report | closeEffect
  | admitOne | abort => exact hc
  | _ => trivial

theorem Reachable.keepsInputs (hc : Reachable E sensor c) : c.worker.KeepsInputs :=
  hc.induct (P := fun c => c.worker.KeepsInputs) (fun _ _ _ => trivial)
    fun _ h ih => h.keepsInputs ih

end KeepsInputs

/-- Every lock is that of a live mapping, and the worker has a place for the
inputs that it waits for. -/
structure LocksHeld (c : Camera Simulated) : Prop where
  count : ∀ i, c.stage.store.lockCount i = c.live.countP (·.buffer = i)
  inputs : c.worker.KeepsInputs

variable {σ : Type} {c d : Camera Simulated}

theorem LocksHeld.congr (h : c.LocksHeld)
    (hstore : ∀ i, d.stage.store.lockCount i = c.stage.store.lockCount i)
    (hlive : ∀ i, d.live.countP (·.buffer = i) = c.live.countP (·.buffer = i))
    (hinputs : d.worker.KeepsInputs) : d.LocksHeld :=
  ⟨fun i => (hstore i).trans ((h.count i).trans (hlive i).symm), hinputs⟩

theorem LocksHeld.perform {speaker : Speaker} {e : Effect} (h : c.LocksHeld)
    (hstore : d.stage.store = (c.stage.perform speaker e).store)
    (hlive : ∀ i, c.live.countP (·.buffer = i) =
      e.released?.toList.countP (·.buffer = i) + d.live.countP (·.buffer = i))
    (hinputs : d.worker.KeepsInputs) : d.LocksHeld := by
  refine ⟨fun i => ?_, hinputs⟩
  have hcount := h.count i
  have hreleased := c.stage.lockCount_perform speaker e i (by rw [hcount, hlive i]; omega)
  have hlive' := hlive i
  rw [hstore]
  omega

/-- Whether all locks that a move takes can be counted.  Only an admission takes
any: an entering submission does not admit, and one that finds the queue full
does so only if it was woken on a poisoned lock. -/
def hasRoom (E : Engine σ) (c : Camera σ) : Move → Bool
  | .advance i =>
    match c.calls.lookup i with
    | some (.submitting phase frame table (r :: _)) =>
      match checkRequest table r with
      | .ok p =>
        phase = .entering || c.isFull && !(phase = .parked && c.isPoisoned) ||
          c.stage.store.hasRoom E.overrideFormat
            ⟨c.admitted, frame, p.id, p.camera, p.listener⟩ p.streams (r.outputs ++ r.inputs)
      | .error _ => true
    | _ => true
  | _ => true

section

variable {E : Engine σ} {c : Camera σ} {frame : UInt32} {p : Pipeline} {q : CaptureRequest}
  {store : Store}

theorem hasRoom_of_takesSlot {l r : List (Nat × Call)} {i : Nat} {phase : SubmitPhase}
    {table : List Pipeline} {left : List CaptureRequest} (hn : c.Numbered)
    (hc : c.calls = l ++ (i, .submitting phase frame table (q :: left)) :: r)
    (hgo : c.MayAdmit phase) (hcheck : checkRequest table q = .ok p) (hroom : c.TakesSlot phase)
    (h : c.hasRoom E (.advance i) = true) :
    c.stage.store.hasRoom E.overrideFormat ⟨c.admitted, frame, p.id, p.camera, p.listener⟩
      p.streams (q.outputs ++ q.inputs) = true := by
  have hphase : phase ≠ .entering := by
    rcases hgo with rfl | ⟨rfl, -⟩ <;> simp
  have htakes : (c.isFull && !(phase = .parked && c.isPoisoned)) = false := by
    rcases hroom with hfull | ⟨rfl, hpoisoned⟩ <;> simp [*]
  simpa only [hasRoom, lookup_split hn hc, hcheck, htakes, decide_eq_false hphase,
    Bool.false_or] using h

/-- An admission locks the buffers that it maps, each as often as it is
mapped. -/
theorem lockCount_mapRequest {a : Admission} (hmap : c.mapRequest E frame p q = (store, .ok a))
    (h : c.stage.store.hasRoom E.overrideFormat ⟨c.admitted, frame, p.id, p.camera, p.listener⟩
      p.streams (q.outputs ++ q.inputs) = true) (b : Nat) :
    store.lockCount b = c.stage.store.lockCount b + a.mappings.countP (·.buffer = b) := by
  obtain ⟨htag, hmade⟩ := mapRequest_eq_ok hmap
  have houtputs := Store.mapAll_eq_ok hmade.outputs
  have hinputs := Store.mapAll_eq_ok hmade.inputs
  rw [Store.mapAll_fst] at hinputs
  rw [← htag] at h
  obtain ⟨hroom, hroom'⟩ := Store.hasRoom_append h
  have hfirst := Store.lockCount_mapEach hroom houtputs b
  have hsecond := Store.lockCount_mapEach (hroom' _ houtputs) hinputs b
  rw [hmade.store, Store.mapAll_fst, Store.mapAll_fst, Admission.mappings, List.countP_append]
  omega

/-- One that crashes gives back what it has locked. -/
theorem lockCount_mapRequest_of_crash {crash : Crash}
    (hmap : c.mapRequest E frame p q = (store, .error crash))
    (h : c.stage.store.hasRoom E.overrideFormat ⟨c.admitted, frame, p.id, p.camera, p.listener⟩
      p.streams (q.outputs ++ q.inputs) = true) (b : Nat) :
    store.lockCount b = c.stage.store.lockCount b := by
  obtain ⟨hroom, hroom'⟩ := Store.hasRoom_append h
  rcases mapRequest_eq_error hmap with houtputs | ⟨mid, outputs, left, houtputs, hinputs, rfl⟩
  · exact Store.lockCount_mapEach_of_crash hroom (Store.mapAll_eq_error houtputs) b
  · have hmid := Store.mapAll_fst c.stage.store E.overrideFormat
      ⟨c.admitted, frame, p.id, p.camera, p.listener⟩ p.streams q.outputs
    have hmapped := Store.mapAll_eq_ok (congrArg Prod.snd houtputs)
    rw [houtputs] at hmid
    have hfirst := Store.lockCount_mapEach hroom hmapped b
    have hroomMid := hroom' _ hmapped
    rw [← hmid] at hfirst hroomMid
    have hsecond :=
      Store.lockCount_mapEach_of_crash hroomMid (Store.mapAll_eq_error hinputs) b
    rw [Store.lockCount_releaseAll]
    omega

end

theorem LocksHeld.transition {m : Move} (hn : c.Numbered)
    (hroom : c.hasRoom Simulated.engine m = true) (h : Transition Simulated.engine c m d)
    (hb : c.LocksHeld) : d.LocksHeld := by
  have hinputs := h.keepsInputs hb.inputs
  cases h with
  | take hw hfree hlock hq =>
      refine hb.congr (fun _ => rfl) (fun b => ?_) hinputs
      simp only [live, hw, hq, Worker.live, List.flatMap_cons, List.countP_append, List.countP_nil,
        Stage.note_sensor]
      omega
  | resolve hw =>
      refine hb.congr (fun _ => rfl) (fun b => ?_) hinputs
      simp only [live, hw, Worker.live, Admission.mappings, List.countP_append,
        List.nil_append, Stage.note_sensor]
      omega
  | crash hw =>
      refine hb.congr (fun _ => rfl) (fun b => ?_) hinputs
      simp only [live, hw, Worker.live, released_map_release, Stage.note_sensor]
  | @outputsAwaited a resolved kept hw =>
      rcases outputsAwaited_cases a resolved kept with ⟨s, sensor, heq, -⟩ | heq
      · refine hb.congr (fun _ => rfl) (fun b => ?_) hinputs
        simp only [live, hw, heq, Worker.live, List.append_nil]
      · refine hb.congr (fun _ => rfl) (fun b => ?_) hinputs
        simp only [live, hw, heq, Worker.live, released_failing, List.append_nil]
  | @awaitOutput a resolved kept left m hw =>
      refine ⟨fun b => ?_, hinputs⟩
      have hcount := hb.count b
      simp only [live, hw, Worker.live, List.countP_append, List.countP_cons, decide_eq_true_eq]
        at hcount
      have hsettle := c.stage.store.lockCount_settle m b (fun heq => by
        rw [if_pos heq] at hcount
        omega)
      simp only [settle_fst, settle_snd, live, Worker.live, List.countP_append, Stage.note_sensor]
      simp only [Stage.note]
      omega
  | @record a settings sensor outputs hw =>
      refine hb.congr (fun _ => rfl) (fun b => ?_) hinputs
      cases hi : Mapping.awaited a.inputs with
      | none =>
          have hnone : a.inputs.getD [] = [] := Mapping.getD_of_awaited_eq_none hi
          simp [live, hw, Worker.live, prepareShot, hi, hnone, Shot.mappings]
      | some ms =>
          have hsome : a.inputs.getD [] = ms := by rw [Mapping.eq_of_awaited_eq_some hi]; rfl
          simp [live, hw, Worker.live, prepareShot, hi, hsome, Shot.mappings]
  | @awaitInput tag shot left m hw =>
      have hplace := hb.inputs
      rw [hw] at hplace
      obtain ⟨kept, hkept⟩ : ∃ kept, shot.inputs = some kept :=
        Option.ne_none_iff_exists'.mp fun hnone => by cases hplace hnone
      refine ⟨fun b => ?_, hinputs⟩
      have hcount := hb.count b
      simp only [live, hw, Worker.live, Shot.mappings, hkept, Option.getD_some,
        List.countP_append, List.countP_cons, decide_eq_true_eq] at hcount
      have hsettle := c.stage.store.lockCount_settle m b (fun heq => by
        rw [if_pos heq] at hcount
        omega)
      simp only [settle_fst, settle_snd, live, Worker.live, Shot.mappings, hkept, Option.map_some,
        Option.getD_some, List.countP_append, Stage.note_sensor]
      simp only [Stage.note]
      omega
  | @handOver tag shot hw =>
      refine hb.congr (fun _ => rfl) (fun b => ?_) hinputs
      have habandon := Shot.countP_released_abandonAll c.stage.sensor.slot.toList b
      simp only [live, hw, Worker.live, Simulated.engine, Simulated.accept, Simulated.live,
        Simulated.actions, Stage.note_sensor, List.countP_append, List.append_nil,
        Option.toList_some, List.flatMap_singleton]
      omega
  | perform hw =>
      refine hb.perform rfl (fun b => ?_) hinputs
      simp only [live, hw, Worker.live, released_cons, Stage.perform_sensor, List.countP_append]
      omega
  | unwind hw =>
      refine hb.perform rfl (fun b => ?_) hinputs
      simp only [live, hw, Worker.live, released_cons, Stage.perform_sensor, List.countP_append]
      omega
  | @admitOne l r i phase frame table q left p store a hc hgo hcheck hslot hmap =>
      refine ⟨fun b => ?_, hinputs⟩
      have hadmitted := lockCount_mapRequest hmap
        (hasRoom_of_takesSlot hn hc hgo hcheck hslot hroom) b
      have hcount := hb.count b
      have hstore : ({ c.stage with store }.note (.admitted i a)).store = store := rfl
      simp only [live, hc, hstore, Stage.note_sensor, List.flatMap_append, List.flatMap_cons,
        List.flatMap_nil, Call.live, Call.effects, List.countP_append, List.countP_nil]
        at hcount hadmitted ⊢
      omega
  | abort hc hgo hcheck hslot hmap =>
      refine hb.congr (fun b => ?_) (fun b => ?_) hinputs
      · exact lockCount_mapRequest_of_crash hmap
          (hasRoom_of_takesSlot hn hc hgo hcheck hslot hroom) b
      · simp [live, hc, Call.live, Call.effects]
  | drain hc =>
      refine hb.congr (fun _ => rfl) (fun b => ?_) hinputs
      simp only [live, hc, Call.live, Call.effects, released_failingAll, released_nil,
        Stage.note_sensor, List.flatMap_append, List.flatMap_cons, List.flatMap_nil,
        List.countP_append, List.countP_nil]
      omega
  | flushSensor hc | close hc =>
      refine hb.congr (fun _ => rfl) (fun b => ?_) hinputs
      have habandon := Shot.countP_released_abandonAll c.stage.sensor.slot.toList b
      simp only [live, hc, Call.live, Call.effects, Simulated.engine, Simulated.flush,
        Simulated.live, Simulated.actions, released_nil,
        List.flatMap_append, List.flatMap_cons, List.flatMap_nil, Option.toList_none,
        List.countP_append, List.countP_nil]
      omega
  | clear hc | report hc | closeEffect hc =>
      refine hb.perform rfl (fun b => ?_) hinputs
      simp only [live, hc, Call.live, Call.effects, released_cons, Stage.perform_sensor,
        List.flatMap_append, List.flatMap_cons, List.countP_append]
      omega
  | sensor hs =>
      obtain ⟨sensor, effects, hstep, rfl⟩ := Stage.sensorStep_of_sensorStep? hs
      cases hstep with
      | halt hthread | rest hthread | count hthread =>
          refine hb.congr (fun _ => rfl) (fun b => ?_) hinputs
          simp [live, Stage.performAll, Simulated.live, Simulated.actions, hthread]
      | @tick clock pause hthread =>
          refine hb.congr (fun _ => rfl) (fun b => ?_) hinputs
          cases hslot : c.stage.sensor.slot <;>
            simp [live, Stage.performAll, Simulated.live, Simulated.actions, hthread, hslot,
              Sensor.releasedBy_capture]
      | @perform e rest hthread =>
          have hstore : ({ c.stage with sensor := { c.stage.sensor with
              thread := .capturing rest } }.performAll .sensor [e]).store =
              (c.stage.perform .sensor e).store := by
            cases e <;> rfl
          refine hb.perform hstore (fun b => ?_) hinputs
          simp only [live, Stage.performAll_sensor, Simulated.live, Simulated.actions, hthread,
            Sensor.releasedBy_perform, List.countP_append]
          omega
  | check hw =>
      refine hb.congr (fun _ => rfl) (fun b => ?_) hinputs
      cases hs : c.isStopping <;> simp [live, hw, Worker.live]
  | idle hw | finished hw | unwound hw | beginPacing hw | skipPacing hw | pace hw | giveUp hw =>
      refine hb.congr (fun _ => rfl) (fun b => ?_) hinputs
      simp [live, hw, Worker.live, paced]
  | enter hc | submitted hc | refuse hc | park hc | expire hc | flushed hc | stopAgain hc
  | halt hc | stopped hc =>
      refine hb.congr (fun _ => rfl) (fun b => ?_) hinputs
      simp [live, hc, Call.live, Call.effects, Simulated.engine, Simulated.halt, Simulated.live,
        Simulated.actions]
  | submit | flush | stop =>
      refine hb.congr (fun _ => rfl) (fun b => ?_) hinputs
      simp [live, begin, Call.live, Call.effects]
  | fence => exact hb.congr (fun _ => rfl) (fun _ => rfl) hinputs

/-! ## Runs -/

/-- Whether all locks that are taken in a run can be counted. -/
def keepsRoom (E : Engine σ) (c : Camera σ) : List Move → Bool
  | [] => true
  | m :: rest => c.hasRoom E m && (c.step? E m).all fun d => d.keepsRoom E rest

variable {period : Nat}

theorem LocksHeld.run {moves : List Move} (hc : Reachable Simulated.engine { period } c)
    (hroom : c.keepsRoom Simulated.engine moves = true)
    (h : c.run? Simulated.engine moves = some d) (hb : c.LocksHeld) : d.LocksHeld := by
  induction moves generalizing c with
  | nil =>
      cases h
      exact hb
  | cons m rest ih =>
      obtain ⟨b, hstep, hrun⟩ := Option.bind_eq_some_iff.mp (run?_cons ▸ h)
      simp only [keepsRoom, hstep, Option.all_some, Bool.and_eq_true] at hroom
      have hnext := hb.transition hc.orderly.toNumbered hroom.1 (hc.transition hstep)
      exact ih (hc.next hstep) hroom.2 hrun hnext

theorem locksHeld_of_create {config : Config} {store : Store} {controls : Controls}
    (hc : create config ({ period } : Simulated) store controls = .ok c)
    (hunlocked : ∀ b ∈ store.memory.buffers, b.isLocked = false) : c.LocksHeld := by
  obtain rfl := create_eq hc
  refine ⟨fun i => ?_, trivial⟩
  have hzero : store.memory.lockCount i = 0 := by
    unfold Memory.lockCount
    cases hi : store.memory.buffers[i]? with
    | none => rfl
    | some b =>
        have hlocked := hunlocked b (Array.mem_of_getElem? hi)
        have hlocks : b.locks = 0 := by simpa [Buffer.isLocked] using hlocked
        simp [hlocks]
  simp [live, Worker.live, Simulated.live, Simulated.actions, Store.lockCount, hzero]

/-! ## When every request is answered -/

/-- Nobody is in the middle of an operation that answers requests. -/
structure IsIdle (c : Camera Simulated) : Prop where
  worker : c.worker.effects = []
  calls : ∀ p ∈ c.calls, p.2.effects = []
  sensor : c.stage.sensor.actions = []

/-- The listener of every request was told its last event. -/
def AllAnswered (c : Camera Simulated) : Prop :=
  ∀ tag ∈ c.admissions, ∃ p ∈ c.tells, p.1 = tag ∧ p.2.isFinal = true

instance (c : Camera Simulated) : Decidable c.AllAnswered :=
  inferInstanceAs
    (Decidable (∀ tag ∈ c.admissions, ∃ p ∈ c.tells, p.1 = tag ∧ p.2.isFinal = true))

/-- Nothing was told of a request whose frame waits in the slot. -/
theorem Reachable.slot_eq_none (hc : Reachable Simulated.engine { period } c)
    (hanswered : c.AllAnswered) : c.stage.sensor.slot = none := by
  by_contra hsome
  obtain ⟨shot, hslot⟩ := Option.ne_none_iff_exists'.mp hsome
  obtain ⟨captured, given, hperm, -, -⟩ := hc.rolled.parts
  have hrslot : c.roll.slot = some shot := hslot
  have hhanded : shot ∈ c.roll.handed := hperm.subset (by simp [hrslot])
  obtain ⟨tag, htag, -⟩ := hc.exists_tag hhanded
  have houtcome : (tag, .handedOver) ∈ c.outcomes := by
    rw [← mem_tags_of_handOvers, ← hc.tags_of_handed]
    exact List.mem_filterMap.mpr ⟨shot, hhanded, htag⟩
  have hadmitted : tag ∈ c.admissions :=
    hc.balanced.outcomes_prefix.subset (List.mem_map_of_mem houtcome)
  obtain ⟨p, hp, rfl, -⟩ := hanswered tag hadmitted
  exact Roll.ne_of_told_of_slot hc.rolled hc.nodup_handed hrslot htag
    (hc.told_by_sensor houtcome hp) rfl

theorem Reachable.live_eq_nil (hc : Reachable Simulated.engine { period } c)
    (hanswered : c.AllAnswered) (hidle : c.IsIdle) : c.live = [] := by
  have hall : ∀ tag ∈ c.ledger.admissions, tag ∈ c.ledger.outcomes.map (·.1) := by
    intro tag htag
    obtain ⟨p, hp, rfl, -⟩ := hanswered tag htag
    exact hc.mem_outcomes_of_told hp
  obtain ⟨hinHand, -, hwaiting⟩ := hc.balanced.places_eq_nil hall
  have hqueue : c.queue = [] := List.map_eq_nil_iff.mp hwaiting
  have hworker : c.worker.live = [] := by
    have hundecided : c.worker.undecided = [] := (List.append_eq_nil_iff.mp hinHand).1
    exact Worker.live_eq_nil hundecided hidle.worker
  have hcalls : c.calls.flatMap (·.2.live) = [] :=
    List.flatMap_eq_nil_iff.mpr fun p hp => Call.live_eq_nil (hidle.calls p hp)
  have hsensor : c.stage.sensor.live = [] := by
    rw [Simulated.live, hc.slot_eq_none hanswered, hidle.sensor]
    rfl
  rw [live, hqueue, hworker, hcalls, hsensor]
  rfl

/-- On a camera whose buffers were not locked at first, and as long as no lock
count runs over, every buffer is locked as often as live mappings refer to it;
the buffer of a live mapping is locked, so no release finds its buffer unlocked.
Once the listeners of all requests were told their last events, and nobody is
in the middle of what answered them, no buffer is locked. -/
theorem buffers_are_locked_by_live_mappings {config : Config} {store : Store}
    {controls : Controls} {moves : List Move}
    (hc : create config ({ period } : Simulated) store controls = .ok c)
    (hunlocked : ∀ b ∈ store.memory.buffers, b.isLocked = false)
    (hroom : c.keepsRoom Simulated.engine moves = true)
    (h : c.run? Simulated.engine moves = some d) :
    (∀ i, d.stage.store.lockCount i = d.live.countP (·.buffer = i)) ∧
      (∀ m ∈ d.live, 0 < d.stage.store.lockCount m.buffer) ∧
      (d.AllAnswered → d.IsIdle →
        ∀ b ∈ d.stage.store.memory.buffers, b.isLocked = false) := by
  have hreach : Reachable Simulated.engine { period } c := .created hc
  have hheld := (locksHeld_of_create hc hunlocked).run hreach hroom h
  refine ⟨hheld.count, fun m hm => ?_, fun hanswered hidle => ?_⟩
  · rw [hheld.count]
    exact List.countP_pos_iff.mpr ⟨m, hm, by simp⟩
  · have hlive := (hreach.run? h).live_eq_nil hanswered hidle
    refine Memory.isLocked_eq_false fun i => ?_
    have hcount := hheld.count i
    rw [hlive, List.countP_nil] at hcount
    exact hcount

def unused : Camera Simulated :=
  Sample.camera { period := 0 }

/-- Four requests for the same buffer.  The first fails, the second is captured,
the third waits in the slot and the fourth in the queue. -/
def halfway : List Move :=
  List.flatten [
    .submit 7 [Sample.plain, Sample.preview, Sample.preview, Sample.preview] [Sample.pipeline] ::
      List.replicate 6 (.advance 0),
    List.replicate 9 .worker, .giveUp :: List.replicate 9 .worker,
    List.replicate 7 .sensor, List.replicate 10 .worker]

/-- The third and the fourth are flushed. -/
def flushed : List Move :=
  .flush :: List.replicate 7 (.advance 1)

theorem sample_buffer_is_locked_by_live_mappings :
    ∃ d e : Camera Simulated,
      unused.run? Simulated.engine halfway = some d ∧
        d.stage.store.lockCount 0 = d.live.countP (·.buffer = 0) ∧
        d.stage.store.lockCount 0 = 2 ∧
        d.run? Simulated.engine flushed = some e ∧ e.AllAnswered ∧ e.IsIdle ∧
        ∀ b ∈ e.stage.store.memory.buffers, b.isLocked = false := by
  have hcreate : create {} ({ period := 0 } : Simulated) Sample.store Sample.controls =
      .ok unused := rfl
  have hunlocked : ∀ b ∈ Sample.store.memory.buffers, b.isLocked = false := by decide
  have hroom : unused.keepsRoom Simulated.engine halfway = true := by decide +kernel
  have hroom' : unused.keepsRoom Simulated.engine (halfway ++ flushed) = true := by
    decide +kernel
  have hrun : ((unused.run? Simulated.engine halfway).bind fun d =>
      (d.run? Simulated.engine flushed).map fun e =>
        (d.stage.store.lockCount 0, decide (e.AllAnswered), e.worker.effects, e.calls.isEmpty,
          e.stage.sensor.actions)) = some (2, true, [], true, []) := by
    decide +kernel
  obtain ⟨d, hd, heq⟩ := Option.bind_eq_some_iff.mp hrun
  obtain ⟨e, he, heq⟩ := Option.map_eq_some_iff.mp heq
  simp only [Prod.mk.injEq, decide_eq_true_eq, List.isEmpty_iff] at heq
  obtain ⟨hcount, hanswered, hworker, hcalls, hactions⟩ := heq
  have hidle : e.IsIdle := ⟨hworker, by simp [hcalls], hactions⟩
  have hall : unused.run? Simulated.engine (halfway ++ flushed) = some e := by
    rw [run?_append, hd]
    exact he
  obtain ⟨hlocks, -, -⟩ := buffers_are_locked_by_live_mappings hcreate hunlocked hroom hd
  obtain ⟨-, -, hfree⟩ := buffers_are_locked_by_live_mappings hcreate hunlocked hroom' hall
  exact ⟨d, e, hd, hlocks 0, hcount, he, hanswered, hidle, hfree hanswered hidle⟩

end Camera

end VirtualCamera
