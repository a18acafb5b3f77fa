import VirtualCamera.Proofs.Transition

/-!
# Locks and reachable cameras

Who holds a lock is read off the phases of the threads.  Two counts make this a
matter of arithmetic: `dispatchHolders` and `queueHolders`.  Neither is ever
above one, because a phase that holds a lock is entered only from one that
holds it already or while the lock is free.  Together with the numbers of the
open calls this is `Orderly`, and every reachable camera is orderly.
-/

namespace VirtualCamera

namespace Camera

variable {σ : Type} {E : Engine σ} {c d : Camera σ}

/-! ## Numbers of calls -/

theorem Numbered.congr (hn : c.Numbered) (hd : d.calls = c.calls) (ho : d.opened = c.opened) :
    d.Numbered :=
  ⟨by rw [hd, ho]; exact hn.toNumberedBelow⟩

theorem Numbered.replace {l r : List (Nat × Call)} {i : Nat} {old new : Call}
    (hn : c.Numbered) (hc : c.calls = l ++ (i, old) :: r)
    (hd : d.calls = l ++ (i, new) :: r) (ho : d.opened = c.opened) : d.Numbered := by
  have hnumbered := hn.toNumberedBelow
  rw [hc] at hnumbered
  exact ⟨by rw [hd, ho]; exact hnumbered.replace new⟩

theorem Numbered.remove {l r : List (Nat × Call)} {i : Nat} {old : Call}
    (hn : c.Numbered) (hc : c.calls = l ++ (i, old) :: r)
    (hd : d.calls = l ++ r) (ho : d.opened = c.opened) : d.Numbered := by
  have hnumbered := hn.toNumberedBelow
  rw [hc] at hnumbered
  exact ⟨by rw [hd, ho]; exact hnumbered.remove⟩

theorem Numbered.append {call : Call} (hn : c.Numbered)
    (hd : d.calls = c.calls ++ [(c.opened, call)]) (ho : d.opened = c.opened + 1) :
    d.Numbered :=
  ⟨by rw [hd, ho]; exact hn.toNumberedBelow.append call⟩

theorem Numbered.step {m : Move} (hn : c.Numbered) (h : Transition E c m d) : d.Numbered := by
  cases h.callsStep with
  | still hd ho => exact hn.congr hd ho
  | answered _ hd _ => exact ⟨by simp [hd], by simp [hd]⟩
  | goesOn _ hc hd _ ho => exact hn.replace hc hd ho
  | returns _ hc hd ho => exact hn.remove hc hd ho
  | begins _ hd ho => exact hn.append hd ho

/-! ## Holders of locks -/

/-- How many threads hold the dispatch lock. -/
def dispatchHolders (c : Camera σ) : Nat :=
  c.worker.holdsDispatch.toNat + c.calls.countP (·.2.holdsDispatch)

/-- How many threads hold the queue lock from one step to the next. -/
def queueHolders (c : Camera σ) : Nat :=
  c.calls.countP (·.2.holdsQueue)

theorem dispatchIsFree_iff : c.dispatchIsFree = true ↔ c.dispatchHolders = 0 := by
  simp only [dispatchIsFree, dispatchHolders, Bool.and_eq_true, Bool.not_eq_true',
    List.all_eq_true, Nat.add_eq_zero_iff, List.countP_eq_zero]
  cases c.worker.holdsDispatch <;> simp

theorem queueIsFree_iff : c.queueIsFree = true ↔ c.queueHolders = 0 := by
  simp [queueIsFree, queueHolders, List.countP_eq_zero]

/-- What every reachable camera satisfies of its calls and locks. -/
structure Orderly (c : Camera σ) : Prop extends c.Numbered where
  dispatch : c.dispatchHolders ≤ 1
  queue : c.queueHolders ≤ 1

/-- A step in which no call changes keeps the locks right if the worker comes
to hold the dispatch lock only while that is free. -/
theorem Orderly.worker {m : Move} (ho : c.Orderly) (h : Transition E c m d)
    (hcalls : d.calls = c.calls)
    (hw : d.worker.holdsDispatch = true →
      c.worker.holdsDispatch = true ∨ c.dispatchIsFree = true) : d.Orderly := by
  refine ⟨ho.toNumbered.step h, ?_, ?_⟩
  · have hdispatch := ho.dispatch
    simp only [dispatchIsFree_iff, dispatchHolders, hcalls] at hw hdispatch ⊢
    cases hd : d.worker.holdsDispatch <;> cases hc : c.worker.holdsDispatch <;>
      simp only [hd, hc, Bool.toNat_true, Bool.toNat_false] at hw hdispatch ⊢ <;> grind
  · simpa only [queueHolders, hcalls] using ho.queue

/-- A step in which the worker does not change and one call goes on keeps the
locks right if the call comes to hold a lock only while that is free. -/
theorem Orderly.call {m : Move} {l r : List (Nat × Call)} {i : Nat} {old new : Call}
    (ho : c.Orderly) (h : Transition E c m d) (hworker : d.worker = c.worker)
    (hc : c.calls = l ++ (i, old) :: r) (hd : d.calls = l ++ (i, new) :: r)
    (hdispatch : new.holdsDispatch = true →
      old.holdsDispatch = true ∨ c.dispatchIsFree = true)
    (hqueue : new.holdsQueue = true → old.holdsQueue = true ∨ c.queueIsFree = true) :
    d.Orderly := by
  refine ⟨ho.toNumbered.step h, ?_, ?_⟩
  · have hle := ho.dispatch
    simp only [dispatchIsFree_iff, dispatchHolders, hc, hd, hworker, List.countP_append,
      List.countP_cons] at hdispatch hle ⊢
    split <;> grind
  · have hle := ho.queue
    simp only [queueIsFree_iff, queueHolders, hc, hd, List.countP_append,
      List.countP_cons] at hqueue hle ⊢
    split <;> grind

theorem Orderly.remove {m : Move} {l r : List (Nat × Call)} {i : Nat} {old : Call}
    (ho : c.Orderly) (h : Transition E c m d) (hworker : d.worker = c.worker)
    (hc : c.calls = l ++ (i, old) :: r) (hd : d.calls = l ++ r) : d.Orderly := by
  have hdispatch := ho.dispatch
  have hqueue := ho.queue
  simp only [dispatchHolders, queueHolders, hc, List.countP_append, List.countP_cons]
    at hdispatch hqueue
  refine ⟨ho.toNumbered.step h, ?_, ?_⟩
  · simp only [dispatchHolders, hd, hworker, List.countP_append]
    omega
  · simp only [queueHolders, hd, List.countP_append]
    omega

theorem Orderly.append {m : Move} {i : Nat} {call : Call} (ho : c.Orderly)
    (h : Transition E c m d) (hworker : d.worker = c.worker)
    (hd : d.calls = c.calls ++ [(i, call)]) (hdispatch : call.holdsDispatch = false)
    (hqueue : call.holdsQueue = false) : d.Orderly := by
  refine ⟨ho.toNumbered.step h, ?_, ?_⟩
  · simpa [dispatchHolders, hd, hworker, List.countP_append, hdispatch] using ho.dispatch
  · simpa [queueHolders, hd, List.countP_append, hqueue] using ho.queue

theorem Orderly.step {m : Move} (ho : c.Orderly) (h : Transition E c m d) : d.Orderly := by
  have hstep := h
  cases h with
  | check hw => exact ho.worker hstep rfl (by cases c.isStopping <;> simp [Worker.holdsDispatch])
  | take _ hfree => exact ho.worker hstep rfl fun _ => Or.inr hfree
  | resolve hw | crash hw | outputsAwaited hw | awaitOutput hw | record hw | awaitInput hw
  | handOver hw | perform hw | unwind hw =>
      exact ho.worker hstep rfl fun _ => Or.inl (by simp [hw, Worker.holdsDispatch])
  | idle | finished | unwound | beginPacing | skipPacing | pace | giveUp =>
      exact ho.worker hstep rfl fun hd => by simp [Worker.holdsDispatch, paced] at hd
  | enter hc hlock =>
      exact ho.call hstep rfl hc rfl (by simp [Call.holdsDispatch]) fun _ => Or.inr hlock
  | admitOne hc hgo =>
      refine ho.call hstep rfl hc rfl (by simp [Call.holdsDispatch]) fun _ => ?_
      rcases hgo with rfl | ⟨-, hlock, -⟩
      · exact Or.inl rfl
      · exact Or.inr hlock
  | flushSensor hc hfree hlock =>
      exact ho.call hstep rfl hc rfl (fun _ => Or.inr hfree) fun _ => Or.inr hlock
  | park hc | clear hc | drain hc | report hc | halt hc | close hc | closeEffect hc =>
      exact ho.call hstep rfl hc rfl (by simp [Call.holdsDispatch]) (by simp [Call.holdsQueue])
  | submitted hc | refuse hc | abort hc | expire hc | flushed hc | stopped hc =>
      exact ho.remove hstep rfl hc rfl
  | submit | flush | stop => exact ho.append hstep rfl rfl rfl rfl
  | stopAgain | sensor | fence => exact ho.worker hstep rfl Or.inl

/-! ## Reachable cameras -/

/-- The cameras that come about from a new one with this sensor. -/
inductive Reachable (E : Engine σ) (sensor : σ) : Camera σ → Prop
  | created {config : Config} {store : Store} {controls : Controls} {c : Camera σ}
      (h : create config sensor store controls = .ok c) : Reachable E sensor c
  | next {c d : Camera σ} {m : Move} (hc : Reachable E sensor c)
      (h : c.step? E m = some d) : Reachable E sensor d

variable {sensor : σ}

/-- In a new camera nothing was admitted, and nothing is under way. -/
theorem create_eq {config : Config} {store : Store} {controls : Controls}
    (h : create config sensor store controls = .ok c) :
    c = { config, controls, stage := { sensor, store } } := by
  unfold create at h
  split at h
  · cases h
  · split at h
    · cases h
    · cases h
      rfl

theorem Reachable.orderly (h : Reachable E sensor c) : c.Orderly := by
  induction h with
  | created h =>
      obtain rfl := create_eq h
      exact ⟨⟨by simp, by simp⟩, by simp [dispatchHolders, Worker.holdsDispatch],
        by simp [queueHolders]⟩
  | next _ h ih => exact ih.step (transition_of_step? ih.toNumbered h)

/-- What a new camera satisfies and every transition preserves holds of every
reachable camera. -/
theorem Reachable.induct {P : Camera σ → Prop} (hc : Reachable E sensor c)
    (created : ∀ config store controls,
      P { config, controls, stage := { sensor, store } })
    (next : ∀ {c d : Camera σ} {m : Move}, c.Orderly → Transition E c m d → P c → P d) :
    P c := by
  induction hc with
  | created h =>
      obtain rfl := create_eq h
      exact created _ _ _
  | next hc h ih =>
      exact next hc.orderly (transition_of_step? hc.orderly.toNumbered h) ih

theorem run?_cons {m : Move} {rest : List Move} :
    c.run? E (m :: rest) = (c.step? E m).bind fun d => d.run? E rest := rfl

theorem run?_append {moves rest : List Move} :
    c.run? E (moves ++ rest) = (c.run? E moves).bind fun d => d.run? E rest := by
  simp [run?, List.foldlM_append]

theorem Reachable.run? {moves : List Move} (hc : Reachable E sensor c)
    (h : c.run? E moves = some d) : Reachable E sensor d := by
  induction moves generalizing c with
  | nil =>
      cases h
      exact hc
  | cons m rest ih =>
      obtain ⟨b, hb, hd⟩ := Option.bind_eq_some_iff.mp (run?_cons ▸ h)
      exact ih (hc.next hb) hd

theorem Reachable.transition {m : Move} (hc : Reachable E sensor c)
    (h : c.step? E m = some d) : Transition E c m d :=
  transition_of_step? hc.orderly.toNumbered h

/-- What every step of a run preserves holds at its end. -/
theorem Reachable.run_induct_mem {P : Camera σ → Prop} {moves : List Move}
    (hc : Reachable E sensor c) (h : c.run? E moves = some d) (start : P c)
    (next : ∀ {b d : Camera σ} {m : Move}, m ∈ moves → Reachable E sensor b →
      b.step? E m = some d → P b → P d) : P d := by
  induction moves generalizing c with
  | nil =>
      cases h
      exact start
  | cons m rest ih =>
      obtain ⟨b, hb, hd⟩ := Option.bind_eq_some_iff.mp (run?_cons ▸ h)
      exact ih (hc.next hb) hd (next List.mem_cons_self hc hb start)
        fun hm => next (List.mem_cons_of_mem _ hm)

/-- What every step preserves holds at the end of a run. -/
theorem Reachable.run_induct {P : Camera σ → Prop} {moves : List Move}
    (hc : Reachable E sensor c) (h : c.run? E moves = some d) (start : P c)
    (next : ∀ {b d : Camera σ} {m : Move}, Reachable E sensor b → b.step? E m = some d → P b →
      P d) : P d :=
  hc.run_induct_mem h start fun _ => next

end Camera

/-! ## A sample camera

One pipeline of one small stream, on which the cases of the theorems can be
run. -/

namespace Sample

variable {σ : Type}

def stream : Stream := ⟨0, 2, 2, .rgba8888, .unknown, 0, 0, false⟩

def pipeline : Pipeline where
  id := 0
  camera := 0
  listener := { channel := 0 }
  streams := [stream]

def request (settings : Option CaptureSettings) : CaptureRequest where
  pipeline := 0
  settings
  inputs := []
  outputs := [⟨0, 0, none, .error⟩]

/-- A request without settings: the first one on a camera fails. -/
def plain : CaptureRequest :=
  request none

/-- A request that can be captured. -/
def preview : CaptureRequest :=
  request (some (Characteristics.standard.automaticSettings .preview))

/-- The tag of a request that was submitted for frame 7. -/
def tag (ticket : Nat) : FrameTag :=
  ⟨ticket, 7, 0, 0, { channel := 0 }⟩

/-- A buffer that is mapped for the first request. -/
def mapping (buffer : Nat) (fence : Option Nat) : Mapping where
  tag := tag 0
  width := 2
  height := 2
  format := .rgba8888
  dataspace := .unknown
  isInput := false
  planes := .packed ⟨buffer, 0, 16⟩ 8 16
  attachment := ⟨0, buffer, fence, .error⟩
  fence

/-- What the first request becomes, if it can be captured. -/
def admission (inputs outputs : Option (List Mapping)) : Admission where
  tag := tag 0
  settings := preview.settings
  inputs
  outputs

def store : Store :=
  ⟨⟨#[.zeroed 16]⟩, #[]⟩

def controls : Controls where
  camera := 0
  characteristics := some .standard

def camera (sensor : σ) : Camera σ where
  config := {}
  stage := { sensor, store }
  controls

theorem reachable (E : Engine σ) (sensor : σ) : Camera.Reachable E sensor (camera sensor) :=
  have hcreate : Camera.create {} sensor store controls = .ok (camera sensor) := rfl
  .created hcreate

/-- The sample camera after these moves. -/
def after (E : Engine σ) (sensor : σ) (moves : List Camera.Move)
    (h : ((camera sensor).run? E moves).isSome = true) : Camera σ :=
  ((camera sensor).run? E moves).get h

theorem reachable_after {E : Engine σ} {sensor : σ} {moves : List Camera.Move}
    {h : ((camera sensor).run? E moves).isSome = true} :
    Camera.Reachable E sensor (after E sensor moves h) :=
  (reachable E sensor).run? (Option.some_get h).symm

end Sample

end VirtualCamera
