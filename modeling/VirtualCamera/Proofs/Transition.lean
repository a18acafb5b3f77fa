import Mathlib
import VirtualCamera.Camera.Step

/-!
# What a move can do

`Camera.step?` is a function with many branches.  `Transition` lists them: one
constructor for each branch that succeeds, with what the branch requires of the
camera before and the camera after written out as a record.  Every later proof
about steps is by cases on `Transition`, and none opens `step?` again.

An open call stands somewhere in the list of calls.  The constructors give that
list as `l ++ (i, call) :: r`, so that the list afterwards can be given in the
same way, and whatever is collected from the calls splits at the one that
moves.  For this the numbers of the open calls have to be distinct
(`Camera.Numbered`), which every step preserves.
-/

namespace VirtualCamera

/-! ## Numbered calls -/

section

variable {α : Type} {l r calls : List (Nat × α)} {i n : Nat} {old new : α}

/-- Open calls have distinct numbers, and all of them were given out. -/
structure NumberedBelow (calls : List (Nat × α)) (n : Nat) : Prop where
  nodup : (calls.map (·.1)).Nodup
  lt : ∀ call ∈ calls, call.1 < n

theorem exists_split_of_lookup {call : α} (h : calls.lookup i = some call) :
    ∃ l r, calls = l ++ (i, call) :: r := by
  obtain ⟨l, r, hcalls, -⟩ := List.lookup_eq_some_iff.mp h
  exact ⟨l, r, hcalls⟩

theorem mem_split {p q : Nat × α} : p ∈ l ++ q :: r ↔ p = q ∨ p ∈ l ++ r :=
  List.perm_middle.mem_iff.trans List.mem_cons

/-- Where the numbers are distinct, a call's number is that of no other. -/
theorem ne_of_nodup_split (h : ((l ++ (i, old) :: r).map (·.1)).Nodup) :
    (∀ p ∈ l, p.1 ≠ i) ∧ ∀ p ∈ r, p.1 ≠ i := by
  simp only [List.map_append, List.map_cons, List.nodup_append, List.nodup_cons,
    List.mem_map, List.mem_cons] at h
  obtain ⟨-, ⟨hr, -⟩, hl⟩ := h
  refine ⟨fun p hp heq => hl _ ⟨p, hp, rfl⟩ i (Or.inl rfl) heq, fun p hp heq => ?_⟩
  exact hr ⟨p, hp, heq⟩

/-- A call among others is replaced. -/
theorem map_replace_split (h : ((l ++ (i, old) :: r).map (·.1)).Nodup) (new : α) :
    (l ++ (i, old) :: r).map (fun p => if p.1 = i then (i, new) else p) = l ++ (i, new) :: r := by
  obtain ⟨hl, hr⟩ := ne_of_nodup_split h
  have keep : ∀ calls : List (Nat × α), (∀ p ∈ calls, p.1 ≠ i) →
      calls.map (fun p => if p.1 = i then (i, new) else p) = calls :=
    fun calls h => (List.map_congr_left fun p hp => if_neg (h p hp)).trans (List.map_id calls)
  simp [keep l hl, keep r hr]

/-- A call among others is taken away. -/
theorem filter_remove_split (h : ((l ++ (i, old) :: r).map (·.1)).Nodup) :
    (l ++ (i, old) :: r).filter (fun p => p.1 ≠ i) = l ++ r := by
  obtain ⟨hl, hr⟩ := ne_of_nodup_split h
  have keep : ∀ calls : List (Nat × α), (∀ p ∈ calls, p.1 ≠ i) →
      calls.filter (fun p => p.1 ≠ i) = calls :=
    fun calls h => List.filter_eq_self.mpr fun p hp => decide_eq_true (h p hp)
  rw [List.filter_append, List.filter_cons_of_neg (by simp), keep l hl, keep r hr]

theorem NumberedBelow.replace (h : NumberedBelow (l ++ (i, old) :: r) n) (new : α) :
    NumberedBelow (l ++ (i, new) :: r) n := by
  have hkeys : (l ++ (i, new) :: r).map (·.1) = (l ++ (i, old) :: r).map (·.1) := by simp
  refine ⟨hkeys ▸ h.nodup, fun p hp => ?_⟩
  have hmem : p.1 ∈ (l ++ (i, old) :: r).map (·.1) := hkeys ▸ List.mem_map_of_mem hp
  obtain ⟨q, hq, hpq⟩ := List.mem_map.mp hmem
  rw [← hpq]
  exact h.lt q hq

theorem NumberedBelow.remove (h : NumberedBelow (l ++ (i, old) :: r) n) :
    NumberedBelow (l ++ r) n := by
  have hsub : (l ++ r).Sublist (l ++ (i, old) :: r) :=
    List.Sublist.append_left (List.sublist_cons_self _ _) l
  exact ⟨h.nodup.sublist (hsub.map _), fun p hp => h.lt p (hsub.subset hp)⟩

theorem NumberedBelow.append (h : NumberedBelow calls n) (new : α) :
    NumberedBelow (calls ++ [(n, new)]) (n + 1) := by
  constructor
  · rw [List.map_append, List.nodup_append]
    refine ⟨h.nodup, by simp, fun m hm k hk heq => ?_⟩
    obtain ⟨p, hp, rfl⟩ := List.mem_map.mp hm
    obtain rfl : k = n := by simpa using hk
    exact Nat.ne_of_lt (h.lt p hp) heq
  · intro p hp
    rw [List.mem_append, List.mem_singleton] at hp
    rcases hp with hp | rfl
    · exact Nat.lt_succ_of_lt (h.lt p hp)
    · exact Nat.lt_succ_self _

end

/-- What a call is for. -/
inductive CallKind where
  | submission
  | flush
  | stop
  deriving DecidableEq, Repr

def Call.kind : Call → CallKind
  | submitting .. => .submission
  | flushing | clearing .. | reporting .. => .flush
  | joining | halting _ | closing .. => .stop

/-- An admission that came about by mapping the buffers of a request for a
frame, the outputs first, which turned the store `s` into `t`. -/
structure Admission.MadeFrom {σ : Type} (E : Engine σ) (frame : UInt32) (p : Pipeline)
    (r : CaptureRequest) (s t : Store) (a : Admission) : Prop where
  frame : a.tag.frame = frame
  pipeline : a.tag.pipeline = p.id
  camera : a.tag.camera = p.camera
  listener : a.tag.listener = p.listener
  settings : a.settings = r.settings
  outputs : (s.mapAll E.overrideFormat a.tag p.streams r.outputs).2 = .ok a.outputs
  inputs : ((s.mapAll E.overrideFormat a.tag p.streams r.outputs).1.mapAll
    E.overrideFormat a.tag p.streams r.inputs).2 = .ok a.inputs
  store : t = ((s.mapAll E.overrideFormat a.tag p.streams r.outputs).1.mapAll
    E.overrideFormat a.tag p.streams r.inputs).1

namespace Camera

variable {σ : Type} {E : Engine σ} {c d : Camera σ}

/-! ## Requests and their buffers -/

section

variable {frame : UInt32} {p : Pipeline} {q : CaptureRequest} {store : Store}

theorem mapRequest_eq_ok {a : Admission} (h : c.mapRequest E frame p q = (store, .ok a)) :
    a.tag = ⟨c.admitted, frame, p.id, p.camera, p.listener⟩ ∧
      a.MadeFrom E frame p q c.stage.store store := by
  simp only [mapRequest] at h
  split at h
  · cases h
  · rename_i mid outputs houtputs
    split at h
    · cases h
    · rename_i hinputs
      obtain ⟨rfl, rfl⟩ : _ = store ∧ _ = a := by simpa using h
      refine ⟨rfl, rfl, rfl, rfl, rfl, rfl, ?_, ?_, ?_⟩
      · rw [houtputs]
      · rw [houtputs, hinputs]
      · rw [houtputs, hinputs]

/-- A crash comes about while the outputs are mapped, or while the inputs are
and the outputs are given back. -/
theorem mapRequest_eq_error {crash : Crash}
    (h : c.mapRequest E frame p q = (store, .error crash)) :
    let tag : FrameTag := ⟨c.admitted, frame, p.id, p.camera, p.listener⟩
    c.stage.store.mapAll E.overrideFormat tag p.streams q.outputs = (store, .error crash) ∨
      ∃ mid outputs left,
        c.stage.store.mapAll E.overrideFormat tag p.streams q.outputs = (mid, .ok outputs) ∧
        mid.mapAll E.overrideFormat tag p.streams q.inputs = (left, .error crash) ∧
        store = left.releaseAll (outputs.getD []) := by
  simp only [mapRequest] at h
  split at h
  · rename_i houtputs
    cases h
    exact .inl houtputs
  · rename_i mid outputs houtputs
    split at h
    · rename_i left crash hinputs
      cases h
      exact .inr ⟨mid, outputs, left, houtputs, hinputs, rfl⟩
    · cases h

end

/-! ## Open calls -/

/-- The kind of call that a move begins. -/
def Move.opens? : Move → Option CallKind
  | submit .. => some .submission
  | flush => some .flush
  | stop => some .stop
  | advance _ | expire _ | worker | giveUp | sensor | fence .. => none

/-- The call that makes a move. -/
def Move.call? : Move → Option Nat
  | advance i | expire i => some i
  | submit .. | flush | stop | worker | giveUp | .sensor | fence .. => none

structure Numbered (c : Camera σ) : Prop extends NumberedBelow c.calls c.opened

theorem put_calls {l r : List (Nat × Call)} {i : Nat} {old : Call}
    (hn : c.Numbered) (hc : c.calls = l ++ (i, old) :: r) (new : Call) :
    (c.put i new).calls = l ++ (i, new) :: r := by
  simp only [put, hc]
  exact map_replace_split (hc ▸ hn.nodup) new

theorem put_split {l r : List (Nat × Call)} {i : Nat} {old : Call} (hn : c.Numbered)
    (hc : c.calls = l ++ (i, old) :: r) (hd : d.calls = c.calls) (new : Call) :
    d.put i new = { d with calls := l ++ (i, new) :: r } := by
  rw [← put_calls hn hc new, put, put, hd]

theorem abort_split {l r : List (Nat × Call)} {i : Nat} {old : Call} (hn : c.Numbered)
    (hc : c.calls = l ++ (i, old) :: r) (hd : d.calls = c.calls) (crash : Crash) :
    d.abort i crash =
      { d with
        stage := d.stage.note (.aborted i crash)
        calls := l ++ r
        isPoisoned := true } := by
  simp only [abort, hd, hc, filter_remove_split (hc ▸ hn.nodup)]

theorem finish_split {l r : List (Nat × Call)} {i : Nat} {old : Call} (hn : c.Numbered)
    (hc : c.calls = l ++ (i, old) :: r) (answer : Except Fault Unit) :
    c.finish i answer =
      { c with stage := c.stage.note (.returned i answer), calls := l ++ r } := by
  simp only [finish, hc, filter_remove_split (hc ▸ hn.nodup)]

/-! ## Transitions -/

/-- What the settings of a request come to: the controls afterwards, and the
sensor parameters if there are any. -/
def Resolves (c : Camera σ) (a : Admission) (controls : Controls)
    (sensor : Option SensorSettings) : Prop :=
  match c.effectiveSettings a with
  | none => controls = c.controls ∧ sensor = none
  | some r =>
    (∃ s, c.controls.apply r = (controls, .ok s) ∧ sensor = some s) ∨
      ∃ fault, c.controls.apply r = (controls, .error (.refused fault)) ∧ sensor = none

/-- Once its outputs were awaited, a request goes on to its record if there are
any, or fails. -/
theorem outputsAwaited_cases (a : Admission)
    (resolved : Option (CaptureSettings × SensorSettings)) (ready : List Mapping) :
    (∃ settings sensor, outputsAwaited a resolved ready = .recording a settings sensor ready ∧
        ready ≠ []) ∨
      outputsAwaited a resolved ready = .finishing .processor (failing a ready) := by
  unfold outputsAwaited
  split
  · exact Or.inl ⟨_, _, rfl, List.cons_ne_nil _ _⟩
  · exact Or.inr rfl

/-- Whether a submission in this phase takes a slot: it finds a free one, or was
woken and does not look because the queue lock is poisoned. -/
def TakesSlot (c : Camera σ) (phase : SubmitPhase) : Prop :=
  c.isFull = false ∨ phase = .parked ∧ c.isPoisoned = true

/-- Whether a submission in this phase may go on to admit: it has the queue
lock, or it can take it and takes a slot. -/
def MayAdmit (c : Camera σ) (phase : SubmitPhase) : Prop :=
  phase = .admitting ∨ phase = .parked ∧ c.queueIsFree = true ∧ c.TakesSlot phase

/-- Whether a submission may give up: it finds the queue full, or does not look. -/
def MayGiveUp (c : Camera σ) : Prop :=
  c.isFull = true ∨ c.isPoisoned = true

inductive Transition (E : Engine σ) (c : Camera σ) : Move → Camera σ → Prop
  -- the worker
  | check (hw : c.worker = .checking) :
      Transition E c .worker { c with worker := if c.isStopping then .ended else .ready }
  | idle (hw : c.worker = .ready) (hfree : c.dispatchIsFree = true)
      (hlock : c.queueIsFree = true) (hq : c.queue = []) :
      Transition E c .worker { c with worker := .unpaced }
  | take {a : Admission} {rest : List Admission} (hw : c.worker = .ready)
      (hfree : c.dispatchIsFree = true) (hlock : c.queueIsFree = true)
      (hq : c.queue = a :: rest) :
      Transition E c .worker
        { c with queue := rest, stage := c.stage.note (.popped a), worker := .resolving a }
  | resolve {a : Admission} {controls : Controls} {sensor : Option SensorSettings}
      (hw : c.worker = .resolving a) (hlock : c.queueIsFree = true)
      (hr : c.Resolves a controls sensor) :
      Transition E c .worker
        { c with
          repeating := c.effectiveSettings a
          controls
          stage := c.stage.note (.resolved a.tag (c.effectiveSettings a) sensor)
          worker := .awaitingOutputs a
            (do return (← c.effectiveSettings a, ← sensor)) [] (a.outputs.getD []) }
  | crash {a : Admission} {r : CaptureSettings} {controls : Controls} {crash : Crash}
      (hw : c.worker = .resolving a) (hlock : c.queueIsFree = true)
      (hs : c.effectiveSettings a = some r)
      (hr : c.controls.apply r = (controls, .error (.crashed crash))) :
      Transition E c .worker
        { c with
          repeating := c.effectiveSettings a
          controls
          stage := c.stage.note (.crashed a.tag)
          worker := .unwinding (a.mappings.map .release)
          isPoisoned := true }
  | outputsAwaited {a : Admission} {resolved : Option (CaptureSettings × SensorSettings)}
      {ready : List Mapping} (hw : c.worker = .awaitingOutputs a resolved ready []) :
      Transition E c .worker { c with worker := outputsAwaited a resolved ready }
  | awaitOutput {a : Admission} {resolved : Option (CaptureSettings × SensorSettings)}
      {ready left : List Mapping} {m : Mapping}
      (hw : c.worker = .awaitingOutputs a resolved ready (m :: left)) :
      Transition E c .worker
        { (c.settle m).1 with
          worker := .awaitingOutputs a resolved (ready ++ (c.settle m).2.toList) left }
  | record {a : Admission} {settings : CaptureSettings} {sensor : SensorSettings}
      {outputs : List Mapping} (hw : c.worker = .recording a settings sensor outputs)
      (hlock : c.queueIsFree = true) :
      Transition E c .worker { c with worker := c.prepareShot a settings sensor outputs }
  | awaitInput {tag : FrameTag} {shot : Shot} {left : List Mapping} {m : Mapping}
      (hw : c.worker = .awaitingInputs tag shot (m :: left)) :
      Transition E c .worker
        { (c.settle m).1 with
          worker := .awaitingInputs tag
            { shot with inputs := shot.inputs.map (· ++ (c.settle m).2.toList) } left }
  | handOver {tag : FrameTag} {shot : Shot} (hw : c.worker = .awaitingInputs tag shot []) :
      Transition E c .worker
        { c with
          stage := { c.stage with sensor := (E.accept c.stage.sensor shot).1 }.note
            (.handedOver tag shot)
          worker := .finishing .sensor (E.accept c.stage.sensor shot).2 }
  | perform {speaker : Speaker} {e : Effect} {rest : List Effect}
      (hw : c.worker = .finishing speaker (e :: rest)) :
      Transition E c .worker
        { c with stage := c.stage.perform speaker e, worker := .finishing speaker rest }
  | finished {speaker : Speaker} (hw : c.worker = .finishing speaker []) :
      Transition E c .worker { c with worker := .unpaced }
  | unwind {e : Effect} {rest : List Effect} (hw : c.worker = .unwinding (e :: rest)) :
      Transition E c .worker
        { c with stage := c.stage.perform .processor e, worker := .unwinding rest }
  | unwound (hw : c.worker = .unwinding []) :
      Transition E c .worker { c with worker := .ended }
  | beginPacing {mark : UInt64} (hw : c.worker = .unpaced)
      (hm : E.mark? c.stage.sensor = some mark) :
      Transition E c .worker { c with worker := .pacing mark }
  | skipPacing (hw : c.worker = .unpaced) (hm : E.mark? c.stage.sensor = none) :
      Transition E c .worker (c.paced false)
  | pace {mark : UInt64} {ticked : Bool} (hw : c.worker = .pacing mark)
      (ht : E.ticked? c.stage.sensor mark = some ticked) :
      Transition E c .worker (c.paced ticked)
  | giveUp {mark : UInt64} (hw : c.worker = .pacing mark)
      (ht : E.ticked? c.stage.sensor mark = none) :
      Transition E c .giveUp (c.paced false)
  -- submissions
  | submit {frame : UInt32} {requests : List CaptureRequest} {table : List Pipeline}
      (hstop : c.calls.any (·.2.isStop) = false) :
      Transition E c (.submit frame requests table)
        (c.begin (.submitting .entering frame table requests))
  | enter {l r : List (Nat × Call)} {i : Nat} {frame : UInt32} {table : List Pipeline}
      {left : List CaptureRequest}
      (hc : c.calls = l ++ (i, .submitting .entering frame table left) :: r)
      (hlock : c.queueIsFree = true) :
      Transition E c (.advance i)
        { c with calls := l ++ (i, .submitting .admitting frame table left) :: r }
  | submitted {l r : List (Nat × Call)} {i : Nat} {phase : SubmitPhase} {frame : UInt32}
      {table : List Pipeline} (hc : c.calls = l ++ (i, .submitting phase frame table []) :: r)
      (hgo : c.MayAdmit phase) :
      Transition E c (.advance i)
        { c with stage := c.stage.note (.returned i (.ok ())), calls := l ++ r }
  | refuse {l r : List (Nat × Call)} {i : Nat} {phase : SubmitPhase} {frame : UInt32}
      {table : List Pipeline} {q : CaptureRequest} {left : List CaptureRequest} {fault : Fault}
      (hc : c.calls = l ++ (i, .submitting phase frame table (q :: left)) :: r)
      (hgo : c.MayAdmit phase) (hcheck : checkRequest table q = .error fault) :
      Transition E c (.advance i)
        { c with stage := c.stage.note (.returned i (.error fault)), calls := l ++ r }
  | park {l r : List (Nat × Call)} {i : Nat} {frame : UInt32} {table : List Pipeline}
      {q : CaptureRequest} {left : List CaptureRequest} {p : Pipeline}
      (hc : c.calls = l ++ (i, .submitting .admitting frame table (q :: left)) :: r)
      (hcheck : checkRequest table q = .ok p) (hfull : c.isFull = true) :
      Transition E c (.advance i)
        { c with calls := l ++ (i, .submitting .parked frame table (q :: left)) :: r }
  | admitOne {l r : List (Nat × Call)} {i : Nat} {phase : SubmitPhase} {frame : UInt32}
      {table : List Pipeline} {q : CaptureRequest} {left : List CaptureRequest} {p : Pipeline}
      {store : Store} {a : Admission}
      (hc : c.calls = l ++ (i, .submitting phase frame table (q :: left)) :: r)
      (hgo : c.MayAdmit phase) (hcheck : checkRequest table q = .ok p) (hroom : c.TakesSlot phase)
      (hmap : c.mapRequest E frame p q = (store, .ok a)) :
      Transition E c (.advance i)
        { c with
          stage := { c.stage with store }.note (.admitted i a)
          queue := c.queue ++ [a]
          admitted := c.admitted + 1
          calls := l ++ (i, .submitting .admitting frame table left) :: r }
  | abort {l r : List (Nat × Call)} {i : Nat} {phase : SubmitPhase} {frame : UInt32}
      {table : List Pipeline} {q : CaptureRequest} {left : List CaptureRequest} {p : Pipeline}
      {store : Store} {crash : Crash}
      (hc : c.calls = l ++ (i, .submitting phase frame table (q :: left)) :: r)
      (hgo : c.MayAdmit phase) (hcheck : checkRequest table q = .ok p) (hroom : c.TakesSlot phase)
      (hmap : c.mapRequest E frame p q = (store, .error crash)) :
      Transition E c (.advance i)
        { c with
          stage := { c.stage with store }.note (.aborted i crash)
          calls := l ++ r
          isPoisoned := true }
  | expire {l r : List (Nat × Call)} {i : Nat} {frame : UInt32} {table : List Pipeline}
      {left : List CaptureRequest}
      (hc : c.calls = l ++ (i, .submitting .parked frame table left) :: r)
      (hlock : c.queueIsFree = true) (hgo : c.MayGiveUp) :
      Transition E c (.expire i)
        { c with stage := c.stage.note (.returned i (.error .timeout)), calls := l ++ r }
  -- flushes
  | flush (hstop : c.calls.any (·.2.isStop) = false) :
      Transition E c .flush (c.begin .flushing)
  | flushSensor {l r : List (Nat × Call)} {i : Nat}
      (hc : c.calls = l ++ (i, .flushing) :: r) (hfree : c.dispatchIsFree = true)
      (hlock : c.queueIsFree = true) :
      Transition E c (.advance i)
        { c with
          stage := { c.stage with sensor := (E.flush c.stage.sensor).1 }
          calls := l ++ (i, .clearing (E.flush c.stage.sensor).2.2
            (E.flush c.stage.sensor).2.1) :: r }
  | clear {l r : List (Nat × Call)} {i : Nat} {status : Except Fault Unit} {e : Effect}
      {rest : List Effect} (hc : c.calls = l ++ (i, .clearing status (e :: rest)) :: r) :
      Transition E c (.advance i)
        { c with
          stage := c.stage.perform .sensor e
          calls := l ++ (i, .clearing status rest) :: r }
  | drain {l r : List (Nat × Call)} {i : Nat} {status : Except Fault Unit}
      (hc : c.calls = l ++ (i, .clearing status []) :: r) :
      Transition E c (.advance i)
        { c with
          queue := []
          stage := c.stage.note (.drained i c.queue)
          calls := l ++ (i, .reporting status (failingAll c.queue)) :: r }
  | report {l r : List (Nat × Call)} {i : Nat} {status : Except Fault Unit} {e : Effect}
      {rest : List Effect} (hc : c.calls = l ++ (i, .reporting status (e :: rest)) :: r) :
      Transition E c (.advance i)
        { c with
          stage := c.stage.perform .processor e
          calls := l ++ (i, .reporting status rest) :: r }
  | flushed {l r : List (Nat × Call)} {i : Nat} {status : Except Fault Unit}
      (hc : c.calls = l ++ (i, .reporting status []) :: r) :
      Transition E c (.advance i)
        { c with stage := c.stage.note (.returned i status), calls := l ++ r }
  -- stops
  | stopAgain (hc : c.calls = []) (hs : c.isStopping = true) :
      Transition E c .stop
        { c with
          stage := c.stage.note (.returned c.opened (.ok ()))
          opened := c.opened + 1 }
  | stop (hc : c.calls = []) (hs : c.isStopping = false) :
      Transition E c .stop ({ c with isStopping := true }.begin .joining)
  | halt {l r : List (Nat × Call)} {i : Nat} (hc : c.calls = l ++ (i, .joining) :: r)
      (hw : c.isWorking = false) :
      Transition E c (.advance i)
        { c with
          stage := { c.stage with sensor := (E.halt c.stage.sensor).1 }
          calls := l ++ (i, .halting (E.halt c.stage.sensor).2) :: r }
  | close {l r : List (Nat × Call)} {i : Nat} {mustWait : Bool}
      (hc : c.calls = l ++ (i, .halting mustWait) :: r)
      (hgo : mustWait = true → E.isHalted c.stage.sensor = true) :
      Transition E c (.advance i)
        { c with
          stage := { c.stage with sensor := (E.close c.stage.sensor).1 }
          calls := l ++ (i, .closing (E.close c.stage.sensor).2.2
            (E.close c.stage.sensor).2.1) :: r }
  | closeEffect {l r : List (Nat × Call)} {i : Nat} {status : Except Fault Unit} {e : Effect}
      {rest : List Effect} (hc : c.calls = l ++ (i, .closing status (e :: rest)) :: r) :
      Transition E c (.advance i)
        { c with
          stage := c.stage.perform .sensor e
          calls := l ++ (i, .closing status rest) :: r }
  | stopped {l r : List (Nat × Call)} {i : Nat} {status : Except Fault Unit}
      (hc : c.calls = l ++ (i, .closing status []) :: r) :
      Transition E c (.advance i)
        { c with stage := c.stage.note (.returned i status), calls := l ++ r }
  -- the sensor's thread and the clients' fences
  | sensor {stage : Stage σ} (hs : c.stage.sensorStep? E = some stage) :
      Transition E c .sensor { c with stage }
  | fence {i : Nat} {f : Fence} :
      Transition E c (.fence i f)
        { c with stage := { c.stage with store := c.stage.store.setFence i f } }

/-! ## What transitions do to the open calls -/

/-- Nothing, or one call goes on, returns or begins.  A stop that is not needed
is answered at once. -/
inductive CallsStep (c : Camera σ) (m : Move) (d : Camera σ) : Prop
  | still (hd : d.calls = c.calls) (ho : d.opened = c.opened)
  | answered (hc : c.calls = []) (hd : d.calls = []) (ho : d.opened = c.opened + 1)
  | goesOn {l r : List (Nat × Call)} {i : Nat} {old new : Call} (hm : m.call? = some i)
      (hc : c.calls = l ++ (i, old) :: r) (hd : d.calls = l ++ (i, new) :: r)
      (hkind : new.kind = old.kind) (ho : d.opened = c.opened)
  | returns {l r : List (Nat × Call)} {i : Nat} {old : Call} (hm : m.call? = some i)
      (hc : c.calls = l ++ (i, old) :: r) (hd : d.calls = l ++ r) (ho : d.opened = c.opened)
  | begins {call : Call} (hm : m.opens? = some call.kind)
      (hd : d.calls = c.calls ++ [(c.opened, call)]) (ho : d.opened = c.opened + 1)

theorem Transition.callsStep {m : Move} (h : Transition E c m d) : CallsStep c m d := by
  cases h with
  | enter hc | park hc | admitOne hc | flushSensor hc | clear hc | drain hc | report hc | halt hc
  | close hc | closeEffect hc => exact .goesOn rfl hc rfl rfl rfl
  | submitted hc | refuse hc | abort hc | expire hc | flushed hc | stopped hc =>
      exact .returns rfl hc rfl rfl
  | submit | flush | stop => exact .begins rfl rfl rfl
  | stopAgain hc => exact .answered hc hc rfl
  | _ => exact .still rfl rfl

/-! ## Every step is a transition -/

theorem transition_put {l r : List (Nat × Call)} {i : Nat} {old new : Call} {m : Move}
    (hn : c.Numbered) (hc : c.calls = l ++ (i, old) :: r) (hd : d.calls = c.calls)
    (h : Transition E c m { d with calls := l ++ (i, new) :: r }) :
    Transition E c m (d.put i new) := by
  rwa [put_split hn hc hd]

theorem transition_finish {l r : List (Nat × Call)} {i : Nat} {old : Call} {m : Move}
    {answer : Except Fault Unit} (hn : c.Numbered) (hc : c.calls = l ++ (i, old) :: r)
    (h : Transition E c m
      { c with stage := c.stage.note (.returned i answer), calls := l ++ r }) :
    Transition E c m (c.finish i answer) := by
  rwa [finish_split hn hc]

theorem Resolves.resolve_eq {a : Admission} {controls : Controls} {x : Option SensorSettings}
    (hr : c.Resolves a controls x) :
    c.resolve a = { c with
      repeating := c.effectiveSettings a
      controls
      stage := c.stage.note (.resolved a.tag (c.effectiveSettings a) x)
      worker := .awaitingOutputs a
        (do return (← c.effectiveSettings a, ← x)) [] (a.outputs.getD []) } := by
  unfold Resolves at hr
  unfold resolve
  cases hs : c.effectiveSettings a with
  | none =>
      rw [hs] at hr
      obtain ⟨rfl, rfl⟩ := hr
      rfl
  | some r =>
      rw [hs] at hr
      rcases hr with ⟨y, happly, rfl⟩ | ⟨fault, happly, rfl⟩ <;> simp only [happly] <;> rfl

theorem transition_resolve {a : Admission} (hw : c.worker = .resolving a)
    (hlock : c.queueIsFree = true) : Transition E c .worker (c.resolve a) := by
  have resolves : ∀ controls x, c.Resolves a controls x →
      Transition E c .worker (c.resolve a) := fun controls x hr => by
    rw [hr.resolve_eq]
    exact .resolve hw hlock hr
  cases hs : c.effectiveSettings a with
  | none => exact resolves c.controls none (by simp [Resolves, hs])
  | some r =>
      rcases hr : c.controls.apply r with ⟨controls, result⟩
      cases result with
      | ok x => exact resolves controls (some x) (by simp [Resolves, hs, hr])
      | error stop =>
          cases stop with
          | refused fault => exact resolves controls none (by simp [Resolves, hs, hr])
          | crashed crash =>
              have h := Transition.crash (E := E) hw hlock hs hr
              unfold resolve
              rw [hs] at h ⊢
              simp only [hr]
              exact h

theorem transition_admitRequest {l r : List (Nat × Call)} {i : Nat} {phase : SubmitPhase}
    {frame : UInt32} {table : List Pipeline} {q : CaptureRequest} {left : List CaptureRequest}
    {p : Pipeline} (hn : c.Numbered)
    (hc : c.calls = l ++ (i, .submitting phase frame table (q :: left)) :: r)
    (hgo : c.MayAdmit phase) (hcheck : checkRequest table q = .ok p) (hroom : c.TakesSlot phase) :
    Transition E c (.advance i) (c.admitRequest E i frame table p q left) := by
  unfold admitRequest
  rcases hmap : c.mapRequest E frame p q with ⟨store, mapped⟩
  cases mapped with
  | ok a => exact transition_put hn hc rfl (.admitOne hc hgo hcheck hroom hmap)
  | error crash =>
      simp only [abort_split (d := c.withStore store) hn hc rfl]
      exact .abort hc hgo hcheck hroom hmap

/-- A submission has a slot, or it parks. -/
theorem transition_submitNext {l r : List (Nat × Call)} {i : Nat} {phase : SubmitPhase}
    {hasSlot : Bool} {frame : UInt32} {table : List Pipeline} {left : List CaptureRequest}
    (hn : c.Numbered) (hc : c.calls = l ++ (i, .submitting phase frame table left) :: r)
    (hgo : c.MayAdmit phase) (hslot : hasSlot = true → c.TakesSlot phase)
    (hpark : hasSlot = false → phase = .admitting ∧ c.isFull = true) :
    Transition E c (.advance i) (c.submitNext E i hasSlot frame table left) := by
  unfold submitNext
  cases left with
  | nil =>
      exact transition_finish hn hc (.submitted hc hgo)
  | cons q rest =>
      simp only
      cases hcheck : checkRequest table q with
      | error fault =>
          exact transition_finish hn hc (.refuse hc hgo hcheck)
      | ok p =>
          cases hasSlot with
          | true => exact transition_admitRequest hn hc hgo hcheck (hslot rfl)
          | false =>
              obtain ⟨rfl, hfull⟩ := hpark rfl
              exact transition_put hn hc rfl (.park hc hcheck hfull)

theorem transition_workerStep? (h : c.workerStep? E = some d) : Transition E c .worker d := by
  unfold workerStep? at h
  split at h
  case h_1 hw => cases h; exact .check hw
  case h_2 hw =>
    split at h
    · rename_i hfree
      rw [Bool.and_eq_true] at hfree
      obtain ⟨hfree, hlock⟩ := hfree
      cases h
      unfold pop
      split
      · rename_i hq
        exact .idle hw hfree hlock hq
      · rename_i hq
        exact .take hw hfree hlock hq
    · cases h
  case h_3 a hw =>
    split at h
    · rename_i hlock
      cases h
      exact transition_resolve hw hlock
    · cases h
  case h_4 hw => cases h; exact .outputsAwaited hw
  case h_5 hw => cases h; exact .awaitOutput hw
  case h_6 hw =>
    split at h
    · rename_i hlock
      cases h
      exact .record hw hlock
    · cases h
  case h_7 hw => cases h; exact .handOver hw
  case h_8 hw => cases h; exact .awaitInput hw
  case h_9 hw => cases h; exact .finished hw
  case h_10 hw => cases h; exact .perform hw
  case h_11 hw => cases h; exact .unwound hw
  case h_12 hw => cases h; exact .unwind hw
  case h_13 hw =>
    split at h
    · rename_i hm
      cases h
      exact .beginPacing hw hm
    · rename_i hm
      cases h
      exact .skipPacing hw hm
  case h_14 mark hw =>
    obtain ⟨ticked, ht, rfl⟩ := Option.map_eq_some_iff.mp h
    exact .pace hw ht
  case h_15 => cases h

theorem transition_callStep? {i : Nat} (hn : c.Numbered) (h : c.callStep? E i = some d) :
    Transition E c (.advance i) d := by
  unfold callStep? at h
  split at h
  case h_1 => cases h
  case h_2 hl =>
    obtain ⟨l, r, hc⟩ := exists_split_of_lookup hl
    split at h
    · rename_i hlock
      cases h
      exact transition_put hn hc rfl (.enter hc hlock)
    · cases h
  case h_3 hl =>
    obtain ⟨l, r, hc⟩ := exists_split_of_lookup hl
    cases h
    exact transition_submitNext hn hc (Or.inl rfl) (fun hslot => Or.inl (by simpa using hslot))
      fun hslot => ⟨rfl, by simpa using hslot⟩
  case h_4 hl =>
    obtain ⟨l, r, hc⟩ := exists_split_of_lookup hl
    split at h
    · rename_i hgo
      simp only [Bool.and_eq_true, Bool.or_eq_true, Bool.not_eq_true'] at hgo
      cases h
      have hroom : c.TakesSlot .parked := hgo.2.imp_right fun hpoison => ⟨rfl, hpoison⟩
      exact transition_submitNext hn hc (Or.inr ⟨rfl, hgo.1, hroom⟩) (fun _ => hroom) nofun
    · cases h
  case h_5 hl =>
    obtain ⟨l, r, hc⟩ := exists_split_of_lookup hl
    split at h
    · rename_i hfree
      rw [Bool.and_eq_true] at hfree
      cases h
      exact transition_put hn hc rfl (.flushSensor hc hfree.1 hfree.2)
    · cases h
  case h_6 hl =>
    obtain ⟨l, r, hc⟩ := exists_split_of_lookup hl
    cases h
    exact transition_put hn hc rfl (.drain hc)
  case h_7 hl =>
    obtain ⟨l, r, hc⟩ := exists_split_of_lookup hl
    cases h
    exact transition_put hn hc rfl (.clear hc)
  case h_8 hl =>
    obtain ⟨l, r, hc⟩ := exists_split_of_lookup hl
    cases h
    exact transition_finish hn hc (.flushed hc)
  case h_9 hl =>
    obtain ⟨l, r, hc⟩ := exists_split_of_lookup hl
    cases h
    exact transition_put hn hc rfl (.report hc)
  case h_10 hl =>
    obtain ⟨l, r, hc⟩ := exists_split_of_lookup hl
    split at h
    · cases h
    · rename_i hw
      cases h
      exact transition_put hn hc rfl (.halt hc (by simpa using hw))
  case h_11 mustWait hl =>
    obtain ⟨l, r, hc⟩ := exists_split_of_lookup hl
    split at h
    · cases h
    · rename_i hgo
      cases h
      exact transition_put hn hc rfl (.close hc fun hwait => by simpa [hwait] using hgo)
  case h_12 hl =>
    obtain ⟨l, r, hc⟩ := exists_split_of_lookup hl
    cases h
    exact transition_finish hn hc (.stopped hc)
  case h_13 hl =>
    obtain ⟨l, r, hc⟩ := exists_split_of_lookup hl
    cases h
    exact transition_put hn hc rfl (.closeEffect hc)

theorem transition_of_step? {m : Move} (hn : c.Numbered) (h : c.step? E m = some d) :
    Transition E c m d := by
  cases m with
  | submit frame requests table =>
      simp only [step?] at h
      split at h
      · cases h
      · rename_i hstop
        cases h
        exact .submit (by simpa using hstop)
  | flush =>
      simp only [step?] at h
      split at h
      · cases h
      · rename_i hstop
        cases h
        exact .flush (by simpa using hstop)
  | stop =>
      simp only [step?] at h
      split at h
      · rename_i hc
        rw [List.isEmpty_iff] at hc
        cases h
        unfold beginStop
        split
        · rename_i hs
          exact .stopAgain hc hs
        · rename_i hs
          exact .stop hc (by simpa using hs)
      · cases h
  | advance i => exact transition_callStep? hn h
  | expire i =>
      simp only [step?, expire?] at h
      split at h
      · rename_i hl
        obtain ⟨l, r, hc⟩ := exists_split_of_lookup hl
        split at h
        · rename_i hgo
          rw [Bool.and_eq_true, Bool.or_eq_true] at hgo
          cases h
          exact transition_finish hn hc (.expire hc hgo.1 hgo.2)
        · cases h
      · cases h
  | worker => exact transition_workerStep? h
  | giveUp =>
      simp only [step?, giveUp?] at h
      split at h
      · rename_i hw
        split at h
        · rename_i ht
          cases h
          exact .giveUp hw (by simpa using ht)
        · cases h
      · cases h
  | sensor =>
      obtain ⟨stage, hs, rfl⟩ := Option.map_eq_some_iff.mp h
      exact .sensor hs
  | fence i f =>
      cases h
      exact .fence

end Camera

end VirtualCamera
