import VirtualCamera.Proofs.Calls
import VirtualCamera.Proofs.PlanarSizes
import VirtualCamera.Sensor.Recorder

/-!
# Submissions admit prefixes of their batches

A submission goes through its batch one request at a time and gives the queue
lock away while it waits for a free slot, so other submissions, the worker and
flushes come in between.  What it admitted is still a prefix of its batch at
every moment, in the order of the batch (`Progress`): its own moves take the
requests one after the other (`step?_of_submitting`), and the moves of others
neither admit anything in its name (`Transition.admittedBy_eq`) nor touch its
phase (`Transition.lookup_eq`).

A move that admits nothing leaves the queue as it is, and the store too unless
the submission crashes.  As long as nobody has crashed with the queue lock in
his hands, a request is admitted only while the queue is not full, which is the
bound on the queue (`Reachable.queue_length_le`), and a submission gives up only
while it is full.  Afterwards neither holds: a wait that ends on a poisoned lock
does not look at the queue (`poisoned_waits_ignore_queue`).
-/

namespace VirtualCamera

/-! ## Requests and their admissions -/

namespace CaptureRequest

/-- Why a request is refused whatever the queue is like. -/
inductive IsRefused (table : List Pipeline) (r : CaptureRequest) : Fault → Prop
  | outOfRange (h : table.length ≤ r.pipeline.toNat) :
      IsRefused table r (.invalidArgument s!"pipeline id {r.pipeline} out of range")
  | noOutputs (h : r.pipeline.toNat < table.length) (hnone : r.outputs = []) :
      IsRefused table r (.invalidArgument "request carries no output buffers")

theorem isRefused_iff {table : List Pipeline} {r : CaptureRequest} {fault : Fault} :
    Camera.checkRequest table r = .error fault ↔ r.IsRefused table fault := by
  unfold Camera.checkRequest
  constructor
  · intro h
    split at h
    · rename_i hnone
      cases h
      exact .outOfRange (List.getElem?_eq_none_iff.mp hnone)
    · rename_i p hp
      split at h
      · rename_i hempty
        cases h
        obtain ⟨hlt, -⟩ := List.getElem?_eq_some_iff.mp hp
        exact .noOutputs hlt (List.isEmpty_iff.mp hempty)
      · cases h
  · intro h
    cases h with
    | outOfRange hle => rw [List.getElem?_eq_none_iff.mpr hle]
    | noOutputs hlt hnone => simp [List.getElem?_eq_getElem hlt, hnone]

/-- An admission that answers to a request of a batch: the request was not
refused, and its buffers were mapped in some store. -/
def AdmittedAs {σ : Type} (E : Engine σ) (frame : UInt32) (table : List Pipeline)
    (r : CaptureRequest) (a : Admission) : Prop :=
  ∃ p s t, Camera.checkRequest table r = .ok p ∧ a.MadeFrom E frame p r s t

end CaptureRequest

namespace Occurrence

/-- What a call put into the queue. -/
def admittedBy? (call : Nat) : Occurrence → Option Admission
  | admitted i a => if i = call then some a else none
  | _ => none

@[simp] theorem admittedBy?_effect (call : Nat) (e : Effect) (speaker : Speaker) :
    (e.occurrence speaker).admittedBy? call = none := by
  cases e <;> rfl

/-- The thread that was stopped by a crash with the queue lock in its hands: that
of a call, or else the worker. -/
def stoppedThread? : Occurrence → Option (Option Nat)
  | crashed _ => some none
  | aborted i _ => some (some i)
  | _ => none

@[simp] theorem stoppedThread?_effect (e : Effect) (speaker : Speaker) :
    (e.occurrence speaker).stoppedThread? = none := by
  cases e <;> rfl

end Occurrence

namespace Camera

variable {σ : Type} {E : Engine σ} {c d e : Camera σ} {sensor : σ} {i : Nat}

def admittedBy (c : Camera σ) (i : Nat) : List Admission :=
  c.stage.history (Occurrence.admittedBy? i)

@[simp] theorem put_admittedBy (c : Camera σ) (i j : Nat) (call : Call) :
    (c.put j call).admittedBy i = c.admittedBy i := rfl

@[simp] theorem finish_admittedBy (c : Camera σ) (i j : Nat) (answer : Except Fault Unit) :
    (c.finish j answer).admittedBy i = c.admittedBy i := by
  simp [admittedBy, finish, Occurrence.admittedBy?]

/-- Only a call's own moves admit something in its name. -/
theorem Transition.admittedBy_eq {m : Move} (h : Transition E c m d) (hm : m.call? ≠ some i) :
    d.admittedBy i = c.admittedBy i := by
  cases h with
  | @admitOne l r j phase frame table q left p =>
      have hne : j ≠ i := fun heq => hm (congrArg some heq)
      simp [admittedBy, Occurrence.admittedBy?, hne]
  | sensor hs =>
      obtain ⟨sensor, effects, -, rfl⟩ := Stage.sensorStep?_eq_some hs
      simp [admittedBy]
  | perform | unwind | clear | report | closeEffect => simp [admittedBy]
  | _ => simp [admittedBy, Occurrence.admittedBy?, begin, paced]

/-! ## The queue is bounded -/

theorem Transition.config_eq {m : Move} (h : Transition E c m d) : d.config = c.config := by
  cases h <;> rfl

/-- A poisoned lock stays so. -/
theorem Transition.isPoisoned_mono {m : Move} (h : Transition E c m d)
    (hc : c.isPoisoned = true) : d.isPoisoned = true := by
  cases h with
  | crash | abort => rfl
  | _ => exact hc

/-- The threads that were stopped with the queue lock in their hands. -/
def stoppedThreads (c : Camera σ) : List (Option Nat) :=
  c.stage.history Occurrence.stoppedThread?

theorem Transition.isPoisoned_iff {m : Move} (h : Transition E c m d)
    (hc : c.isPoisoned = true ↔ c.stoppedThreads ≠ []) : d.isPoisoned = true ↔ d.stoppedThreads ≠ [] := by
  cases h with
  | crash | abort => simp [stoppedThreads, Occurrence.stoppedThread?]
  | sensor hs =>
      obtain ⟨sensor, effects, -, rfl⟩ := Stage.sensorStep?_eq_some hs
      simpa [stoppedThreads] using hc
  | perform | unwind | clear | report | closeEffect => simpa [stoppedThreads] using hc
  | _ => simpa [stoppedThreads, Occurrence.stoppedThread?, begin, paced] using hc

/-- The queue lock is poisoned once a thread was stopped with it, and not before. -/
theorem Reachable.isPoisoned_iff (hc : Reachable E sensor c) :
    c.isPoisoned = true ↔ c.stoppedThreads ≠ [] :=
  hc.induct (P := fun c => c.isPoisoned = true ↔ c.stoppedThreads ≠ [])
    (fun _ _ _ => by simp [stoppedThreads, Stage.history]) fun _ h ih => h.isPoisoned_iff ih

theorem Transition.queue_length_le {m : Move} (h : Transition E c m d)
    (hsound : d.isPoisoned = false)
    (hc : c.isPoisoned = false → c.queue.length ≤ c.config.pipelineDepth.toNat) :
    d.queue.length ≤ d.config.pipelineDepth.toNat := by
  have hsound' : c.isPoisoned = false := by
    rw [Bool.eq_false_iff] at hsound ⊢
    exact fun hpoisoned => hsound (h.isPoisoned_mono hpoisoned)
  have hle := hc hsound'
  rw [h.config_eq]
  cases h with
  | take _ _ _ hq =>
      rw [hq, List.length_cons] at hle
      exact Nat.le_of_succ_le hle
  | admitOne _ _ _ hroom =>
      have hfull : c.isFull = false := by simpa [TakesSlot, hsound'] using hroom
      have hlt : c.queue.length < c.config.pipelineDepth.toNat := by simpa [isFull] using hfull
      simp only [List.length_append, List.length_singleton]
      omega
  | drain => exact Nat.zero_le _
  | _ => exact hle

/-- As long as nobody has crashed with the queue lock, the queue is bounded. -/
theorem Reachable.queue_length_le (hc : Reachable E sensor c) (hsound : c.isPoisoned = false) :
    c.queue.length ≤ c.config.pipelineDepth.toNat :=
  hc.induct (P := fun c => c.isPoisoned = false → c.queue.length ≤ c.config.pipelineDepth.toNat)
    (fun _ _ _ _ => Nat.zero_le _) (fun _ h ih hsound => h.queue_length_le hsound ih) hsound

theorem Reachable.queue_length_eq (hc : Reachable E sensor c) (hsound : c.isPoisoned = false)
    (hfull : c.isFull = true) : c.queue.length = c.config.pipelineDepth.toNat := by
  have hle := hc.queue_length_le hsound
  have hge : c.config.pipelineDepth.toNat ≤ c.queue.length := by simpa [isFull] using hfull
  omega

/-! ## The moves of a submission -/

@[simp] theorem enqueue_admittedBy (c : Camera σ) (store : Store) (i : Nat) (a : Admission) :
    ((c.withStore store).enqueue i a).admittedBy i = c.admittedBy i ++ [a] := by
  simp [admittedBy, withStore, enqueue, Occurrence.admittedBy?]

@[simp] theorem abort_admittedBy (c : Camera σ) (store : Store) (i j : Nat) (crash : Crash) :
    ((c.withStore store).abort j crash).admittedBy i = c.admittedBy i := by
  simp [admittedBy, withStore, abort, Occurrence.admittedBy?]

/-- How a submission with these requests left can go on by a move of its own: it
goes to another phase, admits the next request, or returns. -/
inductive SubmissionStep (E : Engine σ) (c : Camera σ) (i : Nat) (phase : SubmitPhase)
    (frame : UInt32) (table : List Pipeline) (left : List CaptureRequest) : Camera σ → Prop
  | enter : SubmissionStep E c i phase frame table left
      (c.put i (.submitting .admitting frame table left))
  | park {r : CaptureRequest} {rest : List CaptureRequest} {p : Pipeline} (hleft : left = r :: rest)
      (hcheck : checkRequest table r = .ok p) :
      SubmissionStep E c i phase frame table left
        (c.put i (.submitting .parked frame table left))
  | admitNext {r : CaptureRequest} {rest : List CaptureRequest} {p : Pipeline} {store : Store}
      {a : Admission} (hleft : left = r :: rest) (hcheck : checkRequest table r = .ok p)
      (hmap : c.mapRequest E frame p r = (store, .ok a)) :
      SubmissionStep E c i phase frame table left
        (((c.withStore store).enqueue i a).put i (.submitting .admitting frame table rest))
  | abort {r : CaptureRequest} {rest : List CaptureRequest} {p : Pipeline} {store : Store}
      {crash : Crash} (hleft : left = r :: rest) (hcheck : checkRequest table r = .ok p)
      (hmap : c.mapRequest E frame p r = (store, .error crash)) :
      SubmissionStep E c i phase frame table left ((c.withStore store).abort i crash)
  | complete (hleft : left = []) :
      SubmissionStep E c i phase frame table left (c.finish i (.ok ()))
  | refuse {r : CaptureRequest} {rest : List CaptureRequest} {fault : Fault}
      (hleft : left = r :: rest) (hrefused : r.IsRefused table fault) :
      SubmissionStep E c i phase frame table left (c.finish i (.error fault))
  | expire (hphase : phase = .parked) (hgo : c.MayGiveUp) :
      SubmissionStep E c i phase frame table left (c.finish i (.error .timeout))

theorem submissionStep_of_submitNext (E : Engine σ) (c : Camera σ) (i : Nat)
    (phase : SubmitPhase) (hasSlot : Bool) (frame : UInt32) (table : List Pipeline)
    (left : List CaptureRequest) :
    SubmissionStep E c i phase frame table left (c.submitNext E i hasSlot frame table left) := by
  unfold submitNext
  cases left with
  | nil => exact .complete rfl
  | cons r rest =>
      simp only
      cases hcheck : checkRequest table r with
      | error fault => exact .refuse rfl (CaptureRequest.isRefused_iff.mp hcheck)
      | ok p =>
          cases hasSlot with
          | false => exact .park rfl hcheck
          | true =>
              simp only [if_true, admitRequest]
              rcases hmap : c.mapRequest E frame p r with ⟨store, mapped⟩
              cases mapped with
              | ok a => exact .admitNext rfl hcheck hmap
              | error crash => exact .abort rfl hcheck hmap

theorem step?_of_submitting {phase : SubmitPhase} {frame : UInt32} {table : List Pipeline}
    {left : List CaptureRequest} {m : Move}
    (hi : c.calls.lookup i = some (.submitting phase frame table left)) (hm : m.call? = some i)
    (h : c.step? E m = some d) : SubmissionStep E c i phase frame table left d := by
  cases m with
  | advance j =>
      obtain rfl : j = i := Option.some.inj hm
      cases phase with
      | entering =>
          simp only [step?, callStep?, hi, Option.ite_none_right_eq_some, Option.some.injEq] at h
          obtain ⟨-, rfl⟩ := h
          exact .enter
      | admitting =>
          simp only [step?, callStep?, hi, Option.some.injEq] at h
          exact h ▸ submissionStep_of_submitNext E c j .admitting _ frame table left
      | parked =>
          simp only [step?, callStep?, hi, Option.ite_none_right_eq_some,
            Option.some.injEq] at h
          obtain ⟨-, rfl⟩ := h
          exact submissionStep_of_submitNext E c j .parked _ frame table left
  | expire j =>
      obtain rfl : j = i := Option.some.inj hm
      cases phase with
      | parked =>
          simp only [step?, expire?, hi, Option.ite_none_right_eq_some, Bool.and_eq_true,
            Bool.or_eq_true, Option.some.injEq] at h
          obtain ⟨⟨-, hgo⟩, rfl⟩ := h
          exact .expire rfl hgo
      | entering | admitting => simp [step?, expire?, hi] at h
  | _ => cases hm

/-! ## A batch on its way -/

/-- The answer that a submission gives when it admitted `done` of its batch: all
of it, or what stands before a request that is refused or finds no slot. -/
inductive AnswersBatch (E : Engine σ) (frame : UInt32) (table : List Pipeline)
    (requests : List CaptureRequest) (done : List Admission) : Except Fault Unit → Prop
  | complete (hdone : List.Forall₂ (CaptureRequest.AdmittedAs E frame table) requests done) :
      AnswersBatch E frame table requests done (.ok ())
  | refused {before after : List CaptureRequest} {r : CaptureRequest} {fault : Fault}
      (hsplit : requests = before ++ r :: after)
      (hdone : List.Forall₂ (CaptureRequest.AdmittedAs E frame table) before done)
      (hfault : r.IsRefused table fault) :
      AnswersBatch E frame table requests done (.error fault)
  | timedOut {before after : List CaptureRequest} {r : CaptureRequest} {p : Pipeline}
      (hsplit : requests = before ++ r :: after)
      (hdone : List.Forall₂ (CaptureRequest.AdmittedAs E frame table) before done)
      (hcheck : checkRequest table r = .ok p) :
      AnswersBatch E frame table requests done (.error .timeout)

/-- What a submission leaves behind that crashes: what stands before a request
with a buffer that does not fit. -/
def CrashesIn (E : Engine σ) (frame : UInt32) (table : List Pipeline)
    (requests : List CaptureRequest) (done : List Admission) : Prop :=
  ∃ before r after p, requests = before ++ r :: after ∧
    List.Forall₂ (CaptureRequest.AdmittedAs E frame table) before done ∧
    checkRequest table r = .ok p ∧ ¬ r.Fits E.overrideFormat p.streams

/-- How far a submission has come with its batch. -/
inductive Progress (E : Engine σ) (i : Nat) (frame : UInt32) (table : List Pipeline)
    (requests : List CaptureRequest) (c : Camera σ) : Prop
  | underway {phase : SubmitPhase} {before left : List CaptureRequest}
      (hi : c.calls.lookup i = some (.submitting phase frame table left))
      (hsplit : requests = before ++ left)
      (hdone : List.Forall₂ (CaptureRequest.AdmittedAs E frame table) before (c.admittedBy i))
      (hparked : phase = .parked → ∃ r rest p, left = r :: rest ∧ checkRequest table r = .ok p)
  | returned {answer : Except Fault Unit} (hi : c.calls.lookup i = none) (hlt : i < c.opened)
      (ha : c.stage.answer? i = some answer)
      (h : AnswersBatch E frame table requests (c.admittedBy i) answer)
  | aborted (hi : c.calls.lookup i = none) (hlt : i < c.opened) (ha : c.stage.answer? i = none)
      (hpoisoned : c.isPoisoned = true) (h : CrashesIn E frame table requests (c.admittedBy i))

variable {frame : UInt32} {table : List Pipeline} {requests : List CaptureRequest}

theorem Progress.finish {answer : Except Fault Unit} (hlt : i < c.opened)
    (h : AnswersBatch E frame table requests (c.admittedBy i) answer) :
    (c.finish i answer).Progress E i frame table requests := by
  have hi : (c.finish i answer).calls.lookup i = none := lookup_finish
  exact .returned hi hlt (answer?_finish c i answer) (finish_admittedBy c i i answer ▸ h)

theorem Progress.step {m : Move} (hc : Reachable E sensor c) (h : c.step? E m = some d)
    (hp : c.Progress E i frame table requests) : d.Progress E i frame table requests := by
  have hstep := hc.transition h
  cases hp with
  | @underway phase before left hi hsplit hdone hparked =>
      have hlt := hc.orderly.toNumbered.lt_of_lookup hi
      by_cases hm : m.call? = some i
      · cases step?_of_submitting hi hm h with
        | enter => exact .underway (lookup_put hi) hsplit hdone fun heq => by cases heq
        | @park r rest p hleft hcheck =>
            exact .underway (lookup_put hi) hsplit hdone fun _ => ⟨r, rest, p, hleft, hcheck⟩
        | @admitNext r rest p store a hleft hcheck hmap =>
            have hadmitted : CaptureRequest.AdmittedAs E frame table r a :=
              ⟨p, _, _, hcheck, (mapRequest_eq_ok hmap).2⟩
            have hsplit' : requests = (before ++ [r]) ++ rest := by
              rw [hsplit, hleft, List.append_assoc, List.singleton_append]
            refine .underway (lookup_put hi) hsplit' ?_ fun heq => by cases heq
            rw [put_admittedBy, enqueue_admittedBy]
            exact List.rel_append hdone (.cons hadmitted .nil)
        | @abort r rest p store crash hleft hcheck hmap =>
            refine .aborted lookup_abort hlt (hc.answer?_eq_none hi) rfl ?_
            rw [abort_admittedBy]
            have hnot := (mapRequest_eq_error_iff.mp (congrArg Prod.snd hmap)).2
            exact ⟨before, r, rest, p, hleft ▸ hsplit, hdone, hcheck, hnot⟩
        | complete hleft =>
            rw [hsplit, hleft, List.append_nil]
            exact .finish hlt (.complete hdone)
        | refuse hleft hrefused =>
            exact .finish hlt (.refused (hleft ▸ hsplit) hdone hrefused)
        | expire hphase =>
            obtain ⟨r, rest, p, hleft, hcheck⟩ := hparked hphase
            exact .finish hlt (.timedOut (hleft ▸ hsplit) hdone hcheck)
      · exact .underway ((hstep.lookup_eq hlt hm).trans hi) hsplit
          ((hstep.admittedBy_eq hm).symm ▸ hdone) hparked
  | returned hi hlt ha hanswer =>
      by_cases hm : m.call? = some i
      · rw [step?_of_returned hi hm] at h
        cases h
      · exact .returned ((hstep.lookup_eq hlt hm).trans hi) (Nat.lt_of_lt_of_le hlt hstep.opened_le)
          ((hstep.answer?_eq hlt hm).trans ha) ((hstep.admittedBy_eq hm).symm ▸ hanswer)
  | aborted hi hlt ha hpoisoned hcrash =>
      by_cases hm : m.call? = some i
      · rw [step?_of_returned hi hm] at h
        cases h
      · exact .aborted ((hstep.lookup_eq hlt hm).trans hi) (Nat.lt_of_lt_of_le hlt hstep.opened_le)
          ((hstep.answer?_eq hlt hm).trans ha) (hstep.isPoisoned_mono hpoisoned)
          ((hstep.admittedBy_eq hm).symm ▸ hcrash)

theorem Progress.run {moves : List Move} (hc : Reachable E sensor c)
    (h : c.run? E moves = some d) (hp : c.Progress E i frame table requests) :
    d.Progress E i frame table requests :=
  hc.run_induct (P := fun c => c.Progress E i frame table requests) h hp
    fun hb hstep ih => ih.step hb hstep

/-- A call that was not made yet admitted nothing. -/
theorem Reachable.admittedBy_eq_nil (hc : Reachable E sensor c) (hi : c.opened ≤ i) :
    c.admittedBy i = [] := by
  induction hc with
  | created h =>
      obtain rfl := create_eq h
      rfl
  | @next c d m hc h ih =>
      have hstep := hc.transition h
      have hle : c.opened ≤ i := Nat.le_trans hstep.opened_le hi
      have hm : m.call? ≠ some i := by
        intro hm
        have hnone : c.calls.lookup i = none :=
          lookup_eq_none fun p hp heq => by
            have hlt := hc.orderly.lt p hp
            omega
        rw [step?_of_returned hnone hm] at h
        cases h
      rw [hstep.admittedBy_eq hm]
      exact ih hle

theorem progress_of_submit (hc : Reachable E sensor c)
    (h : c.step? E (.submit frame requests table) = some d) :
    d.Progress E c.opened frame table requests := by
  cases hc.transition h with
  | submit =>
      have hi : (c.begin (.submitting .entering frame table requests)).calls.lookup c.opened =
          some (.submitting .entering frame table requests) :=
        lookup_split ((hc.next h).orderly.toNumbered) (r := []) rfl
      have hnone :
          admittedBy (c.begin (.submitting .entering frame table requests)) c.opened = [] :=
        hc.admittedBy_eq_nil (Nat.le_refl _)
      refine .underway hi (List.nil_append requests).symm ?_ fun heq => by cases heq
      rw [hnone]
      exact .nil

/-- What a move of a submission does besides the answer: it admits the request
of the batch that is next and fits, it maps and enqueues nothing, or it crashes
over the next request since this does not fit. -/
inductive SubmissionMove (E : Engine σ) (c d : Camera σ) (i : Nat) (frame : UInt32)
    (table : List Pipeline) (requests : List CaptureRequest) : Prop
  | admits {r : CaptureRequest} {p : Pipeline} {a : Admission}
      (hnext : requests[(c.admittedBy i).length]? = some r)
      (hcheck : checkRequest table r = .ok p) (hfits : r.Fits E.overrideFormat p.streams)
      (hmade : a.MadeFrom E frame p r c.stage.store d.stage.store)
      (hqueue : d.queue = c.queue ++ [a]) (hadmitted : d.admittedBy i = c.admittedBy i ++ [a])
      (hanswer : d.stage.answer? i = none)
  | admitsNothing (hstore : d.stage.store = c.stage.store) (hqueue : d.queue = c.queue)
      (hadmitted : d.admittedBy i = c.admittedBy i)
      (htimeout : d.stage.answer? i = some (.error .timeout) → c.isPoisoned = false →
        c.queue.length = c.config.pipelineDepth.toNat)
  | crashes {r : CaptureRequest} {p : Pipeline}
      (hnext : requests[(c.admittedBy i).length]? = some r)
      (hcheck : checkRequest table r = .ok p) (hnot : ¬ r.Fits E.overrideFormat p.streams)
      (hqueue : d.queue = c.queue) (hadmitted : d.admittedBy i = c.admittedBy i)
      (hanswer : d.stage.answer? i = none) (hcrash : d.stage.crash? i = some .overflow)
      (hpoisoned : d.isPoisoned = true)

theorem Progress.move {m : Move} (hc : Reachable E sensor c)
    (hp : c.Progress E i frame table requests) (hm : m.call? = some i)
    (h : c.step? E m = some d) : SubmissionMove E c d i frame table requests := by
  cases hp with
  | @underway phase before left hi hsplit hdone hparked =>
      have hunanswered := hc.answer?_eq_none hi
      have hnext {r : CaptureRequest} {rest : List CaptureRequest} (hleft : left = r :: rest) :
          requests[(c.admittedBy i).length]? = some r := by
        rw [hsplit, hleft, ← hdone.length_eq]
        simp
      cases step?_of_submitting hi hm h with
      | enter | park =>
          exact .admitsNothing rfl rfl rfl fun ha => by cases hunanswered.symm.trans ha
      | @admitNext r rest p store a hleft hcheck hmap =>
          exact .admits (hnext hleft) hcheck (fits_of_mapRequest hmap) (mapRequest_eq_ok hmap).2
            rfl (enqueue_admittedBy c store i a)
            ((hc.next h).answer?_eq_none (lookup_put (c := (c.withStore store).enqueue i a) hi))
      | @abort r rest p store crash hleft hcheck hmap =>
          obtain ⟨rfl, hnot⟩ := mapRequest_eq_error_iff.mp (congrArg Prod.snd hmap)
          exact .crashes (hnext hleft) hcheck hnot rfl (abort_admittedBy c store i i .overflow)
            hunanswered (crash?_abort (c.withStore store) i .overflow) rfl
      | complete =>
          refine .admitsNothing rfl rfl (finish_admittedBy ..) fun ha => ?_
          cases (answer?_finish c i _).symm.trans ha
      | refuse hleft hrefused =>
          refine .admitsNothing rfl rfl (finish_admittedBy ..) fun ha => ?_
          cases hrefused <;> cases (answer?_finish c i _).symm.trans ha
      | expire hphase hgo =>
          refine .admitsNothing rfl rfl (finish_admittedBy ..) fun _ hsound => ?_
          exact hc.queue_length_eq hsound (by simpa [MayGiveUp, hsound] using hgo)
  | returned hi | aborted hi =>
      rw [step?_of_returned hi hm] at h
      cases h

/-- The queue lock is poisoned once a thread was stopped with it in its hands, and
not before; on a sound lock the queue holds no more requests than the pipeline is
deep.  A submission that returns admitted all of its batch, in order and each
request once, or what stands before a request that it refuses or finds no slot
for; it returns no other fault.  One that is over without an answer has crashed,
and admitted what stands before a request with a buffer that does not fit.  Each
move of a submission either admits the next request of the batch, which fits, or
maps nothing and leaves the queue alone, or crashes over the next request; on a
sound lock it gives up only while the queue is as long as the pipeline is deep. -/
theorem submissions_admit_prefixes (hc : Reachable E sensor c) :
    ((c.isPoisoned = true ↔ c.stoppedThreads ≠ []) ∧
        (c.isPoisoned = false → c.queue.length ≤ c.config.pipelineDepth.toNat)) ∧
      ∀ {frame : UInt32} {requests : List CaptureRequest} {table : List Pipeline}
        {moves : List Move} {d e : Camera σ},
        c.step? E (.submit frame requests table) = some d → d.run? E moves = some e →
          (∀ answer, e.stage.answer? c.opened = some answer →
            AnswersBatch E frame table requests (e.admittedBy c.opened) answer) ∧
          (e.calls.lookup c.opened = none → e.stage.answer? c.opened = none →
            e.isPoisoned = true ∧ CrashesIn E frame table requests (e.admittedBy c.opened)) ∧
          ∀ {m : Move} {f : Camera σ}, m.call? = some c.opened → e.step? E m = some f →
            SubmissionMove E e f c.opened frame table requests := by
  refine ⟨⟨hc.isPoisoned_iff, hc.queue_length_le⟩,
    fun {frame requests table moves d e} hd he => ?_⟩
  have hreach := (hc.next hd).run? he
  have hprogress := (progress_of_submit hc hd).run (hc.next hd) he
  refine ⟨fun answer ha => ?_, fun hover ha => ?_, fun hm hf => hprogress.move hreach hm hf⟩
  · cases hprogress with
    | underway hi => cases (hreach.answer?_eq_none hi).symm.trans ha
    | returned _ _ ha' h =>
        obtain rfl := Option.some.inj (ha.symm.trans ha')
        exact h
    | aborted _ _ ha' => cases ha'.symm.trans ha
  · cases hprogress with
    | underway hi => cases hi.symm.trans hover
    | returned _ _ ha' => cases ha'.symm.trans ha
    | aborted _ _ _ hpoisoned h => exact ⟨hpoisoned, h⟩

open Sensor (Recorder)

/-- A new camera with a queue for one request. -/
def narrow : Camera Recorder :=
  { Sample.camera {} with config := { pipelineDepth := 1 } }

theorem reachable_narrow : Reachable Recorder.engine {} narrow :=
  have hcreate : create { pipelineDepth := 1 } {} Sample.store Sample.controls = .ok narrow := rfl
  .created hcreate

def batchOfThree : List CaptureRequest :=
  [Sample.preview, Sample.plain, Sample.preview]

/-- Of three requests the first fills the queue, and the submission gives up its
wait for the second. -/
theorem submission_admits_first_of_three :
    ∃ d e f : Camera Recorder, Reachable Recorder.engine {} narrow ∧
      narrow.step? Recorder.engine (.submit 7 batchOfThree [Sample.pipeline]) = some d ∧
      d.run? Recorder.engine (List.replicate 3 (.advance 0)) = some e ∧
      e.step? Recorder.engine (.expire 0) = some f ∧
      f.queue.map (·.tag) = [Sample.tag 0] ∧
      AnswersBatch Recorder.engine 7 [Sample.pipeline] batchOfThree (f.admittedBy 0)
        (.error .timeout) ∧
      f.stage.store = e.stage.store ∧ f.queue = e.queue ∧
      e.queue.length = e.config.pipelineDepth.toNat := by
  have hrun : (((narrow.step? Recorder.engine (.submit 7 batchOfThree [Sample.pipeline])).bind
      fun d => d.run? Recorder.engine (List.replicate 3 (.advance 0))).bind fun e =>
        e.step? Recorder.engine (.expire 0)).map
          (fun f => (f.stage.answer? 0, f.queue.map (·.tag), f.isPoisoned)) =
        some (some (.error .timeout), [Sample.tag 0], false) := by
    decide +kernel
  obtain ⟨f, hf, heq⟩ := Option.map_eq_some_iff.mp hrun
  obtain ⟨e, he, hf⟩ := Option.bind_eq_some_iff.mp hf
  obtain ⟨d, hd, he⟩ := Option.bind_eq_some_iff.mp he
  obtain ⟨hanswer, hrest⟩ := Prod.mk.inj heq
  obtain ⟨htags, hsound⟩ := Prod.mk.inj hrest
  have hsound' : e.isPoisoned = false := by
    rw [Bool.eq_false_iff] at hsound ⊢
    exact fun hpoisoned => hsound
      ((((reachable_narrow.next hd).run? he).transition hf).isPoisoned_mono hpoisoned)
  have hall : d.run? Recorder.engine (List.replicate 3 (.advance 0) ++ [.expire 0]) = some f := by
    rw [run?_append, he]
    exact run?_cons.trans (by rw [hf]; rfl)
  obtain ⟨-, hafter⟩ := submissions_admit_prefixes reachable_narrow
  have hbatch := (hafter hd hall).1 _ hanswer
  cases (hafter hd he).2.2 rfl hf with
  | admits _ _ _ _ _ _ hnone | crashes _ _ _ _ _ hnone => cases hnone.symm.trans hanswer
  | admitsNothing hstore hqueue _ hlength =>
      exact ⟨d, e, f, reachable_narrow, hd, he, hf, htags, hbatch, hstore, hqueue,
        hlength hanswer hsound'⟩

/-! ## A poisoned lock -/

/-- A pipeline of one planar stream whose size cannot be counted. -/
def boundless : Pipeline where
  id := 1
  camera := 0
  listener := { channel := 0 }
  streams := [⟨0, 4294836226, 2863398913, .ycbcr420, .unknown, 0, 0, false⟩]

/-- A submission crashes over its request.  Later one request fills the queue,
two more submissions wait for a slot, and a flush empties the queue. -/
def poisoning : List Move :=
  let table := [Sample.pipeline, boundless]
  [.submit 7 [{ Sample.plain with pipeline := 1 }] table, .advance 0, .advance 0,
    .submit 8 [Sample.plain] table, .advance 1, .advance 1, .advance 1,
    .submit 9 [Sample.plain] table, .advance 2, .advance 2,
    .submit 10 [Sample.plain] table, .advance 3, .advance 3,
    .flush, .advance 4, .advance 4]

/-- After a submission that crashed, both waiting submissions admit their
requests into a queue for one; and one that runs out of time finds no slot in an
empty queue. -/
theorem poisoned_waits_ignore_queue :
    ∃ c d e : Camera Recorder, Reachable Recorder.engine {} c ∧
      c.calls.lookup 0 = none ∧ c.stage.answer? 0 = none ∧ c.queue.length = 0 ∧
      c.run? Recorder.engine [.advance 2, .advance 2, .advance 3] = some d ∧
      d.config.pipelineDepth = 1 ∧ d.queue.length = 2 ∧
      c.step? Recorder.engine (.expire 2) = some e ∧
      e.stage.answer? 2 = some (.error .timeout) := by
  have hstart : (narrow.run? Recorder.engine poisoning).map (fun c =>
      (c.calls.any (·.1 = 0), c.stage.answer? 0, c.queue.length)) = some (false, none, 0) := by
    decide +kernel
  have hfilled : (narrow.run? Recorder.engine
      (poisoning ++ [.advance 2, .advance 2, .advance 3])).map (fun d =>
        (d.config.pipelineDepth, d.queue.length)) = some (1, 2) := by
    decide +kernel
  have hexpired : (narrow.run? Recorder.engine (poisoning ++ [.expire 2])).map
      (·.stage.answer? 2) = some (some (.error .timeout)) := by
    decide +kernel
  obtain ⟨c, hc, hstart⟩ := Option.map_eq_some_iff.mp hstart
  rw [run?_append, hc] at hfilled hexpired
  obtain ⟨d, hd, hfilled⟩ := Option.map_eq_some_iff.mp hfilled
  obtain ⟨e, he, htimeout⟩ := Option.map_eq_some_iff.mp hexpired
  simp only [Prod.mk.injEq, List.any_eq_false, decide_eq_true_eq] at hstart hfilled
  obtain ⟨hover, hunanswered, hempty⟩ := hstart
  exact ⟨c, d, e, reachable_narrow.run? hc, lookup_eq_none hover, hunanswered, hempty, hd,
    hfilled.1, hfilled.2, by simpa [run?] using he, htimeout⟩

end Camera

end VirtualCamera
