import VirtualCamera.Proofs.Admission

/-!
# When a batch stays together

A submission holds the queue lock from one request of its batch to the next,
except while it waits for a free slot: then it is parked, and the lock is for
whoever comes.  So the requests of two batches can come to stand between each
other in the order of admission (`overtaken_batch_is_parted`), and this file
says how far that goes.

Whoever admits a request has the queue lock.  A call that has admitted something
and is still open is past its entry, so it either has the lock, which then
nobody else has, or it is parked (`Reachable.isParked`).  Every request of
another call between two requests of a batch was therefore admitted while the
batch was parked.  The proof goes back along the run that led to the camera
(`Reachable.overtaken`).

A batch that finds room for all its requests when it takes the lock has no
reason to park.  The queue does not get longer meanwhile, as nobody else admits
(`Unbroken`), and so the batch stays together.
-/

namespace VirtualCamera

/-- Whatever stands between two admissions by call `i` is by call `i` too. -/
def StaysTogether (i : Nat) (order : List Nat) : Prop :=
  ∀ before j after, order = before ++ j :: after → i ∈ before → i ∈ after → j = i

theorem staysTogether_of_block {i n : Nat} {before after : List Nat} (hbefore : i ∉ before)
    (hafter : i ∉ after) : StaysTogether i (before ++ List.replicate n i ++ after) := by
  intro l j r heq hl hr
  rcases List.append_eq_append_iff.mp heq with ⟨mid, rfl, hmid⟩ | ⟨mid, hmid, hr'⟩
  · exact absurd (hmid ▸ List.mem_append_right _ (List.mem_cons_of_mem _ hr)) hafter
  · cases mid with
    | nil =>
        rw [List.nil_append] at hr'
        exact absurd (hr' ▸ List.mem_cons_of_mem _ hr) hafter
    | cons k mid =>
        obtain ⟨rfl, -⟩ := List.cons.inj hr'
        rcases List.append_eq_append_iff.mp hmid with ⟨mid', rfl, hrep⟩ | ⟨mid', rfl, -⟩
        · have hj : j ∈ List.replicate n i := by
            rw [hrep]
            simp
          exact List.eq_of_mem_replicate hj
        · exact absurd (List.mem_append_left _ hl) hbefore

namespace Occurrence

/-- The call that put a request into the queue. -/
def admitter? : Occurrence → Option Nat
  | admitted i _ => some i
  | _ => none

@[simp] theorem admitter?_effect (e : Effect) (speaker : Speaker) :
    (e.occurrence speaker).admitter? = none := by
  cases e <;> rfl

end Occurrence

namespace Camera

variable {σ : Type} {E : Engine σ} {c d e : Camera σ} {sensor : σ} {i j : Nat}

/-! ## Who admits -/

/-- The calls that the admitted requests came from, in the order of
admission. -/
def admitters (c : Camera σ) : List Nat :=
  c.stage.history Occurrence.admitter?

theorem enqueue_admitters (c : Camera σ) (store : Store) (i : Nat) (a : Admission) :
    ((c.withStore store).enqueue i a).admitters = c.admitters ++ [i] := by
  simp [admitters, withStore, enqueue, Occurrence.admitter?]

/-- The call submits a batch and may admit the next request. -/
def Admits (c : Camera σ) (i : Nat) : Prop :=
  ∃ phase frame table left, c.calls.lookup i = some (.submitting phase frame table left) ∧
    c.MayAdmit phase

/-- The call waits for a free slot in the queue. -/
def IsParked (c : Camera σ) (i : Nat) : Prop :=
  ∃ frame table left, c.calls.lookup i = some (.submitting .parked frame table left)

/-- Nothing is admitted and the queue does not get longer, or the call that
moves admits one request. -/
theorem Transition.admitters_cases {m : Move} (hn : c.Numbered) (h : Transition E c m d) :
    d.admitters = c.admitters ∧ d.queue.length ≤ c.queue.length ∨
      ∃ i, m.call? = some i ∧ c.Admits i ∧ d.admitters = c.admitters ++ [i] := by
  cases h with
  | @admitOne l r i phase frame table q left p store a hc hgo =>
      exact Or.inr ⟨i, rfl, ⟨phase, frame, table, _, lookup_split hn hc, hgo⟩,
        enqueue_admitters c store i a⟩
  | take _ _ _ hq =>
      refine Or.inl ⟨by simp [admitters, Occurrence.admitter?], ?_⟩
      rw [hq]
      exact Nat.le_succ _
  | drain => exact Or.inl ⟨by simp [admitters, Occurrence.admitter?], Nat.zero_le _⟩
  | sensor hs =>
      obtain ⟨sensor, effects, -, rfl⟩ := Stage.sensorStep?_eq_some hs
      exact Or.inl ⟨by simp [admitters], Nat.le_refl _⟩
  | perform | unwind | clear | report | closeEffect =>
      exact Or.inl ⟨by simp [admitters], Nat.le_refl _⟩
  | _ => exact Or.inl ⟨by simp [admitters, Occurrence.admitter?, begin, paced], Nat.le_refl _⟩

/-- While one call has the queue lock no other call admits. -/
theorem Orderly.eq_of_admits {frame : UInt32} {table : List Pipeline}
    {left : List CaptureRequest} (ho : c.Orderly)
    (hi : c.calls.lookup i = some (.submitting .admitting frame table left))
    (hj : c.Admits j) : j = i := by
  obtain ⟨phase, frame', table', left', hj, hgo⟩ := hj
  have hholds : 0 < c.queueHolders := List.countP_pos_iff.mpr ⟨_, mem_of_lookup hi, rfl⟩
  rcases hgo with rfl | ⟨-, hlock, -⟩
  · obtain ⟨l, r, hc⟩ := exists_split_of_lookup hj
    have hself : (Call.submitting .admitting frame' table' left').holdsQueue = true := rfl
    have hothers : (l ++ r).countP (·.2.holdsQueue) = 0 := by
      have hle := ho.queue
      simp only [queueHolders, hc, List.countP_append, List.countP_cons, hself, if_true] at hle ⊢
      omega
    have hmem := mem_of_lookup hi
    rw [hc, mem_split] at hmem
    rcases hmem with heq | hmem
    · exact (Prod.mk.inj heq).1.symm
    · exact absurd rfl (List.countP_eq_zero.mp hothers _ hmem)
  · rw [queueIsFree_iff.mp hlock] at hholds
    cases hholds

/-! ## Calls that have admitted something -/

/-- The call submits a batch and is past its entry. -/
def Call.HasEntered (call : Call) : Prop :=
  ∃ phase frame table left, call = .submitting phase frame table left ∧ phase ≠ .entering

/-- A call that is open was open before. -/
theorem Transition.isOpen {m : Move} (h : Transition E c m d) (hm : c.step? E m = some d)
    (hi : i < c.opened) (hopen : d.calls.lookup i ≠ none) : c.calls.lookup i ≠ none := by
  intro hnone
  by_cases hcall : m.call? = some i
  · rw [step?_of_returned hnone hcall] at hm
    cases hm
  · exact hopen ((h.lookup_eq hi hcall).trans hnone)

/-- A submission that moves is past its entry then, if it is still open. -/
theorem hasEntered_of_submitting {m : Move} {phase : SubmitPhase} {frame : UInt32}
    {table : List Pipeline} {left : List CaptureRequest} {call : Call}
    (hold : c.calls.lookup i = some (.submitting phase frame table left))
    (hm : m.call? = some i) (h : c.step? E m = some d) (hcall : d.calls.lookup i = some call) :
    Call.HasEntered call := by
  cases step?_of_submitting hold hm h with
  | enter | park | admitNext =>
      obtain rfl := Option.some.inj ((lookup_put hold).symm.trans hcall)
      exact ⟨_, _, _, _, rfl, by simp⟩
  | abort => cases lookup_abort.symm.trans hcall
  | complete | refuse | expire => cases lookup_finish.symm.trans hcall

theorem Reachable.hasEntered (hc : Reachable E sensor c) (hi : i ∈ c.admitters) :
    i < c.opened ∧ ∀ call, c.calls.lookup i = some call → Call.HasEntered call := by
  induction hc generalizing i with
  | created h =>
      obtain rfl := create_eq h
      cases hi
  | @next c d m hc h ih =>
      have hstep := hc.transition h
      have hnumbered := hc.orderly.toNumbered
      have hwas : i ∈ c.admitters ∨ m.call? = some i ∧ c.Admits i := by
        rcases hstep.admitters_cases hnumbered with ⟨heq, -⟩ | ⟨k, hm, hadmits, heq⟩
        · exact Or.inl (heq ▸ hi)
        · rw [heq, List.mem_append, List.mem_singleton] at hi
          rcases hi with hi | rfl
          · exact Or.inl hi
          · exact Or.inr ⟨hm, hadmits⟩
      rcases hwas with hi | ⟨hm, phase, frame, table, left, hold, -⟩
      · obtain ⟨hlt, hentered⟩ := ih hi
        refine ⟨Nat.lt_of_lt_of_le hlt hstep.opened_le, fun call hcall => ?_⟩
        by_cases hm : m.call? = some i
        · have hopen := hstep.isOpen h hlt (hcall ▸ Option.some_ne_none _)
          obtain ⟨old, hold⟩ := Option.ne_none_iff_exists'.mp hopen
          obtain ⟨phase, frame, table, left, rfl, -⟩ := hentered old hold
          exact hasEntered_of_submitting hold hm h hcall
        · exact hentered call ((hstep.lookup_eq hlt hm).symm.trans hcall)
      · exact ⟨Nat.lt_of_lt_of_le (hnumbered.lt_of_lookup hold) hstep.opened_le,
          fun call hcall => hasEntered_of_submitting hold hm h hcall⟩

/-- An open call that has admitted something is parked while another call
admits. -/
theorem Reachable.isParked (hc : Reachable E sensor c) (hi : i ∈ c.admitters)
    (hopen : c.calls.lookup i ≠ none) (hj : c.Admits j) (hne : j ≠ i) : c.IsParked i := by
  obtain ⟨call, hcall⟩ := Option.ne_none_iff_exists'.mp hopen
  obtain ⟨phase, frame, table, left, rfl, hphase⟩ := (hc.hasEntered hi).2 call hcall
  cases phase with
  | entering => exact absurd rfl hphase
  | admitting => exact absurd (hc.orderly.eq_of_admits hcall hj) hne
  | parked => exact ⟨frame, table, left, hcall⟩

/-! ## Batches that are overtaken -/

/-- On the way to this camera there was a moment when call `i` was parked and
call `j` admitted a request, after these. -/
def Overtaken (E : Engine σ) (sensor : σ) (i j : Nat) (order : List Nat) (e : Camera σ) : Prop :=
  ∃ c d m moves, Reachable E sensor c ∧ c.admitters = order ∧ c.IsParked i ∧
    c.step? E m = some d ∧ d.admitters = order ++ [j] ∧ d.run? E moves = some e

theorem Overtaken.next {order : List Nat} {m : Move} (h : c.Overtaken E sensor i j order)
    (hd : c.step? E m = some d) : d.Overtaken E sensor i j order := by
  obtain ⟨a, b, n, moves, ha, horder, hparked, hb, hadmits, hc⟩ := h
  refine ⟨a, b, n, moves ++ [m], ha, horder, hparked, hb, hadmits, ?_⟩
  rw [run?_append, hc]
  exact run?_cons.trans (by rw [hd]; rfl)

theorem Reachable.overtaken {order rest : List Nat} (hc : Reachable E sensor c)
    (horder : c.admitters = order ++ j :: rest) (hi : i ∈ order)
    (hlater : i ∈ rest ∨ c.calls.lookup i ≠ none) (hne : j ≠ i) :
    c.Overtaken E sensor i j order := by
  induction hc generalizing order j rest with
  | created h =>
      obtain rfl := create_eq h
      simp [admitters, Stage.history] at horder
  | @next c d m hc h ih =>
      have hstep := hc.transition h
      have hopened : i ∈ c.admitters → d.calls.lookup i ≠ none → c.calls.lookup i ≠ none :=
        fun hi => hstep.isOpen h (hc.hasEntered hi).1
      rcases hstep.admitters_cases hc.orderly.toNumbered with ⟨heq, -⟩ | ⟨k, hm, hadmits, heq⟩
      · have hmem : i ∈ c.admitters := by
          rw [← heq, horder]
          exact List.mem_append_left _ hi
        exact (ih (heq ▸ horder) hi (hlater.imp_right (hopened hmem)) hne).next h
      · rw [heq] at horder
        rcases List.eq_nil_or_concat rest with rfl | ⟨rest, k', rfl⟩
        · -- this move is the admission in question
          obtain ⟨rfl, hk⟩ := List.append_inj' horder rfl
          obtain rfl : k = j := by simpa using hk
          have hopen : c.calls.lookup i ≠ none :=
            hopened hi (hlater.resolve_left List.not_mem_nil)
          exact ⟨c, d, m, [], hc, rfl, hc.isParked hi hopen hadmits hne, h, heq, rfl⟩
        · rw [List.concat_eq_append, ← List.cons_append, ← List.append_assoc] at horder
          obtain ⟨hpast, hk⟩ := List.append_inj' horder rfl
          obtain rfl : k = k' := by simpa using hk
          have hmem : i ∈ c.admitters := by
            rw [hpast]
            exact List.mem_append_left _ hi
          refine (ih hpast hi ?_ hne).next h
          rw [List.concat_eq_append, List.mem_append, List.mem_singleton] at hlater
          rcases hlater with (hlater | rfl) | hopen
          · exact Or.inl hlater
          · obtain ⟨phase, frame, table, left, hi, -⟩ := hadmits
            exact Or.inr (hi ▸ Option.some_ne_none _)
          · exact Or.inr (hopened hmem hopen)

/-! ## Batches that find room -/

/-- The admissions of a call make up one block so far, and it will not park. -/
inductive Unbroken (i : Nat) (c : Camera σ) : Prop
  | underway {frame : UInt32} {table : List Pipeline} {left : List CaptureRequest}
      {before : List Nat} {n : Nat}
      (hi : c.calls.lookup i = some (.submitting .admitting frame table left))
      (hroom : c.queue.length + left.length ≤ c.config.pipelineDepth.toNat)
      (hbefore : i ∉ before) (horder : c.admitters = before ++ List.replicate n i)
  | returned {before after : List Nat} {n : Nat} (hi : c.calls.lookup i = none)
      (hlt : i < c.opened) (hbefore : i ∉ before) (hafter : i ∉ after)
      (horder : c.admitters = before ++ List.replicate n i ++ after)

theorem Unbroken.staysTogether (h : c.Unbroken i) : StaysTogether i c.admitters := by
  cases h with
  | underway _ _ hbefore horder =>
      rw [horder, ← List.append_nil (_ ++ _)]
      exact staysTogether_of_block hbefore List.not_mem_nil
  | returned _ _ hbefore hafter horder => exact horder ▸ staysTogether_of_block hbefore hafter

/-- A submission that has the queue lock goes on with the next request. -/
theorem step?_of_admitting {m : Move} {frame : UInt32} {table : List Pipeline}
    {left : List CaptureRequest}
    (hi : c.calls.lookup i = some (.submitting .admitting frame table left))
    (hm : m.call? = some i) (h : c.step? E m = some d) :
    d = c.submitNext E i (!c.isFull) frame table left := by
  cases m with
  | advance k =>
      obtain rfl : k = i := Option.some.inj hm
      simp only [step?, callStep?, hi, Option.some.injEq] at h
      exact h.symm
  | expire k =>
      obtain rfl : k = i := Option.some.inj hm
      simp [step?, expire?, hi] at h
  | _ => cases hm

theorem unbroken_abort {before : List Nat} {n : Nat} {store : Store} {crash : Crash}
    (hlt : i < c.opened) (hbefore : i ∉ before)
    (horder : c.admitters = before ++ List.replicate n i) :
    ((c.withStore store).abort i crash).Unbroken i := by
  refine .returned (n := n) lookup_abort hlt hbefore List.not_mem_nil ?_
  simpa [admitters, withStore, abort, Occurrence.admitter?] using horder

theorem unbroken_finish {before : List Nat} {n : Nat} {answer : Except Fault Unit}
    (hlt : i < c.opened) (hbefore : i ∉ before)
    (horder : c.admitters = before ++ List.replicate n i) : (c.finish i answer).Unbroken i := by
  refine .returned (n := n) lookup_finish hlt hbefore List.not_mem_nil ?_
  simpa [admitters, finish, Occurrence.admitter?] using horder

/-- A call that has room for all that it has left admits the next request, or is
done. -/
theorem unbroken_submitNext {frame : UInt32} {table : List Pipeline} {left : List CaptureRequest}
    {before : List Nat} {n : Nat} (E : Engine σ)
    (hi : c.calls.lookup i = some (.submitting .admitting frame table left)) (hlt : i < c.opened)
    (hroom : c.queue.length + left.length ≤ c.config.pipelineDepth.toNat)
    (hbefore : i ∉ before) (horder : c.admitters = before ++ List.replicate n i) :
    (c.submitNext E i (!c.isFull) frame table left).Unbroken i := by
  cases left with
  | nil => exact unbroken_finish hlt hbefore horder
  | cons r rest =>
      simp only [submitNext]
      cases hcheck : checkRequest table r with
      | error fault => exact unbroken_finish hlt hbefore horder
      | ok p =>
          rw [List.length_cons] at hroom
          have hfull : c.isFull = false := by
            simp only [isFull, decide_eq_false_iff_not]
            omega
          simp only [hfull, Bool.not_false, if_true, admitRequest]
          rcases hmap : c.mapRequest E frame p r with ⟨store, mapped⟩
          cases mapped with
          | error crash => exact unbroken_abort hlt hbefore horder
          | ok a =>
              let e := (c.withStore store).enqueue i a
              have hqueue : e.queue.length = c.queue.length + 1 := List.length_append
              have hroom' : e.queue.length + rest.length ≤ c.config.pipelineDepth.toNat := by
                omega
              have horder' : e.admitters = before ++ List.replicate (n + 1) i := by
                rw [enqueue_admitters, horder, List.replicate_succ', List.append_assoc]
              exact .underway (n := n + 1) (lookup_put (c := e) hi) hroom' hbefore horder'

theorem Unbroken.step {m : Move} (hc : Reachable E sensor c) (h : c.step? E m = some d)
    (hu : c.Unbroken i) : d.Unbroken i := by
  have hstep := hc.transition h
  have hcases := hstep.admitters_cases hc.orderly.toNumbered
  cases hu with
  | underway hi hroom hbefore horder =>
      have hlt := hc.orderly.toNumbered.lt_of_lookup hi
      by_cases hm : m.call? = some i
      · obtain rfl := step?_of_admitting hi hm h
        exact unbroken_submitNext E hi hlt hroom hbefore horder
      · have hothers : d.admitters = c.admitters ∧ d.queue.length ≤ c.queue.length := by
          refine hcases.resolve_right ?_
          rintro ⟨k, hk, hadmits, -⟩
          obtain rfl := hc.orderly.eq_of_admits hi hadmits
          exact hm hk
        refine .underway ((hstep.lookup_eq hlt hm).trans hi) ?_ hbefore (hothers.1.trans horder)
        have hdepth := hstep.config_eq
        have hqueue := hothers.2
        rw [hdepth]
        omega
  | @returned _ after _ hi hlt hbefore hafter horder =>
      have hm : m.call? ≠ some i := fun hm => by
        rw [step?_of_returned hi hm] at h
        cases h
      have hnone := (hstep.lookup_eq hlt hm).trans hi
      have hlt' := Nat.lt_of_lt_of_le hlt hstep.opened_le
      rcases hcases with ⟨heq, -⟩ | ⟨k, hk, -, heq⟩
      · exact .returned hnone hlt' hbefore hafter (heq.trans horder)
      · have hne : k ≠ i := fun heq => hm (heq ▸ hk)
        have hafter' : i ∉ after ++ [k] := by simp [hafter, hne.symm]
        exact .returned hnone hlt' hbefore hafter' (heq.trans (by rw [horder, List.append_assoc]))

/-! ## How far batches stay together -/

/-- A request of another call comes between two requests of a batch only at a
moment when the batch waits for a free slot.  A batch that finds room for all of
its requests when it takes the queue lock stays together. -/
theorem batches_part_only_while_parked (hc : Reachable E sensor c) :
    (∀ {i j : Nat} {order rest : List Nat}, c.admitters = order ++ j :: rest → i ∈ order →
        i ∈ rest → j ≠ i → c.Overtaken E sensor i j order) ∧
      ∀ {i : Nat} {frame : UInt32} {table : List Pipeline} {left : List CaptureRequest}
        {moves : List Move} {d e : Camera σ},
        c.calls.lookup i = some (.submitting .entering frame table left) →
          c.queue.length + left.length ≤ c.config.pipelineDepth.toNat →
          c.step? E (.advance i) = some d → d.run? E moves = some e →
          StaysTogether i e.admitters := by
  refine ⟨fun horder hi hrest hne => hc.overtaken horder hi (Or.inl hrest) hne, ?_⟩
  intro i frame table left moves d e hi hroom hd he
  have hfresh : i ∉ c.admitters := by
    intro hmem
    obtain ⟨phase, _, _, _, heq, hphase⟩ := (hc.hasEntered hmem).2 _ hi
    cases heq
    exact hphase rfl
  have hunbroken : d.Unbroken i := by
    simp only [step?, callStep?, hi, Option.ite_none_right_eq_some, Option.some.injEq] at hd
    obtain ⟨-, rfl⟩ := hd
    exact .underway (n := 0) (lookup_put hi) hroom hfresh (List.append_nil _).symm
  have hend : e.Unbroken i :=
    (hc.next hd).run_induct (P := fun e => e.Unbroken i) he hunbroken
      fun hb hstep ih => ih.step hb hstep
  exact hend.staysTogether

open Sensor (Recorder)

/-- Two batches for a queue of one slot.  The first admits a request and parks,
and each time that the slot is freed another call gets it. -/
def overtaking : List Move :=
  [.submit 7 [Sample.preview, Sample.plain] [Sample.pipeline],
    .submit 8 [Sample.preview] [Sample.pipeline],
    .advance 0, .advance 0, .advance 0,
    -- a flush frees the slot, and the second batch fills it
    .flush, .advance 2, .advance 2, .advance 2, .advance 2, .advance 2,
    .advance 1, .advance 1, .advance 1,
    -- the worker frees it again
    .worker, .worker, .advance 0]

theorem exists_overtaking :
    ∃ c, narrow.run? Recorder.engine overtaking = some c ∧ c.admitters = [0, 1, 0] := by
  have hrun : (narrow.run? Recorder.engine overtaking).map (·.admitters) = some [0, 1, 0] := by
    decide +kernel
  exact Option.map_eq_some_iff.mp hrun

/-- The queue lock is not kept for the whole batch: a request of another call
stands between two of it. -/
theorem overtaken_batch_is_parted :
    ∃ c : Camera Recorder, Reachable Recorder.engine {} c ∧ c.admitters = [0, 1, 0] ∧
      ¬StaysTogether 0 c.admitters := by
  obtain ⟨c, hc, horder⟩ := exists_overtaking
  refine ⟨c, reachable_narrow.run? hc, horder, fun htogether => ?_⟩
  have heq : 1 = 0 := htogether [0] 1 [0] horder List.mem_cons_self List.mem_cons_self
  cases heq

def twoBatches : List Move :=
  [.submit 7 [Sample.preview, Sample.plain] [Sample.pipeline],
    .submit 8 [Sample.preview] [Sample.pipeline]]

theorem batches_part_only_while_parked_on_samples :
    (∃ c : Camera Recorder, Reachable Recorder.engine {} c ∧ c.admitters = [0, 1, 0] ∧
      c.Overtaken Recorder.engine {} 0 1 [0]) ∧
    ∃ c d e : Camera Recorder, Reachable Recorder.engine {} c ∧
      c.step? Recorder.engine (.advance 0) = some d ∧
      d.run? Recorder.engine [.advance 0, .advance 0, .advance 0, .advance 1, .advance 1] =
        some e ∧
      e.admitters = [0, 0, 1] ∧ StaysTogether 0 e.admitters := by
  constructor
  · obtain ⟨c, hc, horder⟩ := exists_overtaking
    have hreach := reachable_narrow.run? hc
    have hsplit : c.admitters = [0] ++ 1 :: [0] := horder
    exact ⟨c, hreach, horder, (batches_part_only_while_parked hreach).1 hsplit
      List.mem_cons_self List.mem_cons_self (by decide)⟩
  · let c : Camera Recorder := Sample.after Recorder.engine {} twoBatches (by decide +kernel)
    have hrun : ((c.step? Recorder.engine (.advance 0)).bind fun d =>
        d.run? Recorder.engine [.advance 0, .advance 0, .advance 0, .advance 1, .advance 1]).map
          (·.admitters) = some [0, 0, 1] := by
      decide +kernel
    obtain ⟨e, he, horder⟩ := Option.map_eq_some_iff.mp hrun
    obtain ⟨d, hd, he⟩ := Option.bind_eq_some_iff.mp he
    have hi : c.calls.lookup 0 = some (.submitting .entering 7 [Sample.pipeline]
        [Sample.preview, Sample.plain]) := rfl
    exact ⟨c, d, e, Sample.reachable_after, hd, he, horder,
      (batches_part_only_while_parked Sample.reachable_after).2 hi (by decide +kernel) hd he⟩

end Camera

end VirtualCamera
