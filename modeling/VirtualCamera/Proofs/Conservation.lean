import VirtualCamera.Proofs.Ledger
import VirtualCamera.Sensor.Recorder

/-!
# No request is lost or answered twice by the processor

Two invariants of ledgers, each preserved by every `Ledger.Step`.  `Balanced`
says where requests are: outcomes, the request that the worker has, those that
a flush took and the queue, put one after the other, are all admissions in
their order.  `Truthful` says what is told: a request that the worker took is
handed to the sensor, or its listener is told that there will be no result; a
request that a flush took is failed as a whole.  Whatever the processor tells
names the pipeline and the frame of the request that it is told about.

Only a crash of the worker loses a request, and then the record shows it.
-/

namespace VirtualCamera

/-- Where keys are distinct, there is one element under the key of an element. -/
theorem filter_key_eq_singleton {α κ : Type} [DecidableEq κ] {l : List α} {key : α → κ} {a : α}
    (hl : (l.map key).Nodup) (ha : a ∈ l) : l.filter (key · = key a) = [a] := by
  induction l with
  | nil => cases ha
  | cons b rest ih =>
      obtain ⟨hb, hrest⟩ := List.nodup_cons.mp hl
      rcases List.mem_cons.mp ha with rfl | ha
      · have hothers : rest.filter (key · = key a) = [] := by
          refine List.filter_eq_nil_iff.mpr fun c hc heq => hb ?_
          rw [← of_decide_eq_true heq]
          exact List.mem_map_of_mem hc
        simp [hothers]
      · have hne : key b ≠ key a := fun heq => hb (heq ▸ List.mem_map_of_mem ha)
        simp [hne, ih hrest ha]

namespace Outcome

/-- What the processor may do with a request: it hands it over, or fails it in
one of two ways, each in the name of the request. -/
def IsRegular (tag : FrameTag) (outcome : Outcome) : Prop :=
  outcome = .handedOver ∨ outcome = .told (tag.failure .result) ∨
    outcome = .told (tag.failure .request)

end Outcome

namespace Ledger

variable {b b' : Ledger}

/-- The request that the worker took and that has no outcome yet. -/
def inHand (b : Ledger) : List FrameTag :=
  b.undecided ++ b.failing.map (·.1)

/-- The requests that flushes took and that have no outcome yet. -/
def drained (b : Ledger) : List FrameTag :=
  b.reports.map (·.1)

/-! ## Where requests are -/

/-- Every admitted request is in one place, and the places are ordered like
the admissions. -/
structure Balanced (b : Ledger) : Prop where
  tickets : b.admissions.map (·.ticket) = List.range b.issued
  balance : b.outcomes.map (·.1) ++ b.inHand ++ b.drained ++ b.waiting = b.admissions

theorem Step.balanced (h : b.Step b') (hb : b.Balanced) : b'.Balanced := by
  obtain ⟨htickets, hbalance⟩ := hb
  simp only [inHand, drained] at hbalance
  cases h with
  | still => exact ⟨htickets, hbalance⟩
  | admitOne hticket =>
      refine ⟨?_, ?_⟩
      · simp [htickets, hticket, List.range_succ]
      · simp [inHand, drained, ← hbalance]
  | take hsettled hw =>
      obtain ⟨hundecided, hfailing, hreports⟩ := hsettled
      refine ⟨htickets, ?_⟩
      rw [← hbalance]
      simp [inHand, drained, hundecided, hfailing, hreports, hw]
  | drain hsettled =>
      obtain ⟨hundecided, hfailing, hreports⟩ := hsettled
      refine ⟨htickets, ?_⟩
      rw [← hbalance]
      simp [inHand, drained, hundecided, hfailing, hreports, Function.comp_def]
  | handOver hu | lose hu | fail hu | tell hu | report hu =>
      refine ⟨htickets, ?_⟩
      rw [← hbalance]
      simp_all [inHand, drained]

/-- No two admitted requests are the same. -/
theorem Balanced.nodup (hb : b.Balanced) : b.admissions.Nodup :=
  List.Nodup.of_map (·.ticket) (hb.tickets ▸ List.nodup_range)

theorem Balanced.length (hb : b.Balanced) : b.admissions.length = b.issued := by
  simpa using congrArg List.length hb.tickets

/-- Outcomes come in the order of admission, and without a gap. -/
theorem Balanced.outcomes_prefix (hb : b.Balanced) :
    b.outcomes.map (·.1) <+: b.admissions := by
  rw [← hb.balance, List.append_assoc, List.append_assoc]
  exact List.prefix_append _ _

/-- The request that the worker has is none of those with an outcome. -/
theorem Balanced.not_mem_outcomes (hb : b.Balanced) {tag : FrameTag} (h : tag ∈ b.inHand) :
    tag ∉ b.outcomes.map (·.1) := by
  intro houtcome
  have hnodup := hb.nodup
  rw [← hb.balance, List.append_assoc, List.append_assoc, List.nodup_append] at hnodup
  exact hnodup.2.2 tag houtcome tag (List.mem_append_left _ h) rfl

/-- If every request has its outcome, none is anywhere else. -/
theorem Balanced.places_eq_nil (hb : b.Balanced)
    (h : ∀ tag ∈ b.admissions, tag ∈ b.outcomes.map (·.1)) :
    b.inHand = [] ∧ b.drained = [] ∧ b.waiting = [] := by
  have hnodup := hb.nodup
  have hbalance : b.outcomes.map (·.1) ++ (b.inHand ++ b.drained ++ b.waiting) = b.admissions := by
    rw [← hb.balance]
    simp only [List.append_assoc]
  rw [← hbalance, List.nodup_append] at hnodup
  have hnone : b.inHand ++ b.drained ++ b.waiting = [] := by
    refine List.eq_nil_iff_forall_not_mem.mpr fun tag htag => ?_
    have hadmitted : tag ∈ b.admissions := hbalance ▸ List.mem_append_right _ htag
    exact hnodup.2.2 tag (h tag hadmitted) tag htag rfl
  simpa [and_assoc] using hnone

/-! ## What is told of requests -/

/-- Outcomes are regular unless a crash took their place, and what is about to
be told will be a regular outcome. -/
structure Truthful (b : Ledger) : Prop where
  outcomes : ∀ p ∈ b.outcomes, p.2.IsRegular p.1 ∨ p.2 = .lost
  failing : ∀ p ∈ b.failing, p.2 = p.1.failure .result
  reports : ∀ p ∈ b.reports, p.2 = p.1.failure .request

theorem Truthful.mem_concat {p q : FrameTag × Outcome} (ht : b.Truthful)
    (hq : q.2.IsRegular q.1 ∨ q.2 = .lost) (hp : p ∈ b.outcomes ++ [q]) :
    p.2.IsRegular p.1 ∨ p.2 = .lost := by
  rcases List.mem_append.mp hp with hp | hp
  · exact ht.outcomes p hp
  · exact List.mem_singleton.mp hp ▸ hq

theorem Step.truthful (h : b.Step b') (ht : b.Truthful) : b'.Truthful := by
  cases h with
  | still | admitOne | take => exact ⟨ht.outcomes, ht.failing, ht.reports⟩
  | handOver =>
      exact ⟨fun p => ht.mem_concat (Or.inl (Or.inl rfl)), ht.failing, ht.reports⟩
  | lose => exact ⟨fun p => ht.mem_concat (Or.inr rfl), ht.failing, ht.reports⟩
  | fail => exact ⟨ht.outcomes, by simp, ht.reports⟩
  | @tell p rest hf =>
      have hp : p.2 = p.1.failure .result := ht.failing p (by simp [hf])
      refine ⟨fun q => ht.mem_concat (Or.inl (Or.inr (Or.inl (congrArg _ hp)))), ?_, ht.reports⟩
      exact fun q hq => ht.failing q (by simp [hf, hq])
  | drain => exact ⟨ht.outcomes, ht.failing, by simp⟩
  | @report p rest hr =>
      have hp : p.2 = p.1.failure .request := ht.reports p (by simp [hr])
      refine ⟨fun q => ht.mem_concat (Or.inl (Or.inr (Or.inr (congrArg _ hp)))), ht.failing, ?_⟩
      exact fun q hq => ht.reports q (by simp [hr, hq])

end Ledger

namespace Camera

open Sensor (Recorder)

variable {σ : Type} {E : Engine σ} {c d : Camera σ} {sensor : σ}

theorem Reachable.ledger_induct {P : Ledger → Prop} (hc : Reachable E sensor c)
    (created : P ⟨0, [], [], [], [], [], []⟩) (next : ∀ {b b'}, b.Step b' → P b → P b') :
    P c.ledger :=
  hc.induct (P := fun c => P c.ledger) (fun _ _ _ => created)
    fun ho h ih => next (h.ledger ho) ih

theorem Reachable.balanced (hc : Reachable E sensor c) : c.ledger.Balanced :=
  hc.ledger_induct ⟨rfl, rfl⟩ Ledger.Step.balanced

/-- No request has two outcomes. -/
theorem Reachable.nodup_outcomes (hc : Reachable E sensor c) : (c.outcomes.map (·.1)).Nodup :=
  hc.balanced.nodup.sublist hc.balanced.outcomes_prefix.sublist

theorem Reachable.truthful (hc : Reachable E sensor c) : c.ledger.Truthful :=
  hc.ledger_induct ⟨by simp, by simp, by simp⟩ Ledger.Step.truthful

def hasCrashed (c : Camera σ) : Bool :=
  c.stage.record.any fun
    | .crashed _ => true
    | _ => false

/-- The request that the worker took and that has no outcome yet. -/
def inHand (c : Camera σ) : List FrameTag :=
  c.ledger.inHand

/-- The requests that flushes took and that have no outcome yet. -/
def drained (c : Camera σ) : List FrameTag :=
  c.ledger.drained

/-- Only a crash loses a request. -/
theorem hasCrashed_of_lost {tag : FrameTag} (h : (tag, .lost) ∈ c.outcomes) :
    c.hasCrashed = true := by
  obtain ⟨o, ho, heq⟩ := Stage.mem_history.mp h
  refine List.any_eq_true.mpr ⟨o, ho, ?_⟩
  cases o with
  | crashed => rfl
  | told speaker => cases speaker <;> simp [Occurrence.outcome?] at heq
  | _ => simp [Occurrence.outcome?] at heq

theorem Reachable.isRegular (hc : Reachable E sensor c) (hcrash : c.hasCrashed = false) :
    ∀ p ∈ c.outcomes, p.2.IsRegular p.1 := by
  rintro ⟨tag, outcome⟩ hp
  rcases hc.truthful.outcomes _ hp with hregular | hlost
  · exact hregular
  · obtain rfl : outcome = .lost := hlost
    rw [hasCrashed_of_lost hp] at hcrash
    cases hcrash

/-- In every reachable camera, whatever the sensor is like, each admitted
request is in exactly one place: it waits in the queue, the worker has it, a
flush took it, or it has its outcome.  The outcome is one: it was handed to the
sensor, or its listener was told that there will be no result (by the worker),
or that the request failed (by a flush). -/
theorem requests_are_conserved (hc : Reachable E sensor c) (hcrash : c.hasCrashed = false) :
    (c.waiting ++ c.inHand ++ c.drained ++ c.outcomes.map (·.1)).Perm c.admissions ∧
      c.admissions.Nodup ∧ c.admissions.length = c.admitted ∧
      (∀ p ∈ c.outcomes, p.2.IsRegular p.1) ∧
      (∀ p ∈ c.worker.notices, p.2 = p.1.failure .result) ∧
      ∀ p ∈ c.reports, p.2 = p.1.failure .request := by
  have hb := hc.balanced
  refine ⟨?_, hb.nodup, hb.length, hc.isRegular hcrash, hc.truthful.failing,
    hc.truthful.reports⟩
  have hbalance : c.outcomes.map (·.1) ++ c.inHand ++ c.drained ++ c.waiting = c.admissions :=
    hb.balance
  rw [← hbalance, List.perm_iff_count]
  intro tag
  simp only [List.count_append]
  omega

/-- Four requests are admitted.  The worker fails the first, which has no
settings; a flush takes the other three, and has told of one of them. -/
def amidFlush : Camera Recorder :=
  Sample.after Recorder.engine {}
    (List.flatten [
      [.submit 7 [Sample.plain, Sample.preview, Sample.preview, Sample.preview]
        [Sample.pipeline]],
      List.replicate 6 (.advance 0), List.replicate 9 .worker,
      .flush :: List.replicate 3 (.advance 1)])
    (by decide +kernel)

theorem requests_are_conserved_amid_flush :
    Reachable Recorder.engine {} amidFlush ∧ amidFlush.hasCrashed = false ∧
      amidFlush.drained.length = 2 ∧ amidFlush.outcomes.length = 2 ∧ amidFlush.admitted = 4 ∧
      (amidFlush.waiting ++ amidFlush.inHand ++ amidFlush.drained ++
        amidFlush.outcomes.map (·.1)).Perm amidFlush.admissions :=
  have hcrash : amidFlush.hasCrashed = false := by decide +kernel
  ⟨Sample.reachable_after, hcrash, by decide +kernel, by decide +kernel, by decide +kernel,
    (requests_are_conserved Sample.reachable_after hcrash).1⟩

end Camera

end VirtualCamera
