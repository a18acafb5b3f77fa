import VirtualCamera.Proofs.Admission
import VirtualCamera.Proofs.Tags

/-!
# Only what was awaited goes into a shot

The worker waits for the fences of a request one buffer at a time, the outputs
first, and keeps the buffers whose wait went well.  The record has one
occurrence for each wait, so the outputs of a shot can be read off it
(`Camera.Awaited`): they are what was kept of the first waits for the request,
and those were waits for its outputs, in order.

The argument follows the request that the worker has (`WorkerAwaits`).  When the
worker takes a request there was no wait for it yet: whoever was waited for has
an outcome or is with the worker (`Awaiting.waited`), and a request in the queue
is neither.
-/

namespace VirtualCamera

/-- The buffers that are kept of a sequence of waits. -/
def Mapping.kept (waits : List (Mapping × Except FenceFault Unit)) : List Mapping :=
  waits.filterMap fun p => p.2.toOption.map fun _ => p.1

theorem Mapping.kept_concat (waits : List (Mapping × Except FenceFault Unit)) (s : Store)
    (m : Mapping) :
    kept (waits ++ [(m, s.outcome m)]) = kept waits ++ (s.settle m).2.toList := by
  unfold Store.settle
  cases s.outcome m <;> simp [kept, Except.toOption]

theorem Mapping.mem_kept {waits : List (Mapping × Except FenceFault Unit)} {m : Mapping} :
    m ∈ kept waits ↔ (m, .ok ()) ∈ waits := by
  constructor
  · intro hm
    obtain ⟨⟨k, outcome⟩, hk, heq⟩ := List.mem_filterMap.mp hm
    cases outcome with
    | ok =>
        obtain rfl : k = m := Option.some.inj heq
        exact hk
    | error => cases heq
  · exact fun hm => List.mem_filterMap.mpr ⟨_, hm, rfl⟩

/-- The mapped buffers of a request that was admitted, and where they come
from. -/
theorem CaptureRequest.AdmittedAs.isOf {σ : Type} {E : Engine σ} {frame : UInt32}
    {table : List Pipeline} {r : CaptureRequest} {a : Admission}
    (h : r.AdmittedAs E frame table a) :
    (∀ m ∈ a.outputs.getD [], ∃ attachment ∈ r.outputs, m.IsOf a.tag attachment) ∧
      ∀ m ∈ a.inputs.getD [], ∃ attachment ∈ r.inputs, m.IsOf a.tag attachment := by
  obtain ⟨p, s, t, -, hmade⟩ := h
  constructor
  · exact fun m hm => Store.isOf_of_mem_mapAll hmade.outputs hm
  · exact fun m hm => Store.isOf_of_mem_mapAll hmade.inputs hm

namespace Occurrence

def request? : Occurrence → Option Admission
  | admitted _ a => some a
  | _ => none

def wait? : Occurrence → Option (Mapping × Except FenceFault Unit)
  | waited m outcome => some (m, outcome)
  | _ => none

@[simp] theorem request?_effect (e : Effect) (speaker : Speaker) :
    (e.occurrence speaker).request? = none := by
  cases e <;> rfl

@[simp] theorem wait?_effect (e : Effect) (speaker : Speaker) :
    (e.occurrence speaker).wait? = none := by
  cases e <;> rfl

end Occurrence

/-! ## Requests that were decided -/

namespace Ledger

/-- The requests that the worker took and those that have their outcome. -/
def taken (b : Ledger) : List FrameTag :=
  b.outcomes.map (·.1) ++ b.inHand

theorem Step.taken_subset {b b' : Ledger} (h : b.Step b') : b.taken ⊆ b'.taken := by
  intro tag htag
  cases h with
  | handOver hu | lose hu | fail hu | tell hu | report hu =>
      simp_all [taken, inHand]
  | take hsettled =>
      obtain ⟨hundecided, hfailing, -⟩ := hsettled
      simp_all [taken, inHand]
  | still | admitOne | drain => exact htag

theorem Balanced.not_mem_taken {b : Ledger} (hb : b.Balanced) {tag : FrameTag}
    (htag : tag ∈ b.waiting) : tag ∉ b.taken := by
  intro htaken
  have hnodup := hb.nodup
  rw [← hb.balance, List.nodup_append] at hnodup
  exact hnodup.2.2 tag (List.mem_append_left _ htaken) tag htag rfl

end Ledger

namespace Camera

variable {σ : Type} {E : Engine σ} {c d : Camera σ} {sensor : σ} {tag : FrameTag}

/-! ## Waits in the record -/

/-- The requests that were admitted, with their mapped buffers. -/
def requests (c : Camera σ) : List Admission :=
  c.stage.history Occurrence.request?

/-- All waits for fences and how they ended, in order. -/
def waits (c : Camera σ) : List (Mapping × Except FenceFault Unit) :=
  c.stage.history Occurrence.wait?

def waitsFor (c : Camera σ) (tag : FrameTag) : List (Mapping × Except FenceFault Unit) :=
  c.waits.filter (·.1.tag = tag)

theorem tags_of_requests (c : Camera σ) : c.requests.map (·.tag) = c.admissions := by
  rw [requests, admissions, Stage.history, Stage.history, List.map_filterMap]
  refine congrArg (List.filterMap · c.stage.record.reverse) (funext fun o => ?_)
  cases o <;> rfl

/-- These outputs are what was kept of the waits for the outputs of a request. -/
def Awaited (c : Camera σ) (tag : FrameTag) (outputs : List Mapping) : Prop :=
  ∃ a ∈ c.requests, a.tag = tag ∧ ∃ waits, waits <+: c.waitsFor tag ∧
    waits.map (·.1) = a.outputs.getD [] ∧ outputs = Mapping.kept waits

theorem Awaited.mono {outputs : List Mapping} (hrequests : c.requests ⊆ d.requests)
    (hwaits : c.waits <+: d.waits) (h : c.Awaited tag outputs) : d.Awaited tag outputs := by
  obtain ⟨a, ha, htag, waits, hprefix, hmap, houtputs⟩ := h
  exact ⟨a, hrequests ha, htag, waits, hprefix.trans (hwaits.filter _), hmap, houtputs⟩

theorem Awaited.of_suffix {outputs : List Mapping} (hrecord : c.stage.record <:+ d.stage.record)
    (h : c.Awaited tag outputs) : d.Awaited tag outputs :=
  h.mono (Stage.history_prefix hrecord _).subset (Stage.history_prefix hrecord _)

/-- How far the worker has come with the waits for its request. -/
def WorkerAwaits (c : Camera σ) : Worker → Prop
  | .resolving a => a ∈ c.requests ∧ c.waitsFor a.tag = []
  | .awaitingOutputs a _ kept left =>
    a ∈ c.requests ∧ (c.waitsFor a.tag).map (·.1) ++ left = a.outputs.getD [] ∧
      kept = Mapping.kept (c.waitsFor a.tag)
  | .recording a _ _ outputs => a ∈ c.requests ∧ c.Awaited a.tag outputs
  | .awaitingInputs tag shot left => c.Awaited tag shot.outputs ∧ ∀ m ∈ left, m.tag = tag
  | .checking | .ready | .finishing .. | .unwinding _ | .unpaced | .pacing _ | .ended => True

/-- Every wait was for a request that was taken, and every shot that was handed
over has the outputs that were kept. -/
structure Awaiting (E : Engine σ) (c : Camera σ) : Prop where
  requests : ∀ a ∈ c.requests, ∃ frame table r, CaptureRequest.AdmittedAs E frame table r a
  queue : c.queue ⊆ c.requests
  waited : ∀ p ∈ c.waits, p.1.tag ∈ c.ledger.taken
  worker : c.WorkerAwaits c.worker
  handOvers : ∀ p ∈ c.handOvers, c.Awaited p.1 p.2.outputs

theorem WorkerAwaits.mono {w : Worker} (hrequests : c.requests ⊆ d.requests)
    (hwaits : d.waits = c.waits) (h : c.WorkerAwaits w) : d.WorkerAwaits w := by
  have hawaited {tag : FrameTag} {outputs : List Mapping} (h : c.Awaited tag outputs) :
      d.Awaited tag outputs := h.mono hrequests (hwaits ▸ List.prefix_rfl)
  have hsame (tag : FrameTag) : d.waitsFor tag = c.waitsFor tag := by
    rw [waitsFor, hwaits, waitsFor]
  cases w with
  | resolving a => exact ⟨hrequests h.1, (hsame _).trans h.2⟩
  | awaitingOutputs a resolved kept left =>
      obtain ⟨hrequest, houtputs, hkept⟩ := h
      rw [← hsame] at houtputs hkept
      exact ⟨hrequests hrequest, houtputs, hkept⟩
  | recording a settings sensor outputs => exact ⟨hrequests h.1, hawaited h.2⟩
  | awaitingInputs tag shot left => exact ⟨hawaited h.1, h.2⟩
  | _ => trivial

/-- Nothing is admitted, awaited or handed over. -/
def Idles (c d : Camera σ) : Prop :=
  d.requests = c.requests ∧ d.waits = c.waits ∧ d.handOvers = c.handOvers

theorem Awaiting.still (h : c.Awaiting E) (hledger : c.ledger.Step d.ledger) (hidle : c.Idles d)
    (hqueue : d.queue ⊆ c.queue) (hworker : c.WorkerAwaits d.worker) : d.Awaiting E := by
  obtain ⟨hrequests, hwaits, hhanded⟩ := hidle
  have hsame : c.requests ⊆ d.requests := hrequests ▸ List.Subset.refl _
  refine ⟨hrequests ▸ h.requests, fun a ha => hsame (h.queue (hqueue ha)),
    fun p hp => hledger.taken_subset (h.waited p (hwaits ▸ hp)), hworker.mono hsame hwaits,
    fun p hp => (h.handOvers p (hhanded ▸ hp)).mono hsame (hwaits ▸ List.prefix_rfl)⟩

theorem idles_of_record {l : List Occurrence} (hrecord : d.stage.record = l ++ c.stage.record)
    (hquiet : ∀ o ∈ l, o.request? = none ∧ o.wait? = none ∧ o.handOver? = none) :
    c.Idles d := by
  have hnone {α : Type} (f : Occurrence → Option α) (hf : ∀ o ∈ l, f o = none) :
      d.stage.history f = c.stage.history f := by
    have hnew : l.reverse.filterMap f = [] :=
      List.filterMap_eq_nil_iff.mpr fun o ho => hf o (List.mem_reverse.mp ho)
    simp [Stage.history, hrecord, hnew]
  exact ⟨hnone _ fun o ho => (hquiet o ho).1, hnone _ fun o ho => (hquiet o ho).2.1,
    hnone _ fun o ho => (hquiet o ho).2.2⟩

theorem idles_note {o : Occurrence} (hrecord : d.stage.record = o :: c.stage.record)
    (hquiet : o.request? = none ∧ o.wait? = none ∧ o.handOver? = none) : c.Idles d :=
  idles_of_record (l := [o]) hrecord (by simpa using hquiet)

theorem idles_perform {speaker : Speaker} {e : Effect}
    (hrecord : d.stage.record = (c.stage.perform speaker e).record) : c.Idles d :=
  idles_note (hrecord.trans (c.stage.perform_record speaker e)) (by simp)

/-- The worker's wait for a buffer of the request that it has is over. -/
theorem Awaiting.wait {m : Mapping} (h : c.Awaiting E)
    (hledger : c.ledger.Step d.ledger)
    (hrecord : d.stage.record = .waited m (c.stage.store.outcome m) :: c.stage.record)
    (hqueue : d.queue = c.queue) (hundecided : m.tag ∈ c.worker.undecided)
    (hworker : d.WorkerAwaits d.worker) : d.Awaiting E := by
  have hrequests : d.requests = c.requests := by
    simp [Camera.requests, Stage.history, hrecord, Occurrence.request?]
  have hwaits : d.waits = c.waits ++ [(m, c.stage.store.outcome m)] := by
    simp [waits, Stage.history, hrecord, Occurrence.wait?]
  have hhanded : d.handOvers = c.handOvers := by
    simp [Camera.handOvers, Stage.history, hrecord, Occurrence.handOver?]
  have hsuffix : c.stage.record <:+ d.stage.record := hrecord ▸ List.suffix_cons _ _
  refine ⟨hrequests ▸ h.requests, hqueue ▸ hrequests ▸ h.queue, fun p hp => ?_, hworker,
    fun p hp => (h.handOvers p (hhanded ▸ hp)).of_suffix hsuffix⟩
  refine hledger.taken_subset ?_
  rw [hwaits, List.mem_append, List.mem_singleton] at hp
  rcases hp with hp | rfl
  · exact h.waited p hp
  · exact List.mem_append_right _ (List.mem_append_left _ hundecided)

theorem Awaiting.admission {i : Nat} {a : Admission} (h : c.Awaiting E)
    (hledger : c.ledger.Step d.ledger)
    (hrecord : d.stage.record = .admitted i a :: c.stage.record)
    (hqueue : d.queue = c.queue ++ [a]) (hworker : d.worker = c.worker)
    (hadmitted : ∃ frame table r, CaptureRequest.AdmittedAs E frame table r a) : d.Awaiting E := by
  have hrequests : d.requests = c.requests ++ [a] := by
    simp [Camera.requests, Stage.history, hrecord, Occurrence.request?]
  have hwaits : d.waits = c.waits := by
    simp [waits, Stage.history, hrecord, Occurrence.wait?]
  have hhanded : d.handOvers = c.handOvers := by
    simp [Camera.handOvers, Stage.history, hrecord, Occurrence.handOver?]
  have hold : c.requests ⊆ d.requests := hrequests ▸ List.subset_append_left _ _
  refine ⟨fun b hb => ?_, fun b hb => ?_, fun p hp => ?_, ?_, fun p hp => ?_⟩
  · rw [hrequests, List.mem_append, List.mem_singleton] at hb
    rcases hb with hb | rfl
    · exact h.requests b hb
    · exact hadmitted
  · rw [hqueue, List.mem_append, List.mem_singleton] at hb
    rcases hb with hb | rfl
    · exact hold (h.queue hb)
    · rw [hrequests]
      simp
  · exact hledger.taken_subset (h.waited p (hwaits ▸ hp))
  · rw [hworker]
    exact h.worker.mono hold hwaits
  · exact (h.handOvers p (hhanded ▸ hp)).mono hold (hwaits ▸ List.prefix_rfl)

theorem waitsFor_wait {m : Mapping} {outcome : Except FenceFault Unit}
    (hrecord : d.stage.record = .waited m outcome :: c.stage.record) (htag : m.tag = tag) :
    d.waitsFor tag = c.waitsFor tag ++ [(m, outcome)] := by
  simp [waitsFor, waits, Stage.history, hrecord, Occurrence.wait?, htag]

theorem Transition.awaiting {m : Move} (ho : c.Orderly) (hbalanced : c.ledger.Balanced)
    (h : Transition E c m d) (ha : c.Awaiting E) : d.Awaiting E := by
  have hledger := h.ledger ho
  have hsuffix := h.record_suffix
  have hworker := ha.worker
  cases h with
  | @take a rest hw hfree hlock hq =>
      have hqueue : rest ⊆ c.queue := by simp [hq]
      refine ha.still hledger (idles_note rfl ⟨rfl, rfl, rfl⟩) hqueue ⟨ha.queue (by simp [hq]), ?_⟩
      -- a wait for it would mean that it was taken before
      refine List.filter_eq_nil_iff.mpr fun p hp heq => ?_
      have hwaiting : a.tag ∈ c.ledger.waiting := by simp [ledger_def, hq]
      refine hbalanced.not_mem_taken hwaiting ?_
      rw [← of_decide_eq_true heq]
      exact ha.waited p hp
  | @resolve a controls sensor hw =>
      rw [hw] at hworker
      obtain ⟨hrequest, hnone⟩ := hworker
      refine ha.still hledger (idles_note rfl ⟨rfl, rfl, rfl⟩) (List.Subset.refl _)
        ⟨hrequest, ?_, ?_⟩
      · rw [hnone]
        rfl
      · rw [hnone]
        rfl
  | @outputsAwaited a resolved kept hw =>
      rw [hw] at hworker
      obtain ⟨hrequest, houtputs, hkept⟩ := hworker
      rw [List.append_nil] at houtputs
      refine ha.still hledger ⟨rfl, rfl, rfl⟩ (List.Subset.refl _) ?_
      rcases outputsAwaited_cases a resolved kept with ⟨s, sensor, heq, -⟩ | heq
      · simp only [heq]
        exact ⟨hrequest, a, hrequest, rfl, c.waitsFor a.tag, List.prefix_rfl, houtputs, hkept⟩
      · simp only [heq]
        trivial
  | @awaitOutput a resolved kept left m hw =>
      rw [hw] at hworker
      obtain ⟨hrequest, houtputs, hkept⟩ := hworker
      obtain ⟨frame, table, r, hadmitted⟩ := ha.requests a hrequest
      have hmem : m ∈ a.outputs.getD [] := by
        rw [← houtputs]
        simp
      obtain ⟨attachment, -, hm⟩ := hadmitted.isOf.1 m hmem
      have hwaits := waitsFor_wait (d := { (c.settle m).1 with
        worker := .awaitingOutputs a resolved (kept ++ (c.settle m).2.toList) left }) rfl hm.tag
      refine ha.wait hledger rfl rfl (by simp [hw, Worker.undecided, hm.tag]) ⟨?_, ?_, ?_⟩
      · simpa [Camera.requests, Occurrence.request?] using hrequest
      · rw [hwaits, ← houtputs]
        simp
      · rw [hwaits, Mapping.kept_concat, ← hkept]
        rfl
  | @record a settings sensor outputs hw =>
      rw [hw] at hworker
      obtain ⟨hrequest, hawaited⟩ := hworker
      obtain ⟨frame, table, r, hadmitted⟩ := ha.requests a hrequest
      refine ha.still hledger ⟨rfl, rfl, rfl⟩ (List.Subset.refl _) ⟨hawaited, fun m hm => ?_⟩
      cases hi : Mapping.awaited a.inputs with
      | none => simp [hi] at hm
      | some ms =>
          have hmem : m ∈ a.inputs.getD [] := by
            rw [Mapping.eq_of_awaited_eq_some hi]
            simpa [hi] using hm
          obtain ⟨attachment, -, hm⟩ := hadmitted.isOf.2 m hmem
          exact hm.tag
  | @awaitInput tag shot left m hw =>
      rw [hw] at hworker
      obtain ⟨hawaited, htags⟩ := hworker
      have htag : m.tag = tag := htags m List.mem_cons_self
      refine ha.wait hledger rfl rfl (by simp [hw, Worker.undecided, htag]) ⟨?_, fun k hk => ?_⟩
      · exact hawaited.of_suffix hsuffix
      · exact htags k (List.mem_cons_of_mem _ hk)
  | @handOver tag shot hw =>
      rw [hw] at hworker
      refine ⟨fun a hrequest => ha.requests a ?_, fun a hqueued => ?_, fun p hp => ?_, trivial,
        fun p hp => ?_⟩
      · simpa [Camera.requests, Occurrence.request?] using hrequest
      · simpa [Camera.requests, Occurrence.request?] using ha.queue hqueued
      · exact hledger.taken_subset (ha.waited p (by simpa [waits, Occurrence.wait?] using hp))
      · simp only [Camera.handOvers, Stage.history_note, Stage.history_mk, Occurrence.handOver?,
          Option.toList_some, List.mem_append, List.mem_singleton] at hp
        rcases hp with hp | rfl
        · exact (ha.handOvers p hp).of_suffix hsuffix
        · exact hworker.1.of_suffix hsuffix
  | @admitOne l r i phase frame table q left p store a hc hgo hcheck hroom hmap =>
      exact ha.admission hledger rfl rfl rfl
        ⟨frame, table, q, p, _, _, hcheck, (mapRequest_eq_ok hmap).2⟩
  | sensor hs =>
      obtain ⟨sensor, effects, -, rfl⟩ := Stage.sensorStep?_eq_some hs
      refine ha.still hledger (idles_of_record (Stage.performAll_record _ _ _) ?_)
        (List.Subset.refl _) hworker
      intro o ho
      obtain ⟨e, -, rfl⟩ := List.mem_map.mp (List.mem_reverse.mp ho)
      simp
  | check hw =>
      refine ha.still hledger ⟨rfl, rfl, rfl⟩ (List.Subset.refl _) ?_
      cases hs : c.isStopping <;> trivial
  | perform | unwind =>
      exact ha.still hledger (idles_perform rfl) (List.Subset.refl _) trivial
  | clear | report | closeEffect =>
      exact ha.still hledger (idles_perform rfl) (List.Subset.refl _) hworker
  | idle | finished | unwound | beginPacing =>
      exact ha.still hledger ⟨rfl, rfl, rfl⟩ (List.Subset.refl _) trivial
  | crash | skipPacing | pace | giveUp =>
      exact ha.still hledger (idles_note rfl ⟨rfl, rfl, rfl⟩) (List.Subset.refl _) trivial
  | enter | park | submit | flush | flushSensor | stop | halt | close | fence =>
      exact ha.still hledger ⟨rfl, rfl, rfl⟩ (List.Subset.refl _) hworker
  | submitted | refuse | abort | expire | flushed | stopAgain | stopped =>
      exact ha.still hledger (idles_note rfl ⟨rfl, rfl, rfl⟩) (List.Subset.refl _) hworker
  | drain =>
      exact ha.still hledger (idles_note rfl ⟨rfl, rfl, rfl⟩) (List.nil_subset _) hworker

theorem Reachable.awaiting (hc : Reachable E sensor c) : c.Awaiting E := by
  induction hc with
  | created h =>
      obtain rfl := create_eq h
      exact ⟨by simp [requests, Stage.history], by simp, by simp [waits, Stage.history], trivial,
        by simp [handOvers, Stage.history]⟩
  | next hc h ih => exact (hc.transition h).awaiting hc.orderly hc.balanced ih

end Camera

/-! ## One wait at a time -/

/-- The buffer that the worker waits for. -/
def Worker.awaits? : Worker → Option Mapping
  | awaitingOutputs _ _ _ left | awaitingInputs _ _ left => left.head?
  | checking | ready | resolving _ | recording .. | finishing .. | unwinding _ | unpaced
  | pacing _ | ended => none

namespace Camera

variable {σ : Type} {E : Engine σ} {c d : Camera σ} {sensor : σ}

/-- Nobody waits but the worker, and a wait ends as the fence stands at that moment. -/
theorem Transition.waits_of_worker {m : Move} (h : Transition E c m d) :
    d.waits = c.waits ∨ ∃ k, m = .worker ∧ c.worker.awaits? = some k ∧
      d.waits = c.waits ++ [(k, c.stage.store.outcome k)] := by
  cases h with
  | @awaitOutput a resolved ready left k hw =>
      exact .inr ⟨k, rfl, by rw [hw]; rfl, by simp [waits, Occurrence.wait?]⟩
  | @awaitInput tag shot left k hw =>
      exact .inr ⟨k, rfl, by rw [hw]; rfl, by simp [waits, Occurrence.wait?]⟩
  | sensor hs =>
      obtain ⟨sensor, effects, -, rfl⟩ := Stage.sensorStep?_eq_some hs
      exact .inl (by simp [waits])
  | perform | unwind | clear | report | closeEffect => exact .inl (by simp [waits])
  | _ => exact .inl (by simp [waits, Occurrence.wait?, begin, paced])

/-- The worker waits for buffers of the request that it has. -/
theorem Reachable.tag_mem_inHand_of_awaits (hc : Reachable E sensor c) {k : Mapping}
    (hk : c.worker.awaits? = some k) : k.tag ∈ c.inHand := by
  have htagged := hc.tagged.worker
  have hawaits := hc.awaiting.worker
  rw [inHand, Ledger.inHand, ledger_def]
  cases hw : c.worker with
  | awaitingOutputs a resolved ready left =>
      rw [hw] at hk htagged
      have htag : k.tag = a.tag := htagged.2 k (List.mem_of_mem_head? hk)
      simp [Worker.undecided, htag]
  | awaitingInputs tag shot left =>
      rw [hw] at hk hawaits
      have htag : k.tag = tag := hawaits.2 k (List.mem_of_mem_head? hk)
      simp [Worker.undecided, htag]
  | _ =>
      rw [hw] at hk
      cases hk

end Camera

end VirtualCamera
