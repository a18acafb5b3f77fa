import VirtualCamera.Proofs.Dispatch
import VirtualCamera.Proofs.Custody

/-!
# An imported fence is the client's own

The fence that comes with a buffer is imported when the buffer is mapped, and it
is awaited later, when the worker has the request.  To import a fence is to look
at it once, that it is open (`Store.fence_ne_closed_of_resolve?`); no copy of it
is made.  So what a wait finds is the last thing that a client made of the fence
(`Reachable.fence_of_run?`): nobody else changes fences (`Transition.fence_eq`).

A client that signals a fence and closes it afterwards takes the signal back from
everybody who has not waited yet.  Its buffer is lost if the worker comes to it
after that, and kept if the worker comes to it in between or the client signals
once more (`waits_follow_clients`).
-/

namespace VirtualCamera

/-! ## Who changes fences -/

namespace Store

variable {s : Store} {override : PixelFormat → PixelFormat} {tag : FrameTag}
  {streams : List Stream} {x : Attachment} {i : Nat}

theorem fence_setFence (hi : i < s.fences.size) (j : Nat) (f : Fence) :
    (s.setFence j f).fence i = if j = i then f else s.fence i := by
  simp only [fence, setFence, Array.getElem?_modify]
  split <;> simp_all

theorem lt_size_of_fence_ne_closed (h : s.fence i ≠ .closed) : i < s.fences.size := by
  by_contra hle
  exact h (by simp [fence, Array.getElem?_eq_none (Nat.le_of_not_lt hle)])

/-- What is mapped comes with an open fence, or with none. -/
theorem fence_ne_closed_of_resolve? {m : Mapping}
    (h : s.resolve? override tag streams x = some m) (hi : m.fence = some i) :
    s.fence i ≠ .closed := by
  obtain ⟨stream, -, hmap⟩ := Option.bind_eq_some_iff.mp h
  unfold map at hmap
  simp only at hmap
  split at hmap
  · cases hmap
  · rename_i locked planes hlock
    obtain ⟨rfl, -⟩ := lockPlanes_eq_ok hlock
    split at hmap
    · rename_i hopen
      cases hmap
      rw [show x.fence = some i from hi] at hopen
      simpa [Fence.importable, fence] using hopen
    · cases hmap

theorem settle_of_fence {k : Mapping} (hi : k.fence = some i) :
    s.settle k = if s.fence i = .signaled then (s, some k) else (s.release k.buffer, none) := by
  have houtcome : s.outcome k = (s.fence i).outcome := by rw [outcome, hi]
  unfold settle
  rw [houtcome]
  cases s.fence i <;> rfl

theorem fences_settle (s : Store) (m : Mapping) : (s.settle m).1.fences = s.fences := by
  unfold settle
  cases s.outcome m <;> rfl

end Store

namespace Stage

variable {σ : Type}

theorem fences_perform (s : Stage σ) (speaker : Speaker) (e : Effect) :
    (s.perform speaker e).store.fences = s.store.fences := by
  cases e <;> rfl

theorem fences_performAll (s : Stage σ) (speaker : Speaker) (effects : List Effect) :
    (s.performAll speaker effects).store.fences = s.store.fences := by
  induction effects generalizing s with
  | nil => rfl
  | cons e rest ih => exact (ih _).trans (s.fences_perform speaker e)

end Stage

namespace Admission

variable {σ : Type} {E : Engine σ} {frame : UInt32} {p : Pipeline} {r : CaptureRequest}
  {s t : Store} {a : Admission}

theorem MadeFrom.fences_eq (h : a.MadeFrom E frame p r s t) : t.fences = s.fences :=
  h.store_induct (P := fun t => t.fences = s.fences) rfl (fun _ _ => id) (fun _ _ => id)

/-- The fences of an admitted request were open when it was admitted. -/
theorem MadeFrom.fence_ne_closed (h : a.MadeFrom E frame p r s t) {k : Mapping} {i : Nat}
    (hk : k ∈ a.mappings) (hi : k.fence = some i) : s.fence i ≠ .closed := by
  obtain ⟨houtputs, hinputs⟩ := h.isResolvedIn
  rw [mappings, houtputs, hinputs, List.mem_append, List.mem_filterMap, List.mem_filterMap] at hk
  rcases hk with ⟨x, -, hx⟩ | ⟨x, -, hx⟩ <;> exact Store.fence_ne_closed_of_resolve? hx hi

end Admission

namespace Camera

variable {σ : Type} {E : Engine σ} {b c d : Camera σ} {sensor : σ} {m : Move} {i : Nat}

/-- What a client makes of a fence by a move. -/
def Move.change? (i : Nat) : Move → Option Fence
  | fence j f => if j = i then some f else none
  | submit .. | flush | stop | advance _ | expire _ | worker | giveUp | .sensor => none

/-- All that clients make of a fence, in order. -/
def changes (i : Nat) (moves : List Move) : List Fence :=
  moves.filterMap (Move.change? i)

theorem fences_mapRequest {frame : UInt32} {p : Pipeline} {q : CaptureRequest} {store : Store}
    {mapped : Except Crash Admission} (hmap : c.mapRequest E frame p q = (store, mapped)) :
    store.fences = c.stage.store.fences :=
  mapRequest_induct (P := fun t => t.fences = c.stage.store.fences) rfl (fun _ _ => id)
    (fun _ _ => id) hmap

theorem Transition.fences_cases (h : Transition E c m d) :
    (∃ j f, m = .fence j f ∧ d.stage.store = c.stage.store.setFence j f) ∨
      (∀ i, m.change? i = none) ∧ d.stage.store.fences = c.stage.store.fences := by
  cases h with
  | @fence j f => exact .inl ⟨j, f, rfl, rfl⟩
  | admitOne hc hgo hcheck hroom hmap | abort hc hgo hcheck hroom hmap =>
      exact .inr ⟨fun _ => rfl, fences_mapRequest hmap⟩
  | awaitOutput | awaitInput => exact .inr ⟨fun _ => rfl, Store.fences_settle _ _⟩
  | perform | unwind | clear | report | closeEffect =>
      exact .inr ⟨fun _ => rfl, Stage.fences_perform _ _ _⟩
  | sensor hs =>
      obtain ⟨sensor, effects, -, rfl⟩ := Stage.sensorStep?_eq_some hs
      exact .inr ⟨fun _ => rfl, Stage.fences_performAll _ _ _⟩
  | _ => exact .inr ⟨fun _ => rfl, rfl⟩

theorem Transition.fences_size (h : Transition E c m d) :
    d.stage.store.fences.size = c.stage.store.fences.size := by
  rcases h.fences_cases with ⟨j, f, -, hstore⟩ | ⟨-, hsame⟩
  · simp [hstore, Store.setFence]
  · rw [hsame]

theorem Transition.fence_eq (h : Transition E c m d) (hi : i < c.stage.store.fences.size) :
    d.stage.store.fence i = (m.change? i).getD (c.stage.store.fence i) := by
  rcases h.fences_cases with ⟨j, f, rfl, hstore⟩ | ⟨hnone, hsame⟩
  · rw [hstore, Store.fence_setFence hi, Move.change?]
    split <;> rfl
  · rw [hnone, Store.fence, hsame, Option.getD_none, Store.fence]

/-- A fence is as clients left it last. -/
theorem Reachable.fence_of_run? {moves : List Move} (hc : Reachable E sensor c)
    (hi : i < c.stage.store.fences.size) (hrun : c.run? E moves = some d) :
    d.stage.store.fence i = (changes i moves).getLastD (c.stage.store.fence i) := by
  induction moves generalizing c with
  | nil =>
      cases hrun
      rfl
  | cons m rest ih =>
      obtain ⟨b, hb, hrest⟩ := Option.bind_eq_some_iff.mp (run?_cons ▸ hrun)
      have hstep := hc.transition hb
      rw [ih (hc.next hb) (hstep.fences_size ▸ hi) hrest, hstep.fence_eq hi]
      unfold changes
      cases hchange : m.change? i with
      | none => rw [List.filterMap_cons_none hchange, Option.getD_none]
      | some f => rw [List.filterMap_cons_some hchange, List.getLastD_cons, Option.getD_some]

end Camera

/-! ## What clients do to a fence -/

namespace Fence

/-- A fence was signaled, and it was not closed after that. -/
def StaysSignaled (changes : List Fence) : Prop :=
  ∃ l r, changes = l ++ signaled :: r ∧ closed ∉ r

/-- Clients that signal a fence and close it leave it signaled or closed. -/
theorem getLastD_of_signaled {changes : List Fence} (f : Fence)
    (hclient : ∀ g ∈ changes, g = signaled ∨ g = closed) (hsignal : signaled ∈ changes) :
    (changes.getLastD f = signaled ∨ changes.getLastD f = closed) ∧
      (changes.getLastD f = signaled ↔ StaysSignaled changes) := by
  have hne : changes ≠ [] := List.ne_nil_of_mem hsignal
  rw [List.getLastD_eq_getLast?, List.getLast?_eq_some_getLast hne, Option.getD_some]
  refine ⟨hclient _ (List.getLast_mem hne), fun hlast => ?_, ?_⟩
  · refine ⟨changes.dropLast, [], ?_, List.not_mem_nil⟩
    rw [← hlast, List.dropLast_append_getLast hne]
  · rintro ⟨l, r, rfl, hopen⟩
    -- what follows that signal is signals
    have hmem : (signaled :: r).getLast (by simp) ∈ signaled :: r := List.getLast_mem _
    rw [List.getLast_append_of_ne_nil (by simp) (by simp)]
    rcases List.mem_cons.mp hmem with heq | hr
    · exact heq
    · refine (hclient _ ?_).resolve_right fun heq => hopen (heq ▸ hr)
      exact List.mem_append_right _ hmem

/-- Nobody has to wait for a fence that is not pending. -/
theorem waitAcross_of_ne_pending {f : Fence} (h : f ≠ pending) (budget delay : Nat)
    (change : Option Fence) :
    (f.waitAcross budget delay change).1 = f.outcome ∧ f.waitTime budget delay change = 0 := by
  have hsettled : f.isSettled = true := by simpa [isSettled] using h
  cases change <;> simp [waitAcross, waitTime, hsettled]

end Fence

/-! ## Waits of the worker -/

/-- The buffers that the worker kept of those that it waits for together. -/
def Worker.kept : Worker → List Mapping
  | awaitingOutputs _ _ kept _ => kept
  | awaitingInputs _ shot _ => shot.inputs.getD []
  | checking | ready | resolving _ | recording .. | finishing .. | unwinding _ | unpaced
  | pacing _ | ended => []

namespace Camera

variable {σ : Type} {E : Engine σ} {b c d e : Camera σ} {sensor : σ} {m : Move} {i : Nat}
  {a : Admission} {k : Mapping}

/-- The worker's wait for a buffer ends, and its fence stands like this: the
buffer is kept if the fence is signaled, and given back otherwise. -/
structure EndsWait (E : Engine σ) (c : Camera σ) (k : Mapping) (f : Fence) (d : Camera σ) :
    Prop where
  step : c.step? E .worker = some d
  waits : d.waits = c.waits ++ [(k, f.outcome)]
  kept : d.worker.kept = c.worker.kept ++ if f = .signaled then [k] else []
  store : d.stage.store =
    if f = .signaled then c.stage.store else c.stage.store.release k.buffer

theorem endsWait_settle {w : Worker} (hi : k.fence = some i)
    (hstep : c.step? E .worker = some { (c.settle k).1 with worker := w })
    (hw : w.kept = c.worker.kept ++ (c.settle k).2.toList) :
    EndsWait E c k (c.stage.store.fence i) { (c.settle k).1 with worker := w } := by
  have houtcome : c.stage.store.outcome k = (c.stage.store.fence i).outcome := by
    rw [Store.outcome, hi]
  have hsettle := Store.settle_of_fence hi (s := c.stage.store)
  refine ⟨hstep, ?_, hw.trans (congrArg _ ?_), ?_⟩
  · simp [waits, Occurrence.wait?, houtcome]
  · simp only [settle, hsettle]
    split <;> rfl
  · simp only [settle, hsettle, Stage.note]
    split <;> rfl

theorem Reachable.exists_endsWait (hc : Reachable E sensor c) (hk : c.worker.awaits? = some k)
    (hi : k.fence = some i) : ∃ d, EndsWait E c k (c.stage.store.fence i) d := by
  have hinputs := hc.keepsInputs
  cases hw : c.worker with
  | awaitingOutputs a resolved ready left =>
      rw [hw] at hk
      obtain ⟨rest, rfl⟩ := List.head?_eq_some_iff.mp hk
      exact ⟨_, endsWait_settle hi
        (w := .awaitingOutputs a resolved (ready ++ (c.settle k).2.toList) rest)
        (by simp [step?, workerStep?, hw]) (by rw [hw]; rfl)⟩
  | awaitingInputs tag shot left =>
      rw [hw] at hk hinputs
      obtain ⟨rest, rfl⟩ := List.head?_eq_some_iff.mp hk
      obtain ⟨inputs, hsome⟩ := Option.ne_none_iff_exists'.mp fun hnone =>
        List.cons_ne_nil _ _ (hinputs hnone)
      exact ⟨_, endsWait_settle hi
        (w := .awaitingInputs tag
          { shot with inputs := shot.inputs.map (· ++ (c.settle k).2.toList) } rest)
        (by simp [step?, workerStep?, hw]) (by simp [Worker.kept, hw, hsome])⟩
  | _ =>
      rw [hw] at hk
      cases hk

theorem Transition.requests_cases (h : Transition E c m d) :
    d.requests = c.requests ∨ ∃ a frame p r, d.requests = c.requests ++ [a] ∧
      a.MadeFrom E frame p r c.stage.store d.stage.store := by
  cases h with
  | @admitOne l r i phase frame table q left p store a hc hgo hcheck hroom hmap =>
      refine .inr ⟨a, frame, p, q, ?_, (mapRequest_eq_ok hmap).2⟩
      simp [requests, Occurrence.request?]
  | sensor hs =>
      obtain ⟨sensor, effects, -, rfl⟩ := Stage.sensorStep?_eq_some hs
      exact .inl (by simp [requests])
  | perform | unwind | clear | report | closeEffect => exact .inl (by simp [requests])
  | _ => exact .inl (by simp [requests, Occurrence.request?, begin, paced])

/-- A fence that is imported with a buffer is open at that moment.  From then on it is
what clients made of it last, for everybody who waits for it, and a buffer is kept if
that was to signal it.  So of clients that only signal the fence and close it, and have
signaled it, every wait ends at once: well if they did not close the fence after a
signal, and badly otherwise. -/
theorem waits_follow_clients (hc : Reachable E sensor c) (hadmission : c.step? E m = some b)
    (ha : a ∈ b.requests) (hnew : a ∉ c.requests) (hk : k ∈ a.mappings)
    (hi : k.fence = some i) :
    c.stage.store.fence i ≠ .closed ∧
      ∀ moves d, b.run? E moves = some d →
        d.stage.store.fence i = (changes i moves).getLastD (c.stage.store.fence i) ∧
        (d.worker.awaits? = some k → ∃ e, EndsWait E d k (d.stage.store.fence i) e) ∧
        ((∀ g ∈ changes i moves, g = .signaled ∨ g = .closed) → .signaled ∈ changes i moves →
          (d.stage.store.fence i = .signaled ∨ d.stage.store.fence i = .closed) ∧
          (d.stage.store.fence i = .signaled ↔ Fence.StaysSignaled (changes i moves)) ∧
          ∀ budget delay change,
            ((d.stage.store.fence i).waitAcross budget delay change).1 =
              (d.stage.store.fence i).outcome ∧
            (d.stage.store.fence i).waitTime budget delay change = 0) := by
  obtain ⟨a', frame, p, r, hrequests, hmade⟩ :=
    (hc.transition hadmission).requests_cases.resolve_left fun hsame => hnew (hsame ▸ ha)
  obtain rfl : a = a' := by
    rw [hrequests, List.mem_append, List.mem_singleton] at ha
    exact ha.resolve_left hnew
  have hopen := hmade.fence_ne_closed hk hi
  refine ⟨hopen, fun moves d hrun => ?_⟩
  -- the request was admitted, so the move left the fences as they were
  have hsame : b.stage.store.fence i = c.stage.store.fence i := by
    rw [Store.fence, hmade.fences_eq, Store.fence]
  have hb := hc.next hadmission
  have hlast := hb.fence_of_run? (Store.lt_size_of_fence_ne_closed (hsame ▸ hopen)) hrun
  rw [hsame] at hlast
  refine ⟨hlast, fun hwaits => (hb.run? hrun).exists_endsWait hwaits hi,
    fun hclient hsignal => ?_⟩
  obtain ⟨hsettled, hsignaled⟩ := Fence.getLastD_of_signaled (c.stage.store.fence i) hclient hsignal
  rw [← hlast] at hsettled hsignaled
  refine ⟨hsettled, hsignaled, Fence.waitAcross_of_ne_pending fun hpending => ?_⟩
  simp [hpending] at hsettled

open Sensor (Simulated)

/-- One output, with a fence. -/
def fencedOutput : CaptureRequest :=
  { Sample.preview with outputs := [⟨0, 0, some 0, .error⟩] }

/-- A submission has the lock and comes to its request. -/
def submitFenced : List Move :=
  [.submit 7 [fencedOutput] [Sample.pipeline], .advance 0]

/-- The client does this to its fence, the submission returns, and the worker comes to
the wait. -/
def awaitAfter (changes : List Fence) : List Move :=
  changes.map (.fence 0 ·) ++ .advance 0 :: List.replicate 3 .worker

def fencedCapture : Admission :=
  Sample.admission none (some [Sample.mapping 0 (some 0)])

/-- The client takes its signal back, and signals again. -/
theorem waits_follow_client_that_signals_twice :
    ∃ c b d e : Camera Simulated, fenced.run? Simulated.engine submitFenced = some c ∧
      c.step? Simulated.engine (.advance 0) = some b ∧
      b.run? Simulated.engine (awaitAfter [.signaled, .closed, .signaled]) = some d ∧
      ∃ k ∈ fencedCapture.mappings, k.fence = some 0 ∧ d.worker.awaits? = some k ∧
        EndsWait Simulated.engine d k .signaled e := by
  have hcreate : create {} ({ period := 0 } : Simulated) fenced.stage.store Sample.controls =
      .ok fenced := rfl
  have hrun : ((fenced.run? Simulated.engine submitFenced).bind fun c =>
      (c.step? Simulated.engine (.advance 0)).map fun b =>
        (decide (fencedCapture ∈ b.requests), decide (fencedCapture ∈ c.requests),
          (b.run? Simulated.engine (awaitAfter [.signaled, .closed, .signaled])).map fun d =>
            decide (∃ k ∈ fencedCapture.mappings,
              k.fence = some 0 ∧ d.worker.awaits? = some k))) =
      some (true, false, some true) := by
    decide +kernel
  obtain ⟨c, hc, hadmitted⟩ := Option.bind_eq_some_iff.mp hrun
  obtain ⟨b, hb, heq⟩ := Option.map_eq_some_iff.mp hadmitted
  simp only [Prod.mk.injEq, decide_eq_true_eq, decide_eq_false_iff_not] at heq
  obtain ⟨ha, hnew, hwaiting⟩ := heq
  obtain ⟨d, hd, hk⟩ := Option.map_eq_some_iff.mp hwaiting
  obtain ⟨k, hk, hfence, hwaits⟩ := of_decide_eq_true hk
  have hreach := (Reachable.created hcreate).run? hc
  obtain ⟨-, hends, hclient⟩ :=
    (waits_follow_clients hreach hb ha hnew hk hfence).2 _ d hd
  have hsignaled : d.stage.store.fence 0 = .signaled :=
    (hclient (by decide) (by decide)).2.1.mpr ⟨[.signaled, .closed], [], rfl, List.not_mem_nil⟩
  obtain ⟨e, he⟩ := hends hwaits
  exact ⟨c, b, d, e, hc, hb, hd, k, hk, hfence, hwaits, hsignaled ▸ he⟩

/-- The client signals its fence and closes it before the worker comes to the wait.
The wait goes wrong, nothing is left for the frame, and the listener is told so. -/
theorem signaled_buffer_is_lost_once_closed :
    ∃ b d e z : Camera Simulated,
      fenced.run? Simulated.engine (submitFenced ++ [.advance 0]) = some b ∧
      fencedCapture ∈ b.requests ∧
      b.run? Simulated.engine (awaitAfter [.signaled, .closed]) = some d ∧
      (∃ k ∈ fencedCapture.mappings, k.fence = some 0 ∧ d.worker.awaits? = some k ∧
        d.step? Simulated.engine .worker = some e ∧ e.waits = [(k, .error .failed)]) ∧
      e.run? Simulated.engine (List.replicate 2 .worker) = some z ∧
      z.shotsFor fencedCapture.tag = [] ∧
      z.outcomesFor fencedCapture.tag = [.told (fencedCapture.tag.failure .result)] := by
  have hrun : (fenced.run? Simulated.engine (submitFenced ++ [.advance 0])).map (fun b =>
      (decide (fencedCapture ∈ b.requests),
        (b.run? Simulated.engine (awaitAfter [.signaled, .closed])).bind fun d =>
          (d.step? Simulated.engine .worker).map fun e =>
            (decide (∃ k ∈ fencedCapture.mappings, k.fence = some 0 ∧
              d.worker.awaits? = some k ∧ e.waits = [(k, .error .failed)]),
              (e.run? Simulated.engine (List.replicate 2 .worker)).map fun z =>
                decide (z.shotsFor fencedCapture.tag = [] ∧
                  z.outcomesFor fencedCapture.tag =
                    [.told (fencedCapture.tag.failure .result)])))) =
      some (true, some (true, some true)) := by
    decide +kernel
  obtain ⟨b, hb, heq⟩ := Option.map_eq_some_iff.mp hrun
  simp only [Prod.mk.injEq, decide_eq_true_eq] at heq
  obtain ⟨ha, hclosed⟩ := heq
  obtain ⟨d, hd, hwaiting⟩ := Option.bind_eq_some_iff.mp hclosed
  obtain ⟨e, he, heq⟩ := Option.map_eq_some_iff.mp hwaiting
  simp only [Prod.mk.injEq, decide_eq_true_eq] at heq
  obtain ⟨⟨k, hk, hfence, hwaits, hfailed⟩, hlost⟩ := heq
  obtain ⟨z, hz, heq⟩ := Option.map_eq_some_iff.mp hlost
  obtain ⟨hshots, houtcomes⟩ := of_decide_eq_true heq
  exact ⟨b, d, e, z, hb, ha, hd, ⟨k, hk, hfence, hwaits, he, hfailed⟩, hz, hshots, houtcomes⟩

end Camera

end VirtualCamera
