import VirtualCamera.Proofs.Resolution

/-!
# What becomes of a request that the worker took

`Dispatching` says what the worker has done about a request in each of its
phases, and `Dispatched` what the request has come to in the end: one frame that
is handed over, made of all buffers whose wait went well, or one notice that
there will be no result.  A step of the worker leads from a phase to the next or
to the end (`Dispatching.workerStep`); the steps of others leave the phase alone
(`Dispatching.congr`), and once there is an outcome nothing is added for the
request (`Reachable.same_of_decided`).

The steps that are left to the outcome are counted (`Worker.untilOutcome`), and
none of them waits for anything but the queue lock (`Dispatching.exists_step`).
-/

namespace VirtualCamera

namespace Worker

/-- How many steps the worker takes at most to the outcome of its request. -/
def untilOutcome : Worker → Nat
  | resolving a => a.mappings.length + 4
  | awaitingOutputs a _ _ left => left.length + (a.inputs.getD []).length + 3
  | recording a .. => (a.inputs.getD []).length + 2
  | awaitingInputs _ _ left => left.length + 1
  | finishing _ effects | unwinding effects => (VirtualCamera.notices effects).length
  | checking | ready | unpaced | pacing _ | ended => 0

end Worker

/-! ## What becomes of a request -/

namespace Camera

/-- A move of the worker. -/
def Move.isWorker : Move → Bool
  | worker => true
  | submit .. | flush | stop | advance _ | expire _ | giveUp | .sensor | fence .. => false

variable {σ : Type} {E : Engine σ} {b c d e : Camera σ} {sensor : σ} {m : Move} {a : Admission}

@[simp] theorem waitsFor_mk_worker (c : Camera σ) (w : Worker) (tag : FrameTag) :
    waitsFor { c with worker := w } tag = c.waitsFor tag := rfl

theorem waitsFor_settle {k : Mapping} {tag : FrameTag} (w : Worker) (htag : k.tag = tag) :
    waitsFor { (c.settle k).1 with worker := w } tag =
      c.waitsFor tag ++ [(k, c.stage.store.outcome k)] :=
  waitsFor_wait rfl htag

/-- The outcomes of a request. -/
def outcomesFor (c : Camera σ) (tag : FrameTag) : List Outcome :=
  (c.outcomes.filter (·.1 = tag)).map (·.2)

/-- The shots that were handed over for a request. -/
def shotsFor (c : Camera σ) (tag : FrameTag) : List Shot :=
  (c.handOvers.filter (·.1 = tag)).map (·.2)

/-- These settings apply to a request, and they come to these sensor parameters. -/
def ComesTo (c : Camera σ) (a : Admission) (r : CaptureSettings) (x : SensorSettings) : Prop :=
  c.effectiveSettings a = some r ∧ (c.controls.apply r).2 = .ok x

/-- The settings that apply to a request do not crash the worker. -/
def Tolerates (c : Camera σ) (a : Admission) : Prop :=
  ∀ r crash, c.effectiveSettings a = some r →
    (c.controls.apply r).2 ≠ .error (.crashed crash)

/-- A shot for a request, with these sensor parameters and the record under the
controls that the settings leave behind: it has the outputs that were kept of the waits
for them, and the inputs that were kept, if there were any to wait for. -/
def shotOf (c : Camera σ) (a : Admission) (r : CaptureSettings) (x : SensorSettings)
    (outputs inputs : List (Mapping × Except FenceFault Unit)) : Shot where
  settings := x
  result := (c.controls.apply r).1.record a.tag.pipeline a.tag.frame r
  outputs := Mapping.kept outputs
  inputs := if a.inputs.getD [] = [] then none else some (Mapping.kept inputs)

/-- How far the worker has come with a request that it was about to resolve in `c`. -/
inductive Dispatching (c : Camera σ) (a : Admission) (d : Camera σ) : Prop
  | resolving (hw : d.worker = .resolving a) (hcontrols : d.controls = c.controls)
      (hrepeating : d.repeating = c.repeating) (hwaits : d.waitsFor a.tag = [])
  | awaitingOutputs {resolved : Option (CaptureSettings × SensorSettings)} {left : List Mapping}
      (hw : d.worker = .awaitingOutputs a resolved (Mapping.kept (d.waitsFor a.tag)) left)
      (hresolved : ∀ r x, resolved = some (r, x) ↔ c.ComesTo a r x)
      (hcontrols : ∀ r, c.effectiveSettings a = some r → d.controls = (c.controls.apply r).1)
      (hwaits : (d.waitsFor a.tag).map (·.1) ++ left = a.outputs.getD [])
  | recording {r : CaptureSettings} {x : SensorSettings}
      (hw : d.worker = .recording a r x (Mapping.kept (d.waitsFor a.tag)))
      (hcomes : c.ComesTo a r x) (hcontrols : d.controls = (c.controls.apply r).1)
      (hwaits : (d.waitsFor a.tag).map (·.1) = a.outputs.getD [])
      (hkept : Mapping.kept (d.waitsFor a.tag) ≠ [])
  | awaitingInputs {r : CaptureSettings} {x : SensorSettings}
      {outputs inputs : List (Mapping × Except FenceFault Unit)} {left : List Mapping}
      (hw : d.worker = .awaitingInputs a.tag (c.shotOf a r x outputs inputs) left)
      (hcomes : c.ComesTo a r x) (hwaits : d.waitsFor a.tag = outputs ++ inputs)
      (houtputs : outputs.map (·.1) = a.outputs.getD [])
      (hinputs : inputs.map (·.1) ++ left = a.inputs.getD [])
      (hkept : Mapping.kept outputs ≠ [])
  | failing
      (hw : d.worker = .finishing .processor (Camera.failing a (Mapping.kept (d.waitsFor a.tag))))
      (hfails : (∀ r x, ¬ c.ComesTo a r x) ∨ Mapping.kept (d.waitsFor a.tag) = [])
      (hwaits : (d.waitsFor a.tag).map (·.1) = a.outputs.getD [])

/-- What has become of a request that the worker was about to resolve in `c`. -/
inductive Dispatched (c : Camera σ) (a : Admission) (d : Camera σ) : Prop
  | handedOver {r : CaptureSettings} {x : SensorSettings}
      {outputs inputs : List (Mapping × Except FenceFault Unit)}
      (hcomes : c.ComesTo a r x) (hkept : Mapping.kept outputs ≠ [])
      (hwaits : d.waitsFor a.tag = outputs ++ inputs)
      (houtputs : outputs.map (·.1) = a.outputs.getD [])
      (hinputs : inputs.map (·.1) = a.inputs.getD [])
      (hshots : d.shotsFor a.tag = [c.shotOf a r x outputs inputs])
      (houtcomes : d.outcomesFor a.tag = [.handedOver])
  | failed (hfails : (∀ r x, ¬ c.ComesTo a r x) ∨ Mapping.kept (d.waitsFor a.tag) = [])
      (hwaits : (d.waitsFor a.tag).map (·.1) = a.outputs.getD [])
      (hshots : d.shotsFor a.tag = [])
      (houtcomes : d.outcomesFor a.tag = [.told (a.tag.failure .result)])

/-! ## Steps -/

variable {resolved : Option (CaptureSettings × SensorSettings)} {r : CaptureSettings}
  {x : SensorSettings} {outputs inputs : List (Mapping × Except FenceFault Unit)}
  {left : List Mapping} {k : Mapping} {tag : FrameTag}

/-- Nobody but the worker touches its phase, its waits and the settings. -/
theorem Transition.others (h : Transition E c m d) (hm : m ≠ .worker)
    (hw : c.worker.holdsDispatch = true) :
    d.worker = c.worker ∧ d.controls = c.controls ∧ d.repeating = c.repeating ∧
      d.waits = c.waits := by
  have hwaits : d.waits = c.waits :=
    h.waits_of_worker.resolve_right fun ⟨_, hworker, _⟩ => hm hworker
  cases h with
  | check | idle | take | resolve | crash | outputsAwaited | awaitOutput | record | awaitInput
  | handOver | perform | finished | unwind | unwound | beginPacing | skipPacing | pace =>
      exact absurd rfl hm
  | giveUp hpacing =>
      rw [hpacing] at hw
      cases hw
  | _ => exact ⟨rfl, rfl, rfl, hwaits⟩

/-- A step that leaves alone what the worker does about its request. -/
theorem Dispatching.congr (h : Dispatching c a d) (hworker : e.worker = d.worker)
    (hcontrols : e.controls = d.controls) (hrepeating : e.repeating = d.repeating)
    (hwaits : e.waits = d.waits) : Dispatching c a e := by
  have hsame : e.waitsFor a.tag = d.waitsFor a.tag := by rw [waitsFor, hwaits, waitsFor]
  cases h with
  | resolving hw hcontrols' hrepeating' hnone =>
      exact .resolving (hworker.trans hw) (hcontrols.trans hcontrols')
        (hrepeating.trans hrepeating') (hsame.trans hnone)
  | awaitingOutputs hw hresolved hcontrols' hleft =>
      rw [← hsame] at hw hleft
      exact .awaitingOutputs (hworker.trans hw) hresolved
        (fun r hr => hcontrols.trans (hcontrols' r hr)) hleft
  | recording hw hcomes hcontrols' hall hkept =>
      rw [← hsame] at hw hall hkept
      exact .recording (hworker.trans hw) hcomes (hcontrols.trans hcontrols') hall hkept
  | awaitingInputs hw hcomes hall houtputs hinputs hkept =>
      exact .awaitingInputs (hworker.trans hw) hcomes (hsame.trans hall) houtputs hinputs hkept
  | failing hw hfails hall =>
      rw [← hsame] at hw hfails hall
      exact .failing (hworker.trans hw) hfails hall

theorem Dispatching.holdsDispatch (h : Dispatching c a d) : d.worker.holdsDispatch = true := by
  cases h with
  | resolving hw | awaitingOutputs hw | recording hw | awaitingInputs hw | failing hw =>
      rw [hw]
      rfl

theorem Dispatching.untilOutcome_pos (h : Dispatching c a d) : 0 < d.worker.untilOutcome := by
  cases h with
  | resolving hw | awaitingOutputs hw | recording hw | awaitingInputs hw | failing hw =>
      rw [hw]
      simp [Worker.untilOutcome]

theorem Dispatching.mem_inHand (h : Dispatching c a d) : a.tag ∈ d.inHand := by
  rw [inHand, Ledger.inHand, ledger_def]
  cases h with
  | resolving hw | awaitingOutputs hw | recording hw | awaitingInputs hw | failing hw =>
      simp [hw, Worker.undecided, Worker.notices]

/-- A request in hand has no outcome yet. -/
theorem Reachable.undecided_of_mem_inHand (hd : Reachable E sensor d) (h : a.tag ∈ d.inHand) :
    d.outcomesFor a.tag = [] ∧ d.shotsFor a.tag = [] := by
  have hnone : a.tag ∉ d.outcomes.map (·.1) := hd.balanced.not_mem_outcomes h
  constructor
  · rw [outcomesFor, List.map_eq_nil_iff, List.filter_eq_nil_iff]
    intro p hp htag
    exact hnone (of_decide_eq_true htag ▸ List.mem_map_of_mem hp)
  · rw [shotsFor, List.map_eq_nil_iff, List.filter_eq_nil_iff]
    intro p hp htag
    exact hnone ((handOvers_sublist d).subset (of_decide_eq_true htag ▸ List.mem_map_of_mem hp))

/-- Settings that do not crash come to sensor parameters, or are refused. -/
theorem exists_resolves (htolerates : c.Tolerates a) :
    ∃ controls x, c.Resolves a controls x ∧
      (∀ r y, (do return (← c.effectiveSettings a, ← x)) = some (r, y) ↔ c.ComesTo a r y) ∧
      ∀ r, c.effectiveSettings a = some r → controls = (c.controls.apply r).1 := by
  cases hs : c.effectiveSettings a with
  | none => exact ⟨c.controls, none, by simp [Resolves, hs], by simp [ComesTo, hs], by simp⟩
  | some r =>
      have hcomes (r' : CaptureSettings) (y : SensorSettings) :
          c.ComesTo a r' y ↔ r = r' ∧ (c.controls.apply r).2 = .ok y := by
        rw [ComesTo, hs, Option.some.injEq]
        constructor <;> rintro ⟨rfl, hy⟩ <;> exact ⟨rfl, hy⟩
      have hafter : ∀ r', some r = some r' → (c.controls.apply r).1 = (c.controls.apply r').1 := by
        rintro _ ⟨⟩
        rfl
      rcases happly : c.controls.apply r with ⟨controls, (fault | crash) | y⟩
      all_goals rw [happly] at hcomes hafter
      · exact ⟨controls, none, by simp [Resolves, hs, happly], by simp [hcomes], hafter⟩
      · exact absurd (congrArg Prod.snd happly) (htolerates r crash hs)
      · exact ⟨controls, some y, by simp [Resolves, hs, happly], by simp [hcomes], hafter⟩

/-- The request comes nearer to its outcome. -/
def Nears (c : Camera σ) (a : Admission) (d e : Camera σ) : Prop :=
  Dispatching c a e ∧ e.worker.untilOutcome < d.worker.untilOutcome

/-- The worker looks at the settings. -/
theorem nears_resolve (htolerates : c.Tolerates a) (hw : d.worker = .resolving a)
    (hcontrols : d.controls = c.controls) (hrepeating : d.repeating = c.repeating)
    (hwaits : d.waitsFor a.tag = []) : c.Nears a d (d.resolve a) := by
  have hsettings : d.effectiveSettings a = c.effectiveSettings a := by
    rw [effectiveSettings, hrepeating, effectiveSettings]
  obtain ⟨controls, x, hresolves, hresolved, hafter⟩ := exists_resolves htolerates
  have hresolves' : d.Resolves a controls x := by
    unfold Resolves at hresolves ⊢
    rwa [hsettings, hcontrols]
  rw [hresolves'.resolve_eq, hsettings]
  have hnone : waitsFor { d with
      repeating := c.effectiveSettings a
      controls
      stage := d.stage.note (.resolved a.tag (c.effectiveSettings a) x)
      worker := .awaitingOutputs a
        (do return (← c.effectiveSettings a, ← x)) [] (a.outputs.getD []) } a.tag = [] := by
    rw [← hwaits]
    simp [waitsFor, waits, Occurrence.wait?]
  constructor
  · exact .awaitingOutputs (by rw [hnone]; rfl) hresolved hafter (by rw [hnone]; rfl)
  · simp only [hw, Worker.untilOutcome, Admission.mappings, List.length_append]
    omega

/-- The wait for an output is over. -/
theorem nears_awaitOutput
    (hw : d.worker = .awaitingOutputs a resolved (Mapping.kept (d.waitsFor a.tag)) (k :: left))
    (hresolved : ∀ r x, resolved = some (r, x) ↔ c.ComesTo a r x)
    (hcontrols : ∀ r, c.effectiveSettings a = some r → d.controls = (c.controls.apply r).1)
    (hwaits : (d.waitsFor a.tag).map (·.1) ++ k :: left = a.outputs.getD [])
    (htag : k.tag = a.tag) :
    c.Nears a d { (d.settle k).1 with
      worker := .awaitingOutputs a resolved
        (Mapping.kept (d.waitsFor a.tag) ++ (d.settle k).2.toList) left } := by
  constructor
  · refine @Dispatching.awaitingOutputs σ c a _ resolved left ?_ hresolved hcontrols ?_
    · rw [waitsFor_settle _ htag, Mapping.kept_concat]
      rfl
    · rw [waitsFor_settle _ htag, ← hwaits]
      simp
  · simp only [hw, Worker.untilOutcome, List.length_cons]
    omega

/-- All outputs were awaited. -/
theorem nears_outputsAwaited
    (hw : d.worker = .awaitingOutputs a resolved (Mapping.kept (d.waitsFor a.tag)) [])
    (hresolved : ∀ r x, resolved = some (r, x) ↔ c.ComesTo a r x)
    (hcontrols : ∀ r, c.effectiveSettings a = some r → d.controls = (c.controls.apply r).1)
    (hwaits : (d.waitsFor a.tag).map (·.1) = a.outputs.getD []) :
    c.Nears a d
      { d with worker := outputsAwaited a resolved (Mapping.kept (d.waitsFor a.tag)) } := by
  rcases resolved with _ | ⟨r, x⟩
  · constructor
    · refine .failing rfl (.inl fun r x h => ?_) hwaits
      cases (hresolved r x).mpr h
    · simp [hw, outputsAwaited, Worker.untilOutcome]
  · have hcomes : c.ComesTo a r x := (hresolved r x).mp rfl
    cases hkept : Mapping.kept (d.waitsFor a.tag) with
    | nil =>
        constructor
        · refine .failing ?_ (.inr hkept) hwaits
          rw [waitsFor_mk_worker, hkept]
          rfl
        · simp [hw, outputsAwaited, Worker.untilOutcome]
    | cons m ms =>
        constructor
        · refine .recording ?_ hcomes (hcontrols r hcomes.1) hwaits (by simp [hkept])
          rw [waitsFor_mk_worker, hkept]
          rfl
        · simp [hw, outputsAwaited, Worker.untilOutcome]

/-- The record for the result is written. -/
theorem nears_prepareShot
    (hw : d.worker = .recording a r x (Mapping.kept (d.waitsFor a.tag)))
    (hcomes : c.ComesTo a r x) (hcontrols : d.controls = (c.controls.apply r).1)
    (hwaits : (d.waitsFor a.tag).map (·.1) = a.outputs.getD [])
    (hkept : Mapping.kept (d.waitsFor a.tag) ≠ []) :
    c.Nears a d
      { d with worker := d.prepareShot a r x (Mapping.kept (d.waitsFor a.tag)) } := by
  have hinputs : (Mapping.awaited a.inputs).getD [] = a.inputs.getD [] := by
    rcases a.inputs with _ | _ | ⟨k, ks⟩ <;> rfl
  have hshot : d.prepareShot a r x (Mapping.kept (d.waitsFor a.tag)) =
      .awaitingInputs a.tag (c.shotOf a r x (d.waitsFor a.tag) []) (a.inputs.getD []) := by
    rw [prepareShot, shotOf, hcontrols, ← hinputs]
    rcases a.inputs with _ | _ | ⟨k, ks⟩ <;> rfl
  rw [hshot]
  constructor
  · exact .awaitingInputs rfl hcomes (List.append_nil _).symm hwaits rfl hkept
  · simp [hw, Worker.untilOutcome]

/-- The wait for an input is over. -/
theorem nears_awaitInput
    (hw : d.worker = .awaitingInputs a.tag (c.shotOf a r x outputs inputs) (k :: left))
    (hcomes : c.ComesTo a r x) (hwaits : d.waitsFor a.tag = outputs ++ inputs)
    (houtputs : outputs.map (·.1) = a.outputs.getD [])
    (hinputs : inputs.map (·.1) ++ k :: left = a.inputs.getD [])
    (hkept : Mapping.kept outputs ≠ []) (htag : k.tag = a.tag) :
    c.Nears a d { (d.settle k).1 with
      worker := .awaitingInputs a.tag
        { c.shotOf a r x outputs inputs with
          inputs := (c.shotOf a r x outputs inputs).inputs.map (· ++ (d.settle k).2.toList) }
        left } := by
  have hne : a.inputs.getD [] ≠ [] := by simp [← hinputs]
  have hshot : { c.shotOf a r x outputs inputs with
      inputs := (c.shotOf a r x outputs inputs).inputs.map (· ++ (d.settle k).2.toList) } =
      c.shotOf a r x outputs (inputs ++ [(k, d.stage.store.outcome k)]) := by
    simp [shotOf, hne, Mapping.kept_concat]
  rw [hshot]
  constructor
  · refine .awaitingInputs rfl hcomes ?_ houtputs ?_ hkept
    · rw [waitsFor_settle _ htag, hwaits, List.append_assoc]
    · simpa using hinputs
  · simp [hw, Worker.untilOutcome]

/-- The frame is handed over. -/
theorem dispatched_handOver
    (hnone : d.outcomesFor a.tag = [] ∧ d.shotsFor a.tag = []) (hcomes : c.ComesTo a r x)
    (hwaits : d.waitsFor a.tag = outputs ++ inputs)
    (houtputs : outputs.map (·.1) = a.outputs.getD [])
    (hinputs : inputs.map (·.1) = a.inputs.getD []) (hkept : Mapping.kept outputs ≠ []) :
    Dispatched c a (d.handOver E a.tag (c.shotOf a r x outputs inputs)) := by
  have hsame : (d.handOver E a.tag (c.shotOf a r x outputs inputs)).waitsFor a.tag =
      d.waitsFor a.tag := by
    simp [handOver, waitsFor, waits, Occurrence.wait?]
  have hshots : (d.handOver E a.tag (c.shotOf a r x outputs inputs)).shotsFor a.tag =
      d.shotsFor a.tag ++ [c.shotOf a r x outputs inputs] := by
    simp [handOver, shotsFor, handOvers, Occurrence.handOver?]
  have houtcomes : (d.handOver E a.tag (c.shotOf a r x outputs inputs)).outcomesFor a.tag =
      d.outcomesFor a.tag ++ [.handedOver] := by
    simp [handOver, outcomesFor, outcomes, Occurrence.outcome?]
  rw [hnone.1, List.nil_append] at houtcomes
  rw [hnone.2, List.nil_append] at hshots
  exact .handedOver hcomes hkept (hsame.trans hwaits) houtputs hinputs hshots houtcomes

/-- The listener is told that there will be no result. -/
theorem dispatched_tell {w : Worker} (hnone : d.outcomesFor a.tag = [] ∧ d.shotsFor a.tag = [])
    (hfails : (∀ r x, ¬ c.ComesTo a r x) ∨ Mapping.kept (d.waitsFor a.tag) = [])
    (hwaits : (d.waitsFor a.tag).map (·.1) = a.outputs.getD []) :
    Dispatched c a
      { d with stage := d.stage.perform .processor (a.failure .result), worker := w } := by
  have hsame : waitsFor { d with
      stage := d.stage.perform .processor (a.failure .result), worker := w } a.tag =
      d.waitsFor a.tag := by
    simp [waitsFor, waits]
  have hshots : shotsFor { d with
      stage := d.stage.perform .processor (a.failure .result), worker := w } a.tag =
      d.shotsFor a.tag := by
    simp [shotsFor, handOvers]
  have houtcomes : outcomesFor { d with
      stage := d.stage.perform .processor (a.failure .result), worker := w } a.tag =
      d.outcomesFor a.tag ++ [.told (a.tag.failure .result)] := by
    simp [outcomesFor, outcomes, Occurrence.outcome?_effect_processor, Admission.failure,
      Effect.notice?, FrameTag.failure]
  rw [hnone.1, List.nil_append] at houtcomes
  rw [← hsame] at hfails hwaits
  exact .failed hfails hwaits (hshots.trans hnone.2) houtcomes

/-- A step of the worker leads to the next phase of its request, or to its outcome. -/
theorem Dispatching.workerStep (htolerates : c.Tolerates a)
    (hd : Reachable E sensor d) (h : Dispatching c a d) (hstep : d.step? E .worker = some e) :
    c.Nears a d e ∨ Dispatched c a e := by
  have hnone := hd.undecided_of_mem_inHand h.mem_inHand
  have htagged := hd.tagged.worker
  have hawaits := hd.awaiting.worker
  simp only [step?, workerStep?] at hstep
  cases h with
  | resolving hw hcontrols hrepeating hwaits =>
      simp only [hw, Option.ite_none_right_eq_some, Option.some.injEq] at hstep
      obtain ⟨-, rfl⟩ := hstep
      exact .inl (nears_resolve htolerates hw hcontrols hrepeating hwaits)
  | @awaitingOutputs resolved left hw hresolved hcontrols hwaits =>
      rw [hw] at htagged
      cases left with
      | nil =>
          simp only [hw, Option.some.injEq] at hstep
          obtain rfl := hstep
          rw [List.append_nil] at hwaits
          exact .inl (nears_outputsAwaited hw hresolved hcontrols hwaits)
      | cons k left =>
          simp only [hw, Option.some.injEq] at hstep
          obtain rfl := hstep
          have htag : k.tag = a.tag := htagged.2 k List.mem_cons_self
          exact .inl (nears_awaitOutput hw hresolved hcontrols hwaits htag)
  | recording hw hcomes hcontrols hwaits hkept =>
      simp only [hw, Option.ite_none_right_eq_some, Option.some.injEq] at hstep
      obtain ⟨-, rfl⟩ := hstep
      exact .inl (nears_prepareShot hw hcomes hcontrols hwaits hkept)
  | @awaitingInputs r x outputs inputs left hw hcomes hwaits houtputs hinputs hkept =>
      rw [hw] at hawaits
      cases left with
      | nil =>
          simp only [hw, Option.some.injEq] at hstep
          obtain rfl := hstep
          rw [List.append_nil] at hinputs
          exact .inr (dispatched_handOver hnone hcomes hwaits houtputs hinputs hkept)
      | cons k left =>
          simp only [hw, Option.some.injEq] at hstep
          obtain rfl := hstep
          have htag : k.tag = a.tag := hawaits.2 k List.mem_cons_self
          exact .inl (nears_awaitInput hw hcomes hwaits houtputs hinputs hkept htag)
  | failing hw hfails hwaits =>
      simp only [hw, Camera.failing, List.cons_append, Option.some.injEq] at hstep
      obtain rfl := hstep
      exact .inr (dispatched_tell hnone hfails hwaits)

/-- The worker may always go on, unless somebody else has the queue lock. -/
theorem Dispatching.exists_step (E : Engine σ) (h : Dispatching c a d)
    (hfree : d.queueIsFree = true) : ∃ e, d.step? E .worker = some e := by
  rw [step?, workerStep?]
  cases h with
  | resolving hw => exact ⟨_, by rw [hw]; exact if_pos hfree⟩
  | @awaitingOutputs _ left hw => cases left <;> exact ⟨_, by rw [hw]⟩
  | recording hw => exact ⟨_, by rw [hw]; exact if_pos hfree⟩
  | @awaitingInputs _ _ _ _ left hw => cases left <;> exact ⟨_, by rw [hw]⟩
  | failing hw => exact ⟨_, by rw [hw]; rfl⟩

theorem Dispatching.step (htolerates : c.Tolerates a)
    (hd : Reachable E sensor d) (h : Dispatching c a d) (hstep : d.step? E m = some e) :
    Dispatching c a e ∧
        m.isWorker.toNat + e.worker.untilOutcome ≤ d.worker.untilOutcome ∨
      Dispatched c a e := by
  by_cases hm : m = .worker
  · subst hm
    refine (h.workerStep htolerates hd hstep).imp_left fun ⟨hnext, hlt⟩ => ⟨hnext, ?_⟩
    simp only [Move.isWorker, Bool.toNat_true]
    omega
  · obtain ⟨hworker, hcontrols, hrepeating, hwaits⟩ :=
      (hd.transition hstep).others hm h.holdsDispatch
    refine .inl ⟨h.congr hworker hcontrols hrepeating hwaits, ?_⟩
    cases m with
    | worker => exact absurd rfl hm
    | _ => simp [Move.isWorker, hworker]

/-- Nothing is added for a request that has an outcome. -/
theorem Reachable.same_of_decided (hd : Reachable E sensor d)
    (htag : tag ∈ d.outcomes.map (·.1)) (hstep : d.step? E m = some e) :
    e.waitsFor tag = d.waitsFor tag ∧ e.shotsFor tag = d.shotsFor tag ∧
      e.outcomesFor tag = d.outcomesFor tag := by
  have h := hd.transition hstep
  have hother : ∀ {t : FrameTag}, t ∈ d.inHand → t ≠ tag := by
    rintro t ht rfl
    exact hd.balanced.not_mem_outcomes ht htag
  refine ⟨?_, ?_, ?_⟩
  · rcases h.waits_of_worker with heq | ⟨k, -, hk, heq⟩
    · rw [waitsFor, heq, waitsFor]
    · have hne := hother (hd.tag_mem_inHand_of_awaits hk)
      simp [waitsFor, heq, hne]
  · rcases h.handOvers_cases with heq | ⟨t, shot, hw, heq⟩
    · rw [shotsFor, heq, shotsFor]
    · have hmem : t ∈ d.inHand := by
        rw [inHand, Ledger.inHand, ledger_def, hw]
        simp [Worker.undecided]
      have hne := hother hmem
      simp [shotsFor, heq, hne]
  · obtain ⟨new, hnew⟩ := Stage.history_prefix h.record_suffix Occurrence.outcome?
    have heq : e.outcomes = d.outcomes ++ new := hnew.symm
    have hnodup := (hd.next hstep).nodup_outcomes
    rw [heq, List.map_append, List.nodup_append] at hnodup
    have hnone : new.filter (·.1 = tag) = [] := by
      refine List.filter_eq_nil_iff.mpr fun p hp hsame => ?_
      exact hnodup.2.2 tag htag p.1 (List.mem_map_of_mem hp) (of_decide_eq_true hsame).symm
    rw [outcomesFor, heq, List.filter_append, hnone, List.append_nil, outcomesFor]

theorem mem_outcomes_of_outcomesFor {o : Outcome} {l : List Outcome}
    (h : d.outcomesFor tag = o :: l) : tag ∈ d.outcomes.map (·.1) := by
  obtain ⟨p, _, hp, -, -⟩ := List.map_eq_cons_iff.mp h
  have hmem : p ∈ d.outcomes.filter (·.1 = tag) := by simp [hp]
  obtain ⟨hmem, htag⟩ := List.mem_filter.mp hmem
  exact of_decide_eq_true htag ▸ List.mem_map_of_mem hmem

theorem Dispatched.mem_outcomes (h : Dispatched c a d) : a.tag ∈ d.outcomes.map (·.1) := by
  cases h with
  | handedOver _ _ _ _ _ _ houtcomes | failed _ _ _ houtcomes =>
      exact mem_outcomes_of_outcomesFor houtcomes

theorem Dispatched.step (hd : Reachable E sensor d) (h : Dispatched c a d)
    (hstep : d.step? E m = some e) : Dispatched c a e := by
  obtain ⟨hwaits, hshots, houtcomes⟩ := hd.same_of_decided h.mem_outcomes hstep
  cases h with
  | handedOver hcomes hkept hall houtputs hinputs hshot houtcome =>
      exact .handedOver hcomes hkept (hwaits.trans hall) houtputs hinputs (hshots.trans hshot)
        (houtcomes.trans houtcome)
  | failed hfails hall hshot houtcome =>
      rw [← hwaits] at hfails hall
      exact .failed hfails hall (hshots.trans hshot) (houtcomes.trans houtcome)

/-! ## Runs -/

/-- A run leads to the outcome of the request, or the worker is on its way there. -/
theorem Dispatching.run {moves : List Move} (htolerates : c.Tolerates a)
    (hb : Reachable E sensor b) (h : Dispatching c a b) (hrun : b.run? E moves = some d) :
    Dispatching c a d ∧
        moves.countP Move.isWorker + d.worker.untilOutcome ≤ b.worker.untilOutcome ∨
      Dispatched c a d := by
  induction moves generalizing b with
  | nil =>
      cases hrun
      exact .inl ⟨h, by simp⟩
  | cons m rest ih =>
      obtain ⟨e, he, hrest⟩ := Option.bind_eq_some_iff.mp (run?_cons ▸ hrun)
      rcases h.step htolerates hb he with ⟨hnext, hle⟩ | hdone
      · refine (ih (hb.next he) hnext hrest).imp_left fun ⟨hlast, hle'⟩ => ⟨hlast, ?_⟩
        rw [List.countP_cons]
        cases hm : m.isWorker <;> simp [hm] at hle ⊢ <;> omega
      · exact .inr ((hb.next he).run_induct hrest hdone fun hd hstep hp => hp.step hd hstep)

/-- Every wait in a run ended as the fence stood when the worker came to it. -/
theorem Reachable.waits_of_run? {moves : List Move} (hc : Reachable E sensor c)
    (h : c.run? E moves = some d) :
    ∀ w ∈ d.waits, w ∈ c.waits ∨ ∃ before rest e, moves = before ++ .worker :: rest ∧
      c.run? E before = some e ∧ w.2 = e.stage.store.outcome w.1 := by
  induction moves using List.reverseRecOn generalizing d with
  | nil =>
      cases h
      exact fun w hw => .inl hw
  | append_singleton moves m ih =>
      rw [run?_append, Option.bind_eq_some_iff] at h
      obtain ⟨e, he, hlast⟩ := h
      obtain ⟨d', hstep, heq⟩ := Option.bind_eq_some_iff.mp (run?_cons ▸ hlast)
      obtain rfl : d' = d := Option.some.inj heq
      intro w hw
      have hold : w ∈ e.waits → w ∈ c.waits ∨ ∃ before rest e, moves ++ [m] =
          before ++ .worker :: rest ∧ c.run? E before = some e ∧
          w.2 = e.stage.store.outcome w.1 := by
        intro hw
        rcases ih he w hw with hbefore | ⟨before, rest, e, rfl, hrun, houtcome⟩
        · exact .inl hbefore
        · exact .inr ⟨before, rest ++ [m], e, by simp, hrun, houtcome⟩
      rcases ((hc.run? he).transition hstep).waits_of_worker with hsame | ⟨k, rfl, -, hsame⟩
      · exact hold (hsame ▸ hw)
      · rw [hsame, List.mem_append, List.mem_singleton] at hw
        rcases hw with hw | rfl
        · exact hold hw
        · exact .inr ⟨moves, [], e, rfl, he, rfl⟩

/-- A request that the worker took comes to one frame that is handed over, or to one
notice that there will be no result.  The worker takes a bounded number of steps to
that, and none of them waits for anything but the queue lock.  Which buffers of the
request are left for the frame is decided for each by itself: at the admission by its
stream, its size and its fence, and later by the wait for its fence, which ends as the
fence stands. -/
theorem requests_are_dispatched (hc : Reachable E sensor c) (hw : c.worker = .resolving a)
    (htolerates : c.Tolerates a) :
    ((∃ frame table r, CaptureRequest.AdmittedAs E frame table r a) ∧
        ∀ frame p r s t, a.MadeFrom E frame p r s t → a.IsResolvedIn E p.streams r s) ∧
      (∀ (s t : Store) (tag : FrameTag) (streams streams' : List Stream) (x : Attachment),
        Stream.find? streams' x.stream = Stream.find? streams x.stream →
        t.memory.sizeOf x.buffer = s.memory.sizeOf x.buffer →
        (∀ i ∈ x.fence, t.fence i = s.fence i) →
        t.resolve? E.overrideFormat tag streams' x = s.resolve? E.overrideFormat tag streams x) ∧
      ∀ moves d, c.run? E moves = some d →
        (∀ w ∈ d.waitsFor a.tag, ∃ before rest e, moves = before ++ .worker :: rest ∧
          c.run? E before = some e ∧ w.2 = e.stage.store.outcome w.1) ∧
        (a.tag ∈ d.inHand ∧ moves.countP Move.isWorker < a.mappings.length + 4 ∧
            (d.queueIsFree = true → ∃ e, d.step? E .worker = some e) ∨
          a.tag ∉ d.inHand ∧ Dispatched c a d) := by
  have hawaits := hc.awaiting.worker
  rw [hw] at hawaits
  obtain ⟨hrequest, hnone⟩ := hawaits
  refine ⟨⟨hc.awaiting.requests a hrequest, fun frame p r s t hmade => hmade.isResolvedIn⟩,
    fun s t tag streams streams' x hstream hsize hfence =>
      Store.resolve?_congr hstream hsize hfence,
    fun moves d hrun => ⟨fun w hwait => ?_, ?_⟩⟩
  · obtain ⟨hwait, htag⟩ := List.mem_filter.mp hwait
    refine (hc.waits_of_run? hrun w hwait).resolve_left fun hbefore => ?_
    have hmem : w ∈ c.waitsFor a.tag := List.mem_filter.mpr ⟨hbefore, htag⟩
    rw [hnone] at hmem
    cases hmem
  · have hstart : Dispatching c a c := .resolving hw rfl rfl hnone
    rcases hstart.run htolerates hc hrun with ⟨h, hle⟩ | h
    · rw [hw, Worker.untilOutcome] at hle
      have hpos := h.untilOutcome_pos
      exact .inl ⟨h.mem_inHand, by omega, h.exists_step E⟩
    · exact .inr ⟨fun hmem => (hc.run? hrun).balanced.not_mem_outcomes hmem h.mem_outcomes, h⟩

open Sensor (Simulated)

/-- The worker takes a request with two fences. -/
def takeFenced : List Move :=
  .submit 7 [twoFences] [Sample.pipeline] :: List.replicate 3 (.advance 0) ++
    List.replicate 2 .worker

/-- The first fence signals before the worker comes to it, the second does not. -/
def dispatchFenced : List Move :=
  [.worker, .fence 0 .signaled] ++ List.replicate 6 .worker

def fencedAdmission : Admission :=
  Sample.admission (some [Sample.mapping 1 none])
    (some [Sample.mapping 0 (some 0), Sample.mapping 1 (some 1)])

/-- One of the two outputs is handed over, and the input with it. -/
theorem fenced_request_is_dispatched :
    ∃ c d : Camera Simulated, fenced.run? Simulated.engine takeFenced = some c ∧
      c.worker = .resolving fencedAdmission ∧
      c.run? Simulated.engine dispatchFenced = some d ∧
      (d.shotsFor fencedAdmission.tag).map (fun shot =>
        (shot.outputs.map (·.buffer), shot.inputs.map (·.map (·.buffer)))) = [([0], some [1])] ∧
      fencedAdmission.tag ∉ d.inHand ∧ Dispatched c fencedAdmission d := by
  have hcreate : create {} ({ period := 0 } : Simulated) fenced.stage.store Sample.controls =
      .ok fenced := rfl
  have hrun : (fenced.run? Simulated.engine takeFenced).map (fun c =>
      (match c.worker with
        | .resolving a => decide (a = fencedAdmission)
        | _ => false,
        (c.effectiveSettings fencedAdmission).all fun r => (c.controls.apply r).2.isOk,
        (c.run? Simulated.engine dispatchFenced).map fun d =>
          (d.inHand, decide ((d.shotsFor fencedAdmission.tag).map (fun shot =>
            (shot.outputs.map (·.buffer), shot.inputs.map (·.map (·.buffer)))) =
              [([0], some [1])])))) =
      some (true, true, some ([], true)) := by
    decide +kernel
  obtain ⟨c, hc, heq⟩ := Option.map_eq_some_iff.mp hrun
  simp only [Prod.mk.injEq] at heq
  obtain ⟨htaken, hok, hdispatched⟩ := heq
  obtain ⟨d, hd, heq⟩ := Option.map_eq_some_iff.mp hdispatched
  simp only [Prod.mk.injEq] at heq
  obtain ⟨hsettled, hshots⟩ := heq
  have hw : c.worker = .resolving fencedAdmission := by
    revert htaken
    cases c.worker <;> simp
  have hreach : Reachable Simulated.engine { period := 0 } c := (Reachable.created hcreate).run? hc
  have htolerates : c.Tolerates fencedAdmission := by
    intro r crash hr hcrash
    rw [hr, Option.all_some, hcrash] at hok
    cases hok
  have hnone : fencedAdmission.tag ∉ d.inHand := by simp [hsettled]
  have hall := (requests_are_dispatched hreach hw htolerates).2.2 dispatchFenced d hd
  exact ⟨c, d, hc, hw, hd, of_decide_eq_true hshots, hnone,
    (hall.2.resolve_left fun h => hnone h.1).2⟩

end Camera

end VirtualCamera
