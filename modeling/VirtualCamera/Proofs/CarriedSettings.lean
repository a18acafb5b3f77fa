import VirtualCamera.Proofs.Settings
import VirtualCamera.Proofs.Waiting

/-!
# Settings are carried forward

The worker turns the settings that apply to a request into sensor parameters:
the request's own, or those of the last request before it that the worker took
and that brought any (`latestSettings`).  That is all that the requests taken so
far leave behind: the settings remembered by the worker and the controls are
functions of their list (`Carries`), whether they were handed over or failed.
So a frame that is handed over was made from the settings that apply to its
request, under the controls that the requests before it left
(`Shot.IsMadeFrom`).

A request without settings, before which none came with settings, cannot be
prepared.  The worker goes through its outputs and then fails it (`WillFail`).
What a flush takes from the queue the worker never takes
(`Reachable.requests_perm`).
-/

namespace VirtualCamera

/-! ## The settings that apply -/

/-- The settings of the last request that brought any. -/
def latestSettings (requests : List Admission) : Option CaptureSettings :=
  (requests.filterMap (·.settings)).getLast?

/-- The settings that apply to requests that are taken one after the other, where
there are any. -/
def usedSettings (requests : List Admission) : List CaptureSettings :=
  requests.inits.filterMap latestSettings

theorem latestSettings_concat (l : List Admission) (a : Admission) :
    latestSettings (l ++ [a]) = a.settings.or (latestSettings l) := by
  cases h : a.settings <;> simp [latestSettings, h]

theorem usedSettings_concat (l : List Admission) (a : Admission) :
    usedSettings (l ++ [a]) = usedSettings l ++ (a.settings.or (latestSettings l)).toList := by
  rw [← latestSettings_concat]
  cases h : latestSettings (l ++ [a]) <;> simp [usedSettings, List.inits_append, h]

namespace Controls

/-- The controls after those of some requests. -/
def afterRequests (s : Controls) (requests : List Admission) : Controls :=
  s.afterAll (usedSettings requests)

theorem afterRequests_concat_of_none {s : Controls} {l : List Admission} {a : Admission}
    (h : a.settings.or (latestSettings l) = none) :
    s.afterRequests (l ++ [a]) = s.afterRequests l := by
  rw [afterRequests, usedSettings_concat, h, Option.toList_none, List.append_nil]
  rfl

theorem afterRequests_concat_of_some {s : Controls} {l : List Admission} {a : Admission}
    {r : CaptureSettings} (h : a.settings.or (latestSettings l) = some r) :
    s.afterRequests (l ++ [a]) = ((s.afterRequests l).apply r).1 := by
  rw [afterRequests, usedSettings_concat, h]
  simp [afterRequests, afterAll]

/-- After the requests `l` these settings apply to the request `a`, and the
controls turn them into sensor parameters. -/
structure Prepares (s : Controls) (l : List Admission) (a : Admission) (r : CaptureSettings)
    (x : SensorSettings) : Prop where
  settings : a.settings.or (latestSettings l) = some r
  sensor : ((s.afterRequests l).apply r).2 = .ok x

end Controls

/-- A shot for the request `a`, taken after the requests `l`: its sensor parameters
and its record come from the settings that apply. -/
def Shot.IsMadeFrom (shot : Shot) (s : Controls) (l : List Admission) (a : Admission) : Prop :=
  ∃ r, s.Prepares l a r shot.settings ∧
    shot.result = (s.afterRequests (l ++ [a])).record a.tag.pipeline a.tag.frame r

namespace Occurrence

def popped? : Occurrence → Option Admission
  | popped a => some a
  | _ => none

def drained? : Occurrence → Option (List Admission)
  | drained _ admissions => some admissions
  | _ => none

@[simp] theorem popped?_effect (e : Effect) (speaker : Speaker) :
    (e.occurrence speaker).popped? = none := by
  cases e <;> rfl

@[simp] theorem drained?_effect (e : Effect) (speaker : Speaker) :
    (e.occurrence speaker).drained? = none := by
  cases e <;> rfl

end Occurrence

namespace Worker

/-- The request that the worker took and whose settings it has not looked at. -/
def unresolved : Worker → List Admission
  | resolving a => [a]
  | checking | ready | awaitingOutputs .. | recording .. | awaitingInputs .. | finishing ..
  | unwinding _ | unpaced | pacing _ | ended => []

/-- What the worker prepares comes from the settings that apply to the last of the
requests. -/
def PreparesLast (s : Controls) (requests : List Admission) : Worker → Prop
  | awaitingOutputs a resolved _ _ =>
    ∃ l, requests = l ++ [a] ∧ ∀ r x, resolved = some (r, x) → s.Prepares l a r x
  | recording a r x _ => ∃ l, requests = l ++ [a] ∧ s.Prepares l a r x
  | awaitingInputs tag shot _ => ∃ l a, requests = l ++ [a] ∧ a.tag = tag ∧ shot.IsMadeFrom s l a
  | checking | ready | resolving _ | finishing .. | unwinding _ | unpaced | pacing _ | ended =>
    True

/-- The worker has a request that it is going to fail. -/
def WillFail (a : Admission) : Worker → Prop
  | resolving b => b = a
  | awaitingOutputs b resolved _ _ => b = a ∧ resolved = none
  | finishing .processor effects => (a.tag, a.tag.failure .result) ∈ VirtualCamera.notices effects
  | checking | ready | recording .. | awaitingInputs .. | finishing .sensor _ | unwinding _
  | unpaced | pacing _ | ended => False

end Worker

theorem Camera.eq_of_outputsAwaited {a b : Admission}
    {resolved : Option (CaptureSettings × SensorSettings)} {ready outputs : List Mapping}
    {r : CaptureSettings} {x : SensorSettings}
    (h : outputsAwaited a resolved ready = .recording b r x outputs) :
    b = a ∧ resolved = some (r, x) := by
  unfold outputsAwaited at h
  split at h
  · cases h
    exact ⟨rfl, rfl⟩
  · cases h

namespace Camera

variable {σ : Type} {E : Engine σ} {c d : Camera σ} {sensor : σ} {m : Move}
  {s : Controls} {l : List Admission}

/-! ## Requests that were taken -/

/-- The requests that the worker took, the oldest first. -/
def popped (c : Camera σ) : List Admission :=
  c.stage.history Occurrence.popped?

/-- The requests that flushes took. -/
def flushedRequests (c : Camera σ) : List Admission :=
  (c.stage.history Occurrence.drained?).flatten

/-- Every request was taken by the worker, or by a flush, or waits. -/
theorem Reachable.requests_perm (hc : Reachable E sensor c) :
    (c.popped ++ c.flushedRequests ++ c.queue).Perm c.requests := by
  refine hc.induct (P := fun c => (c.popped ++ c.flushedRequests ++ c.queue).Perm c.requests)
    (fun _ _ _ => by simp [popped, flushedRequests, requests, Stage.history]) ?_
  intro c d m _ h hperm
  cases h with
  | @take a rest hw hfree hlock hq =>
      rw [hq] at hperm
      simp only [popped, flushedRequests, requests, Stage.history_note, Occurrence.popped?,
        Occurrence.drained?, Occurrence.request?, Option.toList_some, Option.toList_none,
        List.append_nil, List.perm_iff_count, List.count_append, List.count_cons,
        List.count_nil] at hperm ⊢
      intro b
      have hcount := hperm b
      omega
  | admitOne =>
      simp only [popped, flushedRequests, requests, Stage.history_note, Stage.history_mk,
        Occurrence.popped?, Occurrence.drained?, Occurrence.request?, Option.toList_some,
        Option.toList_none, List.append_nil, ← List.append_assoc] at hperm ⊢
      exact hperm.append_right _
  | drain =>
      simpa [popped, flushedRequests, requests, Occurrence.popped?, Occurrence.drained?,
        Occurrence.request?] using hperm
  | sensor hs =>
      obtain ⟨sensor, effects, -, rfl⟩ := Stage.sensorStep?_eq_some hs
      simpa [popped, flushedRequests, requests] using hperm
  | perform | unwind | clear | report | closeEffect =>
      simpa [popped, flushedRequests, requests] using hperm
  | _ =>
      simpa [popped, flushedRequests, requests, Occurrence.popped?, Occurrence.drained?,
        Occurrence.request?, paced, begin] using hperm

/-- No request was taken twice. -/
theorem Reachable.nodup_taken (hc : Reachable E sensor c) :
    (c.popped ++ c.flushedRequests ++ c.queue).Nodup := by
  have hrequests : c.requests.Nodup := by
    refine List.Nodup.of_map (·.tag) ?_
    rw [tags_of_requests]
    exact hc.balanced.nodup
  exact hc.requests_perm.nodup_iff.mpr hrequests

/-- No two of the requests that were taken have one tag. -/
theorem Reachable.nodup_tags_of_popped (hc : Reachable E sensor c) :
    (c.popped.map (·.tag)).Nodup := by
  have htaken : ((c.popped ++ c.flushedRequests ++ c.queue).map (·.tag)).Nodup := by
    rw [(hc.requests_perm.map (·.tag)).nodup_iff, tags_of_requests]
    exact hc.balanced.nodup
  rw [List.append_assoc, List.map_append] at htaken
  exact (List.nodup_append.mp htaken).1

/-- A request's tag tells which requests were taken before it. -/
theorem Reachable.eq_of_prefix_popped (hc : Reachable E sensor c) {k : List Admission}
    {a b : Admission} (hk : k ++ [a] <+: c.popped) (hl : l ++ [b] <+: c.popped)
    (htag : a.tag = b.tag) : k = l ∧ a = b := by
  have hlast : ∀ {k l : List Admission} {a b : Admission}, l ++ [b] <+: c.popped →
      k ++ [a] <+: l ++ [b] → a.tag = b.tag → k = l ∧ a = b := by
    intro k l a b hl hkl htag
    rcases List.prefix_concat_iff.mp hkl with heq | hkl
    · obtain ⟨rfl, hab⟩ := List.append_inj' heq rfl
      exact ⟨rfl, by simpa using hab⟩
    · have hnodup := hc.nodup_tags_of_popped.sublist (hl.sublist.map _)
      rw [List.map_append, List.nodup_append] at hnodup
      have hmem : a ∈ l := hkl.subset (by simp)
      exact absurd htag (hnodup.2.2 _ (List.mem_map_of_mem hmem) _ (by simp))
  rcases List.prefix_or_prefix_of_prefix hk hl with hkl | hlk
  · exact hlast hl hkl htag
  · obtain ⟨rfl, rfl⟩ := hlast hk hlk htag.symm
    exact ⟨rfl, rfl⟩

/-! ## What is left behind -/

/-- The settings of the requests `l`, and no others, were used: the worker remembers
the last ones, and they left the controls as they are. -/
structure Carries (s : Controls) (l : List Admission) (c : Camera σ) : Prop where
  popped : c.popped = l ++ c.worker.unresolved
  repeating : c.repeating = latestSettings l
  controls : c.controls = s.afterRequests l
  worker : c.worker.PreparesLast s l
  handOvers : ∀ p ∈ c.handOvers, ∃ k a, k ++ [a] <+: l ∧ a.tag = p.1 ∧ p.2.IsMadeFrom s k a

theorem Carries.effectiveSettings_eq (hc : c.Carries s l) (a : Admission) :
    c.effectiveSettings a = a.settings.or (latestSettings l) := by
  rw [effectiveSettings, hc.repeating]

/-- What a request's settings come to, in terms of the requests before it. -/
theorem Carries.of_resolves {a : Admission} {controls : Controls} {x : Option SensorSettings}
    (hc : c.Carries s l) (hr : c.Resolves a controls x) :
    controls = s.afterRequests (l ++ [a]) ∧
      ∀ r y, (do return (← c.effectiveSettings a, ← x)) = some (r, y) → s.Prepares l a r y := by
  unfold Resolves at hr
  rw [hc.effectiveSettings_eq a] at hr ⊢
  cases hs : a.settings.or (latestSettings l) with
  | none =>
      rw [hs] at hr
      refine ⟨?_, by simp⟩
      rw [hr.1, hc.controls, Controls.afterRequests_concat_of_none hs]
  | some r =>
      rw [hs, hc.controls] at hr
      rw [Controls.afterRequests_concat_of_some hs]
      rcases hr with ⟨y, happly, rfl⟩ | ⟨fault, happly, rfl⟩
      · refine ⟨by rw [happly], fun r' y' heq => ?_⟩
        obtain ⟨rfl, rfl⟩ : r = r' ∧ y = y' := by simpa using heq
        exact ⟨hs, by rw [happly]⟩
      · exact ⟨by rw [happly], by simp⟩

/-- The frames that were handed over stay, and a new one was made from the settings of
the last request. -/
theorem Carries.handOvers_of_transition (hc : c.Carries s l) (h : Transition E c m d) :
    ∀ p ∈ d.handOvers, ∃ k a, k ++ [a] <+: l ∧ a.tag = p.1 ∧ p.2.IsMadeFrom s k a := by
  intro p hp
  rcases h.handOvers_cases with heq | ⟨tag, shot, hw, heq⟩
  · exact hc.handOvers p (heq ▸ hp)
  · rw [heq, List.mem_append, List.mem_singleton] at hp
    rcases hp with hp | rfl
    · exact hc.handOvers p hp
    · have hworker := hc.worker
      rw [hw] at hworker
      obtain ⟨k, a, rfl, htag, hmade⟩ := hworker
      exact ⟨k, a, List.prefix_rfl, htag, hmade⟩

/-- A step that looks at no settings. -/
theorem Carries.congr (hc : c.Carries s l) (h : Transition E c m d)
    (hpopped : d.popped = l ++ d.worker.unresolved) (hrepeating : d.repeating = c.repeating)
    (hcontrols : d.controls = c.controls) (hworker : d.worker.PreparesLast s l) :
    d.Carries s l where
  popped := hpopped
  repeating := hrepeating.trans hc.repeating
  controls := hcontrols.trans hc.controls
  worker := hworker
  handOvers := hc.handOvers_of_transition h

/-- The settings of the request that the worker took were looked at. -/
theorem Carries.resolve {a : Admission} (hc : c.Carries s l) (h : Transition E c m d)
    (hpopped : d.popped = l ++ [a] ++ d.worker.unresolved)
    (hrepeating : d.repeating = c.effectiveSettings a)
    (hcontrols : d.controls = s.afterRequests (l ++ [a]))
    (hworker : d.worker.PreparesLast s (l ++ [a])) : d.Carries s (l ++ [a]) where
  popped := hpopped
  repeating := by rw [hrepeating, hc.effectiveSettings_eq, latestSettings_concat]
  controls := hcontrols
  worker := hworker
  handOvers := by
    intro p hp
    obtain ⟨k, b, hk, hmade⟩ := hc.handOvers_of_transition h p hp
    exact ⟨k, b, hk.trans (List.prefix_append _ _), hmade⟩

theorem Transition.carries (h : Transition E c m d) (hc : c.Carries s l) :
    ∃ l', d.Carries s l' := by
  have hstep := h
  have hworker := hc.worker
  have hpopped := hc.popped
  cases h with
  | take hw =>
      -- the request counts only when the worker has looked at its settings
      rw [hw] at hpopped
      refine ⟨l, hc.congr hstep ?_ rfl rfl trivial⟩
      simpa [popped, Occurrence.popped?, Worker.unresolved] using hpopped
  | @resolve a controls x hw hlock hr =>
      obtain ⟨hcontrols, hprepares⟩ := hc.of_resolves hr
      rw [hw] at hpopped
      refine ⟨l ++ [a], hc.resolve hstep ?_ rfl hcontrols ⟨l, rfl, hprepares⟩⟩
      simpa [popped, Occurrence.popped?, Worker.unresolved] using hpopped
  | @crash a r controls crash hw hlock hs hr =>
      have hcontrols : controls = s.afterRequests (l ++ [a]) := by
        rw [hc.effectiveSettings_eq] at hs
        rw [Controls.afterRequests_concat_of_some hs, ← hc.controls, hr]
      rw [hw] at hpopped
      refine ⟨l ++ [a], hc.resolve hstep ?_ rfl hcontrols trivial⟩
      simpa [popped, Occurrence.popped?, Worker.unresolved] using hpopped
  | @outputsAwaited a resolved ready hw =>
      rw [hw] at hworker hpopped
      obtain ⟨k, hk, hprepares⟩ := hworker
      rcases outputsAwaited_cases a resolved ready with ⟨r, x, heq, -⟩ | heq
      · refine ⟨l, hc.congr hstep (heq ▸ hpopped) rfl rfl ?_⟩
        exact heq ▸ ⟨k, hk, hprepares r x (eq_of_outputsAwaited heq).2⟩
      · exact ⟨l, hc.congr hstep (heq ▸ hpopped) rfl rfl (heq ▸ trivial)⟩
  | record hw =>
      rw [hw] at hworker hpopped
      obtain ⟨k, hk, hprepares⟩ := hworker
      refine ⟨l, hc.congr hstep hpopped rfl rfl ?_⟩
      exact ⟨k, _, hk, rfl, _, hprepares, by rw [← hk, ← hc.controls]⟩
  | awaitInput hw | awaitOutput hw =>
      rw [hw] at hworker hpopped
      refine ⟨l, hc.congr hstep ?_ rfl rfl hworker⟩
      simpa [popped, Occurrence.popped?, Worker.unresolved] using hpopped
  | check hw =>
      rw [hw] at hpopped
      refine ⟨l, hc.congr hstep ?_ rfl rfl ?_⟩
      · cases c.isStopping <;> exact hpopped
      · cases c.isStopping <;> trivial
  | perform hw | unwind hw =>
      rw [hw] at hpopped
      refine ⟨l, hc.congr hstep ?_ rfl rfl trivial⟩
      simpa [popped, Worker.unresolved] using hpopped
  | handOver hw | idle hw | finished hw | unwound hw | beginPacing hw
  | skipPacing hw | pace hw | giveUp hw =>
      rw [hw] at hpopped
      refine ⟨l, hc.congr hstep ?_ rfl rfl trivial⟩
      simpa [popped, Occurrence.popped?, Worker.unresolved, paced] using hpopped
  | sensor hs =>
      obtain ⟨sensor, effects, -, rfl⟩ := Stage.sensorStep?_eq_some hs
      refine ⟨l, hc.congr hstep ?_ rfl rfl hworker⟩
      simpa [popped] using hpopped
  | clear | report | closeEffect =>
      refine ⟨l, hc.congr hstep ?_ rfl rfl hworker⟩
      simpa [popped] using hpopped
  | _ =>
      refine ⟨l, hc.congr hstep ?_ rfl rfl hworker⟩
      simpa [popped, Occurrence.popped?, enqueue, begin] using hpopped

theorem Reachable.carries (hc : Reachable E sensor c) : ∃ s l, c.Carries s l := by
  refine hc.induct (P := fun c => ∃ s l, c.Carries s l) ?_ ?_
  · intro config store controls
    exact ⟨controls, [], rfl, rfl, rfl, trivial, by simp [handOvers, Stage.history]⟩
  · rintro c d m - h ⟨s, l, hc⟩
    obtain ⟨l', hd⟩ := h.carries hc
    exact ⟨s, l', hd⟩

theorem carries_of_run? {config : Config} {store : Store} {moves : List Move}
    (h₀ : create config sensor store s = .ok c) (h : c.run? E moves = some d) :
    ∃ l, d.Carries s l := by
  have hc : Reachable E sensor c := .created h₀
  refine hc.run_induct (P := fun d => ∃ l, d.Carries s l) h ?_ ?_
  · obtain rfl := create_eq h₀
    exact ⟨[], rfl, rfl, rfl, trivial, by simp [handOvers, Stage.history]⟩
  · rintro b d m hb hstep ⟨l, hl⟩
    exact (hb.transition hstep).carries hl

/-- A frame was made from the settings that apply to its request. -/
theorem Carries.isMadeFrom {k : List Admission} {a : Admission} {shot : Shot}
    (hl : c.Carries s l) (hc : Reachable E sensor c) (hk : k ++ [a] <+: c.popped)
    (hshot : (a.tag, shot) ∈ c.handOvers) : shot.IsMadeFrom s k a := by
  obtain ⟨k', a', hk', htag, hmade⟩ := hl.handOvers _ hshot
  have hpopped : k' ++ [a'] <+: c.popped := hk'.trans (hl.popped ▸ List.prefix_append _ _)
  obtain ⟨rfl, rfl⟩ := hc.eq_of_prefix_popped hpopped hk htag
  exact hmade

/-- When the worker looks at the settings of a request, it remembers the last ones
before them. -/
theorem Reachable.repeating_of_resolving (hc : Reachable E sensor c) {a : Admission}
    (hw : c.worker = .resolving a) :
    ∃ l, c.popped = l ++ [a] ∧ c.repeating = latestSettings l := by
  obtain ⟨s, l, hl⟩ := hc.carries
  have hpopped := hl.popped
  rw [hw] at hpopped
  exact ⟨l, hpopped, hl.repeating⟩

/-! ## Requests without settings -/

theorem Transition.popped_cases (h : Transition E c m d) :
    d.popped = c.popped ∨
      ∃ a, c.worker = .ready ∧ d.worker = .resolving a ∧ d.popped = c.popped ++ [a] := by
  cases h with
  | take hw => exact Or.inr ⟨_, hw, rfl, by simp [popped, Occurrence.popped?]⟩
  | sensor hs =>
      obtain ⟨sensor, effects, -, rfl⟩ := Stage.sensorStep?_eq_some hs
      exact Or.inl (by simp [popped])
  | perform | unwind | clear | report | closeEffect => exact Or.inl (by simp [popped])
  | _ => exact Or.inl (by simp [popped, Occurrence.popped?, paced, begin])

/-- A request to which no settings apply ends with the notice that there will be no
result. -/
theorem Transition.willFail {a : Admission} (hc : Reachable E sensor c) (h : Transition E c m d)
    (hpopped : c.popped = l ++ [a]) (hnone : a.settings.or (latestSettings l) = none)
    (hw : c.worker.WillFail a) :
    d.worker.WillFail a ∨ (a.tag, .told (a.tag.failure .result)) ∈ d.outcomes := by
  have heffective : ∀ b, c.worker = .resolving b → b = a ∧ c.effectiveSettings b = none := by
    intro b hb
    obtain ⟨k, hk, hrepeating⟩ := hc.repeating_of_resolving hb
    obtain ⟨rfl, hba⟩ := List.append_inj' (hk.symm.trans hpopped) rfl
    obtain rfl : b = a := by simpa using hba
    exact ⟨rfl, by rw [effectiveSettings, hrepeating, hnone]⟩
  cases h with
  | resolve hw' =>
      obtain ⟨rfl, hsettings⟩ := heffective _ hw'
      exact Or.inl ⟨rfl, by simp [hsettings]⟩
  | crash hw' _ hs =>
      cases (heffective _ hw').2.symm.trans hs
  | outputsAwaited hw' =>
      rw [hw'] at hw
      obtain ⟨rfl, rfl⟩ := hw
      refine Or.inl ?_
      simp [Camera.outputsAwaited, Worker.WillFail]
  | awaitOutput hw' =>
      rw [hw'] at hw
      exact Or.inl hw
  | @perform speaker e rest hw' =>
      rw [hw'] at hw
      cases speaker with
      | sensor => cases hw
      | processor =>
          simp only [Worker.WillFail, notices_cons, List.mem_append, Option.mem_toList] at hw
          rcases hw with hnotice | hrest
          · refine Or.inr ?_
            simp [outcomes, Occurrence.outcome?_effect_processor, hnotice]
          · exact Or.inl hrest
  | @finished speaker hw' =>
      rw [hw'] at hw
      cases speaker <;> cases hw
  | check hw' | idle hw' | take hw' | record hw' | awaitInput hw' | handOver hw' | unwind hw'
  | unwound hw' | beginPacing hw' | skipPacing hw' | pace hw' | giveUp hw' =>
      rw [hw'] at hw
      cases hw
  | _ => exact Or.inl hw

/-- A request that the worker took and to which no settings apply has the outcome
that it failed, or it is the last one taken and will fail. -/
theorem Reachable.fails_of_no_settings (hc : Reachable E sensor c) :
    ∀ l a, l ++ [a] <+: c.popped → a.settings.or (latestSettings l) = none →
      (c.popped = l ++ [a] ∧ c.worker.WillFail a) ∨
        (a.tag, .told (a.tag.failure .result)) ∈ c.outcomes := by
  induction hc with
  | created h =>
      obtain rfl := create_eq h
      intro l a hl
      simp [popped, Stage.history] at hl
  | @next c d m hc h ih =>
      intro l a hl hnone
      have hstep := hc.transition h
      have houtcomes : c.outcomes ⊆ d.outcomes :=
        (Stage.history_prefix hstep.record_suffix _).subset
      rcases hstep.popped_cases with hpopped | ⟨b, hready, hresolving, hpopped⟩
      · rw [hpopped] at hl ⊢
        rcases ih l a hl hnone with ⟨hlast, hw⟩ | houtcome
        · exact (hstep.willFail hc hlast hnone hw).imp_left fun hw => ⟨hlast, hw⟩
        · exact Or.inr (houtcomes houtcome)
      · rw [hpopped, List.prefix_concat_iff] at hl
        rcases hl with hl | hl
        · obtain ⟨rfl, hab⟩ := List.append_inj' hl rfl
          obtain rfl : a = b := by simpa using hab
          exact Or.inl ⟨hpopped, by rw [hresolving]; rfl⟩
        · rcases ih l a hl hnone with ⟨-, hw⟩ | houtcome
          · rw [hready] at hw
            cases hw
          · exact Or.inr (houtcomes houtcome)

theorem tag_mem_inHand_of_willFail {a : Admission} (h : c.worker.WillFail a) :
    a.tag ∈ c.inHand := by
  rw [inHand, Ledger.inHand, ledger_def]
  cases hw : c.worker with
  | finishing speaker effects =>
      rw [hw] at h
      cases speaker with
      | sensor => cases h
      | processor =>
          refine List.mem_append_right _ (List.mem_map.mpr ⟨_, h, rfl⟩)
  | resolving b =>
      rw [hw] at h
      obtain rfl : b = a := h
      simp [Worker.undecided]
  | awaitingOutputs b =>
      rw [hw] at h
      obtain ⟨rfl, -⟩ := h
      simp [Worker.undecided]
  | _ =>
      rw [hw] at h
      cases h

/-- A request to which no settings apply is not handed over.  Unless the worker still
has it, its one outcome is the notice that there will be no result. -/
theorem Reachable.outcome_of_no_settings (hc : Reachable E sensor c) {a : Admission}
    (hl : l ++ [a] <+: c.popped) (hnone : a.settings.or (latestSettings l) = none) :
    a.tag ∉ c.handOvers.map (·.1) ∧
      (a.tag ∈ c.inHand ∨
        c.outcomes.filter (·.1 = a.tag) = [(a.tag, .told (a.tag.failure .result))]) := by
  rw [mem_tags_of_handOvers]
  rcases hc.fails_of_no_settings l a hl hnone with ⟨-, hw⟩ | houtcome
  · have hmem := tag_mem_inHand_of_willFail hw
    exact ⟨fun hhanded => hc.balanced.not_mem_outcomes hmem (List.mem_map_of_mem hhanded),
      Or.inl hmem⟩
  · refine ⟨fun hhanded => ?_, Or.inr (filter_key_eq_singleton hc.nodup_outcomes houtcome)⟩
    cases List.inj_on_of_nodup_map hc.nodup_outcomes hhanded houtcome rfl

end Camera

end VirtualCamera
