import VirtualCamera.Proofs.Delivery
import VirtualCamera.Proofs.Repetition

/-!
# What results report

The sensor's parameters and the record for the result of a frame are made at two
moments, with waits for fences in between.  All that happens to the controls goes
through the worker, so both are made from the same controls: those that the
requests taken before left, changed by the settings that apply to this one
(`Camera.Carries`).  What is left to show concerns one request
(`Controls.report_of_apply`): the modes that a record tells are those under which
the sensor was set, as setting the sensor changes none of them.

`Shot.TellsTruth` lists what a client can rely on.
-/

namespace VirtualCamera

/-- A frame, taken after the requests `l` with the settings `r`, whose record says
what the frame is. -/
structure Shot.TellsTruth (shot : Shot) (c : Characteristics) (start : Controls)
    (l : List Admission) (tag : FrameTag) (r : CaptureSettings) : Prop where
  control : shot.result.metadata.control = some (r.control.getD (start.afterRequests l).control)
  exposure : shot.result.metadata.exposure =
    some (r.exposure.getD (start.afterRequests l).exposure)
  whiteBalance : shot.result.metadata.whiteBalance =
    some (r.whiteBalance.getD (start.afterRequests l).whiteBalance)
  focus : shot.result.metadata.focus = some (r.focus.getD (start.afterRequests l).focus)
  frameRate : shot.result.metadata.frameRate =
    some (r.frameRate.getD (start.afterRequests l).frameRate)
  /-- the parameters were derived under these modes -/
  derived : ∃ u, Controls.setSensor c r ((start.afterRequests l).withModes r) = (u, none) ∧
    shot.settings = (Controls.stretchFrame c u).sensor
  exposureState : shot.result.metadata.exposureState =
    some (if shot.result.metadata.control = some .off ∨ shot.result.metadata.exposure = some .off
      then .inactive else .converged)
  sensor : c.supports .readSensorSettings = true →
    shot.result.metadata.exposureTime = some shot.settings.exposureTime ∧
      shot.result.metadata.frameDuration = some shot.settings.frameDuration ∧
      shot.result.metadata.sensitivity = some shot.settings.sensitivity
  request : c.supports .readSensorSettings = false →
    shot.result.metadata.exposureTime = r.exposureTime ∧
      shot.result.metadata.frameDuration = r.frameDuration ∧
      shot.result.metadata.sensitivity = r.sensitivity
  intent : shot.result.metadata.intent = r.intent
  camera : shot.result.camera = start.camera
  pipeline : shot.result.pipeline = tag.pipeline
  frame : shot.result.frame = tag.frame
  depth : shot.result.depth = c.maxPipelineDepth

namespace Controls

open Adjustment

variable {s t u start : Controls} {c : Characteristics} {r : CaptureSettings}

/-! ## One request -/

theorem metadata_of_sensor (h : s.characteristics = some c)
    (hsensor : c.supports .readSensorSettings = true) (r : CaptureSettings) :
    (s.metadata r).exposureTime = some s.exposureTime ∧
      (s.metadata r).frameDuration = some s.frameDuration ∧
      (s.metadata r).sensitivity = some s.sensitivity := by
  simp [metadata, h, hsensor]

theorem metadata_of_no_sensor (h : s.characteristics = some c)
    (hsensor : c.supports .readSensorSettings = false) (r : CaptureSettings) :
    (s.metadata r).exposureTime = r.exposureTime ∧
      (s.metadata r).frameDuration = r.frameDuration ∧
      (s.metadata r).sensitivity = r.sensitivity := by
  simp [metadata, h, hsensor]

@[simp] theorem metadata_exposureState (s : Controls) (r : CaptureSettings) :
    (s.metadata r).exposureState = some s.exposureState := by
  unfold metadata
  split <;> rfl

@[simp] theorem metadata_intent (s : Controls) (r : CaptureSettings) :
    (s.metadata r).intent = r.intent := by
  unfold metadata
  split <;> rfl

/-- What automatic exposure reports of itself tells how the sensor was set. -/
theorem exposureState_of_setSensor (h : setSensor c r s = (u, none)) :
    u.exposureState = if s.byHand then .inactive else .converged := by
  rcases hmanual : s.byHand with _ | _
  · rw [setSensor_of_automatic hmanual] at h
    obtain ⟨frame, exposure, iso, -, -, -, rfl⟩ := setAutomatically_eq_none_iff.mp h
    rfl
  · rw [setSensor_of_byHand hmanual] at h
    have hrests := (settling_setByHand c r).rests h
      (always fun s => { s with exposureState := .inactive }) (by simp [setByHand])
    have hinactive : { u with exposureState := .inactive } = u := congrArg Prod.fst hrests
    rw [← hinactive]
    rfl

@[simp] theorem exposureState_stretchFrame (c : Characteristics) (s : Controls) :
    (stretchFrame c s).exposureState = s.exposureState := by
  obtain ⟨frame, hframe⟩ := exists_stretchFrame_eq c s
  rw [hframe]

/-- The modes in force after a request are those that the sensor was set under. -/
theorem has_of_setSensor {m : Mode} (h : setSensor c r s = (u, none)) (hm : s.Has m) :
    (stretchFrame c u).Has m := by
  have hrun : runAll [setSensor c r, always (stretchFrame c)] s = (stretchFrame c u, none) :=
    runAll_cons_eq_none.mpr ⟨u, h, rfl⟩
  have hkept := keeps_has_sensor c r m s hm
  rwa [hrun] at hkept

theorem identity_afterRequests (start : Controls) (l : List Admission) :
    (start.afterRequests l).characteristics = start.characteristics ∧
      (start.afterRequests l).camera = start.camera :=
  afterAll_induct
    (P := fun t => t.characteristics = start.characteristics ∧ t.camera = start.camera)
    ⟨rfl, rfl⟩
    (fun t r ht =>
      ⟨(identity_apply t r).1.trans ht.1, (identity_apply t r).2.trans ht.2⟩)
    _

end Controls

theorem Shot.tellsTruth_of_isMadeFrom {shot : Shot} {start : Controls} {l : List Admission}
    {a : Admission} {c : Characteristics} (hc : start.characteristics = some c)
    (h : shot.IsMadeFrom start l a) :
    ∃ r, a.settings.or (latestSettings l) = some r ∧ shot.TellsTruth c start l a.tag r := by
  obtain ⟨r, hprepares, hresult⟩ := h
  obtain ⟨hbefore, hname⟩ := start.identity_afterRequests l
  rw [hc] at hbefore
  have happly : (start.afterRequests l).apply r =
      (start.afterRequests (l ++ [a]), .ok shot.settings) :=
    Prod.ext (Controls.afterRequests_concat_of_some hprepares.settings).symm hprepares.sensor
  obtain ⟨-, u, hsensor, hafter, hsettings⟩ := (Controls.apply_eq_ok_iff hbefore).mp happly
  have htells : ∀ m, ((start.afterRequests l).withModes r).Has m →
      shot.result.metadata.Tells m := by
    intro m hm
    rw [hresult, hafter]
    exact (Controls.tells_metadata_iff _ r).mpr (Controls.has_of_setSensor hsensor hm)
  obtain ⟨hdescription, hcamera⟩ := start.identity_afterRequests (l ++ [a])
  rw [hc] at hdescription
  refine ⟨r, hprepares.settings, ?_⟩
  constructor
  case control => exact htells (.control _) rfl
  case exposure => exact htells (.exposure _) rfl
  case whiteBalance => exact htells (.whiteBalance _) rfl
  case focus => exact htells (.focus _) rfl
  case frameRate => exact htells (.frameRate _) rfl
  case derived => exact ⟨u, hsensor, by rw [hsettings, hafter]⟩
  case exposureState =>
      have hcontrol : shot.result.metadata.control =
          some ((start.afterRequests l).withModes r).control := htells (.control _) rfl
      have hexposure : shot.result.metadata.exposure =
          some ((start.afterRequests l).withModes r).exposure := htells (.exposure _) rfl
      rw [hcontrol, hexposure, hresult, hafter]
      simp only [Controls.record, Controls.metadata_exposureState,
        Controls.exposureState_stretchFrame, Controls.exposureState_of_setSensor hsensor,
        Controls.byHand, Bool.or_eq_true, beq_iff_eq, Option.some.injEq]
  case sensor =>
      intro hsupports
      rw [hresult, hsettings]
      exact Controls.metadata_of_sensor hdescription hsupports r
  case request =>
      intro hsupports
      rw [hresult]
      exact Controls.metadata_of_no_sensor hdescription hsupports r
  case intent =>
      rw [hresult]
      exact Controls.metadata_intent _ r
  case camera =>
      rw [hresult]
      exact hcamera
  case pipeline =>
      rw [hresult]
      rfl
  case frame =>
      rw [hresult]
      rfl
  case depth =>
      rw [hresult]
      simp [Controls.record, hdescription]

/-! ## Runs of a session -/

namespace Session

variable {σ : Type} {E : Engine σ} {s₀ s : Session σ} {sensor : σ} {moves : List Move}

/-- The controls of an open session are touched by its worker only. -/
theorem carries_of_run? (h₀ : Opened sensor s₀) (h : s₀.run? E moves = some s) :
    Reachable E sensor s ∧ ∃ l, s.camera.Carries s₀.camera.controls l := by
  induction moves using List.reverseRecOn generalizing s with
  | nil =>
      cases h
      obtain ⟨config, store, controls, camera, description, hc, hs⟩ := h₀
      refine ⟨.opened hc hs, [], ?_⟩
      obtain ⟨controls, rfl⟩ := create_eq hs
      obtain rfl := Camera.create_eq hc
      exact ⟨rfl, rfl, rfl, trivial, by simp [Camera.handOvers, Stage.history]⟩
  | append_singleton moves m ih =>
      rw [run?_concat, Option.bind_eq_some_iff] at h
      obtain ⟨b, hb, hstep⟩ := h
      obtain ⟨hreach, l, hl⟩ := ih hb
      refine ⟨hreach.next hstep, ?_⟩
      rcases (transition_of_step? hstep).camera with heq | ⟨n, hn, -⟩
      · exact ⟨l, heq ▸ hl⟩
      · exact (hreach.camera.transition hn).carries hl

theorem characteristics_of_opened (h₀ : Opened sensor s₀) :
    s₀.camera.controls.characteristics = some s₀.characteristics := by
  obtain ⟨config, store, controls, camera, description, -, hs⟩ := h₀
  unfold create Camera.takeUp at hs
  cases htakeUp : camera.controls.takeUp description with
  | error fault =>
      rw [htakeUp] at hs
      cases hs
  | ok controls =>
      rw [htakeUp] at hs
      cases hs
      exact (Controls.obeys_of_takeUp htakeUp).characteristics

/-- Every frame that a session hands to its sensor comes with a record that tells the
truth about it: made with the settings that apply to its request, under the modes that
the requests taken before it left. -/
theorem records_tell_the_truth (h₀ : Opened sensor s₀) (h : s₀.run? E moves = some s) :
    ∀ p ∈ s.camera.handOvers, SubmittedIn E s₀ moves p.1 ∧
      ∃ l a r, l ++ [a] <+: s.camera.popped ∧ a.tag = p.1 ∧
        a.settings.or (latestSettings l) = some r ∧
        p.2.TellsTruth s₀.characteristics s₀.camera.controls l p.1 r := by
  obtain ⟨hs, l, hl⟩ := carries_of_run? h₀ h
  intro p hp
  obtain ⟨k, a, hk, htag, hmade⟩ := hl.handOvers p hp
  obtain ⟨r, hr, htruth⟩ :=
    Shot.tellsTruth_of_isMadeFrom (characteristics_of_opened h₀) hmade
  have hpopped : k ++ [a] <+: s.camera.popped := hk.trans (hl.popped ▸ List.prefix_append _ _)
  have hadmitted : p.1 ∈ s.camera.admissions := by
    have hmem : a ∈ s.camera.popped ++ s.camera.flushedRequests ++ s.camera.queue :=
      List.mem_append_left _ (List.mem_append_left _ (hpopped.subset (by simp)))
    rw [← htag, ← Camera.tags_of_requests]
    exact List.mem_map_of_mem (hs.camera.requests_perm.mem_iff.mp hmem)
  exact ⟨(traced_of_run? h₀ h).2.admissions _ hadmitted, k, a, r, hpopped, htag, hr,
    htag ▸ htruth⟩

open Sensor (Simulated)

/-- A request that turns automatic control off and is refused for its focus, and then one
that asks for nothing. -/
def refusedThenUnset : List Move :=
  List.flatten [
    [.configure 0 { channel := 0 } [Sample.stream], .build,
      .submit 7 [Sample.request (some { control := some .off, focus := some .continuousPicture }),
        Sample.request (some {})]],
    List.replicate 4 (.advance 0), List.replicate 9 .worker,
    .giveUp :: List.replicate 8 .worker]

/-- The record of the second request tells the mode that the refused one left in
force. -/
theorem record_tells_mode_of_refused_request :
    ∃ (s : Session Simulated) (p : FrameTag × Shot),
      sample.run? Simulated.engine refusedThenUnset = some s ∧ s.camera.handOvers = [p] ∧
      p.1 = Sample.tag 1 ∧ p.2.result.metadata.control = some .off ∧
      p.2.result.metadata.exposureState = some .inactive ∧
      SubmittedIn Simulated.engine sample refusedThenUnset p.1 ∧
      ∃ l a r, l ++ [a] <+: s.camera.popped ∧ a.tag = p.1 ∧
        a.settings.or (latestSettings l) = some r ∧
        p.2.TellsTruth .standard sample.camera.controls l p.1 r := by
  have hrun : (sample.run? Simulated.engine refusedThenUnset).map (fun s =>
      s.camera.handOvers.map fun p =>
        (p.1, p.2.result.metadata.control, p.2.result.metadata.exposureState)) =
      some [(Sample.tag 1, some .off, some .inactive)] := by
    decide +kernel
  obtain ⟨s, hs, heq⟩ := Option.map_eq_some_iff.mp hrun
  obtain ⟨p, _, hall, hp, hnil⟩ := List.map_eq_cons_iff.mp heq
  obtain rfl := List.map_eq_nil_iff.mp hnil
  simp only [Prod.mk.injEq] at hp
  obtain ⟨htag, hcontrol, hstate⟩ := hp
  have htruth := records_tell_the_truth opened_sample hs p (by rw [hall]; exact List.mem_cons_self)
  exact ⟨s, p, hs, hall, htag, hcontrol, hstate, htruth⟩

end Session

end VirtualCamera
