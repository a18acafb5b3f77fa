import VirtualCamera.Proofs.Ranges
import VirtualCamera.Proofs.Repetition

/-!
# What an automatic frame forgets

The values that a client sets by hand stay in the controls: through later frames,
through requests that do not mention them, and through requests that are refused.
This file compares two cameras that are sent the same modes, request by request,
and any values beside them.  The invariant is that the controls are the same but
for the parameters of the sensor (`Controls.modesOnly`): no mode depends on a
value, so every request keeps it (`Controls.modesOnly_apply`), and requests are
refused alike.

An automatic frame is set from the modes alone
(`Controls.apply_eq_ok_iff_of_automatic`).  It therefore makes the two cameras
the same in every part, also in what the stretch at the end works on
(`Controls.automatic_frames_forget`).
-/

namespace VirtualCamera

/-- Requests that ask for the same modes.  The values beside them may differ, also in
whether there are any. -/
structure CaptureSettings.SameModes (r r' : CaptureSettings) : Prop where
  control : r.control = r'.control
  exposure : r.exposure = r'.exposure
  whiteBalance : r.whiteBalance = r'.whiteBalance
  focus : r.focus = r'.focus
  frameRate : r.frameRate = r'.frameRate

theorem CaptureSettings.SameModes.modes_eq {r r' : CaptureSettings} (h : r.SameModes r') :
    r.modes = r'.modes := by
  rw [modes, modes, h.control, h.exposure, h.whiteBalance, h.focus, h.frameRate]

namespace Controls

open Adjustment

variable {s₀ s s' t : Controls} {c : Characteristics} {r r' : CaptureSettings}

/-! ## The modes after a request -/

theorem modesOnly_put (s : Controls) (m : Mode) : (s.put m).modesOnly = s.modesOnly.put m := by
  cases m <;> rfl

theorem modesOnly_foldl_put (s : Controls) (l : List Mode) :
    (l.foldl put s).modesOnly = l.foldl put s.modesOnly := by
  induction l generalizing s with
  | nil => rfl
  | cons m l ih => rw [List.foldl_cons, List.foldl_cons, ih, modesOnly_put]

theorem modesOnly_withModes (s : Controls) (r : CaptureSettings) :
    (s.withModes r).modesOnly = s.modesOnly.withModes r :=
  rfl

/-- What a request leaves of the modes depends on the modes. -/
theorem modesOnly_apply (h : s.characteristics = some c) (r : CaptureSettings) :
    (s.apply r).1.modesOnly = (takeModes c r.modes s.modesOnly).1 := by
  have htake : (takeModes c r.modes s).1.modesOnly = (takeModes c r.modes s.modesOnly).1 :=
    modesOnly_foldl_put s _
  rw [apply_of_characteristics h, adjust_eq]
  rcases hmodes : takeModes c r.modes s with ⟨u, stop⟩
  rw [hmodes] at htake
  cases stop with
  | some stop => rw [runAll_cons_of_stop hmodes, htake]
  | none =>
      rw [runAll, hmodes]
      exact keeps_modesOnly_sensor c r _ u htake

/-! ## An automatic frame -/

variable {x : SensorSettings}

theorem characteristics_congr (h : s.modesOnly = s'.modesOnly) :
    s'.characteristics = s.characteristics :=
  (congrArg Controls.characteristics h :).symm

theorem withModes_congr (h : s.modesOnly = s'.modesOnly) (hr : r.SameModes r') :
    (s.withModes r).modesOnly = (s'.withModes r').modesOnly := by
  rw [modesOnly_withModes, modesOnly_withModes, h, withModes, withModes, hr.control, hr.exposure,
    hr.whiteBalance, hr.focus, hr.frameRate]

theorem byHand_of_apply (hc : s.characteristics = some c) (h : s.apply r = (t, .ok x)) :
    t.byHand = (s.withModes r).byHand := by
  obtain ⟨-, u, hsensor, rfl, -⟩ := (apply_eq_ok_iff hc).mp h
  have hmode := byHand_setSensor c r (s.withModes r)
  rw [hsensor] at hmode
  rw [byHand_stretchFrame, hmode]

/-- An automatic frame is set from the modes: another camera in the same modes takes the
same frame, and is in the same controls afterwards. -/
theorem apply_congr_of_automatic (hc : s.characteristics = some c)
    (hsame : s.modesOnly = s'.modesOnly) (hr : r.SameModes r') (h : s.apply r = (t, .ok x))
    (hautomatic : t.byHand = false) : s'.apply r' = (t, .ok x) := by
  have hc' := (characteristics_congr hsame).trans hc
  have hmodes := withModes_congr hsame hr
  have hbefore : (s.withModes r).byHand = false := (byHand_of_apply hc h).symm.trans hautomatic
  have hbefore' : (s'.withModes r').byHand = false :=
    (congrArg Controls.byHand hmodes).symm.trans hbefore
  have hrate : (s.withModes r).frameRate = (s'.withModes r').frameRate :=
    (congrArg Controls.frameRate hmodes :)
  obtain ⟨hoffers, frame, exposure, iso, hframe, hexposure, hiso, rfl, rfl⟩ :=
    (apply_eq_ok_iff_of_automatic hc hbefore).mp h
  rw [hrate] at hframe
  rw [offers_iff, hr.modes_eq, ← offers_iff] at hoffers
  refine (apply_eq_ok_iff_of_automatic hc' hbefore').mpr
    ⟨hoffers, frame, exposure, iso, hframe, hexposure, hiso, ?_, rfl⟩
  exact congrArg (fun u : Controls =>
    { u with
      frameDuration := frame
      exposureTime := min exposure frame
      sensitivity := iso
      exposureState := .converged }) hmodes

/-! ## Two cameras -/

/-- The outcomes of requests, one after the other: the controls after each, and its answer. -/
def outcomes (s : Controls) : List CaptureSettings → List (Controls × Except Stop SensorSettings)
  | [] => []
  | r :: rest => s.apply r :: (s.apply r).1.outcomes rest

/-- No request brings the thread to an end. -/
def Survives (s : Controls) (history : List CaptureSettings) : Prop :=
  ∀ outcome ∈ s.outcomes history, ∀ crash, outcome.2 ≠ .error (.crashed crash)

theorem survives_cons {rest : List CaptureSettings} :
    s.Survives (r :: rest) ↔
      (∀ crash, (s.apply r).2 ≠ .error (.crashed crash)) ∧ (s.apply r).1.Survives rest := by
  simp [Survives, outcomes]

/-- A camera that has a frame duration to choose survives all requests. -/
theorem Obeys.survives (h : s.Obeys c) (hsound : c.IsSound)
    (hframe : c.frameDuration.least ≤ c.frameDuration.most) (history : List CaptureSettings) :
    s.Survives history := by
  induction history generalizing s with
  | nil =>
      intro outcome houtcome
      cases houtcome
  | cons r rest ih =>
      refine survives_cons.mpr ⟨fun crash hcrash => ?_, ih (h.apply r)⟩
      rcases h.apply_returns hsound hframe r with ⟨x, hx⟩ | ⟨reason, hreason⟩
      · cases hcrash.symm.trans hx
      · cases hcrash.symm.trans hreason

/-- Answers that are given for the same modes: both accept, or both refuse for the same
fault; and frames that are taken automatically leave nothing to tell the two apart. -/
structure Alike (outcome outcome' : Controls × Except Stop SensorSettings) : Prop where
  accepted : (∃ x, outcome.2 = .ok x) ↔ ∃ x, outcome'.2 = .ok x
  refused : ∀ fault, outcome.2 = .error (.refused fault) ↔ outcome'.2 = .error (.refused fault)
  forgets : (∃ x, outcome.2 = .ok x) → outcome.1.control ≠ .off → outcome.1.exposure ≠ .off →
    outcome' = outcome

/-- What does not crash is accepted if it is not refused. -/
theorem exists_eq_ok_iff (h : ∀ crash, (s.apply r).2 ≠ .error (.crashed crash)) :
    (∃ x, (s.apply r).2 = .ok x) ↔ ¬ ∃ fault, (s.apply r).2 = .error (.refused fault) := by
  rcases hanswer : (s.apply r).2 with stop | x
  · cases stop with
    | crashed crash => exact absurd hanswer (h crash)
    | refused fault => simp
  · simp

theorem alike_apply (hc : s.characteristics = some c) (hsame : s.modesOnly = s'.modesOnly)
    (hr : r.SameModes r') (h : ∀ crash, (s.apply r).2 ≠ .error (.crashed crash))
    (h' : ∀ crash, (s'.apply r').2 ≠ .error (.crashed crash)) :
    Alike (s.apply r) (s'.apply r') := by
  have hc' := (characteristics_congr hsame).trans hc
  have hrefused : ∀ fault, (s.apply r).2 = .error (.refused fault) ↔
      (s'.apply r').2 = .error (.refused fault) := by
    intro fault
    rw [snd_apply_eq_refused_iff hc, snd_apply_eq_refused_iff hc', hr.modes_eq]
  refine ⟨?_, hrefused, ?_⟩
  · rw [exists_eq_ok_iff h, exists_eq_ok_iff h']
    simp only [hrefused]
  · rintro ⟨x, hx⟩ hcontrol hexposure
    have happly : s.apply r = ((s.apply r).1, .ok x) := Prod.ext rfl hx
    have hautomatic : (s.apply r).1.byHand = false := by simp [byHand, hcontrol, hexposure]
    rw [apply_congr_of_automatic hc hsame hr happly hautomatic, ← happly]

theorem forall₂_alike {history history' : List CaptureSettings}
    (hc : s.characteristics = some c) (hsame : s.modesOnly = s'.modesOnly)
    (hr : List.Forall₂ CaptureSettings.SameModes history history')
    (h : s.Survives history) (h' : s'.Survives history') :
    List.Forall₂ Alike (s.outcomes history) (s'.outcomes history') := by
  induction hr generalizing s s' with
  | nil => exact .nil
  | @cons r r' rest rest' hr _ ih =>
      obtain ⟨hfirst, hrest⟩ := survives_cons.mp h
      obtain ⟨hfirst', hrest'⟩ := survives_cons.mp h'
      have hc' := (characteristics_congr hsame).trans hc
      have hnext : (s.apply r).1.modesOnly = (s'.apply r').1.modesOnly := by
        rw [modesOnly_apply hc, modesOnly_apply hc', hsame, hr.modes_eq]
      exact .cons (alike_apply hc hsame hr hfirst hfirst')
        (ih ((characteristics_apply s r).trans hc) hnext hrest hrest')

/-- Two cameras that are started alike and sent the same modes, with any values set by
hand, accept and refuse the same requests, and no automatic frame tells them apart. -/
theorem automatic_frames_forget {history history' : List CaptureSettings}
    (h : s₀.takeUp c = .ok s) (hmodes : List.Forall₂ CaptureSettings.SameModes history history')
    (hs : s.Survives history) (hs' : s.Survives history') :
    List.Forall₂ Alike (s.outcomes history) (s.outcomes history') :=
  forall₂_alike (obeys_of_takeUp h).characteristics rfl hmodes hs hs'

/-- A frame by hand, a request that is refused behind the control mode, and an automatic
frame. -/
def handedBack : List CaptureSettings :=
  [{ exposure := some .off },
    { control := some .off, focus := some .continuousPicture },
    { control := some .auto, exposure := some .on }]

/-- The same with a long exposure, and with values that nothing asks for. -/
def handedBackFromLongExposure : List CaptureSettings :=
  [{ exposure := some .off, exposureTime := some 50000000 },
    { control := some .off, focus := some .continuousPicture, sensitivity := some 800 },
    { control := some .auto, exposure := some .on, frameDuration := some 90000000 }]

/-- The standard camera takes different frames by hand, and the same one afterwards. -/
theorem standard_camera_forgets_long_exposure :
    ∃ s, ({ camera := 0 } : Controls).takeUp .standard = .ok s ∧
      (s.outcomes handedBack).map Prod.snd =
        [.ok ⟨15000000, 33000000, 100⟩,
          .error (.refused (Mode.focus .continuousPicture).refusal),
          .ok ⟨15000000, 33333333, 100⟩] ∧
      (s.outcomes handedBackFromLongExposure).map Prod.snd =
        [.ok ⟨50000000, 50000000, 100⟩,
          .error (.refused (Mode.focus .continuousPicture).refusal),
          .ok ⟨15000000, 33333333, 100⟩] ∧
      List.Forall₂ Alike (s.outcomes handedBack) (s.outcomes handedBackFromLongExposure) := by
  obtain ⟨s, h, hs⟩ : ∃ s, ({ camera := 0 } : Controls).takeUp .standard = .ok s ∧
      s = { camera := 0, characteristics := some .standard, frameRate := ⟨15, 30⟩ } :=
    ⟨_, rfl, rfl⟩
  have hsound := Characteristics.isSound_of_check (takeUp_eq_ok_iff.mp h).1
  have hsurvives (history : List CaptureSettings) : s.Survives history :=
    (obeys_of_takeUp h).survives hsound (by decide) history
  have hmodes : List.Forall₂ CaptureSettings.SameModes handedBack handedBackFromLongExposure :=
    .cons ⟨rfl, rfl, rfl, rfl, rfl⟩ (.cons ⟨rfl, rfl, rfl, rfl, rfl⟩
      (.cons ⟨rfl, rfl, rfl, rfl, rfl⟩ .nil))
  refine ⟨s, h, ?_, ?_, automatic_frames_forget h hmodes (hsurvives _) (hsurvives _)⟩
  · rw [hs]
    rfl
  · rw [hs]
    rfl

end Controls

end VirtualCamera
