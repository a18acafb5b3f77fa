import VirtualCamera.Proofs.Ranges

/-!
# Exposures and the frames they are taken in

At the end of every request the frame is made as long as the exposure, but not
longer than the longest frame of the description.  Nothing relates that frame to
the exposure times that the description offers, so an exposure asked for by hand
can outlast its frame.

Automatic exposure cannot, since the exposure time is cut to the frame.  By hand it
cannot either if the stretched frame always has room for the exposure, and this is
what requests preserve (`Controls.HasFrameFor`), whether they are accepted, refused
or crash half-way: no frame is ever shorter than the one that a camera starts with,
and an exposure time fits into that frame or into the longest one.  So the law holds
precisely of the descriptions that offer no manual exposure, or whose longest
exposure fits (`Controls.exposures_fit_frames_iff`).
-/

namespace VirtualCamera

namespace Range

variable {α : Type} [LE α] [DecidableLE α] [Std.IsLinearOrder α] {range : Range α}

theorem clamp_most (h : range.least ≤ range.most) : range.clamp range.most = .ok range.most := by
  rw [clamp, if_pos h, if_pos h, if_pos (Std.le_refl _)]

end Range

namespace Characteristics

/-- The longest exposure fits into the longest frame, or into the frame that a
camera starts with. -/
def HoldsExposures (c : Characteristics) : Prop :=
  c.exposureTime.most ≤ c.maxFrameDuration ∨
    c.exposureTime.most ≤ Limits.defaultFrameDuration

end Characteristics

namespace Controls

open Adjustment

variable {s t : Controls} {c : Characteristics} {r : CaptureSettings} {x : SensorSettings}

/-! ## Frames that can be stretched far enough -/

/-- The exposure in force fits into the frame, or into the frame as it will be
stretched. -/
structure HasFrameFor (c : Characteristics) (s : Controls) : Prop where
  frame : Limits.defaultFrameDuration ≤ s.frameDuration
  exposure : s.exposureTime ≤ c.maxFrameDuration ∨
    s.exposureTime ≤ Limits.defaultFrameDuration

theorem HasFrameFor.exposure_le_stretchFrame (h : s.HasFrameFor c) :
    (stretchFrame c s).exposureTime ≤ (stretchFrame c s).frameDuration := by
  unfold stretchFrame
  split
  · rename_i hlonger
    -- an exposure that is longer than the frame is not the short kind
    have hlongest : s.exposureTime ≤ c.maxFrameDuration := by
      rcases h.exposure with hle | hle
      · exact hle
      · exact absurd (UInt64.le_trans hle h.frame) (UInt64.not_le.mpr hlonger)
    exact Std.le_min_iff.mpr ⟨UInt64.le_refl _, hlongest⟩
  · rename_i hshorter
    exact UInt64.not_lt.mp hshorter

theorem HasFrameFor.stretchFrame (h : s.HasFrameFor c) : (stretchFrame c s).HasFrameFor c := by
  have hle := h.exposure_le_stretchFrame
  unfold Controls.stretchFrame at hle ⊢
  split
  · rename_i hlonger
    rw [if_pos hlonger] at hle
    exact ⟨UInt64.le_trans h.frame (UInt64.le_trans (UInt64.le_of_lt hlonger) hle), h.exposure⟩
  · exact h

theorem keeps_hasFrameFor_setSensor (hholds : c.HoldsExposures) (r : CaptureSettings) :
    Keeps (HasFrameFor c) (setSensor c r) := by
  have hfits {t : UInt64} (ht : t ≤ c.exposureTime.most) :
      t ≤ c.maxFrameDuration ∨ t ≤ Limits.defaultFrameDuration :=
    hholds.imp (UInt64.le_trans ht) (UInt64.le_trans ht)
  refine keeps_setSensor ?exposure ?cut ?frame ?iso ?state
  case exposure =>
      intro s t ht hs
      obtain ⟨-, hmost⟩ := Range.contains_iff.mp ht
      exact ⟨hs.frame, hfits hmost⟩
  case cut =>
      intro s t ht hs
      obtain ⟨-, hmost⟩ := Range.contains_iff.mp ht
      exact ⟨hs.frame, hfits (UInt64.le_trans Std.min_le_left hmost)⟩
  case frame =>
      intro s t ht hs
      obtain ⟨hleast, -⟩ := Range.contains_iff.mp ht
      have hstart : Limits.defaultFrameDuration ≤ Limits.frameDuration.least := by decide
      exact ⟨UInt64.le_trans hstart hleast, hs.exposure⟩
  case iso =>
      intro s _ _ hs
      exact ⟨hs.frame, hs.exposure⟩
  case state =>
      intro s _ hs
      exact ⟨hs.frame, hs.exposure⟩

theorem HasFrameFor.apply (hholds : c.HoldsExposures) (hc : s.characteristics = some c)
    (h : s.HasFrameFor c) (r : CaptureSettings) : (s.apply r).1.HasFrameFor c := by
  rw [apply_of_characteristics hc]
  refine keeps_adjust (keeps_adoptModes ?control ?exposure ?whiteBalance ?focus ?rate)
    (keeps_hasFrameFor_setSensor hholds r) (fun s hs => hs.stretchFrame) s h
  case control | exposure | whiteBalance | focus | rate =>
      intro s _ _ hs
      exact ⟨hs.frame, hs.exposure⟩

/-- A request that is accepted ends by stretching the frame. -/
theorem HasFrameFor.exposure_le_of_apply (hholds : c.HoldsExposures)
    (hc : s.characteristics = some c) (h : s.HasFrameFor c) (hx : s.apply r = (t, .ok x)) :
    x.exposureTime ≤ x.frameDuration := by
  obtain ⟨-, u, hsensor, rfl, rfl⟩ := (apply_eq_ok_iff hc).mp hx
  have hmodes : (s.withModes r).HasFrameFor c := ⟨h.frame, h.exposure⟩
  have hset : u.HasFrameFor c := by
    have hkept := keeps_hasFrameFor_setSensor hholds r _ hmodes
    rwa [hsensor] at hkept
  exact hset.exposure_le_stretchFrame

/-! ## New cameras -/

theorem hasFrameFor_of_takeUp {camera : UInt32} (h : ({ camera } : Controls).takeUp c = .ok s) :
    s.HasFrameFor c := by
  obtain ⟨-, rfl⟩ := takeUp_eq_ok_iff.mp h
  have hstart : Limits.defaultExposureTime ≤ Limits.defaultFrameDuration := by decide
  exact ⟨UInt64.le_refl _, .inr hstart⟩

/-- What a frame by hand is taken with if the longest exposure is asked for, and
the frame in force is shorter. -/
theorem apply_of_longest (hc : s.characteristics = some c) (hr : c.Offers r)
    (hmanual : (s.withModes r).byHand = true)
    (hrange : c.exposureTime.least ≤ c.exposureTime.most)
    (hexposure : r.exposureTime = some c.exposureTime.most) (hframe : r.frameDuration = none)
    (hiso : r.sensitivity = none) (hlonger : s.frameDuration < c.exposureTime.most) :
    (s.apply r).2 = .ok ⟨c.exposureTime.most, min c.exposureTime.most c.maxFrameDuration,
      s.sensitivity⟩ := by
  have hsensor : setSensor c r (s.withModes r) =
      ({ s.withModes r with
        exposureTime := c.exposureTime.most
        exposureState := .inactive }, none) := by
    rw [setSensor_of_byHand hmanual, setByHand, hexposure, hframe, hiso]
    simp only [runAll, confine, Range.clamp_most hrange, always]
  have hstretch : stretchFrame c { s.withModes r with
        exposureTime := c.exposureTime.most
        exposureState := .inactive } =
      { s.withModes r with
        exposureTime := c.exposureTime.most
        exposureState := .inactive
        frameDuration := min c.exposureTime.most c.maxFrameDuration } := if_pos hlonger
  have happly := (apply_eq_ok_iff hc).mpr ⟨hr, _, hsensor, hstretch.symm, rfl⟩
  exact congrArg Prod.snd happly

/-- A new camera that can be set by hand can be asked for its longest exposure; if
that fits into its frame, all exposures do. -/
theorem holdsExposures_of_byHand {camera : UInt32}
    (h : ({ camera } : Controls).takeUp c = .ok s) (hr : c.Offers r)
    (hmanual : (s.withModes r).byHand = true)
    (hexposure : r.exposureTime = some c.exposureTime.most) (hframe : r.frameDuration = none)
    (hiso : r.sensitivity = none)
    (hfits : ∀ x, (s.apply r).2 = .ok x → x.exposureTime ≤ x.frameDuration) :
    c.HoldsExposures := by
  have hsound := Characteristics.isSound_of_check (takeUp_eq_ok_iff.mp h).1
  by_cases hlonger : s.frameDuration < c.exposureTime.most
  · have happly := apply_of_longest (obeys_of_takeUp h).characteristics hr hmanual
      (UInt64.le_of_lt hsound.exposureTime) hexposure hframe hiso hlonger
    exact .inl (Std.le_min_iff.mp (hfits _ happly)).2
  · obtain ⟨-, rfl⟩ := takeUp_eq_ok_iff.mp h
    exact .inr (UInt64.not_lt.mp hlonger)

/-- A new camera takes every frame with an exposure that fits into it precisely if
its description offers no manual exposure, or its longest exposure fits into its
longest frame or into the frame that a camera starts with. -/
theorem exposures_fit_frames_iff {camera : UInt32}
    (h : ({ camera } : Controls).takeUp c = .ok s) :
    (∀ (history : List CaptureSettings) (r : CaptureSettings) (x : SensorSettings),
        ((s.afterAll history).apply r).2 = .ok x → x.exposureTime ≤ x.frameDuration) ↔
      .off ∉ c.controlModes ∧ .off ∉ c.exposureModes ∨ c.HoldsExposures := by
  constructor
  · intro hall
    by_cases hcontrol : .off ∈ c.controlModes
    · have hr : c.Offers { control := some .off, exposureTime := some c.exposureTime.most } := by
        constructor <;> simp [hcontrol]
      exact .inr (holdsExposures_of_byHand h hr rfl rfl rfl rfl (hall [] _))
    by_cases hexposure : .off ∈ c.exposureModes
    · have hr : c.Offers { exposure := some .off, exposureTime := some c.exposureTime.most } := by
        constructor <;> simp [hexposure]
      exact .inr (holdsExposures_of_byHand h hr (Bool.or_true _) rfl rfl rfl (hall [] _))
    exact .inl ⟨hcontrol, hexposure⟩
  · intro hfits history r x hx
    have hobeys := (obeys_of_takeUp h).afterAll history
    have happly : (s.afterAll history).apply r = (((s.afterAll history).apply r).1, .ok x) :=
      Prod.ext rfl hx
    rcases hfits with ⟨hcontrol, hexposure⟩ | hholds
    · have hmodes := hobeys.withModes ((apply_eq_ok_iff hobeys.characteristics).mp happly).1
      obtain ⟨-, frame, exposure, iso, -, -, -, -, rfl⟩ :=
        (apply_eq_ok_iff_of_automatic hobeys.characteristics
          (hmodes.automatic hcontrol hexposure)).mp happly
      exact Std.min_le_right
    · have hframe : (s.afterAll history).Obeys c ∧ (s.afterAll history).HasFrameFor c :=
        afterAll_induct (P := fun t => t.Obeys c ∧ t.HasFrameFor c)
          ⟨obeys_of_takeUp h, hasFrameFor_of_takeUp h⟩
          (fun t r ht => ⟨ht.1.apply r, ht.2.apply hholds ht.1.characteristics r⟩) history
      exact hframe.2.exposure_le_of_apply hholds hobeys.characteristics happly

/-- The exposures of the standard camera fit into its frames. -/
theorem standard_exposures_fit_frames :
    ∃ s, ({ camera := 0 } : Controls).takeUp .standard = .ok s ∧
      ∀ (history : List CaptureSettings) (r : CaptureSettings) (x : SensorSettings),
        ((s.afterAll history).apply r).2 = .ok x → x.exposureTime ≤ x.frameDuration := by
  have htakeUp : ({ camera := 0 } : Controls).takeUp .standard = .ok _ := rfl
  have hholds : Characteristics.standard.HoldsExposures := .inl (by decide)
  exact ⟨_, htakeUp, (exposures_fit_frames_iff htakeUp).mpr (.inr hholds)⟩

/-- With frames of a second at most, an exposure of thirty seconds is accepted and
outlasts its frame. -/
theorem exposure_outlasts_frame :
    ∃ s x, ({ camera := 0 } : Controls).takeUp
        { Characteristics.standard with maxFrameDuration := 1000000000 } = .ok s ∧
      (s.apply { exposure := some .off, exposureTime := some 30000000000 }).2 = .ok x ∧
      x.frameDuration < x.exposureTime :=
  ⟨_, ⟨30000000000, 1000000000, 100⟩, rfl, rfl, by decide⟩

end Controls

end VirtualCamera
