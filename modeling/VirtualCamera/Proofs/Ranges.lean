import VirtualCamera.Proofs.Settings

/-!
# Ranges of an accepted description

A description is accepted without a look at its longest frame.  If that is
shorter than the shortest frame of any camera, no frame duration is left to move
a value into, and the first automatic frame stops its thread
(`Controls.apply_of_emptyRange`).  Otherwise no request does: all ranges have
values, so a request is accepted or refused for a mode that is not offered
(`Controls.requests_return_iff`).

The parameters that a camera starts with are not moved into the ranges of its
description, and the frame that it starts with is shorter than any range allows.
It is used by the first frame that is taken by hand.  Automatic exposure cuts the
exposure time to the frame after moving it into its range.  So every frame is
taken within the ranges precisely if the camera offers no manual exposure and its
frames leave room for the shortest exposure
(`Controls.parameters_within_ranges_iff`).  With that room, parameters that are
once within their ranges stay there, also by hand
(`Controls.parameters_stay_within_ranges`).
-/

namespace VirtualCamera

/-- The request itself is at fault. -/
def Stop.BlamesRequest (stop : Stop) : Prop :=
  ∃ reason, stop = .refused (.invalidArgument reason)

namespace Characteristics

/-- The frame duration of automatic exposure leaves room for the shortest
exposure, at every rate. -/
def HasRoom (c : Characteristics) : Prop :=
  ∀ rate ∈ c.frameRates, ∀ frame, c.frameDuration.clamp rate.shortestFrame = .ok frame →
    c.exposureTime.least ≤ frame

/-- Exposures that fit into the shortest frame of any camera fit into all. -/
theorem hasRoom_of_le {c : Characteristics}
    (h : c.exposureTime.least ≤ Limits.frameDuration.least) : c.HasRoom := by
  intro rate _ frame hframe
  obtain ⟨hleast, -⟩ := Range.contains_iff.mp (Range.contains_of_clamp hframe)
  exact UInt64.le_trans h hleast

/-- A sensor's parameters that the description allows. -/
structure Allows (c : Characteristics) (x : SensorSettings) : Prop where
  exposureTime : c.exposureTime.contains x.exposureTime = true
  frameDuration : c.frameDuration.contains x.frameDuration = true
  sensitivity : c.sensitivity.contains x.sensitivity = true

end Characteristics

namespace Controls

open Adjustment

variable {s₀ s t : Controls} {c : Characteristics} {r : CaptureSettings} {x : SensorSettings}

/-! ## Crashes -/

theorem stopsOnly_adjust (hc : c.IsSound) (h : c.frameDuration.least ≤ c.frameDuration.most)
    (r : CaptureSettings) : StopsOnly Stop.BlamesRequest (adjust c r) := by
  refine stopsOnly_runAll fun a ha => ?_
  simp only [adoptModes, List.cons_append, List.nil_append, List.mem_cons, List.not_mem_nil,
    or_false] at ha
  rcases ha with rfl | rfl | rfl | rfl | rfl | rfl | rfl
  · exact stopsOnly_adopt
  · exact stopsOnly_adopt
  · exact stopsOnly_adopt
  · exact stopsOnly_adopt
  · exact stopsOnly_adopt
  · exact stopsOnly_setSensor (UInt64.le_of_lt hc.exposureTime) h hc.sensitivity_le
  · exact stopsOnly_always

theorem Obeys.apply_returns (h : s.Obeys c) (hsound : c.IsSound)
    (hframe : c.frameDuration.least ≤ c.frameDuration.most) (r : CaptureSettings) :
    (∃ x, (s.apply r).2 = .ok x) ∨
      ∃ reason, (s.apply r).2 = .error (.refused (.invalidArgument reason)) := by
  have hstops := stopsOnly_adjust hsound hframe r s
  rw [apply_of_characteristics h.characteristics]
  rcases hadjust : adjust c r s with ⟨t, stop⟩
  rw [hadjust] at hstops
  cases stop with
  | none => exact .inl ⟨_, rfl⟩
  | some stop =>
      obtain ⟨reason, rfl⟩ := hstops stop rfl
      exact .inr ⟨reason, rfl⟩

/-- A camera without any frame duration crashes when it is to choose one. -/
theorem apply_of_emptyRange (hc : s.characteristics = some c) (hr : c.Offers r)
    (hautomatic : (s.withModes r).byHand = false)
    (h : ¬ c.frameDuration.least ≤ c.frameDuration.most) :
    s.apply r = (s.withModes r, .error (.crashed .emptyRange)) := by
  have hfollow : followRate c (s.withModes r) =
      (s.withModes r, some (.crashed .emptyRange)) := by
    rw [followRate, confine]
    simp only [Range.clamp_eq_error h]
  have hsensor : setSensor c r (s.withModes r) =
      (s.withModes r, some (.crashed .emptyRange)) := by
    rw [setSensor_of_automatic hautomatic]
    exact runAll_cons_of_stop hfollow
  have hadjust : adjust c r s = (s.withModes r, some (.crashed .emptyRange)) := by
    rw [adjust, runAll_append_of_none (adoptModes_eq_none_iff.mpr ⟨hr, rfl⟩)]
    exact runAll_cons_of_stop hsensor
  rw [apply_of_characteristics hc, hadjust]
  rfl

/-- Every request after every history returns, with parameters or with a fault
of its own, precisely if the longest frame is no shorter than the shortest.  No
rate makes it divide by zero. -/
theorem requests_return_iff (h : s₀.takeUp c = .ok s) :
    ((∀ (history : List CaptureSettings) (r : CaptureSettings),
        (∃ x, ((s.afterAll history).apply r).2 = .ok x) ∨
          ∃ reason, ((s.afterAll history).apply r).2 =
            .error (.refused (.invalidArgument reason))) ↔
      Limits.frameDuration.least ≤ c.maxFrameDuration) ∧
    ∀ rate : FrameRate, 0 < rate.highest.toNat ∧
      rate.shortestFrame.toNat = 1000000000 / rate.highest.toNat := by
  obtain ⟨hcheck, hs⟩ := takeUp_eq_ok_iff.mp h
  refine ⟨⟨?_, ?_⟩, FrameRate.toNat_shortestFrame⟩
  · intro hall
    by_cases hshort : Limits.frameDuration.least ≤ c.maxFrameDuration
    · exact hshort
    have hoffers : c.Offers {} := by constructor <;> simp
    have hautomatic : (s.withModes {}).byHand = false := by
      rw [hs]
      rfl
    have hcrash := apply_of_emptyRange (obeys_of_takeUp h).characteristics hoffers hautomatic
      hshort
    rcases hall [] {} with ⟨x, hx⟩ | ⟨reason, hreason⟩
    · rw [afterAll, List.foldl_nil, hcrash] at hx
      cases hx
    · rw [afterAll, List.foldl_nil, hcrash] at hreason
      cases hreason
  · intro hlong history r
    exact ((obeys_of_takeUp h).afterAll history).apply_returns
      (Characteristics.isSound_of_check hcheck) hlong r

/-- No request crashes the standard camera. -/
theorem standard_requests_return :
    ∃ s, ({ camera := 0 } : Controls).takeUp .standard = .ok s ∧
      ∀ (history : List CaptureSettings) (r : CaptureSettings),
        (∃ x, ((s.afterAll history).apply r).2 = .ok x) ∨
          ∃ reason, ((s.afterAll history).apply r).2 =
            .error (.refused (.invalidArgument reason)) := by
  have htakeUp : ({ camera := 0 } : Controls).takeUp .standard = .ok _ := rfl
  exact ⟨_, htakeUp, (requests_return_iff htakeUp).1.mpr (by decide)⟩

/-- A description whose longest frame is a nanosecond too short is accepted, and
the first request crashes. -/
theorem accepted_camera_crashes :
    ∃ s, ({ camera := 0 } : Controls).takeUp
        { Characteristics.standard with maxFrameDuration := 33331759 } = .ok s ∧
      (s.apply {}).2 = .error (.crashed .emptyRange) :=
  ⟨_, rfl, rfl⟩

/-! ## Parameters out of range -/

/-- What an automatic frame is taken with, if the request is accepted. -/
theorem apply_eq_ok_iff_of_automatic (hc : s.characteristics = some c)
    (hautomatic : (s.withModes r).byHand = false) :
    s.apply r = (t, .ok x) ↔ c.Offers r ∧
      ∃ frame exposure iso,
        c.frameDuration.clamp (s.withModes r).frameRate.shortestFrame = .ok frame ∧
        c.exposureTime.clamp Limits.defaultExposureTime = .ok exposure ∧
        c.sensitivity.clamp Limits.defaultSensitivity = .ok iso ∧
        t = { s.withModes r with
          frameDuration := frame
          exposureTime := min exposure frame
          sensitivity := iso
          exposureState := .converged } ∧
        x = ⟨min exposure frame, frame, iso⟩ := by
  have hcut (frame exposure : UInt64) : min exposure frame ≤ frame := Std.min_le_right
  rw [apply_eq_ok_iff hc, setSensor_of_automatic hautomatic]
  simp only [setAutomatically_eq_none_iff]
  constructor
  · rintro ⟨hr, _, ⟨frame, exposure, iso, hframe, hexposure, hiso, rfl⟩, rfl, rfl⟩
    rw [stretchFrame_of_le (hcut frame exposure)]
    exact ⟨hr, frame, exposure, iso, hframe, hexposure, hiso, rfl, rfl⟩
  · rintro ⟨hr, frame, exposure, iso, hframe, hexposure, hiso, rfl, rfl⟩
    refine ⟨hr, _, ⟨frame, exposure, iso, hframe, hexposure, hiso, rfl⟩, ?_⟩
    rw [stretchFrame_of_le (hcut frame exposure)]
    exact ⟨rfl, rfl⟩

/-- What automatic exposure sets is within the ranges: the cut exposure time, too,
if there is room for the shortest. -/
theorem allows_of_clamp {rate : FrameRate} {frame exposure : UInt64} {iso : Int32}
    (hroom : c.HasRoom) (hrate : rate ∈ c.frameRates)
    (hframe : c.frameDuration.clamp rate.shortestFrame = .ok frame)
    (hexposure : c.exposureTime.clamp Limits.defaultExposureTime = .ok exposure)
    (hiso : c.sensitivity.clamp Limits.defaultSensitivity = .ok iso) :
    c.Allows ⟨min exposure frame, frame, iso⟩ := by
  obtain ⟨hleast, hmost⟩ := Range.contains_iff.mp (Range.contains_of_clamp hexposure)
  refine ⟨Range.contains_iff.mpr ⟨?_, ?_⟩, Range.contains_of_clamp hframe,
    Range.contains_of_clamp hiso⟩
  · exact Std.le_min_iff.mpr ⟨hleast, hroom rate hrate frame hframe⟩
  · exact UInt64.le_trans Std.min_le_left hmost

/-- What a frame by hand is taken with if nothing is asked for: the parameters in
force. -/
theorem apply_of_unset (hc : s.characteristics = some c) (hr : c.Offers r)
    (hmanual : (s.withModes r).byHand = true) (hexposure : r.exposureTime = none)
    (hframe : r.frameDuration = none) (hiso : r.sensitivity = none)
    (hle : s.exposureTime ≤ s.frameDuration) :
    s.apply r = ({ s.withModes r with exposureState := .inactive }, .ok s.sensor) := by
  have hsensor : setSensor c r (s.withModes r) =
      ({ s.withModes r with exposureState := .inactive }, none) := by
    rw [setSensor_of_byHand hmanual, setByHand, hexposure, hframe, hiso]
    rfl
  refine (apply_eq_ok_iff hc).mpr ⟨hr, _, hsensor, (stretchFrame_of_le ?_).symm, rfl⟩
  exact hle

theorem not_allows_start {camera : UInt32} (h : ({ camera } : Controls).takeUp c = .ok s) :
    ¬ c.Allows s.sensor := by
  obtain ⟨-, rfl⟩ := takeUp_eq_ok_iff.mp h
  intro hallows
  obtain ⟨hleast, -⟩ := Range.contains_iff.mp hallows.frameDuration
  have hshort : ¬ Limits.frameDuration.least ≤ Limits.defaultFrameDuration := by decide
  exact hshort hleast

theorem apply_start_of_byHand {camera : UInt32} (h : ({ camera } : Controls).takeUp c = .ok s)
    (hr : c.Offers r) (hmanual : (s.withModes r).byHand = true) (hexposure : r.exposureTime = none)
    (hframe : r.frameDuration = none) (hiso : r.sensitivity = none) :
    (s.apply r).2 = .ok s.sensor := by
  have hle : s.exposureTime ≤ s.frameDuration := by
    obtain ⟨-, rfl⟩ := takeUp_eq_ok_iff.mp h
    have hdefaults : Limits.defaultExposureTime ≤ Limits.defaultFrameDuration := by decide
    exact hdefaults
  rw [apply_of_unset (obeys_of_takeUp h).characteristics hr hmanual hexposure hframe hiso hle]

/-- A new camera takes an automatic frame at every rate that it offers. -/
theorem exists_apply_start_of_rate {camera : UInt32} {rate : FrameRate} {frame : UInt64}
    (h : ({ camera } : Controls).takeUp c = .ok s) (hrate : rate ∈ c.frameRates)
    (hframe : c.frameDuration.clamp rate.shortestFrame = .ok frame) :
    ∃ exposure iso, (s.apply { frameRate := some rate }).2 =
      .ok ⟨min exposure frame, frame, iso⟩ := by
  have hsound := Characteristics.isSound_of_check (takeUp_eq_ok_iff.mp h).1
  have hoffers : c.Offers { frameRate := some rate } := by constructor <;> simp [hrate]
  have hautomatic : (s.withModes { frameRate := some rate }).byHand = false := by
    obtain ⟨-, rfl⟩ := takeUp_eq_ok_iff.mp h
    rfl
  obtain ⟨exposure, hexposure⟩ := Range.exists_clamp_eq_ok
    (UInt64.le_of_lt hsound.exposureTime) Limits.defaultExposureTime
  obtain ⟨iso, hiso⟩ := Range.exists_clamp_eq_ok hsound.sensitivity_le Limits.defaultSensitivity
  have happly := (apply_eq_ok_iff_of_automatic (obeys_of_takeUp h).characteristics hautomatic).mpr
    ⟨hoffers, frame, exposure, iso, hframe, hexposure, hiso, rfl, rfl⟩
  exact ⟨exposure, iso, congrArg Prod.snd happly⟩

/-- A camera that cannot be set by hand takes its frames within the ranges. -/
theorem Obeys.allows_of_apply (h : s.Obeys c) (hcontrol : .off ∉ c.controlModes)
    (hexposure : .off ∉ c.exposureModes) (hroom : c.HasRoom) (hx : (s.apply r).2 = .ok x) :
    c.Allows x := by
  have happly : s.apply r = ((s.apply r).1, .ok x) := Prod.ext rfl hx
  have hmodes := h.withModes ((apply_eq_ok_iff h.characteristics).mp happly).1
  obtain ⟨-, frame, exposure, iso, hframe, hclamp, hiso, -, rfl⟩ :=
    (apply_eq_ok_iff_of_automatic h.characteristics
      (hmodes.automatic hcontrol hexposure)).mp happly
  exact allows_of_clamp hroom hmodes.frameRate hframe hclamp hiso

/-- A new camera takes every frame with parameters that its description allows
precisely if the description offers no manual exposure and leaves room for the
shortest one. -/
theorem parameters_within_ranges_iff {camera : UInt32}
    (h : ({ camera } : Controls).takeUp c = .ok s) :
    (∀ (history : List CaptureSettings) (r : CaptureSettings) (x : SensorSettings),
        ((s.afterAll history).apply r).2 = .ok x → c.Allows x) ↔
      .off ∉ c.controlModes ∧ .off ∉ c.exposureModes ∧ c.HasRoom := by
  constructor
  · intro hall
    refine ⟨fun hoff => ?control, fun hoff => ?exposure, fun rate hrate frame hframe => ?room⟩
    case control =>
        have hoffers : c.Offers { control := some .off } := by constructor <;> simp [hoff]
        have hstart := apply_start_of_byHand h hoffers rfl rfl rfl rfl
        exact not_allows_start h (hall [] _ _ hstart)
    case exposure =>
        have hoffers : c.Offers { exposure := some .off } := by constructor <;> simp [hoff]
        have hmanual : (s.withModes { exposure := some .off }).byHand = true := Bool.or_true _
        have hstart := apply_start_of_byHand h hoffers hmanual rfl rfl rfl
        exact not_allows_start h (hall [] _ _ hstart)
    case room =>
        obtain ⟨exposure, iso, hstart⟩ := exists_apply_start_of_rate h hrate hframe
        have hallows := hall [] _ _ hstart
        obtain ⟨hleast, -⟩ := Range.contains_iff.mp hallows.exposureTime
        exact UInt64.le_trans hleast Std.min_le_right
  · rintro ⟨hcontrol, hexposure, hroom⟩ history r x hx
    exact ((obeys_of_takeUp h).afterAll history).allows_of_apply hcontrol hexposure hroom hx

/-- A camera that can only expose automatically. -/
def automaticOnly : Characteristics :=
  { Characteristics.standard with controlModes := [.auto], exposureModes := [.on] }

theorem automatic_parameters_within_ranges :
    ∃ s, ({ camera := 0 } : Controls).takeUp automaticOnly = .ok s ∧
      ∀ (history : List CaptureSettings) (r : CaptureSettings) (x : SensorSettings),
        ((s.afterAll history).apply r).2 = .ok x → automaticOnly.Allows x := by
  have htakeUp : ({ camera := 0 } : Controls).takeUp automaticOnly = .ok _ := rfl
  have hroom : automaticOnly.HasRoom := Characteristics.hasRoom_of_le (by decide)
  exact ⟨_, htakeUp,
    (parameters_within_ranges_iff htakeUp).mpr ⟨by decide, by decide, hroom⟩⟩

/-- The standard camera takes its first frame by hand with a frame duration below
its range. -/
theorem first_manual_frame_is_too_short :
    ∃ s x, ({ camera := 0 } : Controls).takeUp .standard = .ok s ∧
      (s.apply { exposure := some .off }).2 = .ok x ∧
      Characteristics.standard.frameDuration.contains x.frameDuration = false :=
  ⟨_, ⟨15000000, 33000000, 100⟩, rfl, rfl, rfl⟩

/-! ## Parameters in range stay there -/

/-- The frame is stretched by an exposure that is longer than a frame of the range,
and not beyond the longest. -/
theorem allows_stretchFrame (h : c.Allows s.sensor) : c.Allows (stretchFrame c s).sensor := by
  unfold stretchFrame
  split
  · rename_i hlonger
    obtain ⟨hleast, hmost⟩ := Range.contains_iff.mp h.frameDuration
    refine ⟨h.exposureTime, Range.contains_iff.mpr ⟨?_, Std.min_le_right⟩, h.sensitivity⟩
    exact Std.le_min_iff.mpr
      ⟨UInt64.le_trans hleast (UInt64.le_of_lt hlonger), UInt64.le_trans hleast hmost⟩
  · exact h

/-- Settings that are at an offered rate and within all ranges. -/
structure IsWithin (c : Characteristics) (s : Controls) : Prop where
  frameRate : s.frameRate ∈ c.frameRates
  sensor : c.Allows s.sensor

/-- By hand each parameter is moved into its range; automatic exposure sets all
three, whatever they were. -/
theorem keeps_isWithin_setSensor (hsound : c.IsSound) (hroom : c.HasRoom)
    (hframe : c.frameDuration.least ≤ c.frameDuration.most) (r : CaptureSettings) :
    Keeps (IsWithin c) (setSensor c r) := by
  intro s hs
  rcases hmanual : s.byHand with _ | _
  · obtain ⟨frame, hclamp⟩ := Range.exists_clamp_eq_ok hframe s.frameRate.shortestFrame
    obtain ⟨exposure, hexposure⟩ := Range.exists_clamp_eq_ok
      (UInt64.le_of_lt hsound.exposureTime) Limits.defaultExposureTime
    obtain ⟨iso, hiso⟩ := Range.exists_clamp_eq_ok hsound.sensitivity_le
      Limits.defaultSensitivity
    rw [setSensor_of_automatic hmanual, setAutomatically_eq_none_iff.mpr
      ⟨frame, exposure, iso, hclamp, hexposure, hiso, rfl⟩]
    exact ⟨hs.frameRate, allows_of_clamp hroom hs.frameRate hclamp hexposure hiso⟩
  · rw [setSensor_of_byHand hmanual]
    exact keeps_setByHand
      (fun _ _ ht hs => ⟨hs.frameRate, { hs.sensor with exposureTime := ht }⟩)
      (fun _ _ ht hs => ⟨hs.frameRate, { hs.sensor with frameDuration := ht }⟩)
      (fun _ _ hn hs => ⟨hs.frameRate, { hs.sensor with sensitivity := hn }⟩)
      (fun _ _ hs => ⟨hs.frameRate, hs.sensor⟩) s hs

theorem IsWithin.apply (hsound : c.IsSound) (hroom : c.HasRoom)
    (hframe : c.frameDuration.least ≤ c.frameDuration.most) (hc : s.characteristics = some c)
    (h : s.IsWithin c) (r : CaptureSettings) : (s.apply r).1.IsWithin c := by
  rw [apply_of_characteristics hc]
  refine keeps_adjust
    (keeps_adoptModes ?control ?exposure ?whiteBalance ?focus fun _ _ hm hs => ⟨hm, hs.sensor⟩)
    (keeps_isWithin_setSensor hsound hroom hframe r) (fun s hs => ?stretch) s h
  case control | exposure | whiteBalance | focus =>
      intro s _ _ hs
      exact ⟨hs.frameRate, hs.sensor⟩
  case stretch =>
      refine ⟨?_, allows_stretchFrame hs.sensor⟩
      unfold stretchFrame
      split
      · exact hs.frameRate
      · exact hs.frameRate

/-- Once the parameters are within their ranges, every later frame is taken within
them, whatever requests came in between. -/
theorem parameters_stay_within_ranges (hsound : c.IsSound) (hroom : c.HasRoom)
    (hframe : c.frameDuration.least ≤ c.frameDuration.most) (hobeys : s.Obeys c)
    (hallows : c.Allows s.sensor) (history : List CaptureSettings) (r : CaptureSettings)
    (h : ((s.afterAll history).apply r).2 = .ok x) : c.Allows x := by
  have hwithin : (s.afterAll history).Obeys c ∧ (s.afterAll history).IsWithin c :=
    afterAll_induct (P := fun t => t.Obeys c ∧ t.IsWithin c)
      ⟨hobeys, hobeys.frameRate, hallows⟩
      (fun t r ht => ⟨ht.1.apply r, ht.2.apply hsound hroom hframe ht.1.characteristics r⟩)
      history
  have hlast := hwithin.2.apply hsound hroom hframe hwithin.1.characteristics r
  have happly : (s.afterAll history).apply r = (((s.afterAll history).apply r).1, .ok x) :=
    Prod.ext rfl h
  obtain ⟨-, u, -, -, rfl⟩ := (apply_eq_ok_iff hwithin.1.characteristics).mp happly
  exact hlast.sensor

end Controls

end VirtualCamera
