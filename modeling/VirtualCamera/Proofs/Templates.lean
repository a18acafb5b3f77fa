import VirtualCamera.Proofs.Ranges
import VirtualCamera.Proofs.Refusals

/-!
# Templates as requests

Two lists decide what a client may do with a template.  Whether there are
default settings for it depends on the capabilities of the camera
(`Controls.exists_template_iff`); whether a request with these settings is
accepted depends on the modes that the camera offers.  A description is taken up
without a look at how the two lists go together: the modes of a template are the
same for all cameras (`Template.modes`), and only its frame rate is one that the
camera offers.

Which request is refused does not depend on the controls.  So a template is
refused at first and after any requests, precisely if one of its modes is not
offered (`Controls.template_refused_iff`).  A camera that has a template and
offers its modes accepts it for good (`Controls.template_accepted_iff`), and whether it
offers them is a question about two sets of modes
(`Characteristics.offersTemplates_iff`).
-/

namespace VirtualCamera

/-! ## The settings of a template -/

namespace Template

/-- The ability that a camera must have to be asked for the template. -/
def capability? : Template → Option Capability
  | manual => some .manualSensor
  | preview | stillCapture | videoRecord | videoSnapshot => some .backwardCompatible
  | zeroShutterLag => none

/-- The modes of the default settings, but for the frame rate. -/
def modes : Template → List Mode
  | manual => [.control .off, .exposure .off, .whiteBalance .off, .focus .off]
  | preview | stillCapture | videoRecord | videoSnapshot | zeroShutterLag =>
    [.control .auto, .exposure .on, .whiteBalance .auto, .focus .off]

end Template

theorem CaptureSettings.modes_of_eq_some {r : CaptureSettings} {control : ControlMode}
    {exposure : ExposureMode} {whiteBalance : WhiteBalanceMode} {focus : FocusMode}
    (hcontrol : r.control = some control) (hexposure : r.exposure = some exposure)
    (hwhiteBalance : r.whiteBalance = some whiteBalance) (hfocus : r.focus = some focus) :
    r.modes = [.control control, .exposure exposure, .whiteBalance whiteBalance, .focus focus] ++
      (r.frameRate.map Mode.frameRate).toList := by
  rw [modes, hcontrol, hexposure, hwhiteBalance, hfocus]
  cases r.frameRate <;> rfl

namespace Characteristics

variable {c : Characteristics} {t : Template} {r : CaptureSettings}

/-- The camera offers the modes of the template. -/
def OffersTemplate (c : Characteristics) (t : Template) : Prop :=
  ∀ m ∈ t.modes, m.isOffered c = true

instance (c : Characteristics) (t : Template) : Decidable (c.OffersTemplate t) :=
  inferInstanceAs (Decidable (∀ m ∈ t.modes, m.isOffered c = true))

theorem find?_modes_eq_none_iff :
    t.modes.find? (fun m => !m.isOffered c) = none ↔ c.OffersTemplate t := by
  simp [OffersTemplate]

/-- There are two sets of modes, and an ability for each. -/
theorem offersTemplates_iff :
    (∀ t : Template, (∃ ability ∈ t.capability?, c.supports ability = true) → c.OffersTemplate t) ↔
      (c.supports .manualSensor = true → c.OffersTemplate .manual) ∧
        (c.supports .backwardCompatible = true → c.OffersTemplate .preview) := by
  constructor
  · intro hoffers
    exact ⟨fun hsupports => hoffers .manual ⟨_, rfl, hsupports⟩,
      fun hsupports => hoffers .preview ⟨_, rfl, hsupports⟩⟩
  · rintro ⟨hmanual, hautomatic⟩ t ⟨ability, hability, hsupports⟩
    cases t with
    | zeroShutterLag => cases hability
    | manual =>
        cases hability
        exact hmanual hsupports
    | preview | stillCapture | videoRecord | videoSnapshot =>
        cases hability
        exact hautomatic hsupports

theorem exists_template?_iff :
    (∃ r, c.template? t = some r) ↔ ∃ ability ∈ t.capability?, c.supports ability = true := by
  cases t <;> simp [template?, Template.capability?]

theorem modes_of_template? (h : c.template? t = some r) :
    r.frameRate = c.frameRates.head? ∧
      r.modes = t.modes ++ (c.frameRates.head?.map Mode.frameRate).toList := by
  cases t with
  | zeroShutterLag => cases h
  | manual | preview | stillCapture | videoRecord | videoSnapshot =>
      simp only [template?, Option.ite_none_right_eq_some, Option.some.injEq] at h
      obtain ⟨-, rfl⟩ := h
      exact ⟨rfl, CaptureSettings.modes_of_eq_some rfl rfl rfl rfl⟩

/-- The frame rate of a template is never the mode that is refused. -/
theorem find?_modes_of_template? (h : c.template? t = some r) :
    r.modes.find? (fun m => !m.isOffered c) = t.modes.find? (fun m => !m.isOffered c) := by
  have hrate : (c.frameRates.head?.map Mode.frameRate).toList.find? (fun m => !m.isOffered c) =
      none := by
    rw [List.find?_eq_none]
    intro m hm
    simp only [Option.mem_toList, Option.map_eq_some_iff] at hm
    obtain ⟨rate, hfirst, rfl⟩ := hm
    simp [Mode.isOffered, List.mem_of_mem_head? hfirst]
  rw [(modes_of_template? h).2, List.find?_append, hrate, Option.or_none]

end Characteristics

/-! ## Requests with the settings of a template -/

namespace Controls

variable {s₀ s : Controls} {c : Characteristics} {t : Template} {r : CaptureSettings}

theorem template_eq_ok_iff (h : s.characteristics = some c) :
    s.template t = .ok r ↔ c.template? t = some r := by
  rw [template, h]
  rcases htemplate : c.template? t with _ | r' <;> simp [htemplate]

theorem exists_template_iff (h : s.characteristics = some c) :
    (∃ r, s.template t = .ok r) ↔ ∃ ability ∈ t.capability?, c.supports ability = true := by
  simp only [template_eq_ok_iff h]
  exact Characteristics.exists_template?_iff

/-- The frame rate of a template is one that the camera offers. -/
theorem exists_modes_of_template (h : s₀.takeUp c = .ok s) (ht : s.template t = .ok r) :
    ∃ rate ∈ c.frameRates, r.modes = t.modes ++ [.frameRate rate] := by
  obtain ⟨hcheck, -⟩ := takeUp_eq_ok_iff.mp h
  obtain ⟨rate, rest, hrates⟩ :=
    List.exists_cons_of_ne_nil (Characteristics.isSound_of_check hcheck).frameRates
  have htemplate := (template_eq_ok_iff (obeys_of_takeUp h).characteristics).mp ht
  refine ⟨rate, by simp [hrates], ?_⟩
  rw [(Characteristics.modes_of_template? htemplate).2, hrates]
  rfl

/-- A template is refused for the first of its modes that is not offered. -/
theorem template_refused_iff (h : s₀.takeUp c = .ok s) (ht : s.template t = .ok r)
    (history : List CaptureSettings) (fault : Fault) :
    ((s.afterAll history).apply r).2 = .error (.refused fault) ↔
      ∃ m, t.modes.find? (fun m => !m.isOffered c) = some m ∧ fault = m.refusal := by
  have hobeys := obeys_of_takeUp h
  rw [snd_apply_eq_refused_iff (hobeys.afterAll history).characteristics,
    Characteristics.find?_modes_of_template? ((template_eq_ok_iff hobeys.characteristics).mp ht)]

/-- A template is accepted for good if the camera offers its modes, and else not even at
first. -/
theorem template_accepted_iff (h : s₀.takeUp c = .ok s) (ht : s.template t = .ok r) :
    (∀ history stop, ((s.afterAll history).apply r).2 = .error stop → ¬ stop.BlamesRequest) ↔
      c.OffersTemplate t := by
  rw [← Characteristics.find?_modes_eq_none_iff]
  constructor
  · intro haccepted
    cases hmode : t.modes.find? (fun m => !m.isOffered c) with
    | none => rfl
    | some m =>
        have hstop := (template_refused_iff h ht [] m.refusal).mpr ⟨m, hmode, rfl⟩
        exact absurd ⟨_, rfl⟩ (haccepted [] _ hstop)
  · rintro hoffers history stop hstop ⟨reason, rfl⟩
    obtain ⟨m, hm, -⟩ := (template_refused_iff h ht history _).mp hstop
    cases hoffers.symm.trans hm

/-- A template is refused at first and after any requests, for the first of its modes
that is not offered; its frame rate always is.  So all templates are accepted for good
precisely if the camera offers the modes of those that it has the ability for. -/
theorem templates_are_accepted_iff (h : s₀.takeUp c = .ok s) :
    (∀ t r, s.template t = .ok r →
      (∃ rate ∈ c.frameRates, r.modes = t.modes ++ [.frameRate rate]) ∧
        ∀ history fault,
          ((s.afterAll history).apply r).2 = .error (.refused fault) ↔
            ∃ m, t.modes.find? (fun m => !m.isOffered c) = some m ∧ fault = m.refusal) ∧
      ((∀ t r, s.template t = .ok r → ∀ history stop,
          ((s.afterAll history).apply r).2 = .error stop → ¬ stop.BlamesRequest) ↔
        (c.supports .manualSensor = true → c.OffersTemplate .manual) ∧
          (c.supports .backwardCompatible = true → c.OffersTemplate .preview)) := by
  have hs := (obeys_of_takeUp h).characteristics
  refine ⟨fun t r ht => ⟨exists_modes_of_template h ht, template_refused_iff h ht⟩, ?_⟩
  rw [← Characteristics.offersTemplates_iff]
  constructor
  · intro haccepted t habilities
    obtain ⟨r, ht⟩ := (exists_template_iff hs).mpr habilities
    exact (template_accepted_iff h ht).mp (haccepted t r ht)
  · intro hoffers t r ht
    exact (template_accepted_iff h ht).mpr (hoffers t ((exists_template_iff hs).mp ⟨r, ht⟩))

/-- The standard camera accepts its templates for good. -/
theorem standard_templates_are_accepted :
    ∃ s, ({ camera := 0 } : Controls).takeUp .standard = .ok s ∧
      (∃ r, s.template .manual = .ok r) ∧
      ∀ t r, s.template t = .ok r → ∀ history stop,
        ((s.afterAll history).apply r).2 = .error stop → ¬ stop.BlamesRequest := by
  obtain ⟨s, h⟩ : ∃ s, ({ camera := 0 } : Controls).takeUp .standard = .ok s := ⟨_, rfl⟩
  have hmanual : ∃ r, s.template .manual = .ok r := by
    rw [exists_template_iff (obeys_of_takeUp h).characteristics]
    exact ⟨.manualSensor, rfl, rfl⟩
  exact ⟨s, h, hmanual, (templates_are_accepted_iff h).2.mpr ⟨by decide, by decide⟩⟩

/-- A camera that can only be focused automatically is taken up, has a template for
previews, and refuses it. -/
theorem preview_of_autofocus_camera_is_refused :
    ∃ s r, ({ camera := 0 } : Controls).takeUp { Characteristics.standard with
        focusModes := [.auto] } = .ok s ∧
      s.template .preview = .ok r ∧
      (s.apply r).2 = .error (.refused (.invalidArgument "AF mode Off not supported")) ∧
      (Stop.refused (.invalidArgument "AF mode Off not supported")).BlamesRequest :=
  ⟨_, _, rfl, rfl, rfl, ⟨_, rfl⟩⟩

end Controls

end VirtualCamera
