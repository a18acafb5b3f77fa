import Mathlib.Logic.Basic
import VirtualCamera.Controls

/-!
# What settings do to the controls

A request's settings reach the controls as a list of adjustments.  Two questions
are asked of such a list: which properties of the controls it leaves true, also
when it stops half-way (`Adjustment.Keeps`), and for which reasons it may stop
(`Adjustment.StopsOnly`).  Both hold of a list if they hold of its members, by
one induction each, so that the adjustments of the modes and those of the sensor
are looked at one at a time.

When nothing stops, the outcome is a function of the controls before
(`Controls.apply_eq_ok_iff`): the modes are those asked for where any are
(`Controls.withModes`), and the sensor is set under these modes.

A camera goes through any number of requests, accepted or not
(`Controls.afterAll`).  Whatever they were, the modes in force are those of the
start or modes that the camera offers (`Controls.Obeys`).
-/

namespace VirtualCamera

/-! ## Ranges and rates -/

namespace Range

variable {α : Type} [LE α] [DecidableLE α] {range : Range α} {x y : α}

theorem contains_iff : range.contains x = true ↔ range.least ≤ x ∧ x ≤ range.most := by
  simp [contains]

theorem clamp_eq_error (h : ¬ range.least ≤ range.most) (x : α) :
    range.clamp x = .error .emptyRange :=
  if_neg h

theorem exists_clamp_eq_ok (h : range.least ≤ range.most) (x : α) :
    ∃ y, range.clamp x = .ok y :=
  ⟨_, if_pos h⟩

theorem contains_of_clamp [Std.IsLinearOrder α] (h : range.clamp x = .ok y) :
    range.contains y = true := by
  rw [contains_iff]
  unfold clamp at h
  split at h
  · rename_i hle
    obtain rfl := Except.ok.inj h
    split
    · split
      · exact ⟨‹_›, ‹_›⟩
      · exact ⟨hle, Std.le_refl _⟩
    · exact ⟨Std.le_refl _, hle⟩
  · cases h

end Range

namespace FrameRate

theorem toNat_highest (r : FrameRate) : (r.highest.toNat : Int) = max 1 r.most.toInt := by
  have hmost := r.most.toInt_lt
  have hlt : (max 1 r.most.toInt).toNat < 2 ^ 64 := by omega
  rw [highest, UInt64.toNat_ofNat_of_lt' hlt]
  omega

/-- The frame duration of a rate is a proper quotient: the rate is not zero. -/
theorem toNat_shortestFrame (r : FrameRate) :
    0 < r.highest.toNat ∧ r.shortestFrame.toNat = 1000000000 / r.highest.toNat := by
  have htoNat := r.toNat_highest
  have hpos : 0 < r.highest.toNat := by omega
  exact ⟨hpos, UInt64.toNat_div _ _⟩

end FrameRate

/-! ## Adjustments -/

namespace Adjustment

variable {s t : Controls} {a : Adjustment} {l l' : List Adjustment}

@[simp] theorem runAll_nil (s : Controls) : runAll [] s = (s, none) := rfl

theorem runAll_cons_eq_none :
    runAll (a :: l) s = (t, none) ↔ ∃ u, a s = (u, none) ∧ runAll l u = (t, none) := by
  rw [runAll]
  rcases hfirst : a s with ⟨u, stop⟩
  cases stop with
  | none => simp
  | some stop => simp

theorem runAll_append_eq_none :
    runAll (l ++ l') s = (t, none) ↔ ∃ u, runAll l s = (u, none) ∧ runAll l' u = (t, none) := by
  induction l generalizing s with
  | nil => simp
  | cons a l ih =>
      rw [List.cons_append, runAll_cons_eq_none]
      constructor
      · rintro ⟨u, hfirst, hrest⟩
        obtain ⟨v, hl, hl'⟩ := ih.mp hrest
        exact ⟨v, runAll_cons_eq_none.mpr ⟨u, hfirst, hl⟩, hl'⟩
      · rintro ⟨v, hl, hl'⟩
        obtain ⟨u, hfirst, hrest⟩ := runAll_cons_eq_none.mp hl
        exact ⟨u, hfirst, ih.mpr ⟨v, hrest, hl'⟩⟩

theorem runAll_cons_of_stop {stop : Stop} (h : a s = (t, some stop)) :
    runAll (a :: l) s = (t, some stop) := by
  rw [runAll, h]

theorem runAll_append_of_none (h : runAll l s = (t, none)) :
    runAll (l ++ l') s = runAll l' t := by
  induction l generalizing s with
  | nil =>
      cases h
      rfl
  | cons a l ih =>
      obtain ⟨u, hfirst, hrest⟩ := runAll_cons_eq_none.mp h
      rw [List.cons_append, runAll, hfirst]
      exact ih hrest

theorem runAll_append_of_stop {stop : Stop} (h : runAll l s = (t, some stop)) :
    runAll (l ++ l') s = (t, some stop) := by
  induction l generalizing s with
  | nil => cases h
  | cons a l ih =>
      rw [List.cons_append, runAll]
      rw [runAll] at h
      rcases hfirst : a s with ⟨u, stopped⟩
      rw [hfirst] at h
      cases stopped with
      | none => exact ih h
      | some stopped => exact h

/-- A property of the controls that an adjustment leaves true, also when it
stops. -/
def Keeps (P : Controls → Prop) (a : Adjustment) : Prop :=
  ∀ s, P s → P (a s).1

/-- If the adjustment stops, then for a reason of a kind. -/
def StopsOnly (Q : Stop → Prop) (a : Adjustment) : Prop :=
  ∀ s, ∀ stop ∈ (a s).2, Q stop

theorem keeps_runAll {P : Controls → Prop} (h : ∀ a ∈ l, Keeps P a) : Keeps P (runAll l) := by
  induction l with
  | nil =>
      intro s hs
      exact hs
  | cons a l ih =>
      intro s hs
      have hfirst := h a List.mem_cons_self s hs
      rw [runAll]
      rcases heq : a s with ⟨u, stop⟩
      rw [heq] at hfirst
      cases stop with
      | none => exact ih (fun b hb => h b (List.mem_cons_of_mem _ hb)) u hfirst
      | some stop => exact hfirst

theorem stopsOnly_runAll {Q : Stop → Prop} (h : ∀ a ∈ l, StopsOnly Q a) :
    StopsOnly Q (runAll l) := by
  induction l with
  | nil =>
      intro s stop hstop
      cases hstop
  | cons a l ih =>
      intro s stop hstop
      have hfirst := h a List.mem_cons_self s
      rw [runAll] at hstop
      rcases heq : a s with ⟨u, stopped⟩
      rw [heq] at hfirst hstop
      cases stopped with
      | none => exact ih (fun b hb => h b (List.mem_cons_of_mem _ hb)) u stop hstop
      | some stopped => exact hfirst stop hstop

/-! ### Adopting a mode -/

section Adopt

variable {α : Type} [BEq α] [LawfulBEq α] {name : String} {shown : α → String}
  {offered : List α} {requested : Option α} {put : Controls → α → Controls}

/-- `get` is what `put` changes. -/
theorem adopt_eq_none_iff (get : Controls → α) (put : Controls → α → Controls)
    (hget : ∀ s, put s (get s) = s) :
    adopt name shown offered requested put s = (t, none) ↔
      (∀ m ∈ requested, m ∈ offered) ∧ t = put s (requested.getD (get s)) := by
  unfold adopt
  cases requested with
  | none => simp [hget, eq_comm]
  | some m =>
      by_cases hm : m ∈ offered
      · simp [hm, eq_comm]
      · simp [hm]

theorem keeps_adopt {P : Controls → Prop} (h : ∀ s, ∀ m ∈ offered, P s → P (put s m)) :
    Keeps P (adopt name shown offered requested put) := by
  intro s hs
  unfold adopt
  cases requested with
  | none => exact hs
  | some m =>
      by_cases hm : m ∈ offered
      · simpa [hm] using h s m hm hs
      · simpa [hm] using hs

omit [LawfulBEq α] in
/-- A mode that is not offered is refused, and nothing else stops. -/
theorem stopsOnly_adopt :
    StopsOnly (fun stop => ∃ reason, stop = .refused (.invalidArgument reason))
      (adopt name shown offered requested put) := by
  intro s stop hstop
  unfold adopt at hstop
  cases requested with
  | none => cases hstop
  | some m =>
      simp only at hstop
      split at hstop
      · cases hstop
      · exact ⟨_, (Option.some.inj hstop).symm⟩

end Adopt

/-! ### Moving a value into a range -/

section Confine

variable {α : Type} [LE α] [DecidableLE α] {range : Range α} {requested : Option α}
  {put : Controls → α → Controls}

theorem confine_eq_none_iff :
    confine range requested put s = (t, none) ↔
      (requested = none ∧ t = s) ∨
        ∃ a b, requested = some a ∧ range.clamp a = .ok b ∧ t = put s b := by
  unfold confine
  cases requested with
  | none => simp [eq_comm]
  | some a =>
      rcases hclamp : range.clamp a with crash | b
      · simp [hclamp]
      · simp [hclamp, eq_comm]

theorem keeps_confine [Std.IsLinearOrder α] {P : Controls → Prop}
    (h : ∀ s b, range.contains b = true → P s → P (put s b)) :
    Keeps P (confine range requested put) := by
  intro s hs
  unfold confine
  cases requested with
  | none => exact hs
  | some a =>
      rcases hclamp : range.clamp a with crash | b
      · simpa [hclamp] using hs
      · simpa [hclamp] using h s b (Range.contains_of_clamp hclamp) hs

theorem stopsOnly_confine {Q : Stop → Prop} (h : range.least ≤ range.most) :
    StopsOnly Q (confine range requested put) := by
  intro s stop hstop
  unfold confine at hstop
  cases requested with
  | none => cases hstop
  | some a =>
      obtain ⟨b, hclamp⟩ := Range.exists_clamp_eq_ok h a
      simp [hclamp] at hstop

/-- A value is never refused: without a range to move it into, the thread comes
to an end. -/
theorem stopsOnly_crashed_confine :
    StopsOnly (fun stop => ∃ crash, stop = .crashed crash) (confine range requested put) := by
  intro s stop hstop
  unfold confine at hstop
  cases requested with
  | none => cases hstop
  | some a =>
      rcases hclamp : range.clamp a with crash | b
      · simp only [hclamp, Option.mem_some_iff] at hstop
        exact ⟨crash, hstop.symm⟩
      · simp [hclamp] at hstop

end Confine

theorem keeps_always {P : Controls → Prop} {change : Controls → Controls}
    (h : ∀ s, P s → P (change s)) : Keeps P (always change) :=
  h

theorem stopsOnly_always {Q : Stop → Prop} {change : Controls → Controls} :
    StopsOnly Q (always change) := by
  intro s stop hstop
  cases hstop

end Adjustment

/-! ## One request -/

/-- A camera that offers every mode a request asks for. -/
structure Characteristics.Offers (c : Characteristics) (r : CaptureSettings) : Prop where
  control : ∀ m ∈ r.control, m ∈ c.controlModes
  exposure : ∀ m ∈ r.exposure, m ∈ c.exposureModes
  whiteBalance : ∀ m ∈ r.whiteBalance, m ∈ c.whiteBalanceModes
  focus : ∀ m ∈ r.focus, m ∈ c.focusModes
  frameRate : ∀ m ∈ r.frameRate, m ∈ c.frameRates

namespace Controls

open Adjustment

variable {s t : Controls} {c : Characteristics} {r : CaptureSettings} {x : SensorSettings}

/-- The controls with the modes that a request asks for. -/
def withModes (s : Controls) (r : CaptureSettings) : Controls :=
  { s with
    control := r.control.getD s.control
    exposure := r.exposure.getD s.exposure
    whiteBalance := r.whiteBalance.getD s.whiteBalance
    focus := r.focus.getD s.focus
    frameRate := r.frameRate.getD s.frameRate }

theorem adoptModes_eq_none_iff :
    runAll (adoptModes c r) s = (t, none) ↔ c.Offers r ∧ t = s.withModes r := by
  simp only [adoptModes, runAll_cons_eq_none, runAll_nil, Prod.mk.injEq, and_true,
    adopt_eq_none_iff Controls.control (fun s m => { s with control := m }) (fun _ => rfl),
    adopt_eq_none_iff Controls.exposure (fun s m => { s with exposure := m }) (fun _ => rfl),
    adopt_eq_none_iff Controls.whiteBalance (fun s m => { s with whiteBalance := m })
      (fun _ => rfl),
    adopt_eq_none_iff Controls.focus (fun s m => { s with focus := m }) (fun _ => rfl),
    adopt_eq_none_iff Controls.frameRate (fun s m => { s with frameRate := m }) (fun _ => rfl)]
  constructor
  · rintro ⟨_, ⟨h₁, rfl⟩, _, ⟨h₂, rfl⟩, _, ⟨h₃, rfl⟩, _, ⟨h₄, rfl⟩, _, ⟨h₅, rfl⟩, rfl⟩
    exact ⟨⟨h₁, h₂, h₃, h₄, h₅⟩, rfl⟩
  · rintro ⟨⟨h₁, h₂, h₃, h₄, h₅⟩, rfl⟩
    exact ⟨_, ⟨h₁, rfl⟩, _, ⟨h₂, rfl⟩, _, ⟨h₃, rfl⟩, _, ⟨h₄, rfl⟩, _, ⟨h₅, rfl⟩, rfl⟩

theorem setAutomatically_eq_none_iff :
    runAll (setAutomatically c) s = (t, none) ↔
      ∃ frame exposure iso, c.frameDuration.clamp s.frameRate.shortestFrame = .ok frame ∧
        c.exposureTime.clamp Limits.defaultExposureTime = .ok exposure ∧
        c.sensitivity.clamp Limits.defaultSensitivity = .ok iso ∧
        t = { s with
          frameDuration := frame
          exposureTime := min exposure frame
          sensitivity := iso
          exposureState := .converged } := by
  simp only [setAutomatically, followRate, runAll_cons_eq_none, runAll_nil, Prod.mk.injEq,
    and_true, confine_eq_none_iff, always, reduceCtorEq, false_and, false_or, Option.some.injEq]
  constructor
  · rintro ⟨_, ⟨_, frame, rfl, hframe, rfl⟩, _, ⟨_, exposure, rfl, hexposure, rfl⟩, _,
      ⟨_, iso, rfl, hiso, rfl⟩, _, rfl, rfl⟩
    exact ⟨frame, exposure, iso, hframe, hexposure, hiso, rfl⟩
  · rintro ⟨frame, exposure, iso, hframe, hexposure, hiso, rfl⟩
    exact ⟨_, ⟨_, frame, rfl, hframe, rfl⟩, _, ⟨_, exposure, rfl, hexposure, rfl⟩, _,
      ⟨_, iso, rfl, hiso, rfl⟩, _, rfl, rfl⟩

theorem setSensor_of_byHand (h : s.byHand = true) :
    setSensor c r s = runAll (setByHand c r) s := by
  rw [setSensor, if_pos h]

theorem setSensor_of_automatic (h : s.byHand = false) :
    setSensor c r s = runAll (setAutomatically c) s := by
  rw [setSensor, h]
  rfl

theorem stretchFrame_of_le (h : s.exposureTime ≤ s.frameDuration) : stretchFrame c s = s :=
  if_neg (UInt64.not_lt.mpr h)

theorem apply_of_characteristics (h : s.characteristics = some c) (r : CaptureSettings) :
    s.apply r = ((adjust c r s).1, (adjust c r s).2.elim (.ok (adjust c r s).1.sensor) .error) := by
  rw [apply, h]
  rcases hadjust : adjust c r s with ⟨t, stop⟩
  cases stop with
  | none => simp [hadjust]
  | some stop => simp [hadjust]

theorem apply_eq_ok_iff (h : s.characteristics = some c) :
    s.apply r = (t, .ok x) ↔ c.Offers r ∧
      ∃ u, setSensor c r (s.withModes r) = (u, none) ∧ t = stretchFrame c u ∧ x = t.sensor := by
  have hadjust : adjust c r s = (t, none) ↔ c.Offers r ∧
      ∃ u, setSensor c r (s.withModes r) = (u, none) ∧ t = stretchFrame c u := by
    simp only [adjust, runAll_append_eq_none, adoptModes_eq_none_iff, runAll_cons_eq_none,
      runAll_nil, always, Prod.mk.injEq, and_true]
    constructor
    · rintro ⟨_, ⟨hoffers, rfl⟩, u, hsensor, _, rfl, rfl⟩
      exact ⟨hoffers, u, hsensor, rfl⟩
    · rintro ⟨hoffers, u, hsensor, rfl⟩
      exact ⟨_, ⟨hoffers, rfl⟩, u, hsensor, _, rfl, rfl⟩
  have happly : s.apply r = (t, .ok x) ↔ adjust c r s = (t, none) ∧ x = t.sensor := by
    rw [apply_of_characteristics h]
    rcases adjust c r s with ⟨u, stop⟩
    cases stop with
    | none =>
        simp only [Option.elim_none, Prod.mk.injEq, Except.ok.injEq, and_true]
        constructor
        · rintro ⟨rfl, rfl⟩
          exact ⟨rfl, rfl⟩
        · rintro ⟨rfl, rfl⟩
          exact ⟨rfl, rfl⟩
    | some stop => simp
  rw [happly, hadjust]
  constructor
  · rintro ⟨⟨hoffers, u, hsensor, ht⟩, hx⟩
    exact ⟨hoffers, u, hsensor, ht, hx⟩
  · rintro ⟨hoffers, u, hsensor, ht, hx⟩
    exact ⟨⟨hoffers, u, hsensor, ht⟩, hx⟩

theorem keeps_adoptModes {P : Controls → Prop}
    (hcontrol : ∀ s, ∀ m ∈ c.controlModes, P s → P { s with control := m })
    (hexposure : ∀ s, ∀ m ∈ c.exposureModes, P s → P { s with exposure := m })
    (hwhiteBalance : ∀ s, ∀ m ∈ c.whiteBalanceModes, P s → P { s with whiteBalance := m })
    (hfocus : ∀ s, ∀ m ∈ c.focusModes, P s → P { s with focus := m })
    (hframeRate : ∀ s, ∀ m ∈ c.frameRates, P s → P { s with frameRate := m }) :
    ∀ a ∈ adoptModes c r, Keeps P a := by
  intro a ha
  simp only [adoptModes, List.mem_cons, List.not_mem_nil, or_false] at ha
  rcases ha with rfl | rfl | rfl | rfl | rfl
  · exact keeps_adopt hcontrol
  · exact keeps_adopt hexposure
  · exact keeps_adopt hwhiteBalance
  · exact keeps_adopt hfocus
  · exact keeps_adopt hframeRate

theorem keeps_setByHand {P : Controls → Prop}
    (hexposure : ∀ s t, c.exposureTime.contains t = true → P s → P { s with exposureTime := t })
    (hframe : ∀ s t, c.frameDuration.contains t = true → P s → P { s with frameDuration := t })
    (hiso : ∀ s n, c.sensitivity.contains n = true → P s → P { s with sensitivity := n })
    (hstate : ∀ s e, P s → P { s with exposureState := e }) : Keeps P (runAll (setByHand c r)) := by
  refine keeps_runAll fun a ha => ?_
  simp only [setByHand, List.mem_cons, List.not_mem_nil, or_false] at ha
  rcases ha with rfl | rfl | rfl | rfl
  · exact keeps_confine hexposure
  · exact keeps_confine hframe
  · exact keeps_confine hiso
  · exact keeps_always fun s hs => hstate s .inactive hs

/-- A property that no part of the adjustments breaks. -/
theorem keeps_adjust {P : Controls → Prop} (hmodes : ∀ a ∈ adoptModes c r, Keeps P a)
    (hsensor : Keeps P (setSensor c r)) (hstretch : ∀ s, P s → P (stretchFrame c s)) :
    Keeps P (adjust c r) := by
  refine keeps_runAll fun a ha => ?_
  simp only [List.mem_append, List.mem_cons, List.not_mem_nil, or_false] at ha
  rcases ha with hmode | rfl | rfl
  · exact hmodes a hmode
  · exact hsensor
  · exact keeps_always hstretch

/-- Under automatic exposure the exposure time is cut to the frame after it was
moved into its range. -/
theorem keeps_setSensor {P : Controls → Prop}
    (hexposure : ∀ s t, c.exposureTime.contains t = true → P s → P { s with exposureTime := t })
    (hcut : ∀ s t, c.exposureTime.contains t = true → P s →
      P { s with exposureTime := min t s.frameDuration })
    (hframe : ∀ s t, c.frameDuration.contains t = true → P s → P { s with frameDuration := t })
    (hiso : ∀ s n, c.sensitivity.contains n = true → P s → P { s with sensitivity := n })
    (hstate : ∀ s e, P s → P { s with exposureState := e }) : Keeps P (setSensor c r) := by
  intro s hs
  rcases hmanual : s.byHand with _ | _
  · rw [setSensor_of_automatic hmanual]
    refine keeps_runAll (fun a ha => ?_) s hs
    simp only [setAutomatically, List.mem_cons, List.not_mem_nil, or_false] at ha
    rcases ha with rfl | rfl | rfl | rfl
    · exact fun u hu => keeps_confine hframe u hu
    · exact keeps_confine hcut
    · exact keeps_confine hiso
    · exact keeps_always fun s hs => hstate s .converged hs
  · rw [setSensor_of_byHand hmanual]
    exact keeps_setByHand hexposure hframe hiso hstate s hs

/-- Nothing stops the adjustments of the sensor if all ranges have values. -/
theorem stopsOnly_setSensor {Q : Stop → Prop}
    (hexposure : c.exposureTime.least ≤ c.exposureTime.most)
    (hframe : c.frameDuration.least ≤ c.frameDuration.most)
    (hiso : c.sensitivity.least ≤ c.sensitivity.most) : StopsOnly Q (setSensor c r) := by
  intro s
  rcases hmanual : s.byHand with _ | _
  · rw [setSensor_of_automatic hmanual]
    refine stopsOnly_runAll (fun a ha => ?_) s
    simp only [setAutomatically, List.mem_cons, List.not_mem_nil, or_false] at ha
    rcases ha with rfl | rfl | rfl | rfl
    · exact fun u => stopsOnly_confine hframe u
    · exact stopsOnly_confine hexposure
    · exact stopsOnly_confine hiso
    · exact stopsOnly_always
  · rw [setSensor_of_byHand hmanual]
    refine stopsOnly_runAll (fun a ha => ?_) s
    simp only [setByHand, List.mem_cons, List.not_mem_nil, or_false] at ha
    rcases ha with rfl | rfl | rfl | rfl
    · exact stopsOnly_confine hexposure
    · exact stopsOnly_confine hframe
    · exact stopsOnly_confine hiso
    · exact stopsOnly_always

/-! ## Any number of requests -/

/-- The controls after requests, whether they were accepted or not. -/
def afterAll (s : Controls) (history : List CaptureSettings) : Controls :=
  history.foldl (fun s r => (s.apply r).1) s

theorem afterAll_induct {P : Controls → Prop} (h : P s)
    (step : ∀ t r, P t → P (t.apply r).1) (history : List CaptureSettings) :
    P (s.afterAll history) := by
  induction history generalizing s with
  | nil => exact h
  | cons r rest ih => exact ih (step s r h)

/-- Controls under a description, in modes of the start or of the description. -/
structure Obeys (c : Characteristics) (s : Controls) : Prop where
  characteristics : s.characteristics = some c
  control : s.control = .auto ∨ s.control ∈ c.controlModes
  exposure : s.exposure = .on ∨ s.exposure ∈ c.exposureModes
  whiteBalance : s.whiteBalance = .auto ∨ s.whiteBalance ∈ c.whiteBalanceModes
  focus : s.focus = .off ∨ s.focus ∈ c.focusModes
  frameRate : s.frameRate ∈ c.frameRates

theorem keeps_obeys_adoptModes : ∀ a ∈ adoptModes c r, Keeps (Obeys c) a :=
  keeps_adoptModes (fun _ _ hm hs => { hs with control := .inr hm })
    (fun _ _ hm hs => { hs with exposure := .inr hm })
    (fun _ _ hm hs => { hs with whiteBalance := .inr hm })
    (fun _ _ hm hs => { hs with focus := .inr hm })
    (fun _ _ hm hs => { hs with frameRate := hm })

theorem Obeys.withModes (h : s.Obeys c) (hr : c.Offers r) : (s.withModes r).Obeys c := by
  have hkept := keeps_runAll (keeps_obeys_adoptModes (r := r)) s h
  rwa [adoptModes_eq_none_iff.mpr ⟨hr, rfl⟩] at hkept

theorem Obeys.apply (h : s.Obeys c) (r : CaptureSettings) : (s.apply r).1.Obeys c := by
  rw [apply_of_characteristics h.characteristics]
  refine keeps_adjust keeps_obeys_adoptModes (keeps_setSensor ?exposure ?cut ?frame ?iso ?state)
    ?stretch s h
  case stretch =>
      intro s hs
      unfold stretchFrame
      split
      · exact { hs with }
      · exact hs
  case state =>
      intro s _ hs
      exact { hs with }
  all_goals
    intro s _ _ hs
    exact { hs with }

theorem Obeys.afterAll (h : s.Obeys c) (history : List CaptureSettings) :
    (s.afterAll history).Obeys c :=
  afterAll_induct h (fun _ r ht => ht.apply r) history

/-- A camera that offers no way to be set by hand is automatic. -/
theorem Obeys.automatic (h : s.Obeys c) (hcontrol : .off ∉ c.controlModes)
    (hexposure : .off ∉ c.exposureModes) : s.byHand = false := by
  have hauto : s.control ≠ .off := by
    intro hoff
    rcases h.control with hstart | hoffered
    · cases hstart.symm.trans hoff
    · exact hcontrol (hoff ▸ hoffered)
  have hon : s.exposure ≠ .off := by
    intro hoff
    rcases h.exposure with hstart | hoffered
    · cases hstart.symm.trans hoff
    · exact hexposure (hoff ▸ hoffered)
  simp [byHand, hauto, hon]

/-! ## Taking up a description -/

theorem takeUp_eq_ok_iff {s₀ : Controls} :
    s₀.takeUp c = .ok s ↔ c.check = .ok () ∧
      s = { s₀ with
        characteristics := some c
        control := .auto
        exposure := .on
        whiteBalance := .auto
        focus := .off
        exposureState := .inactive
        frameRate := c.frameRates.head?.getD s₀.frameRate } := by
  rw [takeUp]
  rcases c.check with fault | ⟨⟩
  · simp [bind, Except.bind]
  · simp [bind, Except.bind, pure, Except.pure, eq_comm]

end Controls

namespace Characteristics

/-- What is known of a description that was accepted. -/
structure IsSound (c : Characteristics) : Prop where
  frameRates : c.frameRates ≠ []
  sensitivity : c.sensitivity.contains Limits.defaultSensitivity = true
  exposureTime : c.exposureTime.least < c.exposureTime.most

theorem IsSound.sensitivity_le {c : Characteristics} (h : c.IsSound) :
    c.sensitivity.least ≤ c.sensitivity.most := by
  obtain ⟨hleast, hmost⟩ := Range.contains_iff.mp h.sensitivity
  exact Int32.le_trans hleast hmost

theorem isSound_of_check {c : Characteristics} (h : c.check = .ok ()) : c.IsSound := by
  unfold check at h
  -- every test that fails is a fault, so all of them passed
  simp only [ite_eq_iff, reduceCtorEq, and_false, false_or, and_true, not_or,
    Decidable.not_not] at h
  obtain ⟨-, -, -, hrates, -, ⟨-, hiso⟩, hexposure⟩ := h
  exact ⟨by simpa using hrates, hiso, UInt64.not_le.mp hexposure⟩

end Characteristics

namespace Controls

variable {s₀ s : Controls} {c : Characteristics}

theorem obeys_of_takeUp (h : s₀.takeUp c = .ok s) : s.Obeys c := by
  obtain ⟨hcheck, rfl⟩ := takeUp_eq_ok_iff.mp h
  have hrates := (Characteristics.isSound_of_check hcheck).frameRates
  refine ⟨rfl, .inl rfl, .inl rfl, .inl rfl, .inl rfl, ?_⟩
  obtain ⟨rate, rest, heq⟩ := List.exists_cons_of_ne_nil hrates
  simp [heq]

end Controls

end VirtualCamera
