import VirtualCamera.Proofs.Settings

/-!
# What a refused request leaves behind

A request is refused for the first of its modes that the camera does not offer.
The modes before that one have been put in force by then, and nothing takes them
back.  `CaptureSettings.modes` lists the modes of a request in the order in which
the controls look at them, so that the adjustments of the modes are one walk
along this list (`Controls.runAll_adoptModes`): the modes that are put in force
are its longest part in front that is offered, and the fault is that of the next.

Two modes of one request are never modes of the same control
(`CaptureSettings.pairwise_modes`).  Putting modes in force therefore changes
nothing precisely if they all were in force before (`Controls.foldl_put_eq_iff`).
Since every record tells the modes in force, a difference that is left behind
can be seen (`Controls.AnswersAlike.eq_of_foldl_put`).
-/

namespace VirtualCamera

/-! ## The modes of a request -/

/-- A mode of one of the controls. -/
inductive Mode where
  | control (m : ControlMode)
  | exposure (m : ExposureMode)
  | whiteBalance (m : WhiteBalanceMode)
  | focus (m : FocusMode)
  | frameRate (m : FrameRate)
  deriving DecidableEq, Repr

namespace Mode

/-- The name of the control. -/
def name : Mode → String
  | control _ => "control"
  | exposure _ => "AE"
  | whiteBalance _ => "AWB"
  | focus _ => "AF"
  | frameRate _ => "AE target fps"

def shown : Mode → String
  | control m => Vocabulary.word m
  | exposure m => Vocabulary.word m
  | whiteBalance m => Vocabulary.word m
  | focus m => Vocabulary.word m
  | frameRate m => m.diagnostic

def isOffered (c : Characteristics) : Mode → Bool
  | control m => c.controlModes.contains m
  | exposure m => c.exposureModes.contains m
  | whiteBalance m => c.whiteBalanceModes.contains m
  | focus m => c.focusModes.contains m
  | frameRate m => c.frameRates.contains m

/-- The fault of a request for a mode that is not offered. -/
def refusal (m : Mode) : Fault :=
  .invalidArgument (m.name ++ " mode " ++ m.shown ++ " not supported")

end Mode

/-- The modes that a request asks for, in the order in which they are looked
at. -/
def CaptureSettings.modes (r : CaptureSettings) : List Mode :=
  [r.control.map .control, r.exposure.map .exposure, r.whiteBalance.map .whiteBalance,
    r.focus.map .focus, r.frameRate.map .frameRate].filterMap id

/-- No control is given two modes. -/
theorem CaptureSettings.pairwise_modes (r : CaptureSettings) :
    r.modes.Pairwise fun m m' => m.name ≠ m'.name := by
  simp [modes, List.pairwise_filterMap, Mode.name]

/-- The record tells the mode. -/
def CaptureSettings.Tells (metadata : CaptureSettings) : Mode → Prop
  | .control m => metadata.control = some m
  | .exposure m => metadata.exposure = some m
  | .whiteBalance m => metadata.whiteBalance = some m
  | .focus m => metadata.focus = some m
  | .frameRate m => metadata.frameRate = some m

namespace Controls

variable {s t : Controls} {c : Characteristics} {r : CaptureSettings} {m m' : Mode}
  {l : List Mode}

/-! ## Putting modes in force -/

def put (s : Controls) : Mode → Controls
  | .control m => { s with control := m }
  | .exposure m => { s with exposure := m }
  | .whiteBalance m => { s with whiteBalance := m }
  | .focus m => { s with focus := m }
  | .frameRate m => { s with frameRate := m }

/-- The mode is in force. -/
def Has (s : Controls) : Mode → Prop
  | .control m => s.control = m
  | .exposure m => s.exposure = m
  | .whiteBalance m => s.whiteBalance = m
  | .focus m => s.focus = m
  | .frameRate m => s.frameRate = m

theorem has_put (s : Controls) (m : Mode) : (s.put m).Has m := by
  cases m <;> rfl

theorem has_put_of_ne (h : m.name ≠ m'.name) : (s.put m).Has m' ↔ s.Has m' := by
  -- a control that differs from that of `m` is not touched
  cases m <;> cases m' <;> first | rfl | exact absurd rfl h

theorem put_eq_self (h : s.Has m) : s.put m = s := by
  cases m <;> cases h <;> rfl

theorem foldl_put_eq_self (h : ∀ m ∈ l, s.Has m) : l.foldl put s = s := by
  induction l with
  | nil => rfl
  | cons m l ih =>
      rw [List.foldl_cons, put_eq_self (h m List.mem_cons_self)]
      exact ih fun m' hm' => h m' (List.mem_cons_of_mem _ hm')

theorem has_foldl_put_of_ne (h : ∀ m' ∈ l, m'.name ≠ m.name) :
    (l.foldl put s).Has m ↔ s.Has m := by
  induction l generalizing s with
  | nil => rfl
  | cons m' l ih =>
      rw [List.foldl_cons, ih fun m'' hm'' => h m'' (List.mem_cons_of_mem _ hm'')]
      exact has_put_of_ne (h m' List.mem_cons_self)

theorem has_foldl_put (hl : l.Pairwise fun m m' => m.name ≠ m'.name) (hm : m ∈ l) :
    (l.foldl put s).Has m := by
  induction l generalizing s with
  | nil => cases hm
  | cons m' l ih =>
      obtain ⟨hne, hrest⟩ := List.pairwise_cons.mp hl
      rcases List.mem_cons.mp hm with rfl | hm
      · rw [List.foldl_cons, has_foldl_put_of_ne fun m'' hm'' => (hne m'' hm'').symm]
        exact has_put s m
      · exact ih hrest hm

theorem foldl_put_eq_iff (hl : l.Pairwise fun m m' => m.name ≠ m'.name) :
    l.foldl put s = s ↔ ∀ m ∈ l, s.Has m := by
  constructor
  · intro h m hm
    have hhas := has_foldl_put (s := s) hl hm
    rwa [h] at hhas
  · exact foldl_put_eq_self

/-! ## The adjustments of the modes -/

open Adjustment

/-- Puts modes in force one after the other, up to the first that the camera does
not offer. -/
def takeModes (c : Characteristics) (modes : List Mode) : Adjustment := fun s =>
  ((modes.takeWhile (·.isOffered c)).foldl put s,
    (modes.find? fun m => !m.isOffered c).map fun m => .refused m.refusal)

theorem takeModes_cons_of_offered (h : m.isOffered c = true) (s : Controls) :
    takeModes c (m :: l) s = takeModes c l (s.put m) := by
  simp [takeModes, h]

theorem takeModes_cons_of_not_offered (h : m.isOffered c = false) (s : Controls) :
    takeModes c (m :: l) s = (s, some (.refused m.refusal)) := by
  simp [takeModes, h]

/-- To adopt a requested mode is one step along the modes of the request. -/
theorem runAll_adopt_cons {α : Type} [BEq α] {name : String} {shown : α → String}
    {offered : List α} {requested : Option α} {change : Controls → α → Controls}
    {rest : List Adjustment} (modes : List (Option Mode)) (mode : α → Mode)
    (hoffered : ∀ a, (mode a).isOffered c = offered.contains a)
    (hput : ∀ s a, s.put (mode a) = change s a)
    (hrefusal : ∀ a, (mode a).refusal =
      .invalidArgument (name ++ " mode " ++ shown a ++ " not supported"))
    (hrest : runAll rest = takeModes c (modes.filterMap id)) :
    runAll (adopt name shown offered requested change :: rest) =
      takeModes c ((requested.map mode :: modes).filterMap id) := by
  funext s
  cases requested with
  | none =>
      show runAll rest s = _
      rw [hrest]
      rfl
  | some a =>
      have hmodes : ((some a).map mode :: modes).filterMap id = mode a :: modes.filterMap id := rfl
      rw [hmodes]
      by_cases ha : offered.contains a = true
      · have hadopt : adopt name shown offered (some a) change s = (change s a, none) := if_pos ha
        rw [runAll, hadopt, takeModes_cons_of_offered ((hoffered a).trans ha), hput, ← hrest]
      · rw [Bool.not_eq_true] at ha
        rw [takeModes_cons_of_not_offered ((hoffered a).trans ha), hrefusal]
        exact runAll_cons_of_stop (if_neg (by simp [ha]))

theorem runAll_adoptModes (c : Characteristics) (r : CaptureSettings) :
    runAll (adoptModes c r) = takeModes c r.modes := by
  refine runAll_adopt_cons _ .control (fun _ => rfl) (fun _ _ => rfl) (fun _ => rfl) ?_
  refine runAll_adopt_cons _ .exposure (fun _ => rfl) (fun _ _ => rfl) (fun _ => rfl) ?_
  refine runAll_adopt_cons _ .whiteBalance (fun _ => rfl) (fun _ _ => rfl) (fun _ => rfl) ?_
  refine runAll_adopt_cons _ .focus (fun _ => rfl) (fun _ _ => rfl) (fun _ => rfl) ?_
  exact runAll_adopt_cons [] .frameRate (fun _ => rfl) (fun _ _ => rfl)
    (fun _ => rfl) rfl

/-! ## Refusals -/

variable {fault : Fault}

/-- Only a mode is refused: what stops the sensor is a crash. -/
theorem stopsOnly_crashed_setSensor (c : Characteristics) (r : CaptureSettings) :
    StopsOnly (fun stop => ∃ crash, stop = .crashed crash) (setSensor c r) := by
  intro s
  rcases hmanual : s.byHand with _ | _
  · rw [setSensor_of_automatic hmanual]
    refine stopsOnly_runAll (fun a ha => ?_) s
    simp only [setAutomatically, List.mem_cons, List.not_mem_nil, or_false] at ha
    rcases ha with rfl | rfl | rfl | rfl
    · exact fun u => stopsOnly_crashed_confine u
    · exact stopsOnly_crashed_confine
    · exact stopsOnly_crashed_confine
    · exact stopsOnly_always
  · rw [setSensor_of_byHand hmanual]
    refine stopsOnly_runAll (fun a ha => ?_) s
    simp only [setByHand, List.mem_cons, List.not_mem_nil, or_false] at ha
    rcases ha with rfl | rfl | rfl | rfl
    · exact stopsOnly_crashed_confine
    · exact stopsOnly_crashed_confine
    · exact stopsOnly_crashed_confine
    · exact stopsOnly_always

theorem adjust_eq_refused_iff :
    adjust c r s = (t, some (.refused fault)) ↔
      takeModes c r.modes s = (t, some (.refused fault)) := by
  rw [← runAll_adoptModes, adjust]
  rcases hmodes : runAll (adoptModes c r) s with ⟨u, stop⟩
  cases stop with
  | none =>
      rw [runAll_append_of_none hmodes]
      have hstops : StopsOnly (fun stop => ∃ crash, stop = .crashed crash)
          (runAll [setSensor c r, always (stretchFrame c)]) := by
        refine stopsOnly_runAll fun a ha => ?_
        simp only [List.mem_cons, List.not_mem_nil, or_false] at ha
        rcases ha with rfl | rfl
        · exact stopsOnly_crashed_setSensor c r
        · exact stopsOnly_always
      constructor
      · intro h
        obtain ⟨crash, hcrash⟩ := hstops u (.refused fault) (by rw [h]; rfl)
        cases hcrash
      · intro h
        cases h
  | some stop => rw [runAll_append_of_stop hmodes]

theorem apply_eq_refused_iff (h : s.characteristics = some c) :
    s.apply r = (t, .error (.refused fault)) ↔
      takeModes c r.modes s = (t, some (.refused fault)) := by
  rw [← adjust_eq_refused_iff, apply_of_characteristics h]
  rcases adjust c r s with ⟨u, stop⟩
  cases stop with
  | none => simp
  | some stop => simp

theorem takeModes_eq_some_iff {stop : Stop} :
    takeModes c l s = (t, some stop) ↔
      (∃ m, l.find? (fun m => !m.isOffered c) = some m ∧ stop = .refused m.refusal) ∧
        t = (l.takeWhile (·.isOffered c)).foldl put s := by
  simp only [takeModes, Prod.mk.injEq, Option.map_eq_some_iff]
  constructor
  · rintro ⟨ht, m, hm, hstop⟩
    exact ⟨⟨m, hm, hstop.symm⟩, ht.symm⟩
  · rintro ⟨⟨m, hm, hstop⟩, ht⟩
    exact ⟨ht.symm, m, hm, hstop.symm⟩

theorem offers_iff : c.Offers r ↔ ∀ m ∈ r.modes, m.isOffered c = true := by
  have hmodes : (∀ m ∈ r.modes, m.isOffered c = true) ↔ ∃ t : Controls,
      takeModes c r.modes { camera := 0 } = (t, none) := by
    simp [takeModes]
  rw [hmodes, ← runAll_adoptModes]
  simp [adoptModes_eq_none_iff]

/-- Which request is refused, and why, does not depend on the controls. -/
theorem snd_apply_eq_refused_iff (h : s.characteristics = some c) :
    (s.apply r).2 = .error (.refused fault) ↔
      ∃ m, r.modes.find? (fun m => !m.isOffered c) = some m ∧ fault = m.refusal := by
  constructor
  · intro hrefused
    have happly : s.apply r = ((s.apply r).1, .error (.refused fault)) := Prod.ext rfl hrefused
    obtain ⟨⟨m, hm, hfault⟩, -⟩ :=
      takeModes_eq_some_iff.mp ((apply_eq_refused_iff h).mp happly)
    exact ⟨m, hm, Stop.refused.inj hfault⟩
  · rintro ⟨m, hm, rfl⟩
    rw [(apply_eq_refused_iff h).mpr (takeModes_eq_some_iff.mpr ⟨⟨m, hm, rfl⟩, rfl⟩)]

/-! ## What later requests can tell -/

/-- Controls that answer alike, now and after any further requests. -/
structure AnswersAlike (t s : Controls) : Prop where
  apply : ∀ history r, ((t.afterAll history).apply r).2 = ((s.afterAll history).apply r).2
  record : ∀ history pipeline frame r,
    (t.afterAll history).record pipeline frame r = (s.afterAll history).record pipeline frame r
  template : ∀ history kind, (t.afterAll history).template kind = (s.afterAll history).template kind

theorem AnswersAlike.refl (s : Controls) : s.AnswersAlike s :=
  ⟨fun _ _ => rfl, fun _ _ _ _ => rfl, fun _ _ => rfl⟩

/-- A record tells the modes in force. -/
theorem tells_metadata_iff (s : Controls) (r : CaptureSettings) :
    (s.metadata r).Tells m ↔ s.Has m := by
  unfold metadata
  -- what is told of the sensor is no mode
  split <;> cases m <;> exact Option.some_inj

theorem has_iff_of_record_eq (h : t.record 0 0 {} = s.record 0 0 {}) : t.Has m ↔ s.Has m := by
  have hmetadata : t.metadata {} = s.metadata {} := congrArg ResultRecord.metadata h
  rw [← tells_metadata_iff t {}, hmetadata, tells_metadata_iff]

/-- Modes that were put in force without a visible effect were in force. -/
theorem AnswersAlike.eq_of_foldl_put (h : (l.foldl put s).AnswersAlike s)
    (hl : l.Pairwise fun m m' => m.name ≠ m'.name) : l.foldl put s = s := by
  rw [foldl_put_eq_iff hl]
  intro m hm
  exact (has_iff_of_record_eq (h.record [] 0 0 {})).mp (has_foldl_put hl hm)

/-- A request that is refused leaves no trace precisely if all of its modes before
the refused one were in force. -/
theorem refusals_leave_no_trace_iff (h : s.apply r = (t, .error (.refused fault))) :
    (t.AnswersAlike s ↔ t = s) ∧
      ((s.characteristics = none ∧ fault = notInitialized ∧ t = s) ∨
        ∃ c, s.characteristics = some c ∧
          (∃ m, r.modes.find? (fun m => !m.isOffered c) = some m ∧ fault = m.refusal) ∧
          t = (r.modes.takeWhile (·.isOffered c)).foldl put s ∧
          (t = s ↔ ∀ m ∈ r.modes.takeWhile (·.isOffered c), s.Has m)) := by
  rcases hc : s.characteristics with _ | c
  · have happly : s.apply r = (s, .error (.refused notInitialized)) := by rw [apply, hc]
    obtain ⟨rfl, hfault⟩ := Prod.mk.inj (happly.symm.trans h)
    cases hfault
    exact ⟨⟨fun _ => rfl, fun _ => .refl s⟩, .inl ⟨rfl, rfl, rfl⟩⟩
  · obtain ⟨⟨m, hm, hfault⟩, rfl⟩ :=
      takeModes_eq_some_iff.mp ((apply_eq_refused_iff hc).mp h)
    have hpairwise := r.pairwise_modes.sublist (List.takeWhile_sublist (·.isOffered c))
    refine ⟨⟨fun halike => halike.eq_of_foldl_put hpairwise, fun heq => ?_⟩,
      .inr ⟨c, rfl, ⟨m, hm, Stop.refused.inj hfault⟩, rfl, foldl_put_eq_iff hpairwise⟩⟩
    rw [heq]
    exact .refl s

/-- A new standard camera refuses a focus mode behind a control mode that is in
force. -/
theorem refusal_behind_mode_in_force_leaves_no_trace :
    ∃ s t fault, ({ camera := 0 } : Controls).takeUp .standard = .ok s ∧
      s.apply { control := some .auto, focus := some .continuousPicture } =
        (t, .error (.refused fault)) ∧
      fault = (Mode.focus .continuousPicture).refusal ∧ t.AnswersAlike s := by
  obtain ⟨s, htakeUp, hs⟩ : ∃ s, ({ camera := 0 } : Controls).takeUp .standard = .ok s ∧
      s = { camera := 0, characteristics := some .standard, frameRate := ⟨15, 30⟩ } :=
    ⟨_, rfl, rfl⟩
  have happly : s.apply { control := some .auto, focus := some .continuousPicture } =
      (s, .error (.refused (Mode.focus .continuousPicture).refusal)) := by
    subst hs
    rfl
  obtain ⟨halike, -⟩ := refusals_leave_no_trace_iff happly
  exact ⟨s, s, _, htakeUp, happly, rfl, halike.mpr rfl⟩

/-- A new standard camera refuses a focus mode, but the control mode before it has
turned automatic exposure off: the next frame is taken by hand. -/
theorem refused_request_turns_control_off :
    ∃ s t fault x y, ({ camera := 0 } : Controls).takeUp .standard = .ok s ∧
      s.apply { control := some .off, focus := some .continuousPicture } =
        (t, .error (.refused fault)) ∧
      t ≠ s ∧ t.record 0 0 {} ≠ s.record 0 0 {} ∧
      (t.apply {}).2 = .ok x ∧ (s.apply {}).2 = .ok y ∧ x ≠ y := by
  refine ⟨_, _, _, ⟨15000000, 33000000, 100⟩, ⟨15000000, 33333333, 100⟩, rfl, rfl, ?_, ?_,
    rfl, rfl, ?_⟩
  · intro h
    cases congrArg control h
  · decide
  · decide

end Controls

end VirtualCamera
