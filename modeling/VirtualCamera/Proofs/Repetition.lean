import VirtualCamera.Proofs.CarriedSettings
import VirtualCamera.Proofs.Refusals

/-!
# Settings that come again

An adjustment that is made again, of the controls that it left, changes nothing
more and has the same outcome (`Adjustment.Repeats`).  For a list of adjustments
this follows from its members if none of them disturbs what an earlier one left
(`Adjustment.Settling`).

The stretch of the frame does disturb the frame duration that was asked for.
When the same settings come again, the duration is put back, or was not asked
for, and the frame is stretched by the same exposure as before: that is the only
part that needs an argument of its own (`Controls.repeats_sensor`).

A request without settings gets those of the request before it.  If that one was
handed over, its settings were accepted, so they are accepted again and come to
the same parameters and the same record.
-/

namespace VirtualCamera

/-! ## Adjustments that repeat -/

namespace Adjustment

variable {s t : Controls} {a : Adjustment} {l l' : List Adjustment}

/-- What the adjustment does to the controls it does no second time, and its outcome
is the same. -/
def Repeats (a : Adjustment) : Prop :=
  ∀ s, a (a s).1 = a s

/-- The adjustment has nothing to change. -/
def Rests (a : Adjustment) (s : Controls) : Prop :=
  a s = (s, none)

/-- Adjustments that repeat, and none of which disturbs what an earlier one left. -/
structure Settling (l : List Adjustment) : Prop where
  repeats : ∀ a ∈ l, Repeats a
  undisturbed : l.Pairwise fun a b => Keeps a.Rests b

theorem runAll_append_eq (l l' : List Adjustment) :
    runAll (l ++ l') = runAll (runAll l :: l') := by
  funext s
  rw [runAll]
  rcases h : runAll l s with ⟨t, stop⟩
  cases stop with
  | none => exact runAll_append_of_none h
  | some stop => exact runAll_append_of_stop h

theorem Repeats.rests (h : Repeats a) (ha : a s = (t, none)) : a.Rests t := by
  have hagain := h s
  rwa [ha] at hagain

/-- The rest of the adjustments finds nothing disturbed by the first one, which has
nothing to change the second time. -/
theorem repeats_cons (ha : Repeats a) (hl : Repeats (runAll l))
    (hkeeps : Keeps a.Rests (runAll l)) : Repeats (runAll (a :: l)) := by
  intro s
  rcases hfirst : a s with ⟨u, stop⟩
  cases stop with
  | some stop =>
      have hrun : runAll (a :: l) s = (u, some stop) := runAll_cons_of_stop hfirst
      have hagain := ha s
      rw [hfirst] at hagain
      rw [hrun]
      exact runAll_cons_of_stop hagain
  | none =>
      have hrun : runAll (a :: l) s = runAll l u := by rw [runAll, hfirst]
      have hrests : a (runAll l u).1 = ((runAll l u).1, none) := hkeeps u (ha.rests hfirst)
      rw [hrun, runAll, hrests]
      exact hl u

theorem Settling.tail (h : Settling (a :: l)) : Settling l :=
  ⟨fun b hb => h.repeats b (List.mem_cons_of_mem _ hb), h.undisturbed.of_cons⟩

theorem Settling.keeps_rests (h : Settling (a :: l)) : Keeps a.Rests (runAll l) :=
  keeps_runAll (List.pairwise_cons.mp h.undisturbed).1

theorem Settling.repeats_runAll (h : Settling l) : Repeats (runAll l) := by
  induction l with
  | nil =>
      intro s
      rfl
  | cons a l ih =>
      exact repeats_cons (h.repeats a List.mem_cons_self) (ih h.tail) h.keeps_rests

/-- Once all adjustments were made, each of them rests. -/
theorem Settling.rests (h : Settling l) (hrun : runAll l s = (t, none)) : ∀ a ∈ l, a.Rests t := by
  induction l generalizing s with
  | nil =>
      intro a ha
      cases ha
  | cons a l ih =>
      obtain ⟨u, hfirst, hrest⟩ := runAll_cons_eq_none.mp hrun
      intro b hb
      rcases List.mem_cons.mp hb with rfl | hb
      · have hkept := h.keeps_rests u ((h.repeats b List.mem_cons_self).rests hfirst)
        rwa [hrest] at hkept
      · exact ih h.tail hrest b hb

theorem runAll_of_rests (h : ∀ a ∈ l, a.Rests s) : runAll l s = (s, none) := by
  induction l with
  | nil => rfl
  | cons a l ih =>
      rw [runAll, h a List.mem_cons_self]
      exact ih fun b hb => h b (List.mem_cons_of_mem _ hb)

section Confine

variable {α : Type} [LE α] [DecidableLE α] {range : Range α} {requested : Option α}
  {put : Controls → α → Controls}

theorem repeats_confine (hput : ∀ s b, put (put s b) b = put s b) :
    Repeats (confine range requested put) := by
  intro s
  unfold confine
  cases requested with
  | none => rfl
  | some a =>
      rcases hclamp : range.clamp a with crash | b
      · simp [hclamp]
      · simp [hclamp, hput]

theorem rests_confine_iff :
    (confine range requested put).Rests s ↔
      ∀ a ∈ requested, ∃ b, range.clamp a = .ok b ∧ put s b = s := by
  unfold Rests confine
  cases requested with
  | none => simp
  | some a =>
      rcases hclamp : range.clamp a with crash | b
      · simp [hclamp]
      · simp [hclamp]

/-- A change of something else does not disturb the value. -/
theorem Rests.of_put_eq (h : (confine range requested put).Rests s)
    (hput : ∀ b, put s b = s → put t b = t) : (confine range requested put).Rests t := by
  rw [rests_confine_iff] at h ⊢
  intro a ha
  obtain ⟨b, hclamp, hb⟩ := h a ha
  exact ⟨b, hclamp, hput b hb⟩

end Confine

theorem repeats_always {change : Controls → Controls} (h : ∀ s, change (change s) = change s) :
    Repeats (always change) := by
  intro s
  show (change (change s), none) = (change s, none)
  rw [h]

end Adjustment

namespace Controls

open Adjustment

variable {s t u v : Controls} {c : Characteristics} {r : CaptureSettings}

/-! ## The modes -/

theorem rests_takeModes_iff {l : List Mode} (hl : l.Pairwise fun m m' => m.name ≠ m'.name) :
    (takeModes c l).Rests s ↔ ∀ m ∈ l, m.isOffered c = true ∧ s.Has m := by
  simp only [Rests, takeModes, Prod.mk.injEq, Option.map_eq_none_iff, List.find?_eq_none,
    Bool.not_eq_true', Bool.not_eq_false]
  constructor
  · rintro ⟨hput, hoffered⟩ m hm
    rw [List.takeWhile_eq_self_iff.mpr hoffered, foldl_put_eq_iff hl] at hput
    exact ⟨hoffered m hm, hput m hm⟩
  · intro h
    have hoffered : ∀ m ∈ l, m.isOffered c = true := fun m hm => (h m hm).1
    rw [List.takeWhile_eq_self_iff.mpr hoffered, foldl_put_eq_iff hl]
    exact ⟨fun m hm => (h m hm).2, hoffered⟩

theorem repeats_takeModes (c : Characteristics) (r : CaptureSettings) :
    Repeats (takeModes c r.modes) := by
  intro s
  have hpairwise := r.pairwise_modes.sublist (List.takeWhile_sublist (·.isOffered c))
  have hagain : (r.modes.takeWhile (·.isOffered c)).foldl put
      ((r.modes.takeWhile (·.isOffered c)).foldl put s) =
        (r.modes.takeWhile (·.isOffered c)).foldl put s :=
    foldl_put_eq_self fun m hm => has_foldl_put hpairwise hm
  simp only [takeModes, hagain]

/-- The controls without what they hold of the sensor. -/
def modesOnly (s : Controls) : Controls :=
  { s with exposureTime := 0, frameDuration := 0, sensitivity := 0, exposureState := .inactive }

theorem has_modesOnly_iff (s : Controls) (m : Mode) : s.modesOnly.Has m ↔ s.Has m := by
  cases m <;> rfl

theorem modesOnly_stretchFrame (c : Characteristics) (s : Controls) :
    (stretchFrame c s).modesOnly = s.modesOnly := by
  unfold stretchFrame
  split
  · rfl
  · rfl

/-- The sensor does not touch the modes. -/
theorem keeps_modesOnly_sensor (c : Characteristics) (r : CaptureSettings) (u : Controls) :
    Keeps (fun s => s.modesOnly = u) (runAll [setSensor c r, always (stretchFrame c)]) := by
  refine keeps_runAll fun a ha => ?_
  simp only [List.mem_cons, List.not_mem_nil, or_false] at ha
  rcases ha with rfl | rfl
  · exact keeps_setSensor (fun _ _ _ => id) (fun _ _ _ => id) (fun _ _ _ => id)
      (fun _ _ _ => id) (fun _ _ => id)
  · exact keeps_always fun s hs => (modesOnly_stretchFrame c s).trans hs

theorem keeps_has_sensor (c : Characteristics) (r : CaptureSettings) (m : Mode) :
    Keeps (fun s => s.Has m) (runAll [setSensor c r, always (stretchFrame c)]) := by
  intro s hs
  have hsame := keeps_modesOnly_sensor c r s.modesOnly s rfl
  rw [← has_modesOnly_iff] at hs ⊢
  rwa [hsame]

/-! ## The sensor -/

theorem settling_setByHand (c : Characteristics) (r : CaptureSettings) :
    Settling (setByHand c r) := by
  constructor
  · intro a ha
    simp only [setByHand, List.mem_cons, List.not_mem_nil, or_false] at ha
    rcases ha with rfl | rfl | rfl | rfl
    · exact repeats_confine fun _ _ => rfl
    · exact repeats_confine fun _ _ => rfl
    · exact repeats_confine fun _ _ => rfl
    · exact repeats_always fun _ => rfl
  · -- each of the four sets a field of its own
    simp only [setByHand, List.pairwise_cons, List.mem_cons, List.not_mem_nil, or_false,
      forall_eq_or_imp, forall_eq, IsEmpty.forall_iff, implies_true, List.Pairwise.nil, and_true]
    refine ⟨⟨?_, ?_, ?_⟩, ⟨?_, ?_⟩, ?_⟩
    · exact keeps_confine fun s t _ hs => hs.of_put_eq fun _ h =>
        congrArg (fun u : Controls => { u with frameDuration := t }) h
    · exact keeps_confine fun s n _ hs => hs.of_put_eq fun _ h =>
        congrArg (fun u : Controls => { u with sensitivity := n }) h
    · exact keeps_always fun s hs => hs.of_put_eq fun _ h =>
        congrArg (fun u : Controls => { u with exposureState := .inactive }) h
    · exact keeps_confine fun s n _ hs => hs.of_put_eq fun _ h =>
        congrArg (fun u : Controls => { u with sensitivity := n }) h
    · exact keeps_always fun s hs => hs.of_put_eq fun _ h =>
        congrArg (fun u : Controls => { u with exposureState := .inactive }) h
    · exact keeps_always fun s hs => hs.of_put_eq fun _ h =>
        congrArg (fun u : Controls => { u with exposureState := .inactive }) h

/-- The shortest frame, under its own name: it is a quotient by a large number,
which nothing should compute. -/
theorem followRate_eq {shortest : UInt64} (h : s.frameRate.shortestFrame = shortest) :
    followRate c s = confine c.frameDuration (some shortest)
      (fun s t => { s with frameDuration := t }) s := by
  rw [followRate, h]

theorem frameRate_followRate (c : Characteristics) (s : Controls) :
    (followRate c s).1.frameRate = s.frameRate := by
  obtain ⟨shortest, hshortest⟩ : ∃ t, s.frameRate.shortestFrame = t := ⟨_, rfl⟩
  have hkeeps : Keeps (fun t => t.frameRate = s.frameRate)
      (confine c.frameDuration (some shortest) fun s t => { s with frameDuration := t }) :=
    keeps_confine fun _ _ _ => id
  rw [followRate_eq hshortest]
  exact hkeeps s rfl

theorem repeats_followRate (c : Characteristics) : Repeats (followRate c) := by
  intro s
  obtain ⟨shortest, hshortest⟩ : ∃ t, s.frameRate.shortestFrame = t := ⟨_, rfl⟩
  have hsame : (followRate c s).1.frameRate.shortestFrame = shortest := by
    rw [frameRate_followRate, hshortest]
  have hrepeats : Repeats
      (confine c.frameDuration (some shortest) fun s t => { s with frameDuration := t }) :=
    repeats_confine fun _ _ => rfl
  rw [followRate_eq hsame, followRate_eq hshortest]
  exact hrepeats s

theorem rests_followRate_iff :
    (followRate c).Rests s ↔
      c.frameDuration.clamp s.frameRate.shortestFrame = .ok s.frameDuration := by
  obtain ⟨shortest, hshortest⟩ : ∃ t, s.frameRate.shortestFrame = t := ⟨_, rfl⟩
  have hrests : (followRate c).Rests s ↔
      (confine c.frameDuration (some shortest) fun s t =>
        { s with frameDuration := t }).Rests s := by
    rw [Rests, Rests, followRate_eq hshortest]
  rw [hrests, rests_confine_iff, hshortest]
  constructor
  · intro h
    obtain ⟨frame, hclamp, hframe⟩ := h shortest rfl
    rw [hclamp, ← congrArg Controls.frameDuration hframe]
  · intro h a ha
    obtain rfl := Option.mem_some_iff.mp ha
    exact ⟨s.frameDuration, h, rfl⟩

theorem rests_followRate_congr (h : (followRate c).Rests s) (hrate : t.frameRate = s.frameRate)
    (hframe : t.frameDuration = s.frameDuration) : (followRate c).Rests t := by
  rw [rests_followRate_iff] at h ⊢
  rw [hrate, hframe, h]

theorem settling_setAutomatically (c : Characteristics) : Settling (setAutomatically c) := by
  constructor
  · intro a ha
    simp only [setAutomatically, List.mem_cons, List.not_mem_nil, or_false] at ha
    rcases ha with rfl | rfl | rfl | rfl
    · exact repeats_followRate c
    · exact repeats_confine fun _ _ => rfl
    · exact repeats_confine fun _ _ => rfl
    · exact repeats_always fun _ => rfl
  · simp only [setAutomatically, List.pairwise_cons, List.mem_cons, List.not_mem_nil, or_false,
      forall_eq_or_imp, forall_eq, IsEmpty.forall_iff, implies_true, List.Pairwise.nil, and_true]
    refine ⟨⟨?_, ?_, ?_⟩, ⟨?_, ?_⟩, ?_⟩
    · exact keeps_confine fun s t _ hs => rests_followRate_congr hs rfl rfl
    · exact keeps_confine fun s n _ hs => rests_followRate_congr hs rfl rfl
    · exact keeps_always fun s hs => rests_followRate_congr hs rfl rfl
    · exact keeps_confine fun s n _ hs => hs.of_put_eq fun _ h =>
        congrArg (fun u : Controls => { u with sensitivity := n }) h
    · exact keeps_always fun s hs => hs.of_put_eq fun _ h =>
        congrArg (fun u : Controls => { u with exposureState := .converged }) h
    · exact keeps_always fun s hs => hs.of_put_eq fun _ h =>
        congrArg (fun u : Controls => { u with exposureState := .converged }) h

theorem byHand_setSensor (c : Characteristics) (r : CaptureSettings) (s : Controls) :
    (setSensor c r s).1.byHand = s.byHand :=
  keeps_setSensor (P := fun t => t.byHand = s.byHand) (fun _ _ _ => id) (fun _ _ _ => id)
    (fun _ _ _ => id) (fun _ _ _ => id) (fun _ _ => id) s rfl

theorem repeats_setSensor (c : Characteristics) (r : CaptureSettings) :
    Repeats (setSensor c r) := by
  intro s
  have hmode := byHand_setSensor c r s
  rcases hmanual : s.byHand with _ | _
  · rw [hmanual] at hmode
    rw [setSensor_of_automatic hmode, setSensor_of_automatic hmanual]
    exact (settling_setAutomatically c).repeats_runAll s
  · rw [hmanual] at hmode
    rw [setSensor_of_byHand hmode, setSensor_of_byHand hmanual]
    exact (settling_setByHand c r).repeats_runAll s

/-! ## The stretch of the frame -/

@[simp] theorem byHand_stretchFrame (c : Characteristics) (s : Controls) :
    (stretchFrame c s).byHand = s.byHand := by
  unfold stretchFrame
  split
  · rfl
  · rfl

/-- A frame that still is too short is stretched to the same length. -/
theorem stretchFrame_stretchFrame (c : Characteristics) (s : Controls) :
    stretchFrame c (stretchFrame c s) = stretchFrame c s := by
  by_cases hshort : s.frameDuration < s.exposureTime
  · have hstretch : stretchFrame c s =
        { s with frameDuration := min s.exposureTime c.maxFrameDuration } := if_pos hshort
    rw [hstretch]
    unfold stretchFrame
    split
    · rfl
    · rfl
  · have hsame : stretchFrame c s = s := if_neg hshort
    rw [hsame, hsame]

theorem exists_stretchFrame_eq (c : Characteristics) (s : Controls) :
    ∃ t, stretchFrame c s = { s with frameDuration := t } := by
  unfold stretchFrame
  split
  · exact ⟨_, rfl⟩
  · exact ⟨s.frameDuration, rfl⟩

/-- Automatic exposure fits into the frame. -/
theorem stretchFrame_of_automatic (h : runAll (setAutomatically c) s = (v, none)) :
    stretchFrame c v = v := by
  obtain ⟨frame, exposure, iso, -, -, -, rfl⟩ := setAutomatically_eq_none_iff.mp h
  have hcut : min exposure frame ≤ frame := Std.min_le_right
  exact stretchFrame_of_le hcut

/-- By hand, the frame duration that was asked for is put back and then stretched
again; one that was not asked for is left stretched. -/
theorem setByHand_stretchFrame (h : runAll (setByHand c r) s = (v, none)) :
    ∃ w, runAll (setByHand c r) (stretchFrame c v) = (w, none) ∧
      stretchFrame c w = stretchFrame c v := by
  have hrests := (settling_setByHand c r).rests h
  simp only [setByHand, List.mem_cons, List.not_mem_nil, or_false, forall_eq_or_imp,
    forall_eq] at hrests
  obtain ⟨hexposure, hframe, hiso, hstate⟩ := hrests
  obtain ⟨stretched, hstretch⟩ := exists_stretchFrame_eq c v
  have hagain := stretchFrame_stretchFrame c v
  rw [hstretch] at hagain ⊢
  obtain ⟨frame, hput, hsame⟩ : ∃ frame,
      confine c.frameDuration r.frameDuration (fun s t => { s with frameDuration := t })
        { v with frameDuration := stretched } = ({ v with frameDuration := frame }, none) ∧
      stretchFrame c { v with frameDuration := frame } =
        { v with frameDuration := stretched } := by
    rw [rests_confine_iff] at hframe
    cases hr : r.frameDuration with
    | none => exact ⟨stretched, rfl, hagain⟩
    | some asked =>
        obtain ⟨frame, hclamp, hv⟩ := hframe asked hr
        refine ⟨frame, ?_, hv ▸ hstretch⟩
        simp only [confine, hclamp]
  refine ⟨{ v with frameDuration := frame }, ?_, hsame⟩
  rw [setByHand, runAll_cons_eq_none]
  refine ⟨_, hexposure.of_put_eq fun _ h => ?_, runAll_cons_eq_none.mpr ⟨_, hput, ?_⟩⟩
  · exact congrArg (fun u : Controls => { u with frameDuration := stretched }) h
  · refine runAll_of_rests fun a ha => ?_
    simp only [List.mem_cons, List.not_mem_nil, or_false] at ha
    rcases ha with rfl | rfl
    · exact hiso.of_put_eq fun _ h =>
        congrArg (fun u : Controls => { u with frameDuration := frame }) h
    · have hinactive : { v with exposureState := .inactive } = v := congrArg Prod.fst hstate
      show ({ v with frameDuration := frame, exposureState := .inactive }, none) = _
      exact congrArg (fun u : Controls => ({ u with frameDuration := frame }, none)) hinactive

/-- The adjustments of the sensor and the stretch after them. -/
theorem repeats_sensor (c : Characteristics) (r : CaptureSettings) :
    Repeats (runAll [setSensor c r, always (stretchFrame c)]) := by
  intro s
  rcases hsensor : setSensor c r s with ⟨v, stop⟩
  have hagain := repeats_setSensor c r s
  have hmode := byHand_setSensor c r s
  rw [hsensor] at hagain hmode
  cases stop with
  | some stop =>
      rw [runAll_cons_of_stop hsensor]
      exact runAll_cons_of_stop hagain
  | none =>
      have hrun : ∀ {t w}, setSensor c r t = (w, none) →
          runAll [setSensor c r, always (stretchFrame c)] t = (stretchFrame c w, none) :=
        fun ht => runAll_cons_eq_none.mpr ⟨_, ht, rfl⟩
      rw [hrun hsensor]
      rcases hmanual : s.byHand with _ | _
      · rw [setSensor_of_automatic hmanual] at hsensor
        have hsame := stretchFrame_of_automatic hsensor
        rw [hsame, hrun hagain, hsame]
      · have hbyHand : (stretchFrame c v).byHand = true := by
          rw [byHand_stretchFrame, hmode, hmanual]
        rw [setSensor_of_byHand hmanual] at hsensor
        obtain ⟨w, hw, hsame⟩ := setByHand_stretchFrame hsensor
        rw [hrun ((setSensor_of_byHand hbyHand).trans hw), hsame]

/-! ## The same request again -/

theorem adjust_eq (c : Characteristics) (r : CaptureSettings) :
    adjust c r =
      runAll [takeModes c r.modes, setSensor c r, always (stretchFrame c)] := by
  rw [adjust, runAll_append_eq, runAll_adoptModes]

theorem repeats_adjust (c : Characteristics) (r : CaptureSettings) : Repeats (adjust c r) := by
  rw [adjust_eq]
  refine repeats_cons (repeats_takeModes c r) (repeats_sensor c r) fun s hs => ?_
  rw [rests_takeModes_iff r.pairwise_modes] at hs ⊢
  exact fun m hm => ⟨(hs m hm).1, keeps_has_sensor c r m s (hs m hm).2⟩

/-- Settings change neither what the camera is nor its name. -/
theorem identity_apply (s : Controls) (r : CaptureSettings) :
    (s.apply r).1.characteristics = s.characteristics ∧ (s.apply r).1.camera = s.camera := by
  rcases hc : s.characteristics with _ | c
  · rw [apply, hc]
    exact ⟨hc, rfl⟩
  · rw [apply_of_characteristics hc]
    refine keeps_adjust (P := fun t => t.characteristics = some c ∧ t.camera = s.camera)
      (keeps_adoptModes ?_ ?_ ?_ ?_ ?_) (keeps_setSensor ?_ ?_ ?_ ?_ ?_) (fun t ht => ?_) s
      ⟨hc, rfl⟩
    case refine_11 =>
        obtain ⟨frame, hframe⟩ := exists_stretchFrame_eq c t
        rw [hframe]
        exact ht
    all_goals
      intros
      assumption

theorem characteristics_apply (s : Controls) (r : CaptureSettings) :
    (s.apply r).1.characteristics = s.characteristics :=
  (identity_apply s r).1

/-- Settings that come again have the same outcome, accepted or not, and leave the
controls as they are. -/
theorem apply_apply (s : Controls) (r : CaptureSettings) : (s.apply r).1.apply r = s.apply r := by
  have hsame := characteristics_apply s r
  rcases hc : s.characteristics with _ | c
  · have happly : s.apply r = (s, .error (.refused notInitialized)) := by rw [apply, hc]
    rw [happly, happly]
  · rw [hc] at hsame
    rw [apply_of_characteristics hsame, apply_of_characteristics hc, repeats_adjust c r s]

theorem afterRequests_concat_of_repeated {l : List Admission} {a b : Admission}
    (ha : a.settings.or (latestSettings l) = some r) (hb : b.settings = none) :
    s.afterRequests (l ++ [a] ++ [b]) = s.afterRequests (l ++ [a]) := by
  have hlatest : b.settings.or (latestSettings (l ++ [a])) = some r := by
    rw [hb, Option.none_or, latestSettings_concat, ha]
  rw [afterRequests_concat_of_some hlatest, afterRequests_concat_of_some ha, apply_apply]

/-- A request without settings is prepared like the one before it. -/
theorem Prepares.repeated {l : List Admission} {a b : Admission} {x : SensorSettings}
    (h : s.Prepares l a r x) (hb : b.settings = none) : s.Prepares (l ++ [a]) b r x where
  settings := by rw [hb, Option.none_or, latestSettings_concat, h.settings]
  sensor := by rw [afterRequests_concat_of_some h.settings, apply_apply, h.sensor]

end Controls

/-! ## Requests without settings -/

namespace Camera

variable {σ : Type} {E : Engine σ} {c d : Camera σ} {sensor : σ} {m : Move}
  {l : List Admission} {a b : Admission} {shot : Shot}

/-- When the worker looks at a request without settings, behind one that was handed
over, the controls give the parameters of that one and stay as they are. -/
theorem Reachable.apply_of_repeated (hc : Reachable E sensor c) (hw : c.worker = .resolving b)
    (hpopped : c.popped = l ++ [a, b]) (hb : b.settings = none)
    (hshot : (a.tag, shot) ∈ c.handOvers) :
    ∃ r, c.effectiveSettings b = some r ∧
      c.controls.apply r = (c.controls, .ok shot.settings) := by
  obtain ⟨s, k, hk⟩ := hc.carries
  obtain rfl : k = l ++ [a] := by
    have hsame := hk.popped
    rw [hpopped, hw, List.append_cons] at hsame
    exact (List.append_cancel_right hsame).symm
  have hprefix : l ++ [a] <+: c.popped := ⟨[b], by rw [hpopped]; simp⟩
  obtain ⟨r, hprepares, -⟩ := hk.isMadeFrom hc hprefix hshot
  have hagain := hprepares.repeated hb
  refine ⟨r, (hk.effectiveSettings_eq b).trans hagain.settings, ?_⟩
  have hcontrols : ((s.afterRequests (l ++ [a])).apply r).1 = s.afterRequests (l ++ [a]) := by
    rw [← Controls.afterRequests_concat_of_some hagain.settings,
      Controls.afterRequests_concat_of_repeated hprepares.settings hb]
  rw [hk.controls]
  exact Prod.ext hcontrols hagain.sensor

/-- The step from a request that is about to be resolved. -/
theorem Transition.resolved_of_apply {r : CaptureSettings} {controls : Controls}
    {x : SensorSettings} (h : Transition E c m d) (hw : c.worker = .resolving b)
    (hr : c.effectiveSettings b = some r) (happly : c.controls.apply r = (controls, .ok x)) :
    d.worker = .resolving b ∨ .resolved b.tag (some r) (some x) ∈ d.stage.record := by
  cases h with
  | resolve hw' _ hresolves =>
      cases hw.symm.trans hw'
      refine .inr ?_
      simp only [Resolves, hr, happly, Prod.mk.injEq, Except.ok.injEq, reduceCtorEq, and_false,
        false_and, exists_false, or_false] at hresolves
      obtain ⟨_, ⟨-, rfl⟩, rfl⟩ := hresolves
      rw [hr]
      exact List.mem_cons_self
  | crash hw' _ hr' hcrash =>
      cases hw.symm.trans hw'
      cases hr.symm.trans hr'
      rw [happly] at hcrash
      cases hcrash
  | check hw' | idle hw' | take hw' | outputsAwaited hw' | awaitOutput hw' | record hw'
  | awaitInput hw' | handOver hw' | perform hw' | finished hw' | unwind hw' | unwound hw'
  | beginPacing hw' | skipPacing hw' | pace hw' | giveUp hw' =>
      rw [hw] at hw'
      cases hw'
  | _ => exact .inl hw

/-- A frame is handed over while its request is the last one taken. -/
theorem Transition.mem_handOvers_of_followed (hc : Reachable E sensor c) (h : Transition E c m d)
    (hl : l ++ [a, b] <+: d.popped) (hshot : (a.tag, shot) ∈ d.handOvers) :
    (a.tag, shot) ∈ c.handOvers := by
  rcases h.handOvers_cases with heq | ⟨tag, shot', hw, heq⟩
  · exact heq ▸ hshot
  · rw [heq, List.mem_append, List.mem_singleton] at hshot
    rcases hshot with hshot | hlast
    · exact hshot
    · obtain ⟨htag, rfl⟩ := Prod.mk.inj hlast
      have hpopped : d.popped = c.popped := by
        rcases h.popped_cases with hsame | ⟨_, hready, -⟩
        · exact hsame
        · cases hw.symm.trans hready
      obtain ⟨s, k, hk⟩ := hc.carries
      have hworker := hk.worker
      have htaken := hk.popped
      rw [hw] at hworker htaken
      obtain ⟨k', a', rfl, htag', -⟩ := hworker
      have hall : k' ++ [a'] = c.popped := by simpa [Worker.unresolved] using htaken.symm
      rw [hpopped, ← hall] at hl
      have hprefix : l ++ [a] <+: c.popped := by
        rw [List.append_cons] at hl
        exact hall ▸ (List.prefix_append _ _).trans hl
      have hwhole : k' ++ [a'] <+: c.popped := hall ▸ List.prefix_rfl
      obtain ⟨rfl, rfl⟩ := hc.eq_of_prefix_popped hprefix hwhole (htag.trans htag'.symm)
      have hlength := hl.length_le
      simp only [List.length_append, List.length_cons, List.length_nil] at hlength
      omega

/-- Behind a request that was handed over, one without settings is resolved to the same
parameters. -/
theorem Reachable.resolved_of_repeated (hc : Reachable E sensor c) :
    ∀ l a b shot, l ++ [a, b] <+: c.popped → b.settings = none → (a.tag, shot) ∈ c.handOvers →
      (c.worker = .resolving b ∧ c.popped = l ++ [a, b]) ∨
        ∃ r, .resolved b.tag (some r) (some shot.settings) ∈ c.stage.record := by
  induction hc with
  | created h =>
      obtain rfl := create_eq h
      intro l a b shot hl
      simp [popped, Stage.history] at hl
  | @next c d m hc h ih =>
      intro l a b shot hl hb hshot
      have hstep := hc.transition h
      have hbefore := hstep.mem_handOvers_of_followed hc hl hshot
      rcases hstep.popped_cases with hpopped | ⟨b', hready, hresolving, hpopped⟩
      · rw [hpopped] at hl ⊢
        rcases ih l a b shot hl hb hbefore with ⟨hw, hlast⟩ | ⟨r, hr⟩
        · obtain ⟨r, hr, happly⟩ := hc.apply_of_repeated hw hlast hb hbefore
          rcases hstep.resolved_of_apply hw hr happly with hw | hresolved
          · exact .inl ⟨hw, hlast⟩
          · exact .inr ⟨r, hresolved⟩
        · exact .inr ⟨r, hstep.record_suffix.subset hr⟩
      · rw [hpopped, List.append_cons, List.prefix_concat_iff] at hl
        rcases hl with hl | hl
        · obtain ⟨hl, hbb⟩ := List.append_inj' hl rfl
          obtain rfl : b = b' := by simpa using hbb
          exact .inl ⟨hresolving, by rw [hpopped, ← hl, ← List.append_cons]⟩
        · rw [← List.append_cons] at hl
          rcases ih l a b shot hl hb hbefore with ⟨hw, -⟩ | ⟨r, hr⟩
          · cases hw.symm.trans hready
          · exact .inr ⟨r, hstep.record_suffix.subset hr⟩

/-- Behind a request that was handed over, one without settings is handed over with the
same parameters and, but for its pipeline and frame, the same record. -/
theorem Reachable.shot_of_repeated {shot' : Shot} (hc : Reachable E sensor c)
    (hl : l ++ [a, b] <+: c.popped) (hb : b.settings = none) (hshot : (a.tag, shot) ∈ c.handOvers)
    (hshot' : (b.tag, shot') ∈ c.handOvers) :
    shot'.settings = shot.settings ∧
      shot'.result =
        { shot.result with pipeline := b.tag.pipeline, frame := b.tag.frame } := by
  obtain ⟨s, k, hk⟩ := hc.carries
  rw [List.append_cons] at hl
  obtain ⟨r, hprepares, hresult⟩ := hk.isMadeFrom hc ((List.prefix_append _ _).trans hl) hshot
  obtain ⟨r', hprepares', hresult'⟩ := hk.isMadeFrom hc hl hshot'
  have hagain := hprepares.repeated hb
  obtain rfl := Option.some.inj (hagain.settings.symm.trans hprepares'.settings)
  refine ⟨Except.ok.inj (hprepares'.sensor.symm.trans hagain.sensor), ?_⟩
  rw [hresult', hresult, Controls.afterRequests_concat_of_repeated hprepares.settings hb]
  rfl

/-- Settings that come again have the same outcome and leave the controls as they are.
So a request without settings that the worker takes right behind one that it handed
over is resolved to the same parameters, and handed over with the same record. -/
theorem repeated_settings_repeat_frames :
    (∀ (s : Controls) (r : CaptureSettings), (s.apply r).1.apply r = s.apply r) ∧
      ∀ {σ : Type} {E : Engine σ} {sensor : σ} {c : Camera σ}, Reachable E sensor c →
        ∀ l a b shot, l ++ [a, b] <+: c.popped → b.settings = none →
          (a.tag, shot) ∈ c.handOvers →
          ((c.worker = .resolving b ∧ ∃ r, c.effectiveSettings b = some r ∧
                c.controls.apply r = (c.controls, .ok shot.settings)) ∨
              ∃ r, .resolved b.tag (some r) (some shot.settings) ∈ c.stage.record) ∧
            ∀ shot', (b.tag, shot') ∈ c.handOvers →
              shot'.settings = shot.settings ∧
                shot'.result =
                  { shot.result with pipeline := b.tag.pipeline, frame := b.tag.frame } := by
  refine ⟨Controls.apply_apply, fun hc l a b shot hl hb hshot => ⟨?_, ?_⟩⟩
  · rcases hc.resolved_of_repeated l a b shot hl hb hshot with ⟨hw, hlast⟩ | hresolved
    · exact .inl ⟨hw, hc.apply_of_repeated hw hlast hb hshot⟩
    · exact .inr hresolved
  · exact fun shot' hshot' => hc.shot_of_repeated hl hb hshot hshot'

open Sensor (Recorder)

/-- By hand, with an exposure that outlasts the default frame. -/
def longExposure : CaptureSettings where
  exposure := some .off
  exposureTime := some 50000000

/-- The worker takes a request with a long exposure, and then one without settings. -/
def repeatingMoves : List Move :=
  List.flatten [
    .submit 7 [Sample.request (some longExposure), Sample.plain] [Sample.pipeline] ::
      List.replicate 4 (.advance 0),
    List.replicate 9 .worker,
    .giveUp :: List.replicate 9 .worker]

/-- The second frame of the sample camera is taken with the stretched frame of the
first. -/
theorem sample_settings_repeat_frames :
    ∃ (c : Camera Recorder) (a b : Admission) (shot shot' : Shot),
      (Sample.camera {}).run? Recorder.engine repeatingMoves = some c ∧
      c.popped = [a, b] ∧ b.settings = none ∧
      c.handOvers = [(a.tag, shot), (b.tag, shot')] ∧
      shot.settings = ⟨50000000, 50000000, 100⟩ ∧ shot'.settings = shot.settings ∧
      shot'.result = { shot.result with pipeline := b.tag.pipeline, frame := b.tag.frame } := by
  have hrun : ((Sample.camera {}).run? Recorder.engine repeatingMoves).map (fun c =>
      (c.popped.map fun a => (a.tag, a.settings),
        c.handOvers.map fun p => (p.1, p.2.settings))) =
      some ([(Sample.tag 0, some longExposure), (Sample.tag 1, none)],
        [(Sample.tag 0, ⟨50000000, 50000000, 100⟩),
          (Sample.tag 1, ⟨50000000, 50000000, 100⟩)]) := by
    decide +kernel
  obtain ⟨c, hc, heq⟩ := Option.map_eq_some_iff.mp hrun
  obtain ⟨hpopped, hhanded⟩ := Prod.mk.inj heq
  obtain ⟨a, _, htaken, ha, hrest⟩ := List.map_eq_cons_iff.mp hpopped
  obtain ⟨b, _, rfl, hb, hnil⟩ := List.map_eq_cons_iff.mp hrest
  obtain rfl := List.map_eq_nil_iff.mp hnil
  obtain ⟨⟨tag, shot⟩, _, hall, hshot, hrest⟩ := List.map_eq_cons_iff.mp hhanded
  obtain ⟨⟨tag', shot'⟩, _, rfl, hshot', hnil⟩ := List.map_eq_cons_iff.mp hrest
  obtain rfl := List.map_eq_nil_iff.mp hnil
  obtain ⟨hatag, -⟩ := Prod.mk.inj ha
  obtain ⟨hbtag, hbnone⟩ := Prod.mk.inj hb
  obtain ⟨rfl, hsettings⟩ := Prod.mk.inj hshot
  obtain ⟨rfl, -⟩ := Prod.mk.inj hshot'
  rw [← hatag, ← hbtag] at hall
  have hreachable := (Sample.reachable Recorder.engine {}).run? hc
  have hprefix : [] ++ [a, b] <+: c.popped := ⟨[], by rw [htaken]; rfl⟩
  obtain ⟨-, hsame⟩ := repeated_settings_repeat_frames.2 hreachable [] a b shot hprefix hbnone
    (by rw [hall]; exact List.mem_cons_self)
  obtain ⟨hagain, hresult⟩ := hsame shot' (by rw [hall]; simp)
  exact ⟨c, a, b, shot, shot', hc, htaken, hbnone, hall, hsettings, hagain, hresult⟩

end Camera

end VirtualCamera
