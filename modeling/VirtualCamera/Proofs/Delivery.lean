import VirtualCamera.Proofs.Provenance

/-!
# Every request is answered once

When a session is closed, nothing is left in the queue, with the worker, with a
call, in the slot or with the sensor's thread.  So every admitted request has
its outcome, and the roll of the sensor accounts for every frame that was
handed over: it was captured or given up.

Whoever is told about a request is told by the processor or by the sensor, and
never by both, because the outcome is that the frame was handed over, or that
the processor told something itself (`Camera.callbacks_of_processor`,
`Camera.callbacks_of_sensor`).  In the first case the sensor told a shutter and
a result, or one error (`Roll.told_of_shot`).
-/

namespace VirtualCamera

/-- What is told of things, each under its own key: under one key it is what is
told of the thing with that key. -/
theorem filter_key_flatMap {α β κ : Type} [DecidableEq κ] {l : List α} {key? : α → Option κ}
    {told : α → List β} {key : β → κ} {a : α} {k : κ}
    (htold : ∀ b ∈ l, ∀ p ∈ told b, key? b = some (key p)) (hl : (l.map key?).Nodup)
    (ha : a ∈ l) (hk : key? a = some k) : (l.flatMap told).filter (key · = k) = told a := by
  induction l with
  | nil => cases ha
  | cons b rest ih =>
      obtain ⟨hb, hrest⟩ := List.nodup_cons.mp hl
      rw [List.flatMap_cons, List.filter_append]
      rcases List.mem_cons.mp ha with rfl | ha
      · have hself : (told a).filter (key · = k) = told a := by
          refine List.filter_eq_self.mpr fun p hp => decide_eq_true ?_
          exact Option.some.inj ((htold a List.mem_cons_self p hp).symm.trans hk)
        have hothers : (rest.flatMap told).filter (key · = k) = [] := by
          refine List.filter_eq_nil_iff.mpr fun p hp heq => hb ?_
          obtain ⟨c, hc, hp⟩ := List.mem_flatMap.mp hp
          rw [hk, ← of_decide_eq_true heq, ← htold c (List.mem_cons_of_mem _ hc) p hp]
          exact List.mem_map_of_mem hc
        rw [hself, hothers, List.append_nil]
      · have hother : (told b).filter (key · = k) = [] := by
          refine List.filter_eq_nil_iff.mpr fun p hp heq => hb ?_
          rw [htold b List.mem_cons_self p hp, of_decide_eq_true heq, ← hk]
          exact List.mem_map_of_mem ha
        rw [hother, List.nil_append]
        exact ih (fun c hc => htold c (List.mem_cons_of_mem _ hc)) hrest ha

/-- A filter that keeps all that another one keeps may come before it. -/
theorem filter_eq_of_imp {α : Type} {l : List α} {p q : α → Bool}
    (h : ∀ x ∈ l, p x = true → q x = true) : l.filter p = (l.filter q).filter p := by
  rw [List.filter_filter]
  refine List.filter_congr fun x hx => ?_
  cases hp : p x with
  | false => rfl
  | true => rw [h x hx hp, Bool.and_true]

/-! ## What the sensor told of a frame -/

namespace Shot

theorem tag?_of_mem_failure {shot : Shot} {p : FrameTag × Event} (h : p ∈ shot.failure) :
    shot.tag? = some p.1 := by
  obtain ⟨tag, htag, rfl⟩ := List.mem_map.mp h
  exact Option.mem_toList.mp htag

end Shot

namespace Roll

variable {r : Roll}

/-- The frames that left the slot were captured or given up; shutters and results
were told of the former, failures of the latter. -/
theorem Since.parts (h : empty.Since r) :
    ∃ captured given : List Shot, (captured ++ given ++ r.slot.toList).Perm r.handed ∧
      (∀ p ∈ r.told, p.2.isExposure = true → ∃ shot ∈ captured, shot.tag? = some p.1) ∧
      ∀ p ∈ r.told, p.2.isExposure = false → ∃ shot ∈ given, shot.tag? = some p.1 := by
  obtain ⟨captured, given, hexp, hfail, -, hacc⟩ := h.whole
  obtain ⟨given, rfl⟩ := Quotient.exists_rep given
  have hperm : (captured.map (·.2) ++ given ++ r.slot.toList).Perm r.handed :=
    Multiset.coe_eq_coe.mp hacc
  refine ⟨captured.map (·.2), given, hperm, fun p hp hexposure => ?_, fun p hp hexposure => ?_⟩
  · have hmem : p ∈ captured.flatMap fun q => q.2.exposure q.1 :=
      hexp ▸ List.mem_append_left _ (List.mem_filter.mpr ⟨hp, hexposure⟩)
    obtain ⟨q, hq, hp⟩ := List.mem_flatMap.mp hmem
    exact ⟨q.2, List.mem_map_of_mem hq, Shot.tag?_of_mem_exposure hp⟩
  · have hmem : p ∈ (given : Multiset Shot).bind fun shot =>
        (shot.failure : Multiset (FrameTag × Event)) :=
      hfail ▸ Multiset.mem_add.mpr (Or.inl (List.mem_filter.mpr ⟨hp, by simp [hexposure]⟩))
    obtain ⟨shot, hshot, hp⟩ := Multiset.mem_bind.mp hmem
    exact ⟨shot, hshot, Shot.tag?_of_mem_failure hp⟩

/-- Everything that is told is told of the capture of a frame that was handed over,
or of its failure. -/
theorem exists_telling_shot (h : empty.Since r) {p : FrameTag × Event} (hp : p ∈ r.told) :
    ∃ shot ∈ r.handed, shot.tag? = some p.1 ∧
      ((∃ time, p ∈ shot.exposure time) ∨ p ∈ shot.failure) := by
  obtain ⟨captured, given, hexp, hfail, -, hacc⟩ := h.whole
  cases hexposure : p.2.isExposure with
  | true =>
      have hmem : p ∈ captured.flatMap fun q => q.2.exposure q.1 :=
        hexp ▸ List.mem_append_left _ (List.mem_filter.mpr ⟨hp, hexposure⟩)
      obtain ⟨q, hq, hp⟩ := List.mem_flatMap.mp hmem
      have hhanded : q.2 ∈ (r.handed : Multiset Shot) := by
        rw [← hacc]
        simp only [Multiset.mem_add, Multiset.mem_coe]
        exact .inl (.inl (List.mem_map_of_mem hq))
      exact ⟨q.2, hhanded, Shot.tag?_of_mem_exposure hp, .inl ⟨q.1, hp⟩⟩
  | false =>
      have hmem : p ∈ given.bind fun shot => (shot.failure : Multiset (FrameTag × Event)) :=
        hfail ▸ Multiset.mem_add.mpr (Or.inl (List.mem_filter.mpr ⟨hp, by simp [hexposure]⟩))
      obtain ⟨shot, hshot, hp⟩ := Multiset.mem_bind.mp hmem
      have hhanded : shot ∈ (r.handed : Multiset Shot) := by
        rw [← hacc]
        simp only [Multiset.mem_add]
        exact .inl (.inr hshot)
      exact ⟨shot, hhanded, Shot.tag?_of_mem_failure hp, .inr hp⟩

/-- Everything that is told is told of a frame that was handed over. -/
theorem exists_shot_of_told (h : empty.Since r) {p : FrameTag × Event} (hp : p ∈ r.told) :
    ∃ shot ∈ r.handed, shot.tag? = some p.1 := by
  obtain ⟨shot, hshot, htag, -⟩ := exists_telling_shot h hp
  exact ⟨shot, hshot, htag⟩

/-- Nothing was told yet of the frame in the slot. -/
theorem ne_of_told_of_slot (h : empty.Since r) (hnodup : (r.handed.map Shot.tag?).Nodup)
    {shot : Shot} {tag : FrameTag} (hslot : r.slot = some shot) (htag : shot.tag? = some tag)
    {p : FrameTag × Event} (hp : p ∈ r.told) : p.1 ≠ tag := by
  rintro rfl
  obtain ⟨captured, given, hperm, hcaptured, hgiven⟩ := h.parts
  have htags := (hperm.map Shot.tag?).nodup_iff.mpr hnodup
  rw [hslot, List.map_append, List.nodup_append] at htags
  have hother : ∃ other ∈ captured ++ given, other.tag? = some p.1 := by
    cases hexposure : p.2.isExposure with
    | true =>
        obtain ⟨other, hother, hsame⟩ := hcaptured p hp hexposure
        exact ⟨other, List.mem_append_left _ hother, hsame⟩
    | false =>
        obtain ⟨other, hother, hsame⟩ := hgiven p hp hexposure
        exact ⟨other, List.mem_append_right _ hother, hsame⟩
  obtain ⟨other, hother, hsame⟩ := hother
  exact htags.2.2 _ (List.mem_map_of_mem hother) _ (List.mem_map_of_mem List.mem_cons_self)
    (hsame.trans htag.symm)

/-- When nothing is pending, a shutter and a result were told of a frame, or
one error. -/
theorem told_of_shot (h : empty.Since r) (hslot : r.slot = none) (hexposing : r.exposing = [])
    (hdropped : r.dropped = 0) (hnodup : (r.handed.map Shot.tag?).Nodup) {shot : Shot}
    {tag : FrameTag} (hshot : shot ∈ r.handed) (htag : shot.tag? = some tag) :
    (∃ time, r.told.filter (·.1 = tag) = shot.exposure time) ∨
      r.told.filter (·.1 = tag) = shot.failure := by
  obtain ⟨captured, given, hexp, hfail, -, hacc⟩ := h.whole
  obtain ⟨given, rfl⟩ := Quotient.exists_rep given
  simp only [hslot, hexposing, hdropped, List.append_nil, add_zero, Option.toList_none,
    Multiset.coe_nil] at hexp hfail hacc
  have hfail' : (r.told.filter (!·.2.isExposure)).Perm (given.flatMap Shot.failure) :=
    Multiset.coe_eq_coe.mp (hfail.trans (Multiset.coe_bind given Shot.failure))
  have hperm : (captured.map (·.2) ++ given).Perm r.handed := Multiset.coe_eq_coe.mp hacc
  have htags := (hperm.map Shot.tag?).nodup_iff.mpr hnodup
  rw [List.map_append, List.map_map, List.nodup_append] at htags
  obtain ⟨hcaptured, hgiven, hdisjoint⟩ := htags
  rcases List.mem_append.mp (hperm.mem_iff.mpr hshot) with hmem | hmem
  · obtain ⟨⟨time, shot⟩, hcapture, rfl⟩ := List.mem_map.mp hmem
    -- nothing else was told of it, since it was not given up as well
    have hkind : ∀ p ∈ r.told, decide (p.1 = tag) = true → p.2.isExposure = true := by
      intro p hp heq
      by_contra hexposure
      have hfailed : p ∈ given.flatMap Shot.failure :=
        hfail'.subset (List.mem_filter.mpr ⟨hp, by simpa using hexposure⟩)
      obtain ⟨other, hother, hp⟩ := List.mem_flatMap.mp hfailed
      refine hdisjoint _ (List.mem_map_of_mem hcapture) _ (List.mem_map_of_mem hother) ?_
      rw [Shot.tag?_of_mem_failure hp, of_decide_eq_true heq]
      exact htag
    refine Or.inl ⟨time, ?_⟩
    rw [filter_eq_of_imp hkind, hexp]
    exact filter_key_flatMap (fun q _ p hp => Shot.tag?_of_mem_exposure hp) hcaptured hcapture htag
  · -- it was given up, so it was not captured
    have hkind : ∀ p ∈ r.told, decide (p.1 = tag) = true → (!p.2.isExposure) = true := by
      intro p hp heq
      by_contra hexposure
      have hexposed : p ∈ captured.flatMap fun q => q.2.exposure q.1 :=
        hexp ▸ List.mem_filter.mpr ⟨hp, by simpa using hexposure⟩
      obtain ⟨q, hq, hp⟩ := List.mem_flatMap.mp hexposed
      refine hdisjoint _ (List.mem_map_of_mem hq) _ (List.mem_map_of_mem hmem) ?_
      refine (Shot.tag?_of_mem_exposure hp).trans ?_
      rw [htag, of_decide_eq_true heq]
    refine Or.inr ?_
    rw [filter_eq_of_imp hkind]
    have hone := hfail'.filter (·.1 = tag)
    rw [filter_key_flatMap (fun shot _ p hp => Shot.tag?_of_mem_failure hp) hgiven hmem htag,
      Shot.failure, htag] at hone
    rw [Shot.failure, htag]
    exact List.perm_singleton.mp hone

end Roll

/-! ## Who tells of a request -/

def Outcome.event? : Outcome → Option Event
  | told event => some event
  | handedOver | lost => none

def Occurrence.callback? (tag : FrameTag) : Occurrence → Option Event
  | told _ t event => if t = tag then some event else none
  | _ => none

/-- The callbacks of a request that is answered: a shutter and then the result,
or one error.  They name its pipeline and its frame. -/
inductive FrameTag.IsAnswer (tag : FrameTag) : List Event → Prop
  | captured {time : UInt64} {record : ResultRecord} (hpipeline : record.pipeline = tag.pipeline)
      (hframe : record.frame = tag.frame) :
      IsAnswer tag [.shutter tag.pipeline tag.frame time, .result record]
  | noResult : IsAnswer tag [tag.failure .result]
  | failed : IsAnswer tag [tag.failure .request]

namespace Camera

section

variable {σ : Type} {E : Engine σ} {sensor : σ} {c : Camera σ} {tag : FrameTag}

/-- All that the listener of a request was told of it, in order. -/
def callbacks (c : Camera σ) (tag : FrameTag) : List Event :=
  (c.tells.filter (·.1 = tag)).map (·.2)

theorem callbacks_eq (c : Camera σ) (tag : FrameTag) :
    c.callbacks tag = c.stage.history (Occurrence.callback? tag) := by
  rw [callbacks, tells, Stage.history, Stage.history, List.filter_filterMap, List.map_filterMap]
  refine congrArg (List.filterMap · c.stage.record.reverse) (funext fun o => ?_)
  cases o with
  | told speaker t event =>
      by_cases h : t = tag <;> simp [Occurrence.callback?, Occurrence.notice?, Option.filter, h]
  | _ => rfl

/-- If the processor told nothing of a request, what was told of it was told by
the sensor. -/
theorem callbacks_of_sensor (h : ∀ event, (tag, .told event) ∉ c.outcomes) :
    c.callbacks tag =
      ((c.stage.history Occurrence.sensorNotice?).filter (·.1 = tag)).map (·.2) := by
  rw [callbacks_eq, Stage.history, Stage.history, List.filter_filterMap, List.map_filterMap]
  refine List.filterMap_congr fun o ho => ?_
  cases o with
  | told speaker t event =>
      by_cases ht : t = tag
      · subst ht
        cases speaker with
        | sensor => simp [Occurrence.callback?, Occurrence.sensorNotice?, Option.filter]
        | processor =>
            have htold : (t, .told event) ∈ c.outcomes :=
              Stage.mem_history.mpr ⟨_, List.mem_reverse.mp ho, rfl⟩
            exact absurd htold (h event)
      · cases speaker <;> simp [Occurrence.callback?, Occurrence.sensorNotice?, Option.filter, ht]
  | _ => rfl

/-- If the sensor told nothing of a request, and the processor told something,
that is all that was told. -/
theorem callbacks_of_processor {event : Event} (hnodup : (c.outcomes.map (·.1)).Nodup)
    (hmem : (tag, .told event) ∈ c.outcomes)
    (h : ∀ p ∈ c.stage.history Occurrence.sensorNotice?, p.1 ≠ tag) :
    c.callbacks tag = [event] := by
  have hcallbacks : c.callbacks tag =
      (c.outcomes.filter (·.1 = tag)).filterMap (·.2.event?) := by
    rw [callbacks_eq, outcomes, Stage.history, Stage.history, List.filter_filterMap,
      List.filterMap_filterMap]
    refine List.filterMap_congr fun o ho => ?_
    cases o with
    | told speaker t event =>
        by_cases ht : t = tag
        · cases speaker with
          | processor =>
              simp [Occurrence.callback?, Occurrence.outcome?, Outcome.event?, Option.filter, ht]
          | sensor =>
              have htold : (t, event) ∈ c.stage.history Occurrence.sensorNotice? :=
                Stage.mem_history.mpr ⟨_, List.mem_reverse.mp ho, rfl⟩
              exact absurd ht (h _ htold)
        · cases speaker <;> simp [Occurrence.callback?, Occurrence.outcome?, Option.filter, ht]
    | handedOver t | crashed t =>
        by_cases ht : t = tag <;>
          simp [Occurrence.callback?, Occurrence.outcome?, Outcome.event?, Option.filter, ht]
    | _ => rfl
  have hone : c.outcomes.filter (·.1 = tag) = [(tag, .told event)] :=
    filter_key_eq_singleton hnodup hmem
  rw [hcallbacks, hone]
  rfl

end

open Sensor (Simulated)

variable {c : Camera Simulated} {tag : FrameTag} {period : Nat}

/-- No two frames that were handed over belong to one request. -/
theorem Reachable.nodup_handed (hc : Reachable Simulated.engine { period } c) :
    (c.roll.handed.map Shot.tag?).Nodup := by
  have htags : c.roll.handed.map Shot.tag? = (c.handOvers.map (·.1)).map some := by
    rw [roll_handed, List.map_map, List.map_map]
    exact List.map_congr_left fun p hp => Shot.tag?_eq (hc.tagged.handOvers p hp)
  rw [htags]
  refine List.Nodup.map (Option.some_injective _) ?_
  exact hc.balanced.nodup.sublist
    ((handOvers_sublist c).trans hc.balanced.outcomes_prefix.sublist)

/-- What the sensor told is about requests that it was handed. -/
theorem Reachable.handedOver_of_told (hc : Reachable Simulated.engine { period } c)
    {p : FrameTag × Event} (hp : p ∈ c.stage.history Occurrence.sensorNotice?) :
    (p.1, .handedOver) ∈ c.outcomes := by
  obtain ⟨shot, hshot, htag⟩ := Roll.exists_shot_of_told hc.rolled hp
  rw [← mem_tags_of_handOvers, ← hc.tags_of_handed]
  exact List.mem_filterMap.mpr ⟨shot, hshot, htag⟩

/-- Of a request that was handed over the processor tells nothing: that would be
a second outcome. -/
theorem Reachable.told_by_sensor (hc : Reachable Simulated.engine { period } c) {event : Event}
    (hhanded : (tag, .handedOver) ∈ c.outcomes) (h : (tag, event) ∈ c.tells) :
    (tag, event) ∈ c.roll.told := by
  obtain ⟨o, ho, heq⟩ := Stage.mem_history.mp h
  cases o with
  | told speaker t event' =>
      cases heq
      cases speaker with
      | sensor => exact Stage.mem_history.mpr ⟨_, ho, rfl⟩
      | processor =>
          have htold : (tag, .told event) ∈ c.outcomes := Stage.mem_history.mpr ⟨_, ho, rfl⟩
          cases List.inj_on_of_nodup_map hc.nodup_outcomes hhanded htold rfl
  | _ => cases heq

/-- Only requests that have their outcome are told of. -/
theorem Reachable.mem_outcomes_of_told (hc : Reachable Simulated.engine { period } c)
    {p : FrameTag × Event} (hp : p ∈ c.tells) : p.1 ∈ c.outcomes.map (·.1) := by
  obtain ⟨o, ho, heq⟩ := Stage.mem_history.mp hp
  have houtcome : ∃ outcome, (p.1, outcome) ∈ c.outcomes := by
    cases o with
    | told speaker t event =>
        cases heq
        cases speaker with
        | sensor => exact ⟨_, hc.handedOver_of_told (Stage.mem_history.mpr ⟨_, ho, rfl⟩)⟩
        | processor => exact ⟨_, Stage.mem_history.mpr ⟨_, ho, rfl⟩⟩
    | _ => cases heq
  obtain ⟨outcome, hmem⟩ := houtcome
  exact List.mem_map_of_mem hmem

theorem Reachable.mem_admissions_of_told (hc : Reachable Simulated.engine { period } c) :
    ∀ p ∈ c.tells, p.1 ∈ c.admissions :=
  fun _ hp => hc.balanced.outcomes_prefix.subset (hc.mem_outcomes_of_told hp)

/-- Once the sensor has nothing left, it answered every request that it was
handed. -/
theorem Reachable.isAnswer_of_handedOver (hc : Reachable Simulated.engine { period } c)
    (he : c.Ended) (hnotices : c.sensorNotices = []) (hmem : (tag, .handedOver) ∈ c.outcomes) :
    tag.IsAnswer
      (((c.stage.history Occurrence.sensorNotice?).filter (·.1 = tag)).map (·.2)) := by
  rw [← mem_tags_of_handOvers, ← hc.tags_of_handed] at hmem
  obtain ⟨shot, hshot, htag⟩ := List.mem_filterMap.mp hmem
  obtain ⟨owner, howner, -, -, hpipeline, hframe⟩ := hc.exists_tag hshot
  obtain rfl : tag = owner := Option.some.inj (htag.symm.trans howner)
  have hnodup := hc.nodup_handed
  have hexposing : c.roll.exposing = [] := by
    rw [roll, Stage.roll, Simulated.exposing, he.thread]
  have hdropped : c.roll.dropped = 0 := by
    rw [roll, hnotices]
    rfl
  rcases Roll.told_of_shot hc.rolled he.slot hexposing hdropped hnodup hshot htag with
    ⟨time, htold⟩ | htold
  · replace htold : (c.stage.history Occurrence.sensorNotice?).filter (·.1 = tag) =
        shot.exposure time := htold
    rw [htold, Shot.exposure, htag, hpipeline, hframe]
    exact .captured hpipeline hframe
  · replace htold : (c.stage.history Occurrence.sensorNotice?).filter (·.1 = tag) =
        shot.failure := htold
    rw [htold, Shot.failure, htag, hpipeline, hframe]
    exact .failed

/-- Once nothing is left anywhere, every request is answered. -/
theorem Reachable.isAnswer (hc : Reachable Simulated.engine { period } c)
    (hcrash : c.hasCrashed = false) (hcalls : c.calls = []) (hqueue : c.queue = [])
    (he : c.Ended) (htag : tag ∈ c.admissions) : tag.IsAnswer (c.callbacks tag) := by
  have hsettled : c.ledger.IsSettled := by
    refine isSettled_of_free ?_
    simp [dispatchIsFree, hcalls, he.worker, Worker.holdsDispatch]
  have hbalance := hc.balance_of_settled hsettled
  rw [waiting, hqueue, List.map_nil, List.append_nil] at hbalance
  have hnodup : (c.outcomes.map (·.1)).Nodup := hbalance ▸ hc.balanced.nodup
  rw [← hbalance] at htag
  obtain ⟨⟨tag, outcome⟩, hmem, rfl⟩ := List.mem_map.mp htag
  have hsame {other : Outcome} (hother : (tag, other) ∈ c.outcomes) : outcome = other :=
    congrArg (·.2) (List.inj_on_of_nodup_map hnodup hmem hother rfl)
  have hprocessor {event : Event} (hevent : outcome = .told event) : c.callbacks tag = [event] := by
    subst hevent
    refine callbacks_of_processor hnodup hmem fun p hp heq => ?_
    cases hsame (heq ▸ hc.handedOver_of_told hp)
  rcases hc.isRegular hcrash _ hmem with hevent | hevent | hevent
  · obtain rfl : outcome = .handedOver := hevent
    rw [callbacks_of_sensor fun event hevent => by cases hsame hevent]
    have hnotices : c.sensorNotices = [] := by
      simp [sensorNotices, hcalls, he.worker, Worker.sensorNotices]
    exact hc.isAnswer_of_handedOver he hnotices hmem
  · rw [hprocessor hevent]
    exact .noResult
  · rw [hprocessor hevent]
    exact .failed

end Camera

namespace Session

open Sensor (Simulated)

variable {s₀ s : Session Simulated} {moves : List Move} {answer : Except Fault Unit}
  {period : Nat}

/-- When a session is closed, every request that was ever admitted was answered
once: its listener was told a shutter and then its result, or one error, and
nothing else.  The request is one that was submitted, and the listener is that
of the pipeline which it named. -/
theorem every_request_is_answered_once (h₀ : Opened { period } s₀)
    (h : s₀.run? Simulated.engine moves = some s) (hcrash : s.camera.hasCrashed = false)
    (hclosed : s.phase = .closed answer) :
    s.camera.admissions.Nodup ∧ (∀ p ∈ s.camera.tells, p.1 ∈ s.camera.admissions) ∧
      ∀ tag ∈ s.camera.admissions,
        SubmittedIn Simulated.engine s₀ moves tag ∧ tag.IsAnswer (s.camera.callbacks tag) := by
  obtain ⟨hreach, htraced⟩ := traced_of_run? h₀ h
  obtain ⟨hcalls, hqueue, hended⟩ := hreach.closed hclosed
  have hc := hreach.camera
  refine ⟨hc.balanced.nodup, hc.mem_admissions_of_told, fun tag htag => ?_⟩
  refine ⟨htraced.admissions tag htag, ?_⟩
  exact hc.isAnswer hcrash hcalls hqueue hended htag

def sample : Session Simulated where
  camera := { Sample.camera { period := 0 } with
    controls := { Sample.controls with frameRate := ⟨15, 30⟩ } }
  characteristics := .standard

theorem opened_sample : Opened { period := 0 } sample := by
  have hcheck : Characteristics.standard.check = .ok () := rfl
  refine ⟨{}, Sample.store, Sample.controls, Sample.camera { period := 0 }, .standard, rfl, ?_⟩
  rw [create, Camera.takeUp, Controls.takeUp, hcheck]
  rfl

/-- Four requests.  The first fails, since it has no settings.  The second is
captured while the session is closed; the third waits in the slot then, and the
fourth in the queue. -/
def sampleMoves : List Move :=
  List.flatten [
    [.configure 0 { channel := 0 } [Sample.stream], .build,
      .submit 7 [Sample.plain, Sample.preview, Sample.preview, Sample.preview]],
    List.replicate 6 (.advance 0), List.replicate 9 .worker,
    .giveUp :: List.replicate 9 .worker,
    .sensor :: List.replicate 9 .worker,
    .close :: List.replicate 7 (.advance 1),
    .proceed :: List.replicate 6 .sensor,
    [.worker, .giveUp, .worker, .advance 2, .sensor, .advance 2, .advance 2, .proceed]]

theorem every_sample_request_is_answered_once :
    ∃ (s : Session Simulated) (answer : Except Fault Unit), Opened { period := 0 } sample ∧
      sample.run? Simulated.engine sampleMoves = some s ∧ s.camera.hasCrashed = false ∧
      s.phase = .closed answer ∧ s.camera.admissions = (List.range 4).map Sample.tag ∧
      s.camera.tells.map (·.1) = [0, 2, 3, 1, 1].map Sample.tag ∧
      ∀ tag ∈ s.camera.admissions,
        SubmittedIn Simulated.engine sample sampleMoves tag ∧
          tag.IsAnswer (s.camera.callbacks tag) := by
  have hrun : (sample.run? Simulated.engine sampleMoves).map (fun s =>
      (s.phase matches .closed _, s.camera.hasCrashed, s.camera.admissions,
        s.camera.tells.map (·.1))) =
      some (true, false, (List.range 4).map Sample.tag, [0, 2, 3, 1, 1].map Sample.tag) := by
    decide +kernel
  obtain ⟨s, hs, heq⟩ := Option.map_eq_some_iff.mp hrun
  simp only [Prod.mk.injEq] at heq
  obtain ⟨hphase, hcrash, hadmissions, htells⟩ := heq
  obtain ⟨answer, hclosed⟩ : ∃ answer, s.phase = .closed answer := by
    revert hphase
    cases s.phase <;> simp
  exact ⟨s, answer, opened_sample, hs, hcrash, hclosed, hadmissions, htells,
    (every_request_is_answered_once opened_sample hs hcrash hclosed).2.2⟩

end Session

end VirtualCamera
