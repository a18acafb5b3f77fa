import VirtualCamera.Proofs.Delivery
import VirtualCamera.Proofs.Painting

/-!
# Outputs that come back

An output of a request is given up at one of five points: its stream is unknown,
its format has no layout, it cannot be locked, its fence cannot be imported, or
the wait for its fence fails.  The first four leave it out of the buffers that
are mapped, the last one out of those that are kept.  Both only take elements
out of a list (`Store.filled_mapEach_sublist`, `Mapping.kept_sublist`), so the
result of a frame gives back some of the outputs of its request, in their order
and filled, and all of them precisely if none was given up.

For an output that was given up nothing is told as long as another one of the
request is left: errors are told of whole requests only
(`Camera.Reachable.final_cases`).  So a request accounts for all its outputs if
it failed, or if no output was given up, and otherwise it does not
(`Session.outputs_are_accounted_for_iff`).
-/

namespace VirtualCamera

/-- The buffer as it is given back with a result. -/
def Attachment.filled (a : Attachment) : Attachment :=
  { a with status := .ok }

/-! ## What is left of a list of buffers -/

theorem Mapping.IsOf.filled {m : Mapping} {tag : FrameTag} {a : Attachment} (h : m.IsOf tag a) :
    m.filled.attachment = a.filled := by
  rw [Mapping.filled, h.attachment]
  rfl

namespace Store

variable {s : Store} {override : PixelFormat → PixelFormat} {tag : FrameTag}
  {streams : List Stream} {attachments : List Attachment} {ms : List Mapping}

/-- What is mapped are some of the buffers, in their order. -/
theorem filled_mapEach_sublist (h : (s.mapEach override tag streams attachments).2 = .ok ms) :
    (ms.map (·.filled.attachment)).Sublist (attachments.map Attachment.filled) := by
  induction attachments generalizing s ms with
  | nil =>
      cases h
      exact List.Sublist.refl _
  | cons a rest ih =>
      obtain ⟨first, others, hfirst, hothers, -, rfl⟩ := mapEach_cons_eq_ok h
      rw [List.map_append, List.map_cons]
      cases first with
      | none => exact List.Sublist.cons _ (ih hothers)
      | some m =>
          rw [Option.toList_some, List.map_singleton, (isOf_of_mapKnown hfirst).filled]
          exact List.Sublist.cons_cons _ (ih hothers)

end Store

namespace Mapping

variable {waits : List (Mapping × Except FenceFault Unit)}

theorem kept_sublist (waits : List (Mapping × Except FenceFault Unit)) :
    (kept waits).Sublist (waits.map (·.1)) := by
  induction waits with
  | nil => exact List.Sublist.refl _
  | cons p rest ih =>
      obtain ⟨m, outcome⟩ := p
      cases outcome with
      | ok => exact List.Sublist.cons_cons _ ih
      | error => exact List.Sublist.cons _ ih

/-- Nothing is taken out if all waits go well, and only then. -/
theorem length_kept_eq_iff :
    (kept waits).length = waits.length ↔ ∀ w ∈ waits, w.2 = .ok () := by
  rw [kept, List.filterMap_length_eq_length]
  refine forall₂_congr fun w _ => ?_
  obtain ⟨m, outcome⟩ := w
  cases outcome with
  | ok => simp [Except.toOption]
  | error => simp [Except.toOption]

end Mapping

/-- Of the outputs of a request those are left that were mapped and awaited with
success: all of them, if they are as many. -/
theorem CaptureRequest.AdmittedAs.filled_kept {σ : Type} {E : Engine σ} {frame : UInt32}
    {table : List Pipeline} {r : CaptureRequest} {a : Admission}
    {waits : List (Mapping × Except FenceFault Unit)} (h : r.AdmittedAs E frame table a)
    (hwaits : waits.map (·.1) = a.outputs.getD []) :
    ((Mapping.kept waits).map (·.filled.attachment)).Sublist
        (r.outputs.map Attachment.filled) ∧
      ((Mapping.kept waits).map (·.filled.attachment) = r.outputs.map Attachment.filled ↔
        (a.outputs.getD []).length = r.outputs.length ∧ ∀ w ∈ waits, w.2 = .ok ()) := by
  obtain ⟨p, s, t, -, hmade⟩ := h
  have hmapped : ((a.outputs.getD []).map (·.filled.attachment)).Sublist
      (r.outputs.map Attachment.filled) :=
    Store.filled_mapEach_sublist (Store.mapAll_eq_ok hmade.outputs)
  have hkept := (Mapping.kept_sublist waits).map (·.filled.attachment)
  rw [hwaits] at hkept
  have hsublist := hkept.trans hmapped
  have hlength := congrArg List.length hwaits
  rw [List.length_map] at hlength
  refine ⟨hsublist, ?_⟩
  rw [← Mapping.length_kept_eq_iff]
  constructor
  · intro heq
    have hall := congrArg List.length heq
    have hle₁ := hkept.length_le
    have hle₂ := hmapped.length_le
    simp only [List.length_map] at hall hle₁ hle₂
    omega
  · rintro ⟨hmapped, hkept⟩
    refine hsublist.eq_of_length ?_
    simp only [List.length_map]
    omega

namespace Camera

open Sensor (Simulated)

variable {c : Camera Simulated} {tag : FrameTag} {period : Nat} {a : Admission}

/-! ## What is told last -/

/-- What is told last of a request is that it failed, or the result of the frame
that was handed over for it. -/
theorem Reachable.final_cases (hc : Reachable Simulated.engine { period } c) {event : Event}
    (h : (tag, event) ∈ c.tells) (hfinal : event.isFinal = true) :
    (∃ code, event = tag.failure code) ∨
      ∃ shot, (tag, shot) ∈ c.handOvers ∧ event = .result shot.completed := by
  obtain ⟨o, ho, heq⟩ := Stage.mem_history.mp h
  cases o with
  | told speaker t e =>
      cases heq
      cases speaker with
      | processor =>
          have htold : (tag, .told event) ∈ c.outcomes := Stage.mem_history.mpr ⟨_, ho, rfl⟩
          rcases hc.truthful.outcomes _ htold with (hregular | hregular | hregular) | hlost
          · cases hregular
          · exact .inl ⟨.result, Outcome.told.inj hregular⟩
          · exact .inl ⟨.request, Outcome.told.inj hregular⟩
          · cases hlost
      | sensor =>
          have htold : (tag, event) ∈ c.roll.told := Stage.mem_history.mpr ⟨_, ho, rfl⟩
          obtain ⟨shot, hshot, htag, hevent⟩ := Roll.exists_telling_shot hc.rolled htold
          obtain ⟨p, hp, rfl⟩ := List.mem_map.mp (roll_handed c ▸ hshot)
          obtain ⟨owner, shot⟩ := p
          have hbelongs := hc.tagged.handOvers _ hp
          obtain rfl : owner = tag := Option.some.inj ((Shot.tag?_eq hbelongs).symm.trans htag)
          rcases hevent with ⟨time, hevent⟩ | hevent
          · simp only [Shot.exposure, htag, Option.toList_some, List.flatMap_singleton,
              List.mem_cons, Prod.mk.injEq, true_and, List.not_mem_nil, or_false] at hevent
            rcases hevent with rfl | rfl
            · cases hfinal
            · exact .inr ⟨shot, hp, rfl⟩
          · simp only [Shot.failure, htag, Option.toList_some, List.map_singleton,
              List.mem_singleton, Prod.mk.injEq, true_and] at hevent
            rw [hbelongs.pipeline, hbelongs.frame] at hevent
            exact .inl ⟨.request, hevent⟩
  | _ => cases heq

theorem mem_tells_of_callbacks {event : Event} (h : event ∈ c.callbacks tag) :
    (tag, event) ∈ c.tells := by
  obtain ⟨⟨t, e⟩, hfilter, rfl⟩ := List.mem_map.mp h
  obtain ⟨htells, htag⟩ := List.mem_filter.mp hfilter
  obtain rfl : t = tag := of_decide_eq_true htag
  exact htells

/-- The result of a request gives back what was kept of the waits for its
outputs. -/
theorem Reachable.outputs_of_result (hc : Reachable Simulated.engine { period } c)
    (ha : a ∈ c.requests) {record : ResultRecord} (h : .result record ∈ c.callbacks a.tag) :
    ∃ waits, waits = (c.waitsFor a.tag).take (a.outputs.getD []).length ∧
      waits.map (·.1) = a.outputs.getD [] ∧
      record.outputs = (Mapping.kept waits).map (·.filled.attachment) := by
  rcases hc.final_cases (mem_tells_of_callbacks h) rfl with ⟨code, hcode⟩ | ⟨shot, hshot, hevent⟩
  · cases hcode
  · obtain rfl : record = shot.completed := Event.result.inj hevent
    obtain ⟨b, hb, htag, waits, hprefix, hmap, houtputs⟩ := hc.awaiting.handOvers _ hshot
    have hnodup : (c.requests.map (·.tag)).Nodup := tags_of_requests c ▸ hc.balanced.nodup
    obtain rfl : b = a := List.inj_on_of_nodup_map hnodup hb ha htag
    refine ⟨waits, ?_, hmap, ?_⟩
    · rw [← hmap, List.length_map]
      exact List.prefix_iff_eq_take.mp hprefix
    · rw [← houtputs]
      rfl

end Camera

/-! ## The law and when it holds -/

/-- What was told of the frame of a request accounts for all its outputs: there was
an error, or a result that gives all of them back, filled. -/
def CaptureRequest.IsAccountedFor (r : CaptureRequest) (tag : FrameTag) (events : List Event) :
    Prop :=
  (∃ code stream, .error tag.pipeline code tag.frame stream ∈ events) ∨
    ∃ record, .result record ∈ events ∧ record.outputs = r.outputs.map Attachment.filled

namespace Session

open Sensor (Simulated)

variable {s₀ s : Session Simulated} {moves : List Move} {period : Nat}

/-- A request of which something was told last accounts for all its outputs
precisely if an error was told, or all outputs were mapped and the waits for all of
them went well.  A result gives back some of the outputs in any case, in their
order and filled. -/
theorem outputs_are_accounted_for_iff (h₀ : Opened { period } s₀)
    (h : s₀.run? Simulated.engine moves = some s) :
    ∀ a ∈ s.camera.requests, (∃ event ∈ s.camera.callbacks a.tag, event.isFinal = true) →
      (∃ frame table r, CaptureRequest.AdmittedAs Simulated.engine frame table r a) ∧
      ∀ frame table r, CaptureRequest.AdmittedAs Simulated.engine frame table r a →
        (∀ record, .result record ∈ s.camera.callbacks a.tag →
          record.outputs.Sublist (r.outputs.map Attachment.filled)) ∧
        (r.IsAccountedFor a.tag (s.camera.callbacks a.tag) ↔
          (∃ code stream,
            .error a.tag.pipeline code a.tag.frame stream ∈ s.camera.callbacks a.tag) ∨
          (a.outputs.getD []).length = r.outputs.length ∧
            ∀ w ∈ (s.camera.waitsFor a.tag).take (a.outputs.getD []).length, w.2 = .ok ()) := by
  obtain ⟨hreach, -⟩ := traced_of_run? h₀ h
  have hc := hreach.camera
  intro a ha hfinished
  refine ⟨hc.awaiting.requests a ha, fun frame table r hadmitted => ⟨fun record hrecord => ?_, ?_⟩⟩
  · obtain ⟨waits, -, hmap, houtputs⟩ := hc.outputs_of_result ha hrecord
    exact houtputs ▸ (hadmitted.filled_kept hmap).1
  constructor
  · rintro (herror | ⟨record, hrecord, hall⟩)
    · exact .inl herror
    · obtain ⟨waits, rfl, hmap, houtputs⟩ := hc.outputs_of_result ha hrecord
      exact .inr ((hadmitted.filled_kept hmap).2.mp (houtputs ▸ hall))
  · rintro (herror | hsurvived)
    · exact .inl herror
    · obtain ⟨event, hevent, hfinal⟩ := hfinished
      rcases hc.final_cases (Camera.mem_tells_of_callbacks hevent) hfinal with
        ⟨code, rfl⟩ | ⟨shot, -, rfl⟩
      · exact .inl ⟨code, none, hevent⟩
      · obtain ⟨waits, rfl, hmap, houtputs⟩ := hc.outputs_of_result ha hevent
        exact .inr ⟨_, hevent, houtputs.trans ((hadmitted.filled_kept hmap).2.mpr hsurvived)⟩

/-- A session whose client owns a second buffer, which is too small for the
stream. -/
def crowded : Session Simulated where
  camera := { sample.camera with
    stage := {
      sensor := { period := 0 }
      store := ⟨⟨#[.zeroed 16, .zeroed 4]⟩, #[]⟩ } }
  characteristics := .standard

theorem opened_crowded : Opened { period := 0 } crowded := by
  have hcheck : Characteristics.standard.check = .ok () := rfl
  refine ⟨{}, crowded.camera.stage.store, Sample.controls,
    { Sample.camera ({ period := 0 } : Simulated) with stage := crowded.camera.stage },
    .standard, rfl, ?_⟩
  rw [create, Camera.takeUp, Controls.takeUp, hcheck]
  rfl

def twoOutputs : CaptureRequest :=
  { Sample.preview with outputs := [⟨0, 0, none, .error⟩, ⟨0, 1, none, .error⟩] }

/-- The request is captured, and then the session is closed. -/
def crowdedMoves : List Move :=
  List.flatten [
    [.configure 0 { channel := 0 } [Sample.stream], .build, .submit 7 [twoOutputs]],
    List.replicate 3 (.advance 0), List.replicate 8 .worker, List.replicate 6 .sensor,
    .close :: List.replicate 3 (.advance 1),
    [.proceed, .worker, .sensor, .sensor, .worker, .worker, .advance 2, .sensor, .sensor,
      .advance 2, .advance 2, .proceed]]

/-- The one request of the session: its second output is not among those that were
mapped. -/
def crowdedAdmission : Admission :=
  Sample.admission none (some [Sample.mapping 0 none])

theorem admittedAs_crowdedAdmission :
    twoOutputs.AdmittedAs Simulated.engine 7 [Sample.pipeline] crowdedAdmission :=
  have hmap : crowded.camera.mapRequest Simulated.engine 7 Sample.pipeline twoOutputs =
    (_, .ok crowdedAdmission) := rfl
  ⟨Sample.pipeline, _, _, rfl, (Camera.mapRequest_eq_ok hmap).2⟩

/-- No error, and no result but with the first output. -/
def givesBackFirst : Event → Bool
  | .error .. => false
  | .shutter .. => true
  | .result record => record.outputs = [⟨0, 0, none, .ok⟩]

theorem run_crowded :
    ∃ s answer, crowded.run? Simulated.engine crowdedMoves = some s ∧
      s.phase = .closed answer ∧ s.camera.hasCrashed = false ∧
      s.camera.requests = [crowdedAdmission] ∧
      (s.camera.callbacks crowdedAdmission.tag).any Event.isFinal = true ∧
      (s.camera.callbacks crowdedAdmission.tag).all givesBackFirst = true := by
  have hrun : (crowded.run? Simulated.engine crowdedMoves).map (fun s =>
      (s.phase matches .closed _, s.camera.hasCrashed, s.camera.requests,
        (s.camera.callbacks crowdedAdmission.tag).any Event.isFinal,
        (s.camera.callbacks crowdedAdmission.tag).all givesBackFirst)) =
      some (true, false, [crowdedAdmission], true, true) := by
    decide +kernel
  obtain ⟨s, hs, heq⟩ := Option.map_eq_some_iff.mp hrun
  simp only [Prod.mk.injEq] at heq
  obtain ⟨hphase, hcrash, hrequests, hfinal, hall⟩ := heq
  obtain ⟨answer, hclosed⟩ : ∃ answer, s.phase = .closed answer := by
    revert hphase
    cases s.phase <;> simp
  exact ⟨s, answer, hs, hclosed, hcrash, hrequests, hfinal, hall⟩

/-- Here the law is not kept: the second output was not mapped, and no error was
told. -/
theorem crowded_outputs_are_accounted_for_iff :
    ∃ s, crowded.run? Simulated.engine crowdedMoves = some s ∧
      ∀ r : CaptureRequest, r.AdmittedAs Simulated.engine 7 [Sample.pipeline] crowdedAdmission →
        (r.IsAccountedFor crowdedAdmission.tag (s.camera.callbacks crowdedAdmission.tag) ↔
          (∃ code stream, .error 0 code 7 stream ∈
            s.camera.callbacks crowdedAdmission.tag) ∨
          1 = r.outputs.length ∧
            ∀ w ∈ (s.camera.waitsFor crowdedAdmission.tag).take 1, w.2 = .ok ()) := by
  obtain ⟨s, answer, hs, -, -, hrequests, hfinal, -⟩ := run_crowded
  have hfinished : ∃ event ∈ s.camera.callbacks crowdedAdmission.tag, event.isFinal = true :=
    List.any_eq_true.mp hfinal
  have hmem : crowdedAdmission ∈ s.camera.requests := hrequests ▸ List.mem_cons_self
  have hiff := outputs_are_accounted_for_iff opened_crowded hs crowdedAdmission hmem hfinished
  exact ⟨s, hs, fun r hr => (hiff.2 7 _ r hr).2⟩

/-- Of the two outputs of the one request only the first comes back, and no error
is told of its frame. -/
theorem short_buffer_disappears :
    ∃ s answer a, Opened { period := 0 } crowded ∧
      crowded.run? Simulated.engine crowdedMoves = some s ∧ s.phase = .closed answer ∧
      s.camera.hasCrashed = false ∧ a ∈ s.camera.requests ∧
      twoOutputs.AdmittedAs Simulated.engine 7 [Sample.pipeline] a ∧
      ¬ twoOutputs.IsAccountedFor a.tag (s.camera.callbacks a.tag) := by
  obtain ⟨s, answer, hs, hclosed, hcrash, hrequests, -, hall⟩ := run_crowded
  refine ⟨s, answer, crowdedAdmission, opened_crowded, hs, hclosed, hcrash,
    hrequests ▸ List.mem_cons_self, admittedAs_crowdedAdmission, ?_⟩
  rintro (⟨code, stream, herror⟩ | ⟨record, hrecord, houtputs⟩)
  · cases List.all_eq_true.mp hall _ herror
  · have hfirst : record.outputs = [⟨0, 0, none, .ok⟩] :=
      of_decide_eq_true (List.all_eq_true.mp hall _ hrecord)
    rw [hfirst] at houtputs
    exact absurd (congrArg List.length houtputs) (by decide)

end Session

end VirtualCamera
