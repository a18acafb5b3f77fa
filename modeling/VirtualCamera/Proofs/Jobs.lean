import VirtualCamera.Proofs.Callers

/-!
# The sensor accounts for every job

Each frame that is handed to the sensor is a job of its own, even if the same
frame is handed over twice; jobs are numbered in the order in which they come.
An `Account` says where every job is: in the slot, in the capture at hand, among
the captured ones, or taken out of the slot by a call, which is then to tell of
it (`pending`) or has told of it (`reported`).  A job moves from place to place
by `Account.Step`, and no step loses or doubles one (`Account.Step.isWhole`).

`Bench.Accounts` ties an account to the state of the sensor and to the record.
What the sensor's thread told, and the counter of captured frames, follow from
the captured jobs and from how far the capture at hand has come
(`Account.Thread`); what callers told and are still to tell follows from the
jobs that they took.  Every move of the sensor or of a caller is a step of its
account (`Bench.Transition.accounts`).
-/

namespace VirtualCamera

namespace Shot

variable {shot : Shot} {tag : FrameTag} {time : UInt64}

def failed (shot : Shot) (tag : FrameTag) : FrameTag × Event :=
  (tag, .error shot.result.pipeline .request shot.result.frame none)

theorem failure_eq (htag : shot.tag? = some tag) : shot.failure = [shot.failed tag] := by
  rw [failure, htag]
  rfl

theorem exists_tag (h : shot.outputs ≠ []) : ∃ tag, shot.tag? = some tag := by
  obtain ⟨m, rest, hm⟩ := List.exists_cons_of_ne_nil h
  exact ⟨m.tag, by simp [tag?, hm]⟩

end Shot

namespace Sensor

theorem capture_ne_nil {time : UInt64} {shot : Shot} (h : shot.outputs ≠ []) :
    capture time shot ≠ [] := by
  obtain ⟨tag, htag⟩ := Shot.exists_tag h
  simp [capture, htag]

/-- A capture counts its frame right before it delivers the result. -/
theorem exists_capture_eq {shot : Shot} {tag : FrameTag} (time : UInt64)
    (htag : shot.tag? = some tag) :
    ∃ before, Action.count ∉ before ∧ capture time shot =
      before ++ [.count, .perform (.tell tag (.result shot.completed))] := by
  refine ⟨.perform (.tell tag (.shutter shot.result.pipeline shot.result.frame time)) ::
    shot.outputs.map (fun m => .perform (.paint m shot.shade)) ++
    shot.mappings.map (fun m => .perform (.release m)), by simp, ?_⟩
  rw [capture, htag]

theorem count_capture {time : UInt64} {shot : Shot} (h : shot.outputs ≠ []) :
    (capture time shot).count .count = 1 := by
  obtain ⟨tag, htag⟩ := Shot.exists_tag h
  obtain ⟨before, hbefore, hcapture⟩ := exists_capture_eq time htag
  rw [hcapture, List.count_append, List.count_eq_zero_of_not_mem hbefore]
  simp

/-! ## Accounts -/

/-- A frame that was handed over, with its number. -/
structure Job where
  number : Nat
  shot : Shot
  deriving DecidableEq

/-- Where the jobs are. -/
structure Account where
  /-- all jobs that were handed over, in order -/
  jobs : List Job
  slot : Option Job
  /-- the capture at hand and the time at which it began -/
  capturing : Option (UInt64 × Job)
  captured : List (UInt64 × Job)
  /-- jobs that calls took out of the slot and are to tell of -/
  pending : List (Nat × Job)
  /-- jobs that calls took out of the slot and told of -/
  reported : List (Nat × Job)

namespace Account

variable {a a' : Account}

def places (a : Account) : List Job :=
  a.captured.map (·.2) ++ a.capturing.toList.map (·.2) ++ a.slot.toList ++
    a.pending.map (·.2) ++ a.reported.map (·.2)

/-- The jobs are numbered, and each is in one place. -/
structure IsWhole (a : Account) : Prop where
  numbers : a.jobs.map (·.number) = List.range a.jobs.length
  places : a.places.Perm a.jobs

def empty : Account :=
  ⟨[], none, none, [], [], []⟩

/-- How jobs move. -/
inductive Step (a : Account) : Account → Prop
  | still : Step a a
  | hand (call : Nat) (shot : Shot) :
      Step a { a with
        jobs := a.jobs ++ [⟨a.jobs.length, shot⟩]
        slot := some ⟨a.jobs.length, shot⟩
        pending := a.pending ++ a.slot.toList.map (call, ·) }
  | take (call : Nat) :
      Step a { a with slot := none, pending := a.pending ++ a.slot.toList.map (call, ·) }
  | report {l r : List (Nat × Job)} {p : Nat × Job} (hpending : a.pending = l ++ p :: r) :
      Step a { a with pending := l ++ r, reported := a.reported ++ [p] }
  | tick {job : Job} (time : UInt64) (hslot : a.slot = some job) (hidle : a.capturing = none) :
      Step a { a with slot := none, capturing := some (time, job) }
  | complete {p : UInt64 × Job} (hcapturing : a.capturing = some p) :
      Step a { a with capturing := none, captured := a.captured ++ [p] }

theorem Step.isWhole (h : a.Step a') (ha : a.IsWhole) : a'.IsWhole := by
  obtain ⟨hnumbers, hplaces⟩ := ha
  rw [List.perm_iff_count] at hplaces
  cases h with
  | still => exact ⟨hnumbers, List.perm_iff_count.mpr hplaces⟩
  | hand call shot =>
      refine ⟨?_, List.perm_iff_count.mpr fun job => ?_⟩
      · simp [hnumbers, List.range_succ]
      · have hcount := hplaces job
        simp only [places, List.count_append, List.map_append, List.map_map, Function.comp_def,
          List.map_id', Option.toList_some] at hcount ⊢
        omega
  | take call =>
      refine ⟨hnumbers, List.perm_iff_count.mpr fun job => ?_⟩
      have hcount := hplaces job
      simp only [places, List.count_append, List.map_append, List.map_map, Function.comp_def,
        List.map_id', Option.toList_none, List.count_nil] at hcount ⊢
      omega
  | report hpending =>
      refine ⟨hnumbers, List.perm_iff_count.mpr fun job => ?_⟩
      have hcount := hplaces job
      simp only [places, hpending, List.count_append, List.map_append, List.map_cons,
        List.map_nil, List.count_cons, List.count_nil] at hcount ⊢
      omega
  | tick time hslot hidle =>
      refine ⟨hnumbers, List.perm_iff_count.mpr fun job => ?_⟩
      have hcount := hplaces job
      simp only [places, hslot, hidle, List.count_append, Option.toList_some, Option.toList_none,
        List.map_cons, List.map_nil, List.count_nil] at hcount ⊢
      omega
  | complete hcapturing =>
      refine ⟨hnumbers, List.perm_iff_count.mpr fun job => ?_⟩
      have hcount := hplaces job
      simp only [places, hcapturing, List.count_append, List.map_append, Option.toList_some,
        Option.toList_none, List.map_cons, List.map_nil, List.count_nil] at hcount ⊢
      omega

/-- How far the sensor's thread has come with the capture at hand, what it told
and what it counted. -/
inductive Thread (a : Account) (s : Simulated) (exposures : List (FrameTag × Event)) : Prop
  | idle (hcapturing : a.capturing = none) (hactions : s.actions = [])
      (hexposures : exposures = a.captured.flatMap fun p => p.2.shot.exposure p.1)
      (hcount : s.captured = .ofNat a.captured.length)
  | busy {time : UInt64} {job : Job} {done : List Action}
      (hcapturing : a.capturing = some (time, job))
      (hactions : capture time job.shot = done ++ s.actions) (hne : s.actions ≠ [])
      (hexposures : exposures =
        (a.captured.flatMap fun p => p.2.shot.exposure p.1) ++ told done)
      (hcount : s.captured = .ofNat (a.captured.length + done.count .count))

theorem Thread.congr {s t : Simulated} {exposures : List (FrameTag × Event)}
    (h : a.Thread s exposures) (hcapturing : a'.capturing = a.capturing)
    (hcaptured : a'.captured = a.captured) (hactions : t.actions = s.actions)
    (hcount : t.captured = s.captured) : a'.Thread t exposures := by
  cases h with
  | idle hidle hnone hexposures hnumber =>
      refine .idle (hcapturing.trans hidle) (hactions.trans hnone) ?_ ?_
      · rw [hcaptured, hexposures]
      · rw [hcount, hcaptured, hnumber]
  | busy hbusy hcapture hne hexposures hnumber =>
      refine .busy (hcapturing.trans hbusy) (hactions ▸ hcapture) (hactions ▸ hne) ?_ ?_
      · rw [hcaptured, hexposures]
      · rw [hcount, hcaptured, hnumber]

/-- A capture tells nothing but exposures. -/
theorem Thread.isExposure {s : Simulated} {exposures : List (FrameTag × Event)} {e : Effect}
    {rest : List Action} (h : a.Thread s exposures) (hs : s.actions = .perform e :: rest) :
    ∀ p ∈ e.notice?.toList, p.2.isExposure = true := by
  cases h with
  | idle hidle hnone =>
      rw [hnone] at hs
      cases hs
  | @busy time job done hbusy hcapture =>
      intro p hp
      have hmem : p ∈ job.shot.exposure time := by
        rw [← told_capture, hcapture, told_append, hs, told_cons]
        exact List.mem_append_right _ (List.mem_append_left _ hp)
      exact Shot.isExposure_of_mem_exposure hmem

/-- The thread takes the next action of a capture, which may be the last. -/
theorem Thread.act {s t : Simulated} {exposures : List (FrameTag × Event)} {action : Action}
    {rest : List Action} (h : a.Thread s exposures) (houtputs : ∀ p ∈ a.capturing,
      p.2.shot.outputs ≠ []) (hs : s.actions = action :: rest) (ht : t.actions = rest)
    (hcount : t.captured = s.captured + .ofNat ([action].count .count)) :
    a.Thread t (exposures ++ told [action]) ∨ ∃ p, a.capturing = some p ∧
      Thread { a with capturing := none, captured := a.captured ++ [p] } t
        (exposures ++ told [action]) := by
  cases h with
  | idle hidle hnone =>
      rw [hnone] at hs
      cases hs
  | @busy time job done hbusy hcapture hne hexposures hnumber =>
      have hdone : capture time job.shot = (done ++ [action]) ++ rest := by
        rw [hcapture, hs, List.append_assoc]
        rfl
      have htold : exposures ++ told [action] =
          (a.captured.flatMap fun p => p.2.shot.exposure p.1) ++ told (done ++ [action]) := by
        rw [hexposures, told_append, List.append_assoc]
      have hcounted :
          t.captured = .ofNat (a.captured.length + (done ++ [action]).count .count) := by
        rw [hcount, hnumber, List.count_append, ← Nat.add_assoc, ← UInt64.ofNat_add]
      by_cases hrest : rest = []
      · subst hrest
        rw [List.append_nil] at hdone
        refine Or.inr ⟨_, hbusy, .idle rfl ht ?_ ?_⟩
        · rw [htold, ← hdone, told_capture]
          simp
        · rw [hcounted, ← hdone, count_capture (houtputs _ hbusy)]
          simp
      · exact Or.inl (.busy hbusy (ht.symm ▸ hdone) (ht.symm ▸ hrest) htold hcounted)

end Account

/-! ## The account of a sensor with its callers -/

def SensorCall.notices : SensorCall → List (FrameTag × Event)
  | performing effects _ => VirtualCamera.notices effects
  | waiting _ | halting _ => []

namespace Bench

variable {b d : Bench Simulated} {m : Move} {a : Account} {period : Nat}

/-- Shutters and results that were told, in order. -/
def exposures (b : Bench Simulated) : List (FrameTag × Event) :=
  (b.stage.history Occurrence.sensorNotice?).filter (·.2.isExposure)

def errors (b : Bench Simulated) : List (FrameTag × Event) :=
  (b.stage.history Occurrence.sensorNotice?).filter (!·.2.isExposure)

/-- What the open calls are to tell, with their numbers. -/
def notices (b : Bench Simulated) : List (Nat × FrameTag × Event) :=
  b.calls.flatMap fun p => p.2.notices.map (p.1, ·)

/-- An account of this sensor, its callers and the record. -/
structure Accounts (b : Bench Simulated) (a : Account) : Prop where
  whole : a.IsWhole
  jobs : a.jobs.map (·.shot) = b.stage.history Occurrence.handedShot?
  outputs : ∀ job ∈ a.jobs, job.shot.outputs ≠ []
  slot : a.slot.map (·.shot) = b.stage.sensor.slot
  thread : a.Thread b.stage.sensor b.exposures
  pending : b.notices.Perm (a.pending.flatMap fun p => p.2.shot.failure.map (p.1, ·))
  reported : b.errors = a.reported.flatMap fun p => p.2.shot.failure

theorem Accounts.still (h : b.Accounts a)
    (hhanded : d.stage.history Occurrence.handedShot? = b.stage.history Occurrence.handedShot?)
    (htold : d.stage.history Occurrence.sensorNotice? = b.stage.history Occurrence.sensorNotice?)
    (hslot : d.stage.sensor.slot = b.stage.sensor.slot)
    (hactions : d.stage.sensor.actions = b.stage.sensor.actions)
    (hcount : d.stage.sensor.captured = b.stage.sensor.captured)
    (hnotices : d.notices = b.notices) : d.Accounts a := by
  have hexposures : d.exposures = b.exposures := by rw [exposures, htold, exposures]
  refine ⟨h.whole, hhanded ▸ h.jobs, h.outputs, hslot ▸ h.slot, ?_, hnotices ▸ h.pending, ?_⟩
  · rw [hexposures]
    exact h.thread.congr rfl rfl hactions hcount
  · rw [errors, htold]
    exact h.reported

/-- A call takes the job out of the slot, and is to tell of it. -/
theorem Accounts.pending_of_take {call : Nat} (h : b.Accounts a)
    (hnotices : d.notices.Perm (b.notices ++
      (VirtualCamera.notices (b.stage.sensor.slot.toList.flatMap Shot.abandon)).map (call, ·))) :
    d.notices.Perm ((a.pending ++ a.slot.toList.map (call, ·)).flatMap
      fun p => p.2.shot.failure.map (p.1, ·)) := by
  refine hnotices.trans ?_
  rw [Shot.notices_abandonAll, ← h.slot, List.flatMap_append]
  refine h.pending.append ?_
  cases a.slot with
  | none => simp
  | some job => simp

theorem notices_split {l r : List (Nat × SensorCall)} {i : Nat} {call : SensorCall}
    (hcalls : b.calls = l ++ (i, call) :: r) :
    b.notices.Perm (call.notices.map (i, ·) ++
      (l ++ r).flatMap fun p => p.2.notices.map (p.1, ·)) := by
  rw [notices, hcalls]
  exact List.perm_middle.flatMap_right _

theorem Accounts.outputs_of_mem_places {job : Job} (h : b.Accounts a) (hjob : job ∈ a.places) :
    job.shot.outputs ≠ [] :=
  h.outputs job (h.whole.places.subset hjob)

theorem Accounts.exists_tag_of_pending {p : Nat × Job} (h : b.Accounts a) (hp : p ∈ a.pending) :
    ∃ tag, p.2.shot.tag? = some tag := by
  refine Shot.exists_tag (h.outputs_of_mem_places ?_)
  simp only [Account.places, List.mem_append]
  exact Or.inl (Or.inr (List.mem_map_of_mem hp))

/-- A call that is about to tell something took a job, and this is its failure. -/
theorem Accounts.exists_pending {i : Nat} {n : FrameTag × Event} (h : b.Accounts a)
    (hn : (i, n) ∈ b.notices) :
    ∃ l job r, a.pending = l ++ (i, job) :: r ∧ job.shot.failure = [n] := by
  obtain ⟨⟨j, job⟩, hp, hn⟩ := List.mem_flatMap.mp (h.pending.subset hn)
  obtain ⟨tag, htag⟩ := h.exists_tag_of_pending hp
  rw [Shot.failure_eq htag, List.map_singleton, List.mem_singleton, Prod.mk.injEq] at hn
  obtain ⟨rfl, rfl⟩ := hn
  obtain ⟨l, r, hpending⟩ := List.append_of_mem hp
  exact ⟨l, job, r, hpending, Shot.failure_eq htag⟩

theorem Accounts.perform {l r : List (Nat × SensorCall)} {i : Nat} {e : Effect}
    {rest : List Effect} {answer : Except Fault Unit} (h : b.Accounts a)
    (hcalls : b.calls = l ++ (i, .performing (e :: rest) answer) :: r) :
    ∃ a', Accounts { b with
        stage := b.stage.perform .sensor e
        calls := l ++ (i, .performing rest answer) :: r } a' ∧ a.Step a' := by
  have hbefore := notices_split hcalls
  have hafter : (notices { b with
      stage := b.stage.perform .sensor e
      calls := l ++ (i, .performing rest answer) :: r }).Perm _ := notices_split rfl
  cases he : e.notice? with
  | none =>
      refine ⟨a, h.still ?_ ?_ ?_ ?_ ?_ ?_, .still⟩
      · simp
      · simp [he]
      · rw [Stage.perform_sensor]
      · rw [Stage.perform_sensor]
      · rw [Stage.perform_sensor]
      · simp [notices, hcalls, SensorCall.notices, he]
  | some n =>
      simp only [SensorCall.notices, notices_cons, he, Option.toList_some, List.map_cons,
        List.cons_append] at hbefore hafter
      obtain ⟨l', job, r', hpending, hfailure⟩ :=
        h.exists_pending (hbefore.symm.subset List.mem_cons_self)
      have hnotice : n.2.isExposure = false :=
        Shot.isExposure_of_mem_failure (hfailure ▸ List.mem_singleton_self n)
      refine ⟨_, ⟨(Account.Step.report hpending).isWhole h.whole, ?_, h.outputs, ?_, ?_, ?_, ?_⟩,
        .report hpending⟩
      · simpa using h.jobs
      · simpa using h.slot
      · have hexposures : exposures { b with
            stage := b.stage.perform .sensor e
            calls := l ++ (i, .performing rest answer) :: r } = b.exposures := by
          simp [exposures, he, hnotice]
        rw [hexposures]
        exact h.thread.congr rfl rfl (by simp) (by simp)
      · have hall := hbefore.symm.trans h.pending
        rw [hpending] at hall
        have hmiddle := hall.trans (List.perm_middle.flatMap_right _)
        simp only [List.flatMap_cons, hfailure, List.map_singleton, List.singleton_append]
          at hmiddle
        exact hafter.trans hmiddle.cons_inv
      · have herrors := h.reported
        simp only [errors] at herrors ⊢
        simp [he, hnotice, herrors, hfailure]

theorem Accounts.outputs_of_capturing (h : b.Accounts a) :
    ∀ p ∈ a.capturing, p.2.shot.outputs ≠ [] := by
  intro p hp
  refine h.outputs_of_mem_places ?_
  simp [Account.places, Option.mem_def.mp hp]

theorem Accounts.act {stage : Stage Simulated} {action : Action} {rest : List Action}
    (h : b.Accounts a) (hactions : b.stage.sensor.actions = action :: rest)
    (hrest : stage.sensor.actions = rest)
    (hcount : stage.sensor.captured = b.stage.sensor.captured + .ofNat ([action].count .count))
    (hslot : stage.sensor.slot = b.stage.sensor.slot)
    (hhanded : stage.history Occurrence.handedShot? = b.stage.history Occurrence.handedShot?)
    (hexposures : exposures { b with stage } = b.exposures ++ told [action])
    (herrors : errors { b with stage } = b.errors) :
    ∃ a', Accounts { b with stage } a' ∧ a.Step a' := by
  have hjobs := hhanded ▸ h.jobs
  have hslot' := hslot ▸ h.slot
  rcases h.thread.act h.outputs_of_capturing hactions hrest hcount with
    hthread | ⟨p, hcapturing, hthread⟩
  · rw [← hexposures] at hthread
    exact ⟨a, ⟨h.whole, hjobs, h.outputs, hslot', hthread, h.pending, herrors ▸ h.reported⟩, .still⟩
  · rw [← hexposures] at hthread
    have hstep := Account.Step.complete hcapturing
    exact ⟨_, ⟨hstep.isWhole h.whole, hjobs, h.outputs, hslot', hthread, h.pending,
      herrors ▸ h.reported⟩, hstep⟩

theorem Accounts.tick {clock pause : Nat} (h : b.Accounts a)
    (hready : b.stage.sensor.thread = .ready) :
    ∃ a', Accounts { b with stage := { b.stage with sensor := { b.stage.sensor with
        slot := none
        ticks := b.stage.sensor.ticks + 1
        clock, pause
        thread := .capturing
          (b.stage.sensor.slot.toList.flatMap (capture clock.toUInt64)) } } } a' ∧
      a.Step a' := by
  have hactions : b.stage.sensor.actions = [] := by rw [Simulated.actions, hready]
  have hslot := h.slot
  cases hjob : a.slot with
  | none =>
      rw [hjob, Option.map_none] at hslot
      refine ⟨a, h.still rfl rfl hslot ?_ rfl rfl, .still⟩
      rw [hactions, ← hslot]
      rfl
  | some job =>
      rw [hjob, Option.map_some] at hslot
      cases h.thread with
      | busy hbusy hcapture hne => exact absurd hactions hne
      | idle hidle hnone hexposures hcount =>
          have hstep := Account.Step.tick clock.toUInt64 hjob hidle
          have houtputs : job.shot.outputs ≠ [] := by
            refine h.outputs_of_mem_places ?_
            simp [Account.places, hjob]
          have htold : b.exposures =
              (a.captured.flatMap fun p => p.2.shot.exposure p.1) ++ told [] :=
            hexposures.trans (List.append_nil _).symm
          refine ⟨_, ⟨hstep.isWhole h.whole, h.jobs, h.outputs, rfl, ?_, h.pending, h.reported⟩,
            hstep⟩
          refine .busy rfl ?_ ?_ htold hcount
          · simp [← hslot, Simulated.actions]
          · simpa [← hslot, Simulated.actions] using capture_ne_nil houtputs

theorem Accounts.sensorStep {stage : Stage Simulated} (h : b.Accounts a)
    (hs : b.stage.sensorStep? Simulated.engine = some stage) :
    ∃ a', Accounts { b with stage } a' ∧ a.Step a' := by
  obtain ⟨sensor, effects, hstep, rfl⟩ := Stage.sensorStep_of_sensorStep? hs
  cases hstep with
  | halt hthread | rest hthread =>
      refine ⟨a, h.still rfl rfl rfl ?_ rfl rfl, .still⟩
      simp [Simulated.actions, hthread]
  | tick hthread => exact h.tick hthread
  | count hthread =>
      have hactions := b.stage.sensor.actions_of_capturing hthread
      refine h.act hactions rfl rfl rfl rfl ?_ rfl
      exact (List.append_nil _).symm
  | @perform e rest hthread =>
      have hactions := b.stage.sensor.actions_of_capturing hthread
      have hexposure := h.thread.isExposure hactions
      have htold : told [.perform e] = e.notice?.toList := by
        rw [told_cons]
        exact List.append_nil _
      rw [Stage.performAll_singleton]
      refine h.act hactions ?_ ?_ ?_ ?_ ?_ ?_
      · rw [Stage.perform_sensor]
        rfl
      · rw [Stage.perform_sensor]
        exact (UInt64.add_zero _).symm
      · rw [Stage.perform_sensor]
      · simp
      · rw [htold]
        cases he : e.notice? with
        | none => simp [exposures, he]
        | some n => simp [exposures, he, hexposure n (by simp [he])]
      · cases he : e.notice? with
        | none => simp [errors, he]
        | some n => simp [errors, he, hexposure n (by simp [he])]

/-- Every move is a step of the account. -/
theorem Transition.accounts (h : Transition b m d) (ha : b.Accounts a) :
    ∃ a', d.Accounts a' ∧ a.Step a' := by
  cases h with
  | perform hcalls => exact ha.perform hcalls
  | sensor hs => exact ha.sensorStep hs
  | @hand shot tag htag =>
      have hstep := Account.Step.hand (a := a) b.opened shot
      have hne : shot.outputs ≠ [] := by
        intro hnone
        simp [Shot.tag?, hnone] at htag
      refine ⟨_, ⟨hstep.isWhole ha.whole, ?_, ?_, rfl, ?_, ?_, ?_⟩, hstep⟩
      · simp [begin, note, Occurrence.handedShot?, ha.jobs]
      · intro job hjob
        rcases List.mem_append.mp hjob with hjob | hjob
        · exact ha.outputs job hjob
        · obtain rfl := List.mem_singleton.mp hjob
          exact hne
      · have hexposures : exposures ((b.note (.handedOver tag shot)).begin
            (b.stage.sensor.accept shot).1
            (.performing (b.stage.sensor.accept shot).2 (.ok ()))) = b.exposures := by
          simp [exposures, begin, note, Occurrence.sensorNotice?]
        rw [hexposures]
        exact ha.thread.congr rfl rfl rfl rfl
      · refine ha.pending_of_take ?_
        simp [notices, begin, note, SensorCall.notices, Simulated.accept]
      · have herrors := ha.reported
        simp only [errors] at herrors ⊢
        simp [begin, note, Occurrence.sensorNotice?, herrors]
  | flush =>
      have hstep := Account.Step.take (a := a) b.opened
      refine ⟨_, ⟨hstep.isWhole ha.whole, ha.jobs, ha.outputs, rfl, ?_, ?_, ha.reported⟩, hstep⟩
      · exact ha.thread.congr rfl rfl rfl rfl
      · refine ha.pending_of_take ?_
        simp [notices, begin, SensorCall.notices, Simulated.flush]
  | @close l r i mustWait hcalls =>
      have hstep := Account.Step.take (a := a) i
      refine ⟨_, ⟨hstep.isWhole ha.whole, ha.jobs, ha.outputs, rfl, ?_, ?_, ha.reported⟩, hstep⟩
      · exact ha.thread.congr rfl rfl rfl rfl
      · refine ha.pending_of_take ?_
        have hbefore : b.notices.Perm _ := notices_split hcalls
        exact (notices_split rfl).trans (List.perm_append_comm.trans (hbefore.symm.append_right _))
  | wait | shutDown =>
      refine ⟨a, ha.still rfl rfl rfl rfl rfl ?_, .still⟩
      simp [notices, begin, SensorCall.notices]
  | refuse =>
      refine ⟨a, ha.still ?_ ?_ rfl rfl rfl rfl, .still⟩
      · simp [Occurrence.handedShot?]
      · simp [Occurrence.sensorNotice?]
  | answer hcalls | pace hcalls | expire hcalls =>
      refine ⟨a, ha.still ?_ ?_ rfl rfl rfl ?_, .still⟩
      · simp [Occurrence.handedShot?]
      · simp [Occurrence.sensorNotice?]
      · simp [notices, hcalls, SensorCall.notices]

theorem Reachable.exists_accounts (hb : Reachable period b) : ∃ a, b.Accounts a := by
  induction hb with
  | created store =>
      have hwhole : Account.empty.IsWhole := ⟨rfl, List.Perm.refl _⟩
      exact ⟨.empty, hwhole, rfl, by simp [Account.empty], rfl, .idle rfl rfl rfl rfl,
        List.Perm.refl _, rfl⟩
  | next hb hm h ih =>
      obtain ⟨a, ha⟩ := ih
      obtain ⟨a', ha', -⟩ := (hb.transition hm h).accounts ha
      exact ⟨a', ha'⟩

/-- A call that is to tell of a job has not returned. -/
theorem Accounts.isOpen_of_pending (h : b.Accounts a) {p : Nat × Job} (hp : p ∈ a.pending) :
    b.isOpen p.1 = true := by
  obtain ⟨i, job⟩ := p
  obtain ⟨tag, htag⟩ := h.exists_tag_of_pending hp
  have hnotice : (i, job.shot.failed tag) ∈ b.notices := by
    refine h.pending.symm.subset (List.mem_flatMap.mpr ⟨_, hp, ?_⟩)
    simp [Shot.failure_eq htag]
  obtain ⟨⟨j, call⟩, hcall, hnotice⟩ := List.mem_flatMap.mp hnotice
  obtain ⟨n, -, heq⟩ := List.mem_map.mp hnotice
  obtain rfl : j = i := congrArg (·.1) heq
  by_contra hclosed
  rw [isOpen, Bool.not_eq_true, Option.isSome_eq_false_iff, Option.isNone_iff_eq_none,
    List.lookup_eq_none_iff] at hclosed
  simpa using hclosed _ hcall

/-- The counter is that of the captured jobs, but for the moment between the
count and the result. -/
theorem Accounts.captured_cases (h : b.Accounts a) :
    b.stage.sensor.captured = .ofNat a.captured.length ∨
      b.stage.sensor.captured = .ofNat (a.captured.length + 1) ∧
        ∃ tag record, b.stage.sensor.actions = [.perform (.tell tag (.result record))] := by
  cases h.thread with
  | idle hidle hnone hexposures hcount => exact Or.inl hcount
  | @busy time job done hbusy hcapture hne hexposures hcount =>
      obtain ⟨tag, htag⟩ := Shot.exists_tag (h.outputs_of_capturing _ hbusy)
      obtain ⟨before, hbefore, hwhole⟩ := exists_capture_eq time htag
      rw [hwhole] at hcapture
      rcases List.append_eq_append_iff.mp hcapture with ⟨l, hdone, hlast⟩ | ⟨l, hdone, -⟩
      · -- the count is among the actions done, unless nothing was done after `before`
        cases l with
        | nil =>
            rw [hdone, List.append_nil, List.count_eq_zero_of_not_mem hbefore] at hcount
            exact Or.inl hcount
        | cons first l =>
            obtain ⟨rfl, htail⟩ := List.cons_eq_cons.mp hlast
            rcases List.singleton_eq_append_iff.mp htail with ⟨rfl, hactions⟩ | ⟨-, hactions⟩
            · rw [hdone, List.count_append, List.count_eq_zero_of_not_mem hbefore] at hcount
              exact Or.inr ⟨hcount, tag, _, hactions⟩
            · exact absurd hactions hne
      · have hnone : Action.count ∉ done :=
          fun hmem => hbefore (hdone ▸ List.mem_append_left _ hmem)
        rw [List.count_eq_zero_of_not_mem hnone] at hcount
        exact Or.inl hcount

end Bench

end Sensor

end VirtualCamera
