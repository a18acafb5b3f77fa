import VirtualCamera.Proofs.Provenance

/-!
# The life of pipelines

Pipelines are configured, built and destroyed, and requests are admitted only
in between.  What ties the flags of a session to the queue of its camera is
`Session.Consistent`: while nothing is built nobody submits and the queue is
empty; every submission that is under way has the current pipelines as its
table, because pipelines change only while no call is open; and so every request
in the queue names one of the current pipelines.

Each move keeps this.  What a move does to the pipelines is listed in
`PipelinesStep`, what it does to the camera in `Transition`.  That every
pipeline is as it was configured is by induction on the run (`ConfiguredAt`).

To destroy the pipelines takes a flush, and whatever the sensor answers to that,
the queue is empty when it returns (`Camera.Destroying`).  The answer is what the
sensor's flush gave, which is followed through the phases of the call
(`DestroyedSoFar`).
-/

namespace VirtualCamera

namespace Stream

theorem repeatedId?_go_eq_none {seen : List UInt32} {streams : List Stream} :
    repeatedId?.go seen streams = none ↔
      (streams.map (·.id)).Nodup ∧ ∀ s ∈ streams, s.id ∉ seen := by
  induction streams generalizing seen with
  | nil => simp [repeatedId?.go]
  | cons s rest ih =>
      rw [repeatedId?.go]
      split
      · rename_i hseen
        simp [hseen]
      · rename_i hseen
        rw [ih]
        simp only [List.map_cons, List.nodup_cons, List.mem_map, List.mem_cons, not_or,
          forall_eq_or_imp]
        constructor
        · rintro ⟨hnodup, hfresh⟩
          exact ⟨⟨fun ⟨x, hx, heq⟩ => (hfresh x hx).1 heq, hnodup⟩, hseen,
            fun x hx => (hfresh x hx).2⟩
        · rintro ⟨⟨hfresh, hnodup⟩, -, hrest⟩
          exact ⟨hnodup, fun x hx => ⟨fun heq => hfresh ⟨x, hx, heq⟩, hrest x hx⟩⟩

theorem repeatedId?_eq_none {streams : List Stream} :
    repeatedId? streams = none ↔ (streams.map (·.id)).Nodup := by
  simp [repeatedId?, repeatedId?_go_eq_none]

end Stream

/-- The tag names this pipeline, with its camera and its listener. -/
structure FrameTag.Names (tag : FrameTag) (p : Pipeline) : Prop where
  pipeline : tag.pipeline = p.id
  camera : tag.camera = p.camera
  listener : tag.listener = p.listener

namespace Camera

variable {σ : Type} {E : Engine σ} {c d : Camera σ} {m : Move} {pipelines : List Pipeline}

/-- A request in the queue was there before, or it is the next one of a
batch. -/
theorem Transition.queue_cases {a : Admission} (h : Transition E c m d) (ha : a ∈ d.queue) :
    a ∈ c.queue ∨ ∃ q ∈ c.calls, ∃ (b : Batch) (r : CaptureRequest) (p : Pipeline),
      q.2.batch? = some { b with left := r :: b.left } ∧ checkRequest b.table r = .ok p ∧
        a.tag.Names p := by
  cases h with
  | @admitOne l r i phase frame table q left p store b hc hgo hcheck hroom hmap =>
      rcases List.mem_append.mp ha with ha | ha
      · exact Or.inl ha
      · obtain rfl := List.mem_singleton.mp ha
        have hmade := (mapRequest_eq_ok hmap).2
        exact Or.inr ⟨(i, .submitting phase frame table (q :: left)), by simp [hc],
          ⟨frame, table, left⟩, q, p, rfl, hcheck, hmade.pipeline, hmade.camera, hmade.listener⟩
  | take _ _ _ hq => exact Or.inl (hq ▸ List.mem_cons_of_mem _ ha)
  | drain => cases ha
  | _ => exact Or.inl ha

/-- Everything that is submitted or waits in the queue is for these
pipelines. -/
structure Serves (pipelines : List Pipeline) (c : Camera σ) : Prop where
  tables : ∀ q ∈ c.calls, ∀ b, q.2.batch? = some b → b.table = pipelines
  queue : ∀ a ∈ c.queue, ∃ p ∈ pipelines, a.tag.Names p

theorem Serves.step (hs : c.Serves pipelines) (h : Transition E c m d)
    (hm : ∀ frame requests table, m = .submit frame requests table → table = pipelines) :
    d.Serves pipelines := by
  constructor
  · intro q hq b hb
    rcases h.batch_cases hq hb with ⟨q', hq', hb'⟩ | ⟨q', hq', r, hb'⟩ | hnew
    · exact hs.tables q' hq' b hb'
    · exact hs.tables q' hq' { b with left := r :: b.left } hb'
    · exact hm _ _ _ hnew
  · intro a ha
    rcases h.queue_cases ha with hold | ⟨q, hq, b, r, p, hb, hcheck, hnames⟩
    · exact hs.queue a hold
    · have hp := List.mem_of_getElem? (pipeline_of_checkRequest hcheck)
      have htable : b.table = pipelines := hs.tables q hq { b with left := r :: b.left } hb
      exact ⟨p, htable ▸ hp, hnames⟩

theorem Quiet.serves (hq : c.Quiet) : c.Serves pipelines := by
  constructor
  · intro q hmem b hb
    have hkind := hq.calls q hmem
    cases hcall : q.2 with
    | submitting => exact absurd (by rw [hcall]; rfl) hkind
    | _ =>
        rw [hcall] at hb
        cases hb
  · intro a ha
    rw [hq.queue] at ha
    cases ha

end Camera

namespace Session

variable {σ : Type} {E : Engine σ} {s₀ s t : Session σ} {sensor : σ} {moves : List Move}

/-! ## Operations on pipelines -/

theorem configure_eq_ok_iff {camera id : UInt32} {listener : Listener} {streams : List Stream} :
    s.configure camera listener streams = .ok (id, t) ↔
      s.isBuilt = false ∧ (streams.map (·.id)).Nodup ∧ id = s.pipelines.length.toUInt32 ∧
        t = { s with pipelines := s.pipelines ++ [{
          id, camera, listener
          streams := streams.map fun x => { x with usage := Limits.writeOften } }] } := by
  unfold configure pipelineStreams
  cases hb : s.isBuilt with
  | true => simp
  | false =>
      cases hid : Stream.repeatedId? streams with
      | some repeated =>
          have hnodup : ¬(streams.map (·.id)).Nodup := fun hnodup => by
            cases hid.symm.trans (Stream.repeatedId?_eq_none.mpr hnodup)
          simp [bind, Except.bind, hnodup]
      | none =>
          have hnodup := Stream.repeatedId?_eq_none.mp hid
          simp only [Bool.false_eq_true, if_false, bind, Except.bind, pure, Except.pure,
            Except.ok.injEq, Prod.mk.injEq, true_and, hnodup]
          constructor
          · rintro ⟨rfl, rfl⟩
            exact ⟨rfl, rfl⟩
          · rintro ⟨rfl, rfl⟩
            exact ⟨rfl, rfl⟩

theorem build_eq_ok_iff :
    s.build = .ok t ↔
      s.isBuilt = false ∧ s.pipelines ≠ [] ∧ t = { s with isBuilt := true } := by
  unfold build
  cases hb : s.isBuilt with
  | true => simp
  | false => cases hp : s.pipelines <;> simp [eq_comm]

/-- What a move does to the pipelines. -/
inductive PipelinesStep (s : Session σ) : Move → Session σ → Prop
  | same {m : Move} {t : Session σ} (hp : t.pipelines = s.pipelines)
      (hb : t.isBuilt = s.isBuilt) : PipelinesStep s m t
  | configured {camera id : UInt32} {listener : Listener} {streams : List Stream} {t : Session σ}
      (h : s.configure camera listener streams = .ok (id, t)) :
      PipelinesStep s (.configure camera listener streams) t
  | built {t : Session σ} (h : s.build = .ok t) : PipelinesStep s .build t
  | forgotten {t : Session σ} (hp : t.pipelines = []) (hb : t.isBuilt = false) :
      PipelinesStep s .proceed t

theorem pipelinesStep_of_cameraStep? {m : Move} {n : Camera.Move}
    (h : s.cameraStep? E n = some t) : PipelinesStep s m t := by
  obtain ⟨camera, -, rfl⟩ := Option.map_eq_some_iff.mp h
  exact .same rfl rfl

theorem pipelinesStep_of_beginDestroy? {m : Move} {isClosing : Bool}
    (h : s.beginDestroy? E isClosing = some t) : PipelinesStep s m t := by
  have hcamera {n : Camera.Move} {phase : SessionPhase}
      (h : (s.cameraStep? E n).map (fun u => { u with phase }) = some t) : PipelinesStep s m t := by
    obtain ⟨u, hu, rfl⟩ := Option.map_eq_some_iff.mp h
    obtain ⟨camera, -, rfl⟩ := Option.map_eq_some_iff.mp hu
    exact .same rfl rfl
  unfold beginDestroy? at h
  split at h
  · exact hcamera h
  · split at h
    · exact hcamera h
    · obtain rfl := Option.some.inj h
      exact .same rfl rfl

theorem pipelinesStep_of_step? {m : Move} (h : s.step? E m = some t) : PipelinesStep s m t := by
  cases m with
  | configure camera listener streams =>
      simp only [step?, Option.ite_none_right_eq_some, Option.some.injEq] at h
      obtain ⟨-, rfl⟩ := h
      cases hs : s.configure camera listener streams with
      | error fault => exact .same rfl rfl
      | ok result => exact .configured hs
  | build =>
      simp only [step?, Option.ite_none_right_eq_some, Option.some.injEq] at h
      obtain ⟨-, rfl⟩ := h
      cases hs : s.build with
      | error fault => exact .same rfl rfl
      | ok u => exact .built hs
  | destroy | close =>
      simp only [step?, Option.ite_none_right_eq_some] at h
      exact pipelinesStep_of_beginDestroy? h.2
  | proceed =>
      simp only [step?, proceed?] at h
      split at h
      case h_1 call isClosing hp =>
          split at h
          · cases h
          · cases isClosing with
            | false =>
                obtain rfl := Option.some.inj h
                exact .forgotten rfl rfl
            | true =>
                obtain ⟨u, hu, rfl⟩ := Option.map_eq_some_iff.mp h
                obtain ⟨camera, -, rfl⟩ := Option.map_eq_some_iff.mp hu
                exact .forgotten rfl rfl
      case h_2 call destroyed hp =>
          obtain ⟨stopped, -, rfl⟩ := Option.map_eq_some_iff.mp h
          exact .same rfl rfl
      case h_3 => cases h
      case h_4 => cases h
  | submit frame requests =>
      simp only [step?, Option.ite_none_right_eq_some] at h
      obtain ⟨-, h⟩ := h
      split at h
      · exact pipelinesStep_of_cameraStep? h
      · obtain rfl := Option.some.inj h
        exact .same rfl rfl
  | flush =>
      simp only [step?, Option.ite_none_right_eq_some] at h
      exact pipelinesStep_of_cameraStep? h.2
  | advance | expire | worker | giveUp | sensor | fence => exact pipelinesStep_of_cameraStep? h

/-! ## Consistent sessions -/

/-- Pipelines are built only if there are any.  While none are built the camera
is quiet; while they are destroyed its queue will be empty in the end; and at all
times it serves the pipelines that there are. -/
structure Consistent (s : Session σ) : Prop where
  built : s.isBuilt = true → s.pipelines ≠ []
  quiet : s.isBuilt = false → s.camera.Quiet
  destroying : ∀ call isClosing, s.phase = .destroying call isClosing →
    s.isBuilt = true ∧ s.camera.Destroying call
  serves : s.camera.Serves s.pipelines

theorem PipelinesStep.built_ne_nil {m : Move} (h : PipelinesStep s m t)
    (hs : s.isBuilt = true → s.pipelines ≠ []) : t.isBuilt = true → t.pipelines ≠ [] := by
  cases h with
  | same hp hb =>
      rw [hp, hb]
      exact hs
  | configured h =>
      obtain ⟨hb, -, -, rfl⟩ := configure_eq_ok_iff.mp h
      intro hb'
      cases hb.symm.trans hb'
  | built h =>
      obtain ⟨-, hp, rfl⟩ := build_eq_ok_iff.mp h
      exact fun _ => hp
  | forgotten _ hb =>
      intro hb'
      cases hb.symm.trans hb'

theorem phase_of_isReady (h : s.isReady = true) : s.phase = .ready := by
  unfold isReady at h
  split at h
  · assumption
  · cases h

theorem calls_of_isExclusive (h : s.isExclusive = true) :
    s.phase = .ready ∧ s.camera.calls = [] := by
  rw [isExclusive, Bool.and_eq_true] at h
  exact ⟨phase_of_isReady h.1, List.isEmpty_iff.mp h.2⟩

theorem Consistent.step {m : Move} (hs : Reachable E sensor s) (h : s.step? E m = some t)
    (hcons : s.Consistent) : t.Consistent := by
  have hc := hs.camera
  have hbuilt := (pipelinesStep_of_step? h).built_ne_nil hcons.built
  have hnone {phase : SessionPhase} (hp : phase = .ready) :
      ∀ call isClosing, phase = .destroying call isClosing → False :=
    fun call isClosing hp' => by cases hp.symm.trans hp'
  cases transition_of_step? h with
  | stay => exact hcons
  | configure he hb =>
      obtain ⟨hp, -⟩ := calls_of_isExclusive he
      exact ⟨hbuilt, hcons.quiet, hcons.destroying, (hcons.quiet hb).serves⟩
  | build he =>
      obtain ⟨hp, -⟩ := calls_of_isExclusive he
      exact ⟨hbuilt, by simp, fun _ _ hp' => (hnone hp _ _ hp').elim, hcons.serves⟩
  | destroy he hb hstep =>
      obtain ⟨-, hcalls⟩ := calls_of_isExclusive he
      have htrans := hc.transition hstep
      refine ⟨hbuilt, fun hb' => (by cases hb.symm.trans hb'), fun call isClosing hp => ?_,
        hcons.serves.step htrans (by simp)⟩
      obtain ⟨rfl, -⟩ := SessionPhase.destroying.inj hp
      exact ⟨hb, Camera.destroying_of_flush hcalls htrans⟩
  | close he hb hstep =>
      have hquiet := (hc.transition hstep).quiet (by simp [Camera.Move.opens?]) (hcons.quiet hb)
      exact ⟨hbuilt, fun _ => hquiet, by simp, hquiet.serves⟩
  | destroyed hp ha =>
      have hquiet := (hcons.destroying _ _ hp).2.quiet hc ha
      exact ⟨hbuilt, fun _ => hquiet, by simp, hquiet.serves⟩
  | closing hp ha hstep =>
      have hquiet := (hc.transition hstep).quiet (by simp [Camera.Move.opens?])
        ((hcons.destroying _ _ hp).2.quiet hc ha)
      exact ⟨hbuilt, fun _ => hquiet, by simp, hquiet.serves⟩
  | closed =>
      exact ⟨hbuilt, hcons.quiet, by simp, hcons.serves⟩
  | submit hr hb hstep =>
      refine ⟨hbuilt, fun hb' => (by cases hb.symm.trans hb'),
        fun _ _ hp => (hnone (phase_of_isReady hr) _ _ hp).elim,
        hcons.serves.step (hc.transition hstep) fun _ _ _ heq => ?_⟩
      cases heq
      rfl
  | flush hr hstep =>
      have htrans := hc.transition hstep
      exact ⟨hbuilt, fun hb => htrans.quiet (by simp [Camera.Move.opens?]) (hcons.quiet hb),
        fun _ _ hp => (hnone (phase_of_isReady hr) _ _ hp).elim,
        hcons.serves.step htrans (by simp)⟩
  | inner hn hstep =>
      have htrans := hc.transition hstep
      refine ⟨hbuilt, fun hb => htrans.quiet (by simp [hn]) (hcons.quiet hb),
        fun call isClosing hp => ?_, hcons.serves.step htrans fun _ _ _ heq => ?_⟩
      · obtain ⟨hb, hd⟩ := hcons.destroying call isClosing hp
        exact ⟨hb, hd.step hc hstep hn⟩
      · rw [heq] at hn
        cases hn

theorem Reachable.consistent (hs : Reachable E sensor s) : s.Consistent := by
  induction hs with
  | @opened config store _ _ _ _ hc hs =>
      obtain ⟨controls, rfl⟩ := create_eq hs
      obtain rfl := Camera.create_eq hc
      have hquiet : Camera.Quiet { config, controls, stage := { sensor, store } } :=
        ⟨rfl, by simp⟩
      exact ⟨nofun, fun _ => hquiet, nofun, hquiet.serves⟩
  | next hs h ih => exact ih.step hs h

/-! ## Pipelines are as they were configured -/

/-- The pipeline at a position was configured in a run: the answer was its id,
the pipelines before it were there already, and it has the streams that were
given, as the processor uses them. -/
def ConfiguredAt (E : Engine σ) (s₀ : Session σ) (moves : List Move) (pipelines : List Pipeline)
    (k : Nat) (p : Pipeline) : Prop :=
  ∃ before streams after b t,
    moves = before ++ .configure p.camera p.listener streams :: after ∧
    s₀.run? E before = some b ∧ b.step? E (.configure p.camera p.listener streams) = some t ∧
    b.configure p.camera p.listener streams = .ok (p.id, t) ∧
    b.pipelines = pipelines.take k ∧ t.pipelines = pipelines.take (k + 1) ∧
    (streams.map (·.id)).Nodup ∧
    p.streams = streams.map fun x => { x with usage := Limits.writeOften }

theorem ConfiguredAt.concat {m : Move} {pipelines more : List Pipeline} {k : Nat} {p : Pipeline}
    (hk : k < pipelines.length) (h : ConfiguredAt E s₀ moves pipelines k p) :
    ConfiguredAt E s₀ (moves ++ [m]) (pipelines ++ more) k p := by
  obtain ⟨before, streams, after, b, t, rfl, hb, ht, hid, hbefore, hat, hrest⟩ := h
  refine ⟨before, streams, after ++ [m], b, t, by simp, hb, ht, hid, ?_, ?_, hrest⟩
  · rw [hbefore, List.take_append_of_le_length (Nat.le_of_lt hk)]
  · rw [hat, List.take_append_of_le_length hk]

theorem configuredAt_of_run? (h₀ : s₀.pipelines = []) (h : s₀.run? E moves = some s) {k : Nat}
    {p : Pipeline} (hk : s.pipelines[k]? = some p) : ConfiguredAt E s₀ moves s.pipelines k p := by
  induction moves using List.reverseRecOn generalizing s k p with
  | nil =>
      cases h
      rw [h₀] at hk
      cases hk
  | append_singleton moves m ih =>
      rw [run?_concat, Option.bind_eq_some_iff] at h
      obtain ⟨b, hb, hstep⟩ := h
      have hold {q : Pipeline} {more : List Pipeline} (hq : b.pipelines[k]? = some q) :
          ConfiguredAt E s₀ (moves ++ [m]) (b.pipelines ++ more) k q :=
        (ih hb hq).concat (List.getElem?_eq_some_iff.mp hq).1
      cases pipelinesStep_of_step? hstep with
      | same hp =>
          rw [hp] at hk ⊢
          exact List.append_nil b.pipelines ▸ hold hk
      | @configured camera id listener streams _ hconf =>
          obtain ⟨hbuilt, hnodup, rfl, rfl⟩ := configure_eq_ok_iff.mp hconf
          rcases Nat.lt_or_ge k b.pipelines.length with hlt | hge
          · rw [List.getElem?_append_left hlt] at hk
            exact hold hk
          · rw [List.getElem?_append_right hge, List.getElem?_singleton] at hk
            split at hk
            · obtain rfl := Option.some.inj hk
              obtain rfl : k = b.pipelines.length := by omega
              exact ⟨moves, streams, [], b, _, rfl, hb, hstep, hconf, by simp, by simp, hnodup, rfl⟩
            · cases hk
      | built hbuild =>
          obtain ⟨-, -, rfl⟩ := build_eq_ok_iff.mp hbuild
          exact List.append_nil b.pipelines ▸ hold hk
      | forgotten hp =>
          rw [hp] at hk
          cases hk

/-! ## Destroying -/

/-- The move of the camera that a move of the session is. -/
def Move.inner? : Move → Option Camera.Move
  | .advance i => some (.advance i)
  | .expire i => some (.expire i)
  | .worker => some .worker
  | .giveUp => some .giveUp
  | .sensor => some .sensor
  | .fence i f => some (.fence i f)
  | .configure .. | .build | .destroy | .submit .. | .flush | .close | .proceed => none

/-- While the pipelines are destroyed the camera moves alone. -/
theorem step?_of_destroying {m : Move} {call : Nat} {isClosing : Bool}
    (hp : s.phase = .destroying call isClosing) (hm : m ≠ .proceed)
    (h : s.step? E m = some t) :
    ∃ n camera, m.inner? = some n ∧ s.camera.step? E n = some camera ∧ t = { s with camera } := by
  have hready : s.isReady = false := by simp [isReady, hp]
  have hexclusive : s.isExclusive = false := by simp [isExclusive, hready]
  cases m with
  | proceed => exact absurd rfl hm
  | configure | build | destroy | close => simp [step?, hexclusive] at h
  | submit | flush => simp [step?, hready] at h
  | advance | expire | worker | giveUp | sensor | fence =>
      simp only [step?, cameraStep?, Option.map_eq_some_iff] at h
      obtain ⟨camera, hc, rfl⟩ := h
      exact ⟨_, camera, rfl, hc, rfl⟩

/-- The flush of a session that is destroyed is about to flush the sensor, or it
did so after some of these moves, and its answer is what the sensor gave. -/
def FlushedAfter (E : Engine σ) (call : Nat) (s : Session σ) (moves : List Move)
    (t : Session σ) : Prop :=
  t.camera.calls.lookup call = some .flushing ∨
    ∃ before after b, moves = before ++ .advance call :: after ∧ s.run? E before = some b ∧
      ((∃ effects, t.camera.calls.lookup call =
          some (.clearing (E.flush b.camera.stage.sensor).2.2 effects)) ∨
        t.camera.HasDrained call (E.flush b.camera.stage.sensor).2.2)

/-- A flush goes on only when it is advanced. -/
theorem Move.eq_advance {m : Move} {n : Camera.Move} {call : Nat} {camera : Camera σ}
    (hm : m.inner? = some n) (hn : n.call? = some call)
    (hi : s.camera.calls.lookup call = some .flushing)
    (h : s.camera.step? E n = some camera) : m = .advance call := by
  cases m with
  | advance j =>
      obtain rfl := Option.some.inj hm
      obtain rfl : j = call := Option.some.inj hn
      rfl
  | expire j =>
      obtain rfl := Option.some.inj hm
      obtain rfl : j = call := Option.some.inj hn
      simp [Camera.step?, Camera.expire?, hi] at h
  | worker | giveUp | sensor | fence =>
      obtain rfl := Option.some.inj hm
      cases hn
  | _ => cases hm

theorem FlushedAfter.step {m : Move} {n : Camera.Move} {call : Nat} {camera : Camera σ}
    (hs : Reachable E sensor s) (hrun : s₀.run? E moves = some s) (hm : m.inner? = some n)
    (hn : s.camera.step? E n = some camera) (h : FlushedAfter E call s₀ moves s) :
    FlushedAfter E call s₀ (moves ++ [m]) { s with camera } := by
  have hc := hs.camera
  have hstep := hc.transition hn
  have hlt {old : Call} (hi : s.camera.calls.lookup call = some old) : call < s.camera.opened :=
    hc.orderly.toNumbered.lt_of_lookup hi
  rcases h with hi | ⟨before, after, b, rfl, hb, hphase⟩
  · by_cases hcall : n.call? = some call
    · obtain rfl := Move.eq_advance hm hcall hi hn
      obtain ⟨-, -, hnext⟩ := Camera.step?_of_flushing hi hcall hn
      exact Or.inr ⟨moves, [], s, rfl, hrun, Or.inl ⟨_, hnext⟩⟩
    · exact Or.inl ((hstep.lookup_eq (hlt hi) hcall).trans hi)
  · refine Or.inr ⟨before, after ++ [m], b, by simp, hb, ?_⟩
    rcases hphase with ⟨effects, hi⟩ | hdrained
    · by_cases hcall : n.call? = some call
      · rcases Camera.step?_of_clearing hi hcall hn with ⟨e, rest, -, rfl⟩ | ⟨-, rfl⟩
        · exact Or.inl ⟨rest, Camera.lookup_put hi⟩
        · exact Or.inr (.reporting (Camera.lookup_put hi))
      · exact Or.inl ⟨effects, (hstep.lookup_eq (hlt hi) hcall).trans hi⟩
    · exact Or.inr (hdrained.step hc hn)

theorem FlushedAfter.answer {call : Nat} {answer : Except Fault Unit} (ht : Reachable E sensor t)
    (h : FlushedAfter E call s moves t) (ha : t.camera.stage.answer? call = some answer) :
    ∃ before after b, moves = before ++ .advance call :: after ∧ s.run? E before = some b ∧
      answer = (E.flush b.camera.stage.sensor).2.2 := by
  rcases h with hi | ⟨before, after, b, hmoves, hb, ⟨effects, hi⟩ | hdrained⟩
  · cases (ht.camera.answer?_eq_none hi).symm.trans ha
  · cases (ht.camera.answer?_eq_none hi).symm.trans ha
  · exact ⟨before, after, b, hmoves, hb, (hdrained.answer_eq ht.camera ha).1⟩

theorem run?_cons {m : Move} {rest : List Move} :
    s.run? E (m :: rest) = (s.step? E m).bind fun t => t.run? E rest := rfl

theorem Reachable.run? (hs : Reachable E sensor s) (h : s.run? E moves = some t) :
    Reachable E sensor t := by
  induction moves generalizing s with
  | nil =>
      cases h
      exact hs
  | cons m rest ih =>
      obtain ⟨u, hu, h⟩ := Option.bind_eq_some_iff.mp (run?_cons ▸ h)
      exact ih (hs.next hu) h

/-- Until the owner goes on, only the flush is under way. -/
theorem destroying_of_run? {call : Nat} (hs : Reachable E sensor s)
    (hp : s.phase = .destroying call false) (hi : s.camera.calls.lookup call = some .flushing)
    (hmoves : .proceed ∉ moves) (h : s.run? E moves = some t) :
    t.phase = .destroying call false ∧ FlushedAfter E call s moves t := by
  induction moves using List.reverseRecOn generalizing t with
  | nil =>
      cases h
      exact ⟨hp, Or.inl hi⟩
  | append_singleton moves m ih =>
      rw [run?_concat, Option.bind_eq_some_iff] at h
      obtain ⟨u, hu, hstep⟩ := h
      rw [List.mem_append, List.mem_singleton, not_or] at hmoves
      obtain ⟨hphase, hflushed⟩ := ih hmoves.1 hu
      obtain ⟨n, camera, hm, hn, rfl⟩ := step?_of_destroying hphase (Ne.symm hmoves.2) hstep
      exact ⟨hphase, hflushed.step (hs.run? hu) hu hm hn⟩

/-- To destroy built pipelines begins with a flush. -/
theorem flushing_of_destroy {d : Session σ} (hb : s.isBuilt = true)
    (h : s.step? E .destroy = some d) :
    d.phase = .destroying s.camera.opened false ∧
      d.camera.calls.lookup s.camera.opened = some .flushing := by
  simp only [step?, Option.ite_none_right_eq_some, beginDestroy?, if_pos hb, cameraStep?] at h
  obtain ⟨he, h⟩ := h
  obtain ⟨-, hcalls⟩ := calls_of_isExclusive he
  have hflush : s.camera.step? E .flush = some (s.camera.begin .flushing) := by
    simp [Camera.step?, hcalls]
  rw [hflush] at h
  obtain rfl := Option.some.inj h
  exact ⟨rfl, by simp [Camera.begin, hcalls]⟩

/-- Once the flush has returned, the owner can go on, and forgets the
pipelines. -/
theorem step?_proceed_of_destroying {call : Nat} {answer : Except Fault Unit}
    (hp : s.phase = .destroying call false) (ha : s.camera.stage.answer? call = some answer) :
    s.step? E .proceed = some { s.forgetPipelines with phase := .ready } := by
  simp [step?, proceed?, hp, ha]

/-! ## The lifecycle -/

/-- What holds of the pipelines, the built flag and the queue of a session after
these moves. -/
structure KeepsLifecycle (E : Engine σ) (s₀ : Session σ) (moves : List Move) (s : Session σ) :
    Prop where
  numbered : ∀ (k : Nat) (p : Pipeline), s.pipelines[k]? = some p → p.id = k.toUInt32
  configured : ∀ (k : Nat) (p : Pipeline), s.pipelines[k]? = some p →
    ConfiguredAt E s₀ moves s.pipelines k p
  built : s.isBuilt = true → s.pipelines ≠ []
  idle : s.isBuilt = false → s.camera.queue = []
  queue : ∀ a ∈ s.camera.queue, ∃ p ∈ s.pipelines, a.tag.Names p

/-- When operations on pipelines are refused, and that nothing changes then. -/
structure RefusesCleanly (E : Engine σ) (s : Session σ) : Prop where
  configure : ∀ {camera : UInt32} {listener : Listener} {streams : List Stream},
    ((∃ fault, s.configure camera listener streams = .error fault) ↔
      s.isBuilt = true ∨ ¬(streams.map (·.id)).Nodup) ∧
    (s.isExclusive = true → ∀ fault, s.configure camera listener streams = .error fault →
      s.step? E (.configure camera listener streams) = some s)
  build : ((∃ fault, s.build = .error fault) ↔ s.isBuilt = true ∨ s.pipelines = []) ∧
    (s.isExclusive = true → ∀ fault, s.build = .error fault → s.step? E .build = some s)
  submit : ∀ {frame : UInt32} {requests : List CaptureRequest},
    ((∃ fault, s.checkBuilt = .error fault) ↔ s.isBuilt = false) ∧
    (s.isReady = true → s.isBuilt = false → s.step? E (.submit frame requests) = some s)
  destroy : s.isExclusive = true → s.isBuilt = false → s.step? E .destroy = some s

theorem exists_error_iff {α : Type} {result : Except Fault α} {P : Prop}
    (h : (∃ a, result = .ok a) ↔ ¬P) : (∃ fault, result = .error fault) ↔ P := by
  cases result with
  | ok a => simpa using h
  | error fault => simpa using h

theorem configure_fails_iff {camera : UInt32} {listener : Listener} {streams : List Stream} :
    (∃ fault, s.configure camera listener streams = .error fault) ↔
      s.isBuilt = true ∨ ¬(streams.map (·.id)).Nodup := by
  refine exists_error_iff ⟨?_, fun h => ?_⟩
  · rintro ⟨⟨id, t⟩, h⟩
    obtain ⟨hb, hnodup, -⟩ := configure_eq_ok_iff.mp h
    simp [hb, hnodup]
  · rw [not_or, Bool.not_eq_true, not_not] at h
    exact ⟨_, configure_eq_ok_iff.mpr ⟨h.1, h.2, rfl, rfl⟩⟩

theorem build_fails_iff :
    (∃ fault, s.build = .error fault) ↔ s.isBuilt = true ∨ s.pipelines = [] := by
  refine exists_error_iff ⟨?_, fun h => ?_⟩
  · rintro ⟨t, h⟩
    obtain ⟨hb, hp, -⟩ := build_eq_ok_iff.mp h
    simp [hb, hp]
  · rw [not_or, Bool.not_eq_true] at h
    exact ⟨_, build_eq_ok_iff.mpr ⟨h.1, h.2, rfl⟩⟩

theorem refusesCleanly (E : Engine σ) (s : Session σ) : s.RefusesCleanly E where
  configure := ⟨configure_fails_iff, fun he fault hfault => by
    simp [step?, he, hfault, Except.map, orSame]⟩
  build := ⟨build_fails_iff, fun he fault hfault => by simp [step?, he, hfault, orSame]⟩
  submit := ⟨by cases hb : s.isBuilt <;> simp [checkBuilt, hb],
    fun hr hb => by simp [step?, hr, checkBuilt, hb]⟩
  destroy he hb := by simp [step?, he, beginDestroy?, hb]

theorem Traced.keepsLifecycle (hs : Reachable E sensor s) (ht : Traced E s₀ moves s)
    (h₀ : s₀.pipelines = []) (h : s₀.run? E moves = some s) : KeepsLifecycle E s₀ moves s where
  numbered := ht.pipelines
  configured _ _ := configuredAt_of_run? h₀ h
  built := hs.consistent.built
  idle hb := (hs.consistent.quiet hb).queue
  queue := hs.consistent.serves.queue

/-- Whatever a session goes through, its pipelines are numbered and as they were
configured; without built pipelines its queue is empty, and what is in the queue
names a pipeline that there is.  An operation that is refused changes nothing.
To destroy built pipelines leaves no pipeline and an empty queue, also if the
answer is the fault of the sensor's flush. -/
theorem pipelines_keep_their_lifecycle (h₀ : Opened sensor s₀) (h : s₀.run? E moves = some s) :
    KeepsLifecycle E s₀ moves s ∧ s.RefusesCleanly E ∧
      ∀ {more : List Move} {d e : Session σ} {answer : Except Fault Unit},
        s.isBuilt = true → s.step? E .destroy = some d → .proceed ∉ more →
          d.run? E more = some e → e.camera.stage.answer? s.camera.opened = some answer →
          (∃ t, e.step? E .proceed = some t ∧ t.phase = .ready ∧ t.pipelines = [] ∧
            t.isBuilt = false ∧ t.camera.queue = []) ∧
          ∃ before after b, more = before ++ .advance s.camera.opened :: after ∧
            d.run? E before = some b ∧ answer = (E.flush b.camera.stage.sensor).2.2 := by
  obtain ⟨hs, htraced⟩ := traced_of_run? h₀ h
  have hnone : s₀.pipelines = [] := by
    obtain ⟨config, store, controls, camera, description, -, hcreate⟩ := h₀
    obtain ⟨controls, rfl⟩ := create_eq hcreate
    rfl
  refine ⟨htraced.keepsLifecycle hs hnone h, refusesCleanly E s, ?_⟩
  intro more d e answer hb hd hmore he ha
  obtain ⟨hp, hi⟩ := flushing_of_destroy hb hd
  have hreach := hs.next hd
  obtain ⟨hphase, hflushed⟩ := destroying_of_run? hreach hp hi hmore he
  have hquiet := ((hreach.run? he).consistent.destroying _ _ hphase).2.quiet
    (hreach.run? he).camera ha
  exact ⟨⟨_, step?_proceed_of_destroying hphase ha, rfl, rfl, rfl, hquiet.queue⟩,
    hflushed.answer (hreach.run? he) ha⟩

open Sensor (Recorder)

/-- A new session on a sensor that cannot be flushed. -/
def unflushable : Session Recorder where
  camera := { Sample.camera { flushReason := some "stuck" } with
    controls := { Sample.controls with frameRate := ⟨15, 30⟩ } }
  characteristics := .standard

theorem opened_unflushable : Opened { flushReason := some "stuck" } unflushable := by
  have hcheck : Characteristics.standard.check = .ok () := rfl
  refine ⟨{}, Sample.store, Sample.controls, Sample.camera { flushReason := some "stuck" },
    .standard, rfl, ?_⟩
  rw [create, Camera.takeUp, Controls.takeUp, hcheck]
  rfl

def twoPipelines : List Move :=
  [.configure 0 { channel := 0 } [Sample.stream],
    -- refused for a repeated id
    .configure 1 { channel := 1 } [Sample.stream, Sample.stream],
    .configure 2 { channel := 2 } [], .build, .submit 7 [Sample.preview],
    .advance 0, .advance 0, .advance 0]

theorem sample_pipelines_keep_their_lifecycle :
    ∃ s d e t : Session Recorder, Opened { flushReason := some "stuck" } unflushable ∧
      unflushable.run? Recorder.engine twoPipelines = some s ∧
      KeepsLifecycle Recorder.engine unflushable twoPipelines s ∧
      s.pipelines.map (·.camera) = [0, 2] ∧ s.camera.queue.map (·.tag) = [Sample.tag 0] ∧
      s.step? Recorder.engine .destroy = some d ∧
      d.run? Recorder.engine (List.replicate 5 (.advance 1)) = some e ∧
      e.camera.stage.answer? 1 = some (.error (.sensor "stuck")) ∧
      e.step? Recorder.engine .proceed = some t ∧ t.pipelines = [] ∧ t.isBuilt = false ∧
      t.camera.queue = [] := by
  have hrun : (((unflushable.run? Recorder.engine twoPipelines).bind fun s =>
      (s.step? Recorder.engine .destroy).bind fun d =>
        (d.run? Recorder.engine (List.replicate 5 (.advance 1))).map fun e =>
          ((s.pipelines.map (·.camera), s.camera.queue.map (·.tag), s.isBuilt, s.camera.opened),
            e.camera.stage.answer? 1))) =
      some (([0, 2], [Sample.tag 0], true, 1), some (.error (.sensor "stuck"))) := by
    decide +kernel
  obtain ⟨s, hs, heq⟩ := Option.bind_eq_some_iff.mp hrun
  obtain ⟨d, hd, heq⟩ := Option.bind_eq_some_iff.mp heq
  obtain ⟨e, he, heq⟩ := Option.map_eq_some_iff.mp heq
  simp only [Prod.mk.injEq] at heq
  obtain ⟨⟨hcameras, htags, hb, hopened⟩, ha⟩ := heq
  obtain ⟨hkeeps, -, hdestroy⟩ := pipelines_keep_their_lifecycle opened_unflushable hs
  obtain ⟨⟨t, ht, -, hp, hb', hqueue⟩, -⟩ :=
    hdestroy hb hd (by simp) he (hopened ▸ ha)
  exact ⟨s, d, e, t, opened_unflushable, hs, hkeeps, hcameras, htags, hd, he, ha, ht, hp, hb',
    hqueue⟩

end Session

end VirtualCamera
