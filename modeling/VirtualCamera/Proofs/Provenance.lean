import VirtualCamera.Proofs.Closing

/-!
# Where requests come from

The tag of an admitted request is made from the frame that the client named and
from the pipeline that it chose, as the pipeline was when the batch was
submitted.  Until then the tag does not exist; afterwards nothing changes it.
So every tag leads back to a request of some batch (`Session.SubmittedIn`).
-/

namespace VirtualCamera

structure Batch where
  frame : UInt32
  table : List Pipeline
  left : List CaptureRequest

def Call.batch? : Call → Option Batch
  | submitting _ frame table left => some ⟨frame, table, left⟩
  | flushing | clearing .. | reporting .. | joining | halting _ | closing .. => none

namespace Camera

variable {σ : Type} {E : Engine σ} {c d : Camera σ} {m : Move}

/-- A batch is what it was, or one request shorter, or new. -/
theorem Transition.batch_cases {p : Nat × Call} {b : Batch} (h : Transition E c m d)
    (hp : p ∈ d.calls) (hb : p.2.batch? = some b) :
    (∃ q ∈ c.calls, q.2.batch? = some b) ∨
      (∃ q ∈ c.calls, ∃ r, q.2.batch? = some { b with left := r :: b.left }) ∨
      m = .submit b.frame b.left b.table := by
  have hother {l r : List (Nat × Call)} {q : Nat × Call} (hc : c.calls = l ++ q :: r)
      (hp : p ∈ l ++ r) : ∃ q ∈ c.calls, q.2.batch? = some b :=
    ⟨p, hc ▸ mem_split.mpr (Or.inr hp), hb⟩
  have hitself {l r : List (Nat × Call)} {q : Nat × Call} (hc : c.calls = l ++ q :: r) :
      q ∈ c.calls := hc ▸ mem_split.mpr (Or.inl rfl)
  cases h with
  | @admitOne l r i phase frame table q left pipeline store a hc =>
      rcases mem_split.mp hp with rfl | hp
      · obtain rfl : (⟨frame, table, left⟩ : Batch) = b := Option.some.inj hb
        exact Or.inr (Or.inl ⟨_, hitself hc, q, rfl⟩)
      · exact Or.inl (hother hc hp)
  | enter hc | park hc =>
      rcases mem_split.mp hp with rfl | hp
      · exact Or.inl ⟨_, hitself hc, hb⟩
      · exact Or.inl (hother hc hp)
  | flushSensor hc | drain hc | halt hc | close hc | clear hc | report hc | closeEffect hc =>
      rcases mem_split.mp hp with rfl | hp
      · cases hb
      · exact Or.inl (hother hc hp)
  | submitted hc | refuse hc | abort hc | expire hc | flushed hc | stopped hc =>
      exact Or.inl (hother hc hp)
  | submit =>
      rcases List.mem_append.mp hp with hp | hp
      · exact Or.inl ⟨p, hp, hb⟩
      · obtain rfl := List.mem_singleton.mp hp
        obtain rfl := Option.some.inj hb
        exact Or.inr (Or.inr rfl)
  | flush | stop =>
      rcases List.mem_append.mp hp with hp | hp
      · exact Or.inl ⟨p, hp, hb⟩
      · obtain rfl := List.mem_singleton.mp hp
        cases hb
  | _ => exact Or.inl ⟨p, hp, hb⟩

/-- A request that is admitted is the next one of a batch, and its pipeline is
one of the table. -/
theorem Transition.admission_cases {tag : FrameTag} (h : Transition E c m d)
    (htag : tag ∈ d.admissions) :
    tag ∈ c.admissions ∨ ∃ q ∈ c.calls, ∃ (b : Batch) (r : CaptureRequest) (p : Pipeline)
      (ticket : Nat), q.2.batch? = some { b with left := r :: b.left } ∧
        checkRequest b.table r = .ok p ∧
        tag = ⟨ticket, b.frame, p.id, p.camera, p.listener⟩ := by
  cases h with
  | @admitOne l r i phase frame table q left p store a hc hgo hcheck hroom hmap =>
      simp only [admissions, Stage.history_note, Stage.history_mk,
        Occurrence.admission?, Option.toList_some, List.mem_append, List.mem_singleton] at htag
      rcases htag with htag | rfl
      · exact Or.inl htag
      · exact Or.inr ⟨(i, .submitting phase frame table (q :: left)), by simp [hc],
          ⟨frame, table, left⟩, q, p, c.admitted, rfl, hcheck, (mapRequest_eq_ok hmap).1⟩
  | sensor hs =>
      obtain ⟨sensor, effects, -, rfl⟩ := Stage.sensorStep?_eq_some hs
      exact Or.inl (by simpa [admissions] using htag)
  | perform | unwind | clear | report | closeEffect =>
      exact Or.inl (by simpa [admissions] using htag)
  | _ => exact Or.inl (by simpa [admissions, Occurrence.admission?, begin, paced] using htag)

theorem pipeline_of_checkRequest {table : List Pipeline} {r : CaptureRequest} {p : Pipeline}
    (h : checkRequest table r = .ok p) : table[r.pipeline.toNat]? = some p := by
  unfold checkRequest at h
  split at h
  · cases h
  · split at h
    · cases h
    · cases h
      assumption

end Camera

namespace Session

variable {σ : Type} {E : Engine σ} {s₀ s t : Session σ} {moves : List Move}

/-- A tag of a request that was submitted in a run: the client named the frame,
and the tag is that of the pipeline which the request named, as it was
configured then. -/
def SubmittedIn (E : Engine σ) (s₀ : Session σ) (moves : List Move) (tag : FrameTag) : Prop :=
  ∃ before frame requests after b, moves = before ++ .submit frame requests :: after ∧
    s₀.run? E before = some b ∧ tag.frame = frame ∧
    ∃ r ∈ requests, ∃ p, b.pipelines[r.pipeline.toNat]? = some p ∧
      tag.pipeline = r.pipeline ∧ tag.camera = p.camera ∧ tag.listener = p.listener

/-- Pipelines are numbered by their positions. -/
def PipelinesNumbered (s : Session σ) : Prop :=
  ∀ (k : Nat) (p : Pipeline), s.pipelines[k]? = some p → p.id = k.toUInt32

/-- What is left of a batch is part of a batch that was submitted in a run. -/
def LeftFrom (E : Engine σ) (s₀ : Session σ) (moves : List Move) (batch : Batch) : Prop :=
  ∃ before requests after b, moves = before ++ .submit batch.frame requests :: after ∧
    s₀.run? E before = some b ∧ b.PipelinesNumbered ∧ batch.table = b.pipelines ∧
    batch.left ⊆ requests

theorem Transition.pipelinesNumbered {m : Move} (h : Transition E s m t)
    (hs : s.PipelinesNumbered) : t.PipelinesNumbered := by
  cases h with
  | configure he hb hid =>
      intro k p hk
      rcases Nat.lt_or_ge k s.pipelines.length with hlt | hge
      · rw [List.getElem?_append_left hlt] at hk
        exact hs k p hk
      · rw [List.getElem?_append_right hge, List.getElem?_singleton] at hk
        split at hk
        · obtain rfl := Option.some.inj hk
          rw [hid, show k = s.pipelines.length by omega]
        · cases hk
  | destroyed | closing =>
      intro k p hk
      cases hk
  | _ => exact fun k p hk => hs k p hk

theorem run?_concat {m : Move} :
    s₀.run? E (moves ++ [m]) = (s₀.run? E moves).bind fun s => s.step? E m := by
  simp [run?, List.foldlM_append]

/-- A session that was opened on a new camera. -/
def Opened (sensor : σ) (s : Session σ) : Prop :=
  ∃ (config : Config) (store : Store) (controls : Controls) (camera : Camera σ)
    (description : Characteristics), Camera.create config sensor store controls = .ok camera ∧
      create camera description = .ok s

/-- What is known of the requests of a session after these moves. -/
structure Traced (E : Engine σ) (s₀ : Session σ) (moves : List Move) (s : Session σ) :
    Prop where
  pipelines : s.PipelinesNumbered
  batches : ∀ q ∈ s.camera.calls, ∀ b, q.2.batch? = some b → LeftFrom E s₀ moves b
  admissions : ∀ tag ∈ s.camera.admissions, SubmittedIn E s₀ moves tag

theorem LeftFrom.concat {m : Move} {b : Batch} (h : LeftFrom E s₀ moves b) :
    LeftFrom E s₀ (moves ++ [m]) b := by
  obtain ⟨before, requests, after, s, rfl, hs⟩ := h
  exact ⟨before, requests, after ++ [m], s, by simp, hs⟩

theorem SubmittedIn.concat {m : Move} {tag : FrameTag} (h : SubmittedIn E s₀ moves tag) :
    SubmittedIn E s₀ (moves ++ [m]) tag := by
  obtain ⟨before, frame, requests, after, s, rfl, hs⟩ := h
  exact ⟨before, frame, requests, after ++ [m], s, by simp, hs⟩

theorem Traced.step {sensor : σ} {m : Move} (hs : Reachable E sensor s) (h : s.step? E m = some t)
    (hrun : s₀.run? E moves = some s)
    (ht : Traced E s₀ moves s) : Traced E s₀ (moves ++ [m]) t := by
  have htrans := transition_of_step? h
  refine ⟨htrans.pipelinesNumbered ht.pipelines, ?_, ?_⟩
  · intro q hq b hb
    rcases htrans.camera with heq | ⟨n, hn, hsubmit⟩
    · exact (ht.batches q (heq ▸ hq) b hb).concat
    · rcases (hs.camera.transition hn).batch_cases hq hb with
        ⟨q', hq', hb'⟩ | ⟨q', hq', r, hb'⟩ | hnew
      · exact (ht.batches q' hq' b hb').concat
      · obtain ⟨before, requests, after, s', hmoves, hs', hnumbered, htable, hleft⟩ :=
          (ht.batches q' hq' _ hb').concat (m := m)
        exact ⟨before, requests, after, s', hmoves, hs', hnumbered, htable,
          fun r' hr' => hleft (List.mem_cons_of_mem _ hr')⟩
      · obtain ⟨rfl, htable⟩ := hsubmit _ _ _ hnew
        exact ⟨moves, b.left, [], s, by simp, hrun, ht.pipelines, htable, List.Subset.refl _⟩
  · intro tag htag
    rcases htrans.camera with heq | ⟨n, hn, -⟩
    · exact (ht.admissions tag (heq ▸ htag)).concat
    · rcases (hs.camera.transition hn).admission_cases htag with
        hold | ⟨q, hq, b, r, p, ticket, hb, hcheck, rfl⟩
      · exact (ht.admissions tag hold).concat
      · obtain ⟨before, requests, after, s', hmoves, hs', hnumbered, htable, hleft⟩ :=
          (ht.batches q hq _ hb).concat (m := m)
        have hpipeline : s'.pipelines[r.pipeline.toNat]? = some p :=
          htable ▸ Camera.pipeline_of_checkRequest hcheck
        refine ⟨before, b.frame, requests, after, s', hmoves, hs', rfl, r,
          hleft List.mem_cons_self, p, hpipeline, ?_, rfl, rfl⟩
        rw [hnumbered _ _ hpipeline]
        exact UInt32.ofNat_toNat

theorem traced_of_run? {sensor : σ} (h₀ : Opened sensor s₀) (h : s₀.run? E moves = some s) :
    Reachable E sensor s ∧ Traced E s₀ moves s := by
  induction moves using List.reverseRecOn generalizing s with
  | nil =>
      cases h
      obtain ⟨config, store, controls, camera, description, hc, hs⟩ := h₀
      refine ⟨.opened hc hs, ?_⟩
      obtain ⟨controls, rfl⟩ := create_eq hs
      obtain rfl := Camera.create_eq hc
      refine ⟨fun k p hk => by simp at hk, by simp, ?_⟩
      simp [Camera.admissions, Stage.history]
  | append_singleton moves m ih =>
      rw [run?_concat, Option.bind_eq_some_iff] at h
      obtain ⟨b, hb, hstep⟩ := h
      obtain ⟨hreach, htraced⟩ := ih hb
      exact ⟨hreach.next hstep, htraced.step hreach hstep hb⟩

end Session

end VirtualCamera
