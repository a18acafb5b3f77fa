import VirtualCamera.Proofs.Conservation

/-!
# Buffers, shots and their requests

A request's buffers are mapped under its tag, and the tag stays with them while
the worker waits for them and puts them into the shot.  So whoever is told about
a shot is the listener of the request, and the result names the request's
pipeline and frame (`Shot.BelongsTo`).
-/

namespace VirtualCamera

/-! ## Operations that may stop -/

theorem exists_of_bind_eq_ok {ε α β : Type} {x : Except ε α} {f : α → Except ε β} {b : β}
    (h : x >>= f = .ok b) : ∃ a, x = .ok a ∧ f a = .ok b := by
  cases x with
  | error e => cases h
  | ok a => exact ⟨a, rfl, h⟩

theorem eq_ok_of_mapError {ε ε' α : Type} {f : ε → ε'} {x : Except ε α} {a : α}
    (h : x.mapError f = .ok a) : x = .ok a := by
  cases x with
  | error e => cases h
  | ok b => exact congrArg Except.ok (Except.ok.inj h)

theorem exists_of_map_eq_ok {ε α β : Type} {x : Except ε α} {f : α → β} {b : β}
    (h : x.map f = .ok b) : ∃ a, x = .ok a ∧ f a = b := by
  cases x with
  | error e => cases h
  | ok a => exact ⟨a, rfl, Except.ok.inj h⟩

/-! ## Mapping -/

/-- A mapping of a client buffer for a request: what is painted through it lies
in that buffer, and the fence is the one that came with the buffer. -/
structure Mapping.IsOf (m : Mapping) (tag : FrameTag) (a : Attachment) : Prop where
  tag : m.tag = tag
  attachment : m.attachment = { a with status := .error }
  fence : m.fence = a.fence
  strokes : ∀ shade, ∀ stroke ∈ m.planes.strokes shade, stroke.1.buffer = a.buffer

namespace Memory

variable {m n : Memory} {i : Nat}

theorem lock?_eq_some {size : UInt32} {r : Region} (h : m.lock? i size = some (n, r)) :
    n = m.acquire i ∧ r = ⟨i, 0, size.toNat⟩ := by
  rw [lock?, Option.ite_none_left_eq_some] at h
  obtain ⟨-, heq⟩ := h
  obtain ⟨rfl, rfl⟩ := Prod.mk.inj (Option.some.inj heq)
  exact ⟨rfl, rfl⟩

theorem lockPlanar?_eq_some {width height : UInt32} {p : PlanarRegions}
    (h : m.lockPlanar? i width height = .ok (some (n, p))) :
    n = m.acquire i ∧
      p.luma = ⟨i, 0, (Planar.ofSize width height).lumaSize.toNat⟩ ∧
      p.cb = ⟨i, (Planar.ofSize width height).lumaSize.toNat,
        (Planar.ofSize width height).chromaSize.toNat⟩ ∧
      p.cr = ⟨i, ((Planar.ofSize width height).lumaSize +
          (Planar.ofSize width height).chromaSize).toNat,
        (Planar.ofSize width height).chromaSize.toNat⟩ := by
  simp only [lockPlanar?] at h
  split at h
  · cases h
  · obtain ⟨total, -, hsome⟩ := exists_of_map_eq_ok h
    rw [Option.ite_none_left_eq_some] at hsome
    obtain ⟨-, heq⟩ := hsome
    obtain ⟨rfl, rfl⟩ := Prod.mk.inj (Option.some.inj heq)
    exact ⟨rfl, rfl, rfl, rfl⟩

end Memory

namespace Store

variable {s t : Store} {override : PixelFormat → PixelFormat} {tag : FrameTag}
  {streams : List Stream} {attachments : List Attachment} {m : Mapping} {ms : List Mapping}

theorem lockPacked_eq_ok {stream : Stream} {i : Nat} {planes : Planes}
    (h : s.lockPacked stream i = .ok (t, planes)) :
    ∃ (extent : Extent) (region : Region), Extent.ofStream stream = .ok extent ∧
      s.memory.lock? i extent.size = some (t.memory, region) ∧
      t.fences = s.fences ∧ planes = .packed region extent.stride extent.size := by
  unfold lockPacked at h
  cases hextent : Extent.ofStream stream with
  | error fault => simp [hextent, bind, Except.bind] at h
  | ok extent =>
      simp only [hextent, bind, Except.bind] at h
      cases hlock : s.memory.lock? i extent.size with
      | none => simp [hlock] at h
      | some locked =>
          obtain ⟨memory, region⟩ := locked
          simp only [hlock, Except.ok.injEq, Prod.mk.injEq] at h
          obtain ⟨rfl, rfl⟩ := h
          exact ⟨extent, region, rfl, hlock, rfl, rfl⟩

/-- A stream is locked plane by plane, or as the one region of its extent. -/
theorem lockPlanes_cases {stream : Stream} {i : Nat} {planes : Planes}
    (h : s.lockPlanes stream i = .ok (t, planes)) :
    (∃ regions, stream.format.isPlanar = true ∧
      s.memory.lockPlanar? i stream.width stream.height = .ok (some (t.memory, regions)) ∧
      t.fences = s.fences ∧ planes = .planar regions) ∨
    ∃ (extent : Extent) (region : Region),
      s.memory.lock? i extent.size = some (t.memory, region) ∧
      t.fences = s.fences ∧ planes = .packed region extent.stride extent.size := by
  unfold lockPlanes at h
  by_cases hplanar : stream.format.isPlanar = true
  · rw [if_pos hplanar] at h
    split at h
    · rename_i memory regions hlock
      cases h
      exact .inl ⟨regions, hplanar, hlock, rfl, rfl⟩
    · cases h
    · cases h
  · rw [if_neg hplanar] at h
    obtain ⟨extent, region, -, hlock⟩ := lockPacked_eq_ok (eq_ok_of_mapError h)
    exact .inr ⟨extent, region, hlock⟩

theorem lockPlanes_eq_ok {stream : Stream} {i : Nat} {planes : Planes}
    (h : s.lockPlanes stream i = .ok (t, planes)) :
    t = { s with memory := s.memory.acquire i } ∧
      ∀ shade, ∀ stroke ∈ planes.strokes shade, stroke.1.buffer = i := by
  obtain ⟨memory, fences⟩ := t
  rcases lockPlanes_cases h with ⟨regions, -, hlock, rfl, rfl⟩ | ⟨extent, region, hlock, rfl, rfl⟩
  · obtain ⟨rfl, hluma, hcb, hcr⟩ := Memory.lockPlanar?_eq_some hlock
    exact ⟨rfl, fun shade => by simp [Planes.strokes, hluma, hcb, hcr]⟩
  · obtain ⟨rfl, rfl⟩ := Memory.lock?_eq_some hlock
    exact ⟨rfl, fun shade => by simp [Planes.strokes]⟩

/-! Mapping changes the store by taking locks and giving them back only. -/

section Locks

variable {P : Store → Prop} (h : P s)
  (acquire : ∀ s i, P s → P { s with memory := s.memory.acquire i })
  (release : ∀ s i, P s → P (s.release i))

include h release

theorem releaseAll_induct (ms : List Mapping) : P (s.releaseAll ms) := by
  unfold releaseAll
  induction ms generalizing s with
  | nil => exact h
  | cons m rest ih => exact ih (release s m.buffer h)

include acquire

theorem map_induct (stream : Stream) (a : Attachment) : P (s.map override tag stream a).1 := by
  unfold map
  simp only
  cases hlock : s.lockPlanes (stream.seenThrough override) a.buffer with
  | error stop => exact h
  | ok locked =>
      obtain ⟨locked, planes⟩ := locked
      obtain ⟨rfl, -⟩ := lockPlanes_eq_ok hlock
      have hacquire := acquire s a.buffer h
      simp only
      split
      · exact hacquire
      · exact release _ a.buffer hacquire

theorem mapKnown_induct (a : Attachment) : P (s.mapKnown override tag streams a).1 := by
  unfold mapKnown
  cases Stream.find? streams a.stream with
  | none => exact h
  | some stream =>
      have hmap : P (s.map override tag stream a).1 := map_induct h acquire release stream a
      simp only
      split <;> rename_i heq <;> rwa [heq] at hmap

theorem mapEach_induct (attachments : List Attachment) :
    P (s.mapEach override tag streams attachments).1 := by
  induction attachments generalizing s with
  | nil => exact h
  | cons a rest ih =>
      have hfirst : P (s.mapKnown override tag streams a).1 :=
        mapKnown_induct h acquire release a
      rw [mapEach]
      split
      · rename_i heq
        rwa [heq] at hfirst
      · rename_i t first heq
        rw [heq] at hfirst
        have hrest := ih hfirst
        split
        · rename_i hrest'
          rw [hrest'] at hrest
          exact releaseAll_induct hrest release first.toList
        · rename_i hrest'
          rwa [hrest'] at hrest

theorem mapAll_induct (attachments : List Attachment) :
    P (s.mapAll override tag streams attachments).1 := by
  unfold mapAll
  split
  · exact h
  · exact mapEach_induct h acquire release attachments

end Locks

/-- What a mapping is made of. -/
theorem map_eq_ok {stream : Stream} {a : Attachment}
    (h : (s.map override tag stream a).2 = .ok m) :
    ∃ t planes, s.lockPlanes (stream.seenThrough override) a.buffer = .ok (t, planes) ∧
      m = {
        tag, planes
        width := (stream.seenThrough override).width
        height := (stream.seenThrough override).height
        format := (stream.seenThrough override).format
        dataspace := (stream.seenThrough override).dataspace
        isInput := (stream.seenThrough override).isInput
        attachment := { a with status := .error }
        fence := a.fence } := by
  unfold map at h
  simp only at h
  split at h
  · cases h
  · rename_i locked planes hlock
    split at h
    · cases h
      exact ⟨locked, planes, hlock, rfl⟩
    · cases h

theorem isOf_of_map {stream : Stream} {a : Attachment}
    (h : (s.map override tag stream a).2 = .ok m) : m.IsOf tag a := by
  obtain ⟨t, planes, hlock, rfl⟩ := map_eq_ok h
  exact ⟨rfl, rfl, rfl, (lockPlanes_eq_ok hlock).2⟩

theorem exists_map_of_mapKnown {a : Attachment}
    (h : (s.mapKnown override tag streams a).2 = .ok (some m)) :
    ∃ stream, Stream.find? streams a.stream = some stream ∧
      (s.map override tag stream a).2 = .ok m := by
  unfold mapKnown at h
  split at h
  · cases h
  · rename_i stream hfind
    split at h
    · rename_i hmap
      cases h
      exact ⟨stream, hfind, by rw [hmap]⟩
    · cases h
    · cases h

theorem isOf_of_mapKnown {a : Attachment}
    (h : (s.mapKnown override tag streams a).2 = .ok (some m)) : m.IsOf tag a := by
  obtain ⟨stream, -, hmap⟩ := exists_map_of_mapKnown h
  exact isOf_of_map hmap

/-- Mapping several buffers without a crash maps the first one, and then the
others. -/
theorem mapEach_cons_eq_ok {a : Attachment} {rest : List Attachment}
    (h : (s.mapEach override tag streams (a :: rest)).2 = .ok ms) :
    ∃ first others, (s.mapKnown override tag streams a).2 = .ok first ∧
      ((s.mapKnown override tag streams a).1.mapEach override tag streams rest).2 = .ok others ∧
      (s.mapEach override tag streams (a :: rest)).1 =
        ((s.mapKnown override tag streams a).1.mapEach override tag streams rest).1 ∧
      ms = first.toList ++ others := by
  rw [mapEach] at h ⊢
  split at h
  · cases h
  · rename_i t first hfirst
    simp only [hfirst]
    split at h
    · cases h
    · rename_i u others hothers
      cases h
      rw [hothers]
      exact ⟨first, others, rfl, rfl, rfl, rfl⟩

/-- A crash over a buffer leaves nothing behind. -/
theorem mapKnown_eq_error {a : Attachment} {crash : Crash}
    (h : s.mapKnown override tag streams a = (t, .error crash)) : t = s := by
  unfold mapKnown at h
  split at h
  · cases h
  · split at h
    · cases h
    · cases h
    · rename_i hmap
      cases h
      unfold map at hmap
      simp only at hmap
      split at hmap
      · exact (congrArg Prod.fst hmap).symm
      · split at hmap <;> cases hmap

/-- Mapping several buffers crashes over the first one, or over one of the
others, and then the first one is given back. -/
theorem mapEach_cons_eq_error {a : Attachment} {rest : List Attachment} {crash : Crash}
    (h : s.mapEach override tag streams (a :: rest) = (t, .error crash)) :
    s.mapKnown override tag streams a = (t, .error crash) ∨
      ∃ first u, (s.mapKnown override tag streams a).2 = .ok first ∧
        (s.mapKnown override tag streams a).1.mapEach override tag streams rest =
          (u, .error crash) ∧
        t = u.releaseAll first.toList := by
  rw [mapEach] at h
  split at h
  · rename_i hfirst
    cases h
    exact .inl hfirst
  · rename_i v first hfirst
    simp only [hfirst]
    split at h
    · rename_i u crash' hrest
      cases h
      exact .inr ⟨first, u, rfl, hrest, rfl⟩
    · cases h

theorem isOf_of_mem_mapEach (h : (s.mapEach override tag streams attachments).2 = .ok ms)
    (hm : m ∈ ms) : ∃ a ∈ attachments, m.IsOf tag a := by
  induction attachments generalizing s ms with
  | nil =>
      cases h
      cases hm
  | cons a rest ih =>
      obtain ⟨first, others, hfirst, hothers, -, rfl⟩ := mapEach_cons_eq_ok h
      rw [List.mem_append, Option.mem_toList] at hm
      rcases hm with rfl | hm
      · exact ⟨a, List.mem_cons_self, isOf_of_mapKnown hfirst⟩
      · obtain ⟨b, hb, hisOf⟩ := ih hothers hm
        exact ⟨b, List.mem_cons_of_mem _ hb, hisOf⟩

/-- What `mapAll` makes of the buffers of a request is what `mapEach` makes of
them. -/
theorem mapAll_fst (s : Store) (override : PixelFormat → PixelFormat) (tag : FrameTag)
    (streams : List Stream) (attachments : List Attachment) :
    (s.mapAll override tag streams attachments).1 =
      (s.mapEach override tag streams attachments).1 := by
  cases attachments <;> rfl

theorem mapAll_eq_ok {mappings : Option (List Mapping)}
    (h : (s.mapAll override tag streams attachments).2 = .ok mappings) :
    (s.mapEach override tag streams attachments).2 = .ok (mappings.getD []) := by
  unfold mapAll at h
  split at h
  · rename_i hempty
    cases h
    rw [List.isEmpty_iff.mp hempty]
    rfl
  · obtain ⟨ms, hms, rfl⟩ := exists_of_map_eq_ok h
    exact hms

theorem mapAll_eq_error {crash : Crash}
    (h : s.mapAll override tag streams attachments = (t, .error crash)) :
    s.mapEach override tag streams attachments = (t, .error crash) := by
  unfold mapAll at h
  split at h
  · cases h
  · rcases hmap : s.mapEach override tag streams attachments with ⟨u, mapped⟩
    rw [hmap] at h
    cases mapped with
    | ok ms => cases h
    | error => cases h; rfl

theorem isOf_of_mem_mapAll {mappings : Option (List Mapping)}
    (h : (s.mapAll override tag streams attachments).2 = .ok mappings)
    (hm : m ∈ mappings.getD []) : ∃ a ∈ attachments, m.IsOf tag a :=
  isOf_of_mem_mapEach (mapAll_eq_ok h) hm

theorem eq_of_mem_settle {s : Store} {m kept : Mapping} (h : kept ∈ (s.settle m).2.toList) :
    kept = m := by
  unfold settle at h
  split at h
  · exact List.mem_singleton.mp h
  · cases h

end Store

/-! ## Shots -/

namespace Mapping

theorem getD_of_awaited_eq_none {mappings : Option (List Mapping)}
    (h : awaited mappings = none) : mappings.getD [] = [] := by
  unfold awaited at h
  split at h
  · rfl
  · rfl
  · cases h

theorem eq_of_awaited_eq_some {mappings : Option (List Mapping)} {ms : List Mapping}
    (h : awaited mappings = some ms) : mappings = some ms := by
  unfold awaited at h
  split at h
  · cases h
  · cases h
  · exact h

end Mapping

/-- The outputs of a request carry its tag. -/
def Admission.IsTagged (a : Admission) : Prop :=
  ∀ m ∈ a.outputs.getD [], m.tag = a.tag

section MadeFrom

variable {σ : Type} {E : Engine σ} {frame : UInt32} {p : Pipeline} {r : CaptureRequest}
  {s t : Store} {a : Admission}

theorem Admission.MadeFrom.isTagged (h : a.MadeFrom E frame p r s t) : a.IsTagged := by
  intro m hm
  obtain ⟨attachment, -, hisOf⟩ := Store.isOf_of_mem_mapAll h.outputs hm
  exact hisOf.tag

theorem Admission.MadeFrom.store_induct {P : Store → Prop} (h : a.MadeFrom E frame p r s t)
    (hs : P s) (acquire : ∀ s i, P s → P { s with memory := s.memory.acquire i })
    (release : ∀ s i, P s → P (s.release i)) : P t := by
  rw [h.store]
  exact Store.mapAll_induct (Store.mapAll_induct hs acquire release _) acquire release _

end MadeFrom

/-- A shot is that of a request. -/
structure Shot.BelongsTo (shot : Shot) (tag : FrameTag) : Prop where
  outputs_ne : shot.outputs ≠ []
  outputs : ∀ m ∈ shot.outputs, m.tag = tag
  pipeline : shot.result.pipeline = tag.pipeline
  frame : shot.result.frame = tag.frame

theorem Shot.BelongsTo.exists_cons {shot : Shot} {tag : FrameTag} (h : shot.BelongsTo tag) :
    ∃ m rest, shot.outputs = m :: rest ∧ m.tag = tag := by
  cases heq : shot.outputs with
  | nil => exact absurd heq h.outputs_ne
  | cons m rest => exact ⟨m, rest, rfl, h.outputs m (by simp [heq])⟩

/-- The buffers that the worker has carry the tag of the request. -/
def Worker.IsTagged : Worker → Prop
  | resolving a => a.IsTagged
  | awaitingOutputs a _ kept left =>
    (∀ m ∈ kept, m.tag = a.tag) ∧ ∀ m ∈ left, m.tag = a.tag
  | recording a _ _ outputs => outputs ≠ [] ∧ ∀ m ∈ outputs, m.tag = a.tag
  | awaitingInputs tag shot _ => shot.BelongsTo tag
  | checking | ready | finishing .. | unwinding _ | unpaced | pacing _ | ended => True

def Occurrence.handOver? : Occurrence → Option (FrameTag × Shot)
  | handedOver tag shot => some (tag, shot)
  | _ => none

@[simp] theorem Occurrence.handOver?_effect (e : Effect) (speaker : Speaker) :
    (e.occurrence speaker).handOver? = none := by
  cases e <;> rfl

namespace Camera

variable {σ : Type} {E : Engine σ} {c d : Camera σ} {sensor : σ}

def handOvers (c : Camera σ) : List (FrameTag × Shot) :=
  c.stage.history Occurrence.handOver?

/-- Nothing is handed over but by the worker, when it is done with the inputs. -/
theorem Transition.handOvers_cases {m : Move} (h : Transition E c m d) :
    d.handOvers = c.handOvers ∨ ∃ tag shot, c.worker = .awaitingInputs tag shot [] ∧
      d.handOvers = c.handOvers ++ [(tag, shot)] := by
  cases h with
  | handOver hw =>
      refine Or.inr ⟨_, _, hw, ?_⟩
      simp [handOvers, Occurrence.handOver?]
  | sensor hs =>
      obtain ⟨sensor, effects, -, rfl⟩ := Stage.sensorStep?_eq_some hs
      exact Or.inl (by simp [handOvers])
  | perform | unwind | clear | report | closeEffect => exact Or.inl (by simp [handOvers])
  | _ => exact Or.inl (by simp [handOvers, Occurrence.handOver?, paced, begin])

/-- Whether a request is mapped or stopped by a crash, its buffers are only locked and
given back. -/
theorem mapRequest_induct {P : Store → Prop} {store : Store} {mapped : Except Crash Admission}
    {frame : UInt32} {p : Pipeline} {q : CaptureRequest} (h : P c.stage.store)
    (acquire : ∀ s i, P s → P { s with memory := s.memory.acquire i })
    (release : ∀ s i, P s → P (s.release i))
    (hmap : c.mapRequest E frame p q = (store, mapped)) : P store := by
  have hall {s t : Store} {tag : FrameTag} {attachments : List Attachment}
      {outcome : Except Crash (Option (List Mapping))} (hs : P s)
      (heq : s.mapAll E.overrideFormat tag p.streams attachments = (t, outcome)) : P t := by
    have hmapped : P (s.mapAll E.overrideFormat tag p.streams attachments).1 :=
      Store.mapAll_induct hs acquire release attachments
    rwa [heq] at hmapped
  cases mapped with
  | ok a => exact (mapRequest_eq_ok hmap).2.store_induct h acquire release
  | error crash =>
      rcases mapRequest_eq_error hmap with houtputs | ⟨mid, outputs, left, houtputs, hinputs, rfl⟩
      · exact hall h houtputs
      · exact Store.releaseAll_induct (hall (hall h houtputs) hinputs) release _

/-- Every buffer carries the tag of its request. -/
structure Tagged (c : Camera σ) : Prop where
  queue : ∀ a ∈ c.queue, a.IsTagged
  worker : c.worker.IsTagged
  handOvers : ∀ p ∈ c.handOvers, p.2.BelongsTo p.1

theorem Transition.isTagged_queue {m : Move} (h : Transition E c m d) (ht : c.Tagged) :
    ∀ a ∈ d.queue, a.IsTagged := by
  cases h with
  | take _ _ _ hq => exact fun a ha => ht.queue a (hq ▸ List.mem_cons_of_mem _ ha)
  | admitOne hc hgo hcheck hroom hmap =>
      exact List.forall_mem_append.mpr ⟨ht.queue,
        List.forall_mem_singleton.mpr (mapRequest_eq_ok hmap).2.isTagged⟩
  | drain => exact List.forall_mem_nil _
  | _ => exact ht.queue

theorem Transition.isTagged_worker {m : Move} (h : Transition E c m d) (ht : c.Tagged) :
    d.worker.IsTagged := by
  have hworker := ht.worker
  cases h with
  | take _ _ _ hq => exact ht.queue _ (by simp [hq])
  | resolve hw =>
      rw [hw] at hworker
      exact ⟨by simp, hworker⟩
  | @outputsAwaited a resolved ready hw =>
      rw [hw] at hworker
      rcases outputsAwaited_cases a resolved ready with ⟨s, sensor, heq, hne⟩ | heq
      · exact heq ▸ ⟨hne, hworker.1⟩
      · exact heq ▸ trivial
  | @awaitOutput a resolved ready left m hw =>
      rw [hw] at hworker
      obtain ⟨hready, hleft⟩ := hworker
      refine ⟨fun k hk => ?_, fun k hk => hleft k (List.mem_cons_of_mem _ hk)⟩
      rcases List.mem_append.mp hk with hk | hk
      · exact hready k hk
      · exact Store.eq_of_mem_settle hk ▸ hleft m List.mem_cons_self
  | record hw =>
      rw [hw] at hworker
      exact ⟨hworker.1, hworker.2, rfl, rfl⟩
  | awaitInput hw =>
      rw [hw] at hworker
      obtain ⟨hne, houtputs, hpipeline, hframe⟩ := hworker
      exact ⟨hne, houtputs, hpipeline, hframe⟩
  | check hw => cases hs : c.isStopping <;> trivial
  | handOver | perform | unwind | idle | crash | finished | unwound | beginPacing | skipPacing
  | pace | giveUp => trivial
  | _ => exact hworker

theorem Transition.tagged {m : Move} (h : Transition E c m d) (ht : c.Tagged) : d.Tagged := by
  refine ⟨h.isTagged_queue ht, h.isTagged_worker ht, fun p hp => ?_⟩
  rcases h.handOvers_cases with heq | ⟨tag, shot, hw, heq⟩
  · exact ht.handOvers p (heq ▸ hp)
  · rw [heq, List.mem_append, List.mem_singleton] at hp
    rcases hp with hp | rfl
    · exact ht.handOvers p hp
    · have hworker := ht.worker
      rw [hw] at hworker
      exact hworker

theorem Reachable.tagged (hc : Reachable E sensor c) : c.Tagged :=
  hc.induct (fun _ _ _ => ⟨by simp, trivial, by simp [handOvers, Stage.history]⟩)
    fun _ h ih => h.tagged ih

/-- What was handed over are the outcomes that say so. -/
theorem tags_of_handOvers (c : Camera σ) :
    c.handOvers.map (·.1) = (c.outcomes.filter (·.2 = .handedOver)).map (·.1) := by
  rw [handOvers, outcomes, Stage.history, Stage.history, List.filter_filterMap,
    List.map_filterMap, List.map_filterMap]
  congr
  funext o
  cases o with
  | told speaker => cases speaker <;> rfl
  | _ => rfl

theorem handOvers_sublist (c : Camera σ) :
    (c.handOvers.map (·.1)).Sublist (c.outcomes.map (·.1)) := by
  rw [tags_of_handOvers]
  exact List.filter_sublist.map _

theorem mem_tags_of_handOvers {tag : FrameTag} :
    tag ∈ c.handOvers.map (·.1) ↔ (tag, .handedOver) ∈ c.outcomes := by
  rw [tags_of_handOvers]
  simp

end Camera

end VirtualCamera
