import VirtualCamera.Proofs.Regions

/-!
# Buffers are mapped each by itself

At its admission those buffers of a request are mapped that can be: their stream
is known, they can be locked, and their fence can be imported (`Store.resolve?`).
They are mapped one after the other, in a store that changes on the way.  But
mapping a buffer changes neither the size of any buffer nor any fence, and
mapping another one depends on nothing else (`Store.resolve?_congr`).  So every
buffer becomes what it would become if it were the only one
(`Store.mapEach_eq_filterMap`), and the buffers of an admission are a filtered
list (`Admission.MadeFrom.isResolvedIn`).
-/

namespace VirtualCamera

/-! ## What a mapping depends on -/

namespace Memory

variable {m n : Memory} {i : Nat}

theorem lock?_congr (h : n.sizeOf i = m.sizeOf i) (size : UInt32) :
    (n.lock? i size).map (·.2) = (m.lock? i size).map (·.2) := by
  unfold lock?
  rw [h]
  split <;> rfl

theorem lockPlanar?_congr (h : n.sizeOf i = m.sizeOf i) (width height : UInt32) :
    (n.lockPlanar? i width height).map (Option.map (·.2)) =
      (m.lockPlanar? i width height).map (Option.map (·.2)) := by
  unfold lockPlanar?
  simp only [h]
  split
  · rfl
  · cases (Planar.ofSize width height).total with
    | error crash => rfl
    | ok total =>
        simp only [Except.map]
        split <;> rfl

end Memory

namespace Store

variable {s t : Store} {override : PixelFormat → PixelFormat} {tag : FrameTag}
  {streams : List Stream} {x : Attachment}

/-- What a client buffer becomes when it is mapped for a frame of a pipeline with
the given streams; nothing if its stream is not among them, or if that fails. -/
def resolve? (s : Store) (override : PixelFormat → PixelFormat) (tag : FrameTag)
    (streams : List Stream) (x : Attachment) : Option Mapping :=
  (Stream.find? streams x.stream).bind fun stream => (s.map override tag stream x).2.toOption

theorem lockPacked_congr {i : Nat} (hsize : t.memory.sizeOf i = s.memory.sizeOf i)
    (stream : Stream) :
    (t.lockPacked stream i).map (·.2) = (s.lockPacked stream i).map (·.2) := by
  unfold lockPacked
  cases Extent.ofStream stream with
  | error fault => rfl
  | ok extent =>
      have hlock := Memory.lock?_congr hsize extent.size
      simp only [bind, Except.bind]
      cases ht : t.memory.lock? i extent.size <;> cases hs : s.memory.lock? i extent.size <;>
        simp_all [Except.map]

/-- Which bytes a lock hands out depends on the size of the buffer. -/
theorem lockPlanes_congr {i : Nat} (hsize : t.memory.sizeOf i = s.memory.sizeOf i)
    (stream : Stream) :
    (t.lockPlanes stream i).map (·.2) = (s.lockPlanes stream i).map (·.2) := by
  unfold lockPlanes
  split
  · have hlock := Memory.lockPlanar?_congr hsize stream.width stream.height
    rcases ht : t.memory.lockPlanar? i stream.width stream.height with crash | _ | locked <;>
      rcases hs : s.memory.lockPlanar? i stream.width stream.height with crash' | _ | locked' <;>
      simp_all [Except.map]
  · have hlock := lockPacked_congr hsize stream
    cases ht : t.lockPacked stream i <;> cases hs : s.lockPacked stream i <;>
      simp_all [Except.map, Except.mapError]

theorem map_congr (hsize : t.memory.sizeOf x.buffer = s.memory.sizeOf x.buffer)
    (hfence : ∀ i ∈ x.fence, t.fence i = s.fence i) (stream : Stream) :
    (t.map override tag stream x).2 = (s.map override tag stream x).2 := by
  have hlock := lockPlanes_congr hsize (stream.seenThrough override)
  unfold map
  simp only
  cases ht : t.lockPlanes (stream.seenThrough override) x.buffer <;>
    cases hs : s.lockPlanes (stream.seenThrough override) x.buffer <;>
    simp only [ht, hs, Except.map, reduceCtorEq, Except.error.injEq, Except.ok.injEq] at hlock
  case error.error => rw [hlock]
  case ok.ok locked locked' =>
    obtain ⟨t', planes⟩ := locked
    obtain ⟨s', planes'⟩ := locked'
    obtain rfl : planes = planes' := hlock
    obtain ⟨rfl, -⟩ := lockPlanes_eq_ok ht
    obtain ⟨rfl, -⟩ := lockPlanes_eq_ok hs
    have himportable : (x.fence.all fun i =>
        (fence { t with memory := t.memory.acquire x.buffer } i).importable) =
        x.fence.all fun i =>
          (fence { s with memory := s.memory.acquire x.buffer } i).importable := by
      cases hx : x.fence with
      | none => rfl
      | some i => exact congrArg Fence.importable (hfence i hx)
    simp only [himportable]
    split <;> rfl

/-- What a buffer becomes depends on its stream, its size and its fence. -/
theorem resolve?_congr {streams' : List Stream}
    (hstream : Stream.find? streams' x.stream = Stream.find? streams x.stream)
    (hsize : t.memory.sizeOf x.buffer = s.memory.sizeOf x.buffer)
    (hfence : ∀ i ∈ x.fence, t.fence i = s.fence i) :
    t.resolve? override tag streams' x = s.resolve? override tag streams x := by
  simp only [resolve?, hstream, map_congr hsize hfence]

/-! ## One buffer after the other -/

theorem mapKnown_eq_ok {first : Option Mapping}
    (h : (s.mapKnown override tag streams x).2 = .ok first) :
    first = s.resolve? override tag streams x := by
  unfold mapKnown at h
  unfold resolve?
  cases hfind : Stream.find? streams x.stream with
  | none =>
      rw [hfind] at h
      exact (Except.ok.inj h).symm
  | some stream =>
      simp only [hfind] at h
      rw [Option.bind_some]
      rcases hmap : s.map override tag stream x with ⟨t, ⟨fault | crash⟩ | m⟩ <;> rw [hmap] at h
      · exact (Except.ok.inj h).symm
      · cases h
      · exact (Except.ok.inj h).symm

variable (s override tag streams x)

theorem fences_mapKnown : (s.mapKnown override tag streams x).1.fences = s.fences :=
  mapKnown_induct (P := fun t => t.fences = s.fences) rfl (fun _ _ => id) (fun _ _ => id) x

/-- A buffer that was mapped changes nothing for the others. -/
theorem resolve?_mapKnown :
    (s.mapKnown override tag streams x).1.resolve? override tag streams =
      s.resolve? override tag streams := by
  funext y
  refine resolve?_congr rfl (s.sameSizes_mapKnown override tag streams x y.buffer) fun i _ => ?_
  rw [fence, fences_mapKnown, fence]

variable {s override tag streams} {attachments : List Attachment} {ms : List Mapping}

theorem resolve?_mapEach (h : (s.mapEach override tag streams attachments).2 = .ok ms) :
    (s.mapEach override tag streams attachments).1.resolve? override tag streams =
      s.resolve? override tag streams := by
  induction attachments generalizing s ms with
  | nil => rfl
  | cons x rest ih =>
      obtain ⟨first, others, -, hothers, hstore, -⟩ := mapEach_cons_eq_ok h
      rw [hstore, ih hothers, resolve?_mapKnown]

/-- Every buffer becomes what it would become if it were the only one. -/
theorem mapEach_eq_filterMap (h : (s.mapEach override tag streams attachments).2 = .ok ms) :
    ms = attachments.filterMap (s.resolve? override tag streams) := by
  induction attachments generalizing s ms with
  | nil => exact (Except.ok.inj h).symm
  | cons x rest ih =>
      obtain ⟨first, others, hfirst, hothers, -, rfl⟩ := mapEach_cons_eq_ok h
      rw [ih hothers, resolve?_mapKnown, mapKnown_eq_ok hfirst]
      cases hx : s.resolve? override tag streams x <;> simp [hx]

end Store

/-- The buffers of an admission are those of the request that became something in the
store, each by itself. -/
structure Admission.IsResolvedIn {σ : Type} (a : Admission) (E : Engine σ) (streams : List Stream)
    (r : CaptureRequest) (s : Store) : Prop where
  outputs : a.outputs.getD [] = r.outputs.filterMap (s.resolve? E.overrideFormat a.tag streams)
  inputs : a.inputs.getD [] = r.inputs.filterMap (s.resolve? E.overrideFormat a.tag streams)

theorem Admission.MadeFrom.isResolvedIn {σ : Type} {E : Engine σ} {frame : UInt32} {p : Pipeline}
    {r : CaptureRequest} {s t : Store} {a : Admission} (h : a.MadeFrom E frame p r s t) :
    a.IsResolvedIn E p.streams r s where
  outputs := Store.mapEach_eq_filterMap (Store.mapAll_eq_ok h.outputs)
  inputs := by
    have hinputs := Store.mapEach_eq_filterMap (Store.mapAll_eq_ok h.inputs)
    rwa [s.mapAll_fst, Store.resolve?_mapEach (Store.mapAll_eq_ok h.outputs)] at hinputs

end VirtualCamera
