import VirtualCamera.Proofs.Regions

/-!
# When a buffer can be mapped

Mapping a buffer asks three questions, in this order: whether the stream has a
layout, whether the buffer has as many bytes as the layout needs, and whether the
fence that came with it is open.  The first answer that is no is the fault
(`Store.map_cases`), so there is one fault for each way to fail.

The lock is taken before the last question is asked.  If the answer is no it is
given back, and to give back a lock undoes taking it, in all of the memory
(`Memory.release_acquire`): as long as the count does not run over, a buffer that
cannot be mapped leaves no trace (`Store.mapping_succeeds_iff`).
-/

namespace VirtualCamera

/-! ## What a buffer needs -/

namespace Planar

theorem bytes_pos_iff {width height : UInt32} :
    0 < bytes width height ↔ 0 < width.toNat * height.toNat := by
  unfold bytes
  constructor
  · intro hbytes
    by_contra hnone
    have hzero : width.toNat = 0 ∨ height.toNat = 0 :=
      Nat.mul_eq_zero.mp (Nat.eq_zero_of_not_pos hnone)
    -- half of no columns, or of no rows, is none
    rcases hzero with hzero | hzero <;> simp [hzero] at hbytes
  · intro hluma
    omega

end Planar

namespace Extent

theorem exists_unsupported_of_fits {format : PixelFormat} {width height : UInt32}
    {extent : Option Extent} {fault : Fault}
    (h : resolve.fits format width height extent = .error fault) :
    ∃ reason, fault = .unsupported reason := by
  cases extent with
  | some extent => cases h
  | none =>
      cases h
      exact ⟨_, rfl⟩

/-- Formats without a layout, and images that are too large for one, are not
supported. -/
theorem exists_unsupported_of_ofStream {stream : Stream} {fault : Fault}
    (h : ofStream stream = .error fault) : ∃ reason, fault = .unsupported reason := by
  unfold ofStream resolve at h
  split at h
  · exact exists_unsupported_of_fits h
  · exact exists_unsupported_of_fits h
  · exact exists_unsupported_of_fits h
  · exact exists_unsupported_of_fits h
  · cases h
  · cases h
    exact ⟨_, rfl⟩

end Extent

namespace Stream

/-- The bytes that a buffer of the stream must have. -/
def needs (s : Stream) : Except Fault Nat :=
  if s.format.isPlanar then .ok (Planar.bytes s.width s.height)
  else (Extent.ofStream s).map (·.size.toNat)

/-- What was asked for when a lock fails. -/
def lockReason (s : Stream) (needed : Nat) : String :=
  if s.format.isPlanar then s!"stream {s.id} planar lock"
  else s!"stream {s.id} lock of {needed} bytes"

theorem exists_unsupported_of_needs {s : Stream} {fault : Fault} (h : s.needs = .error fault) :
    ∃ reason, fault = .unsupported reason := by
  unfold needs at h
  split at h
  · cases h
  · rcases hextent : Extent.ofStream s with other | extent
    · rw [hextent] at h
      cases h
      exact Extent.exists_unsupported_of_ofStream hextent
    · rw [hextent] at h
      cases h

end Stream

/-! ## Locks that are given back -/

namespace Memory

variable {m : Memory} {i : Nat}

theorem release_acquire (h : m.lockCount i + 1 < UInt32.size) : (m.acquire i).release i = m := by
  obtain ⟨buffers⟩ := m
  unfold release acquire update
  congr 1
  refine Array.ext_getElem? fun j => ?_
  rw [Array.getElem?_modify, Array.getElem?_modify]
  split
  · subst ‹i = j›
    cases hb : buffers[i]? with
    | none => rfl
    | some b =>
      have hlt : b.locks.toNat + 1 < UInt32.size := by simpa [lockCount, hb] using h
      have hne : b.locks + 1 ≠ 0 := by
        intro hzero
        have htoNat := congrArg UInt32.toNat hzero
        rw [UInt32.toNat_add, UInt32.toNat_one, Nat.mod_eq_of_lt hlt] at htoNat
        cases htoNat
      simp [hne]
  · rfl

end Memory

namespace Store

variable {s : Store} {override : PixelFormat → PixelFormat} {tag : FrameTag} {stream : Stream}
  {a : Attachment} {i : Nat}

/-- The buffer has the bytes that the stream needs, and these are not none. -/
def HasBytes (s : Store) (stream : Stream) (i : Nat) : Prop :=
  ∃ n, stream.needs = .ok n ∧ 0 < n ∧ n ≤ s.memory.sizeOf i

/-- The fence that came with a buffer, if any, is open. -/
def OpensFence (s : Store) (a : Attachment) : Prop :=
  ∀ i ∈ a.fence, s.fence i ≠ .closed

/-! ## The lock -/

/-- How a lock ends: without a layout, with too few bytes, or with one lock more. -/
theorem lockPlanes_trichotomy (s : Store) (hfits : stream.Fits) (i : Nat) :
    (∃ fault, stream.needs = .error fault ∧ s.lockPlanes stream i = .error (.refused fault)) ∨
      (∃ n, stream.needs = .ok n ∧ ¬ (0 < n ∧ n ≤ s.memory.sizeOf i) ∧
        s.lockPlanes stream i = .error (.refused (.lockFailed (stream.lockReason n)))) ∨
      (s.HasBytes stream i ∧ ∃ planes,
        s.lockPlanes stream i = .ok ({ s with memory := s.memory.acquire i }, planes)) := by
  by_cases hplanar : stream.format.isPlanar = true
  · have hneeds : stream.needs = .ok (Planar.bytes stream.width stream.height) := if_pos hplanar
    obtain ⟨locked, hlock, hsome⟩ := s.memory.lockPlanar?_of_fits i (hfits hplanar)
    rw [← Planar.bytes_pos_iff] at hsome
    simp only [lockPlanes, if_pos hplanar, hlock]
    cases locked with
    | none =>
        refine .inr (.inl ⟨_, hneeds, fun henough => ?_, ?_⟩)
        · cases hsome.mpr henough
        · simp only [Stream.lockReason, if_pos hplanar]
    | some locked =>
        obtain ⟨memory, regions⟩ := locked
        obtain ⟨rfl, -⟩ := Memory.lockPlanar?_eq_some hlock
        exact .inr (.inr ⟨⟨_, hneeds, hsome.mp rfl⟩, _, rfl⟩)
  · rcases hextent : Extent.ofStream stream with fault | extent
    · have hneeds : stream.needs = .error fault := by
        rw [Stream.needs, if_neg hplanar, hextent]
        rfl
      refine .inl ⟨fault, hneeds, ?_⟩
      simp only [lockPlanes, if_neg hplanar, lockPacked, hextent, bind, Except.bind]
      rfl
    · have hneeds : stream.needs = .ok extent.size.toNat := by
        rw [Stream.needs, if_neg hplanar, hextent]
        rfl
      have hsome : (s.memory.lock? i extent.size).isSome = true ↔ _ := Memory.isSome_lock?_iff
      simp only [lockPlanes, if_neg hplanar, lockPacked, hextent, bind, Except.bind]
      cases hlock : s.memory.lock? i extent.size with
      | none =>
          rw [hlock] at hsome
          refine .inr (.inl ⟨_, hneeds, fun henough => ?_, ?_⟩)
          · cases hsome.mpr henough
          · simp only [Stream.lockReason, if_neg hplanar]
            rfl
      | some locked =>
          obtain ⟨memory, region⟩ := locked
          rw [hlock] at hsome
          obtain ⟨rfl, -⟩ := Memory.lock?_eq_some hlock
          exact .inr (.inr ⟨⟨_, hneeds, hsome.mp rfl⟩, _, rfl⟩)

/-! ## The mapping -/

theorem opensFence_iff :
    (a.fence.all fun i => (s.fence i).importable) = true ↔ s.OpensFence a := by
  simp [OpensFence, Fence.importable, Option.all_eq_true]

/-- How a buffer is mapped for a frame.  A fault leaves the store as it was. -/
inductive Acquires (s : Store) (tag : FrameTag) (stream : Stream) (a : Attachment) :
    Store × Except Stop Mapping → Prop where
  | noLayout {fault : Fault} : stream.needs = .error fault →
      Acquires s tag stream a (s, .error (.refused fault))
  | noBytes {n : Nat} : stream.needs = .ok n → ¬ (0 < n ∧ n ≤ s.memory.sizeOf a.buffer) →
      Acquires s tag stream a (s, .error (.refused (.lockFailed (stream.lockReason n))))
  | noFence : s.HasBytes stream a.buffer → ¬ s.OpensFence a →
      Acquires s tag stream a (s, .error (.refused .fenceNotImported))
  | mapped {planes : Planes} : s.HasBytes stream a.buffer → s.OpensFence a →
      Acquires s tag stream a ({ s with memory := s.memory.acquire a.buffer }, .ok {
        tag, planes
        width := stream.width
        height := stream.height
        format := stream.format
        dataspace := stream.dataspace
        isInput := stream.isInput
        attachment := { a with status := .error }
        fence := a.fence })

theorem acquires_map (hfits : (stream.seenThrough override).Fits)
    (hroom : s.lockCount a.buffer + 1 < UInt32.size) :
    s.Acquires tag (stream.seenThrough override) a (s.map override tag stream a) := by
  rcases s.lockPlanes_trichotomy hfits a.buffer with
    ⟨fault, hneeds, hlock⟩ | ⟨n, hneeds, htoo, hlock⟩ | ⟨hbytes, planes, hlock⟩
  · simp only [map, hlock]
    exact .noLayout hneeds
  · simp only [map, hlock]
    exact .noBytes hneeds htoo
  · -- the fence is looked at in the locked store, which has the same fences
    have hopens : (a.fence.all fun i =>
        (Store.fence { s with memory := s.memory.acquire a.buffer } i).importable) = true ↔
          s.OpensFence a := opensFence_iff
    simp only [map, hlock]
    by_cases hopen : s.OpensFence a
    · rw [if_pos (hopens.mpr hopen)]
      exact .mapped hbytes hopen
    · rw [if_neg (mt hopens.mp hopen), release, Memory.release_acquire hroom]
      exact .noFence hbytes hopen

variable {p : Store × Except Stop Mapping}

theorem Acquires.isOk_iff (h : s.Acquires tag stream a p) :
    (∃ m, p.2 = .ok m) ↔ s.HasBytes stream a.buffer ∧ s.OpensFence a := by
  cases h with
  | noLayout hneeds => simp [HasBytes, hneeds]
  | noBytes hneeds htoo =>
      have hnone : ¬ s.HasBytes stream a.buffer := by
        rintro ⟨n, hn, henough⟩
        cases hneeds.symm.trans hn
        exact htoo henough
      simp [hnone]
  | noFence hbytes hclosed => simp [hclosed]
  | mapped hbytes hopen => simp [hbytes, hopen]

theorem Acquires.error_cases {stop : Stop} (h : s.Acquires tag stream a p)
    (hstop : p.2 = .error stop) :
    p.1 = s ∧ ∃ fault, stop = .refused fault ∧
      (stream.needs = .error fault ∧ (∃ reason, fault = .unsupported reason) ∨
        (∃ n, stream.needs = .ok n ∧ ¬ (0 < n ∧ n ≤ s.memory.sizeOf a.buffer) ∧
          fault = .lockFailed (stream.lockReason n)) ∨
        s.HasBytes stream a.buffer ∧ ¬ s.OpensFence a ∧ fault = .fenceNotImported) := by
  cases h with
  | noLayout hneeds =>
      cases hstop
      exact ⟨rfl, _, rfl, .inl ⟨hneeds, Stream.exists_unsupported_of_needs hneeds⟩⟩
  | noBytes hneeds htoo =>
      cases hstop
      exact ⟨rfl, _, rfl, .inr (.inl ⟨_, hneeds, htoo, rfl⟩)⟩
  | noFence hbytes hclosed =>
      cases hstop
      exact ⟨rfl, _, rfl, .inr (.inr ⟨hbytes, hclosed, rfl⟩)⟩
  | mapped => cases hstop

theorem Acquires.eq_ok {m : Mapping} (h : s.Acquires tag stream a p) (hm : p.2 = .ok m) :
    p.1 = { s with memory := s.memory.acquire a.buffer } ∧ s.HasBytes stream a.buffer ∧
      m.attachment = { a with status := .error } := by
  cases h with
  | mapped hbytes =>
      cases hm
      exact ⟨rfl, hbytes, rfl⟩
  | noLayout | noBytes | noFence => cases hm

theorem HasBytes.hasRoom (h : s.HasBytes stream i) (hroom : s.lockCount i + 1 < UInt32.size) :
    s.memory.hasRoom i = true := by
  obtain ⟨n, -, hpos, hle⟩ := h
  unfold Memory.sizeOf at hle
  unfold lockCount Memory.lockCount at hroom
  unfold Memory.hasRoom
  cases hb : s.memory.buffers[i]? with
  | none =>
      rw [hb] at hle
      exact absurd hle (Nat.not_le_of_gt hpos)
  | some b => simpa [hb] using hroom

/-- A buffer is mapped precisely if it has the bytes that its stream needs and its fence
is open.  Then it is locked once more, and to release it gives back the store as it was;
nothing else has changed.  If it is not mapped, it was refused with the fault of the first
of the three questions that has the wrong answer, and the store is as it was. -/
theorem mapping_succeeds_iff (s : Store) (tag : FrameTag) (a : Attachment)
    (hfits : (stream.seenThrough override).Fits) (hroom : s.lockCount a.buffer + 1 < UInt32.size) :
    ((∃ m, (s.map override tag stream a).2 = .ok m) ↔
        s.HasBytes (stream.seenThrough override) a.buffer ∧ s.OpensFence a) ∧
      (∀ stop, (s.map override tag stream a).2 = .error stop →
        (s.map override tag stream a).1 = s ∧ ∃ fault, stop = .refused fault ∧
          ((stream.seenThrough override).needs = .error fault ∧
              (∃ reason, fault = .unsupported reason) ∨
            (∃ n, (stream.seenThrough override).needs = .ok n ∧
              ¬ (0 < n ∧ n ≤ s.memory.sizeOf a.buffer) ∧
              fault = .lockFailed ((stream.seenThrough override).lockReason n)) ∨
            s.HasBytes (stream.seenThrough override) a.buffer ∧ ¬ s.OpensFence a ∧
              fault = .fenceNotImported)) ∧
      ∀ m, (s.map override tag stream a).2 = .ok m →
        m.attachment = { a with status := .error } ∧
          (∀ i, (s.map override tag stream a).1.lockCount i =
            s.lockCount i + if a.buffer = i then 1 else 0) ∧
          (∀ i, (s.map override tag stream a).1.memory.contents i = s.memory.contents i) ∧
          (s.map override tag stream a).1.fences = s.fences ∧
          (s.map override tag stream a).1.release m.buffer = s := by
  have hacquires : s.Acquires tag _ a (s.map override tag stream a) := acquires_map hfits hroom
  refine ⟨hacquires.isOk_iff, fun stop hstop => hacquires.error_cases hstop, fun m hm => ?_⟩
  obtain ⟨hstore, hbytes, hattachment⟩ := hacquires.eq_ok hm
  have hbuffer : m.buffer = a.buffer := (congrArg Attachment.buffer hattachment :)
  rw [hstore]
  refine ⟨hattachment, fun i => Memory.lockCount_acquire (hbytes.hasRoom hroom) i,
    fun i => Memory.contents_acquire _ _ i, rfl, ?_⟩
  rw [hbuffer, release, Memory.release_acquire hroom]

/-- Eighteen bytes that are locked twice, an open fence and a closed one. -/
def lockedTwice : Store :=
  ⟨⟨#[{ Buffer.zeroed 18 with locks := 2 }]⟩, #[.pending, .closed]⟩

/-- An input of 3 by 3 pixels that the sensor reads as planar: seventeen bytes. -/
def privateInput : Stream where
  id := 0
  width := 3
  height := 3
  format := .implementationDefined
  dataspace := .unknown
  bufferSize := 0
  usage := 0
  isInput := true

def privateTag : FrameTag :=
  ⟨0, 7, 0, 0, ⟨0, true⟩⟩

/-- The buffer is mapped with the open fence; with the closed one it stays as it was. -/
theorem private_input_is_mapped_with_open_fence :
    (∃ m, (lockedTwice.map .asInput privateTag privateInput ⟨0, 0, some 0, .ok⟩).2 = .ok m ∧
      m.attachment.status = .error ∧
      (lockedTwice.map .asInput privateTag privateInput ⟨0, 0, some 0, .ok⟩).1.lockCount 0 = 3) ∧
      lockedTwice.map .asInput privateTag privateInput ⟨0, 0, some 1, .ok⟩ =
        (lockedTwice, .error (.refused .fenceNotImported)) := by
  have hfits : (privateInput.seenThrough .asInput).Fits := by
    intro _
    show Planar.Fits 3 3
    decide
  have hbytes : lockedTwice.HasBytes (privateInput.seenThrough .asInput) 0 :=
    ⟨17, rfl, by decide, by decide⟩
  refine ⟨?_, ?_⟩
  · have hopen : lockedTwice.OpensFence ⟨0, 0, some 0, .ok⟩ := by
      intro i hi
      obtain rfl := Option.mem_some_iff.mp hi
      decide
    obtain ⟨hmapped, -, hlocked⟩ := mapping_succeeds_iff lockedTwice privateTag
      ⟨0, 0, some 0, .ok⟩ hfits (by decide)
    obtain ⟨m, hm⟩ := hmapped.mpr ⟨hbytes, hopen⟩
    obtain ⟨hattachment, hlocks, -⟩ := hlocked m hm
    exact ⟨m, hm, by rw [hattachment], hlocks 0⟩
  · have hclosed : (lockedTwice.map .asInput privateTag privateInput ⟨0, 0, some 1, .ok⟩).2 =
        .error (.refused .fenceNotImported) := rfl
    obtain ⟨-, hfailed, -⟩ := mapping_succeeds_iff lockedTwice privateTag
      ⟨0, 0, some 1, .ok⟩ hfits (by decide)
    exact Prod.ext (hfailed _ hclosed).1 hclosed

end Store

end VirtualCamera
