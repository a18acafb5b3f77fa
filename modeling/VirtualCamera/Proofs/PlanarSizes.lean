import VirtualCamera.Proofs.Transition

/-!
# Sizes of planar images

A planar lock adds up the sizes of its planes in 64-bit words.  The two products
are always exact (`Planar.toNat_lumaSize`, `Planar.toNat_chromaSize`), but their
sum need not be a word.  The lock decides rightly for the images whose exact size
is one, and stops its thread for all others (`Memory.lockPlanar?_of_fits`,
`Memory.lockPlanar?_of_not_fits`).

Nothing else crashes while buffers are mapped, whatever the store is like: what
decides is the streams of the buffers alone, up to a whole request
(`Camera.mapRequest_eq_error_iff`).
-/

namespace VirtualCamera

/-! ## Exact sizes -/

namespace Planar

/-- The bytes of a planar image, as an exact number. -/
def bytes (width height : UInt32) : Nat :=
  width.toNat * height.toNat + 2 * ((width.toNat + 1) / 2 * ((height.toNat + 1) / 2))

/-- Images whose size is a 64-bit word. -/
def Fits (width height : UInt32) : Prop :=
  bytes width height < 2 ^ 64

instance (width height : UInt32) : Decidable (Fits width height) :=
  inferInstanceAs (Decidable (_ < _))

theorem toNat_halfUp (n : UInt32) : (halfUp n.toUInt64).toNat = (n.toNat + 1) / 2 := by
  have hlt := n.toNat_lt
  rw [halfUp, UInt64.toNat_add, UInt64.toNat_div, UInt64.toNat_mod, UInt32.toNat_toUInt64,
    show UInt64.toNat 2 = 2 from rfl]
  omega

theorem toNat_lumaSize (width height : UInt32) :
    (ofSize width height).lumaSize.toNat = width.toNat * height.toNat := by
  have hle : width.toNat * height.toNat ≤ (2 ^ 32 - 1) * (2 ^ 32 - 1) :=
    Nat.mul_le_mul (Nat.le_pred_of_lt width.toNat_lt) (Nat.le_pred_of_lt height.toNat_lt)
  rw [ofSize, UInt64.toNat_mul, UInt32.toNat_toUInt64, UInt32.toNat_toUInt64]
  exact Nat.mod_eq_of_lt (by omega)

theorem chroma_le (width height : UInt32) :
    (width.toNat + 1) / 2 * ((height.toNat + 1) / 2) ≤ 2 ^ 62 := by
  have hhalf (n : UInt32) : (n.toNat + 1) / 2 ≤ 2 ^ 31 := by
    have hlt := n.toNat_lt
    omega
  calc (width.toNat + 1) / 2 * ((height.toNat + 1) / 2)
      ≤ 2 ^ 31 * 2 ^ 31 := Nat.mul_le_mul (hhalf width) (hhalf height)
    _ = 2 ^ 62 := by decide

theorem toNat_chromaSize (width height : UInt32) :
    (ofSize width height).chromaSize.toNat =
      (width.toNat + 1) / 2 * ((height.toNat + 1) / 2) := by
  have hle := chroma_le width height
  rw [ofSize, UInt64.toNat_mul, toNat_halfUp, toNat_halfUp]
  exact Nat.mod_eq_of_lt (by omega)

theorem bytes_eq (width height : UInt32) :
    bytes width height =
      (ofSize width height).lumaSize.toNat + 2 * (ofSize width height).chromaSize.toNat := by
  rw [toNat_lumaSize, toNat_chromaSize, bytes]

/-- Images whose size is no word have bytes. -/
theorem lumaSize_ne_zero_of_not_fits {width height : UInt32} (h : ¬ Fits width height) :
    (ofSize width height).lumaSize ≠ 0 := by
  intro hzero
  have hle := chroma_le width height
  rw [Fits, bytes_eq, hzero, toNat_chromaSize] at h
  exact h (by simp only [UInt64.toNat_zero]; omega)

theorem toNat_two_mul_chromaSize (width height : UInt32) :
    (2 * (ofSize width height).chromaSize).toNat =
      2 * (ofSize width height).chromaSize.toNat := by
  have hle := chroma_le width height
  rw [← toNat_chromaSize] at hle
  rw [UInt64.toNat_mul, show UInt64.toNat 2 = 2 from rfl]
  exact Nat.mod_eq_of_lt (by omega)

/-- The planes add up to the exact size where this is a word. -/
theorem Fits.exists_total {width height : UInt32} (h : Fits width height) :
    ∃ total, (ofSize width height).total = .ok total ∧ total.toNat = bytes width height := by
  have hsum : (ofSize width height).lumaSize.toNat +
      (2 * (ofSize width height).chromaSize).toNat = bytes width height := by
    rw [toNat_two_mul_chromaSize, bytes_eq]
  have hlt : (ofSize width height).lumaSize.toNat +
      (2 * (ofSize width height).chromaSize).toNat < 2 ^ 64 := hsum ▸ h
  refine ⟨_, if_pos hlt, ?_⟩
  rw [UInt64.toNat_add, Nat.mod_eq_of_lt hlt, hsum]

theorem total_of_not_fits {width height : UInt32} (h : ¬ Fits width height) :
    (ofSize width height).total = .error .overflow := by
  rw [Fits, bytes_eq, ← toNat_two_mul_chromaSize] at h
  exact if_neg h

/-- The last plane begins where the two before it end. -/
theorem Fits.toNat_lumaSize_add {width height : UInt32} (h : Fits width height) :
    ((ofSize width height).lumaSize + (ofSize width height).chromaSize).toNat =
      (ofSize width height).lumaSize.toNat + (ofSize width height).chromaSize.toNat := by
  rw [Fits, bytes_eq] at h
  rw [UInt64.toNat_add]
  exact Nat.mod_eq_of_lt (by omega)

theorem lumaSize_eq_zero_iff {width height : UInt32} :
    (ofSize width height).lumaSize = 0 ↔ width.toNat * height.toNat = 0 := by
  rw [← UInt64.toNat_inj, toNat_lumaSize]
  rfl

end Planar

/-! ## Planar locks -/

namespace Memory

variable {m : Memory} {i : Nat} {width height : UInt32}

/-- The planar lock of an image whose size is a word. -/
theorem lockPlanar?_of_fits (m : Memory) (i : Nat) (h : Planar.Fits width height) :
    ∃ locked, m.lockPlanar? i width height = .ok locked ∧
      (locked.isSome = true ↔
        0 < width.toNat * height.toNat ∧ Planar.bytes width height ≤ m.sizeOf i) := by
  obtain ⟨total, htotal, hbytes⟩ := h.exists_total
  unfold lockPlanar?
  simp only [Planar.lumaSize_eq_zero_iff, htotal, Except.map]
  split
  · refine ⟨none, rfl, ?_⟩
    simp only [Option.isSome_none, Bool.false_eq_true, false_iff]
    omega
  · refine ⟨_, rfl, ?_⟩
    split
    · simp only [Option.isSome_none, Bool.false_eq_true, false_iff]
      omega
    · simp only [Option.isSome_some, true_iff]
      omega

theorem lockPlanar?_of_not_fits (m : Memory) (i : Nat) (h : ¬ Planar.Fits width height) :
    m.lockPlanar? i width height = .error .overflow := by
  unfold lockPlanar?
  simp only [if_neg (Planar.lumaSize_ne_zero_of_not_fits h), Planar.total_of_not_fits h]
  rfl

/-- A planar lock has an answer only for an image whose size is a word. -/
theorem fits_of_lockPlanar? {locked : Option (Memory × PlanarRegions)}
    (h : m.lockPlanar? i width height = .ok locked) : Planar.Fits width height := by
  by_contra hfits
  rw [lockPlanar?_of_not_fits m i hfits] at h
  cases h

theorem crash_of_lockPlanar? {crash : Crash} (h : m.lockPlanar? i width height = .error crash) :
    crash = .overflow ∧ ¬ Planar.Fits width height := by
  have hfits : ¬ Planar.Fits width height := fun hfits => by
    obtain ⟨locked, hlock, -⟩ := m.lockPlanar?_of_fits i hfits
    rw [hlock] at h
    cases h
  rw [lockPlanar?_of_not_fits m i hfits] at h
  exact ⟨(Except.error.inj h).symm, hfits⟩

end Memory

/-! ## Mapping -/

/-- Streams whose planes, if they have any, fit together. -/
def Stream.Fits (s : Stream) : Prop :=
  s.format.isPlanar = true → Planar.Fits s.width s.height

/-- Buffers whose streams, as far as the pipeline has them, fit. -/
def Attachment.Fits (override : PixelFormat → PixelFormat) (streams : List Stream)
    (a : Attachment) : Prop :=
  ∀ stream, Stream.find? streams a.stream = some stream → (stream.seenThrough override).Fits

/-- Requests whose buffers fit. -/
def CaptureRequest.Fits (override : PixelFormat → PixelFormat) (streams : List Stream)
    (r : CaptureRequest) : Prop :=
  ∀ a ∈ r.outputs ++ r.inputs, a.Fits override streams

namespace Store

variable {s : Store} {stream : Stream}

/-- A lock for a stream crashes if its planes do not fit together, and not otherwise. -/
theorem lockPlanes_of_not_fits (s : Store) (i : Nat) (h : ¬ stream.Fits) :
    s.lockPlanes stream i = .error (.crashed .overflow) := by
  obtain ⟨hplanar, hfits⟩ := Classical.not_imp.mp h
  rw [lockPlanes, if_pos hplanar, Memory.lockPlanar?_of_not_fits s.memory i hfits]

theorem crash_of_lockPlanes {i : Nat} {crash : Crash}
    (h : s.lockPlanes stream i = .error (.crashed crash)) :
    crash = .overflow ∧ ¬ stream.Fits := by
  unfold lockPlanes at h
  split at h
  · rename_i hplanar
    split at h
    · cases h
    · cases h
    · rename_i hlock
      cases h
      obtain ⟨hcrash, hfits⟩ := Memory.crash_of_lockPlanar? hlock
      exact ⟨hcrash, fun hstream => hfits (hstream hplanar)⟩
  · cases hpacked : s.lockPacked stream i with
    | ok locked => rw [hpacked] at h; cases h
    | error fault => rw [hpacked] at h; cases h

variable {override : PixelFormat → PixelFormat} {tag : FrameTag} {streams : List Stream}
  {a : Attachment} {attachments : List Attachment} {crash : Crash}

theorem map_of_not_fits (s : Store) (tag : FrameTag) (a : Attachment)
    (h : ¬ (stream.seenThrough override).Fits) :
    s.map override tag stream a = (s, .error (.crashed .overflow)) := by
  unfold map
  simp only [lockPlanes_of_not_fits s a.buffer h]

theorem crash_of_map (h : (s.map override tag stream a).2 = .error (.crashed crash)) :
    crash = .overflow ∧ ¬ (stream.seenThrough override).Fits := by
  unfold map at h
  simp only at h
  split at h
  · rename_i hlock
    cases h
    exact crash_of_lockPlanes hlock
  · split at h <;> cases h

theorem mapKnown_eq_error_iff :
    (s.mapKnown override tag streams a).2 = .error crash ↔
      crash = .overflow ∧ ¬ a.Fits override streams := by
  unfold mapKnown Attachment.Fits
  cases hfind : Stream.find? streams a.stream with
  | none => simp
  | some stream =>
      by_cases hfits : (stream.seenThrough override).Fits
      · have hcrash (crash : Crash) : (s.map override tag stream a).2 ≠ .error (.crashed crash) :=
          fun h => (crash_of_map h).2 hfits
        rcases hmap : s.map override tag stream a with ⟨t, ⟨fault | stopped⟩ | m⟩
        · simp [hmap, hfits]
        · exact absurd (by rw [hmap]) (hcrash stopped)
        · simp [hmap, hfits]
      · simp [map_of_not_fits s tag a hfits, hfits, eq_comm]

/-- The first buffer that does not fit is the one that stops the thread. -/
theorem mapEach_eq_error_iff :
    (s.mapEach override tag streams attachments).2 = .error crash ↔
      crash = .overflow ∧ ∃ a ∈ attachments, ¬ a.Fits override streams := by
  induction attachments generalizing s with
  | nil => simp [mapEach]
  | cons a rest ih =>
      rw [mapEach]
      by_cases hfits : a.Fits override streams
      · rcases hfirst : s.mapKnown override tag streams a with ⟨t, stopped | first⟩
        · have hcrash : (s.mapKnown override tag streams a).2 = .error stopped := by rw [hfirst]
          exact absurd hfits (mapKnown_eq_error_iff.mp hcrash).2
        · have hrest := ih (s := t)
          rcases hothers : t.mapEach override tag streams rest with ⟨u, stopped | others⟩
          · simpa [hothers, hfits] using hrest
          · simpa [hothers, hfits] using hrest
      · have hcrash : (s.mapKnown override tag streams a).2 = .error .overflow :=
          mapKnown_eq_error_iff.mpr ⟨rfl, hfits⟩
        rcases hfirst : s.mapKnown override tag streams a with ⟨t, mapped⟩
        obtain rfl : mapped = .error .overflow := by rwa [hfirst] at hcrash
        simp [hfits, eq_comm]

theorem mapAll_eq_error_iff :
    (s.mapAll override tag streams attachments).2 = .error crash ↔
      crash = .overflow ∧ ∃ a ∈ attachments, ¬ a.Fits override streams := by
  cases attachments with
  | nil => simp [mapAll]
  | cons a rest =>
      have heach : (s.mapEach override tag streams (a :: rest)).2 = .error crash ↔ _ :=
        mapEach_eq_error_iff
      rw [← heach]
      rcases hmap : s.mapEach override tag streams (a :: rest) with ⟨t, stopped | ms⟩
      · simp [mapAll, hmap, Except.map]
      · simp [mapAll, hmap, Except.map]

end Store

namespace Camera

variable {σ : Type} {E : Engine σ} {c : Camera σ}

/-- A request stops its submission if one of its buffers does not fit, and that is
the only reason. -/
theorem mapRequest_eq_error_iff {frame : UInt32} {p : Pipeline} {r : CaptureRequest}
    {crash : Crash} :
    (c.mapRequest E frame p r).2 = .error crash ↔
      crash = .overflow ∧ ¬ r.Fits E.overrideFormat p.streams := by
  have hnot : ¬ r.Fits E.overrideFormat p.streams ↔
      (∃ a ∈ r.outputs, ¬ a.Fits E.overrideFormat p.streams) ∨
        ∃ a ∈ r.inputs, ¬ a.Fits E.overrideFormat p.streams := by
    simp only [CaptureRequest.Fits, List.mem_append, not_forall, exists_prop, or_and_right,
      exists_or]
  rw [hnot]
  unfold mapRequest
  simp only
  rcases houtputs : c.stage.store.mapAll E.overrideFormat
      ⟨c.admitted, frame, p.id, p.camera, p.listener⟩ p.streams r.outputs with ⟨t, stopped | outputs⟩
  · obtain ⟨rfl, hout⟩ := Store.mapAll_eq_error_iff.mp (congrArg Prod.snd houtputs)
    simp [hout, eq_comm]
  · have hout : ¬ ∃ a ∈ r.outputs, ¬ a.Fits E.overrideFormat p.streams := fun hout => by
      cases (congrArg Prod.snd houtputs).symm.trans (Store.mapAll_eq_error_iff.mpr ⟨rfl, hout⟩)
    rw [or_iff_right hout]
    rcases hinputs : t.mapAll E.overrideFormat
        ⟨c.admitted, frame, p.id, p.camera, p.listener⟩ p.streams r.inputs with ⟨u, stopped | inputs⟩
    · obtain ⟨rfl, hin⟩ := Store.mapAll_eq_error_iff.mp (congrArg Prod.snd hinputs)
      simp [hinputs, hin, eq_comm]
    · have hin : ¬ ∃ a ∈ r.inputs, ¬ a.Fits E.overrideFormat p.streams := fun hin => by
        cases (congrArg Prod.snd hinputs).symm.trans (Store.mapAll_eq_error_iff.mpr ⟨rfl, hin⟩)
      simp [hinputs, hin]

theorem fits_of_mapRequest {frame : UInt32} {p : Pipeline} {r : CaptureRequest} {store : Store}
    {a : Admission} (h : c.mapRequest E frame p r = (store, .ok a)) :
    r.Fits E.overrideFormat p.streams := by
  by_contra hnot
  have hcrash : (c.mapRequest E frame p r).2 = .error .overflow :=
    mapRequest_eq_error_iff.mpr ⟨rfl, hnot⟩
  cases hcrash.symm.trans (congrArg Prod.snd h)

end Camera

end VirtualCamera
