import VirtualCamera.Importer
import VirtualCamera.Proofs.Painting
import VirtualCamera.Proofs.PlanarSizes

/-!
# Regions stay inside their buffers

A lock decides by the exact number of bytes that it is asked for.  Planar images
whose size is no 64-bit word have no answer: the lock stops its thread
(`Memory.lockPlanar?_of_fits`, `Memory.lockPlanar?_of_not_fits`).

Nothing changes the size of a buffer (`Memory.SameSizes`), so a region that was
inside its buffer when it was handed out is inside it whenever it is used.  What
a step of the importer keeps is that all it handed out is inside
(`Importer.Safe`): then no write and no painting stops its thread, and by
induction over the uses none ever does.  The same holds of a camera and the
buffers of its requests (`Camera.KeepsInside`).
-/

namespace VirtualCamera

/-! ## What a lock hands out -/

namespace Region

/-- Regions without a byte in common. -/
def Apart (r s : Region) : Prop :=
  r.buffer = s.buffer → ∀ position, ¬ (r.covers position = true ∧ s.covers position = true)

theorem apart_of_le {r s : Region} (h : r.offset + r.size ≤ s.offset) : r.Apart s := by
  intro _ position hboth
  simp only [covers, Bool.and_eq_true, decide_eq_true_eq] at hboth
  omega

end Region

namespace Memory

variable {m n : Memory} {i : Nat} {width height size : UInt32}

theorem holds_iff {r : Region} : m.holds r = true ↔ r.offset + r.size ≤ m.sizeOf r.buffer := by
  simp [holds]

theorem isSome_lock?_iff :
    (m.lock? i size).isSome = true ↔ 0 < size.toNat ∧ size.toNat ≤ m.sizeOf i := by
  have hzero : size = 0 ↔ size.toNat = 0 := by
    rw [← UInt32.toNat_inj]
    rfl
  unfold lock?
  simp only [hzero]
  split
  · simp only [Option.isSome_none, Bool.false_eq_true, false_iff]
    omega
  · simp only [Option.isSome_some, true_iff]
    omega

theorem holds_of_lock? {r : Region} (h : m.lock? i size = some (n, r)) : m.holds r = true := by
  have hfits := (isSome_lock?_iff.mp (by rw [h]; rfl)).2
  obtain ⟨-, rfl⟩ := lock?_eq_some h
  rw [holds_iff, Nat.zero_add]
  exact hfits

end Memory

/-- The planes of a planar lock: inside their buffer, and one after the other. -/
structure PlanarRegions.AreInside (p : PlanarRegions) (m : Memory) : Prop where
  luma : m.holds p.luma = true
  cb : m.holds p.cb = true
  cr : m.holds p.cr = true
  lumaCb : p.luma.Apart p.cb
  lumaCr : p.luma.Apart p.cr
  cbCr : p.cb.Apart p.cr

namespace Memory

theorem areInside_of_lockPlanar? {m n : Memory} {i : Nat} {width height : UInt32}
    {p : PlanarRegions} (h : m.lockPlanar? i width height = .ok (some (n, p))) :
    p.AreInside m := by
  have hfits := fits_of_lockPlanar? h
  obtain ⟨locked, hlock, hsome⟩ := m.lockPlanar?_of_fits i hfits
  obtain rfl := Except.ok.inj (hlock.symm.trans h)
  have hsize := (hsome.mp rfl).2
  rw [Planar.bytes_eq] at hsize
  obtain ⟨-, hluma, hcb, hcr⟩ := lockPlanar?_eq_some h
  rw [hfits.toNat_lumaSize_add] at hcr
  constructor
  case luma | cb | cr =>
      rw [holds_iff]
      simp only [hluma, hcb, hcr]
      omega
  case lumaCb | lumaCr | cbCr =>
      apply Region.apart_of_le
      simp only [hluma, hcb, hcr]
      omega

/-! ## Sizes do not change -/

/-- Memories with the same buffers, as far as their sizes go. -/
def SameSizes (m n : Memory) : Prop :=
  ∀ i, n.sizeOf i = m.sizeOf i

section SameSizes

variable {l m n : Memory}

theorem SameSizes.refl (m : Memory) : m.SameSizes m := fun _ => rfl

theorem SameSizes.trans (h : l.SameSizes m) (h' : m.SameSizes n) : l.SameSizes n :=
  fun i => (h' i).trans (h i)

theorem SameSizes.symm (h : m.SameSizes n) : n.SameSizes m :=
  fun i => (h i).symm

theorem SameSizes.holds_eq (h : m.SameSizes n) (r : Region) : n.holds r = m.holds r := by
  rw [holds, holds, h r.buffer]

theorem sameSizes_update {i : Nat} {f : Buffer → Buffer} (h : ∀ b, (f b).size = b.size) :
    m.SameSizes (m.update i f) := by
  intro j
  unfold sizeOf update
  rw [Array.getElem?_modify]
  by_cases heq : i = j
  · cases hj : m.buffers[j]? with
    | none => simp [heq]
    | some b => simp [heq, h]
  · simp [heq]

theorem sameSizes_acquire (m : Memory) (i : Nat) : m.SameSizes (m.acquire i) :=
  sameSizes_update (by intro b; rfl)

theorem sameSizes_release (m : Memory) (i : Nat) : m.SameSizes (m.release i) :=
  sameSizes_update (by intro b; rfl)

theorem SameSizes.acquire (h : l.SameSizes m) (i : Nat) : l.SameSizes (m.acquire i) :=
  h.trans (m.sameSizes_acquire i)

theorem SameSizes.release (h : l.SameSizes m) (i : Nat) : l.SameSizes (m.release i) :=
  h.trans (m.sameSizes_release i)

theorem sameSizes_mapRegion (m : Memory) (r : Region) (f : Nat → UInt8 → UInt8) :
    m.SameSizes (m.mapRegion r f) :=
  sameSizes_update (by intro b; exact Array.size_mapIdx)

theorem sameSizes_of_lock? {i : Nat} {size : UInt32} {r : Region}
    (h : m.lock? i size = some (n, r)) : m.SameSizes n := by
  obtain ⟨rfl, -⟩ := lock?_eq_some h
  exact m.sameSizes_acquire i

theorem sameSizes_of_lockPlanar? {i : Nat} {width height : UInt32} {p : PlanarRegions}
    (h : m.lockPlanar? i width height = .ok (some (n, p))) : m.SameSizes n := by
  obtain ⟨rfl, -⟩ := lockPlanar?_eq_some h
  exact m.sameSizes_acquire i

end SameSizes

end Memory

/-! ## Mapped buffers -/

/-- The planes of a mapped buffer are inside it. -/
def Planes.AreInside (m : Memory) : Planes → Prop
  | packed region _ _ => m.holds region = true
  | planar regions => regions.AreInside m

theorem Planes.AreInside.strokes {p : Planes} {m : Memory} (h : p.AreInside m) (shade : UInt8) :
    ∀ stroke ∈ p.strokes shade, m.holds stroke.1 = true := by
  intro stroke hstroke
  cases p with
  | packed region stride size =>
      obtain rfl := List.mem_singleton.mp hstroke
      exact h
  | planar regions =>
      simp only [Planes.strokes, List.mem_cons, List.not_mem_nil, or_false] at hstroke
      rcases hstroke with rfl | rfl | rfl
      · exact h.luma
      · exact h.cb
      · exact h.cr

theorem Planes.AreInside.congr {p : Planes} {m n : Memory} (h : p.AreInside m)
    (hsizes : m.SameSizes n) : p.AreInside n := by
  cases p with
  | packed region stride size => exact (hsizes.holds_eq region).trans h
  | planar regions =>
      exact { h with
        luma := (hsizes.holds_eq _).trans h.luma
        cb := (hsizes.holds_eq _).trans h.cb
        cr := (hsizes.holds_eq _).trans h.cr }

namespace Store

variable {s t : Store} {stream : Stream}

theorem areInside_of_lockPlanes {i : Nat} {planes : Planes}
    (h : s.lockPlanes stream i = .ok (t, planes)) : planes.AreInside s.memory := by
  rcases lockPlanes_cases h with ⟨regions, hplanar, hlock, -, rfl⟩ | ⟨_, region, hlock, -, rfl⟩
  · exact Memory.areInside_of_lockPlanar? hlock
  · exact Memory.holds_of_lock? hlock

variable {override : PixelFormat → PixelFormat} {tag : FrameTag} {a : Attachment} {m : Mapping}

theorem sameSizes_map (s : Store) (override : PixelFormat → PixelFormat) (tag : FrameTag)
    (stream : Stream) (a : Attachment) :
    s.memory.SameSizes (s.map override tag stream a).1.memory :=
  map_induct (P := fun t => s.memory.SameSizes t.memory) (.refl _)
    (fun _ i ht => ht.acquire i) (fun _ i ht => ht.release i) stream a

theorem areInside_of_map (h : (s.map override tag stream a).2 = .ok m) :
    m.planes.AreInside s.memory := by
  obtain ⟨t, planes, hlock, rfl⟩ := map_eq_ok h
  exact areInside_of_lockPlanes hlock

theorem sameSizes_mapKnown (s : Store) (override : PixelFormat → PixelFormat) (tag : FrameTag)
    (streams : List Stream) (a : Attachment) :
    s.memory.SameSizes (s.mapKnown override tag streams a).1.memory :=
  mapKnown_induct (P := fun t => s.memory.SameSizes t.memory) (.refl _)
    (fun _ i ht => ht.acquire i) (fun _ i ht => ht.release i) a

theorem sameSizes_mapAll (s : Store) (override : PixelFormat → PixelFormat) (tag : FrameTag)
    (streams : List Stream) (attachments : List Attachment) :
    s.memory.SameSizes (s.mapAll override tag streams attachments).1.memory :=
  mapAll_induct (P := fun t => s.memory.SameSizes t.memory) (.refl _)
    (fun _ i ht => ht.acquire i) (fun _ i ht => ht.release i) attachments

theorem areInside_of_mem_mapEach {streams : List Stream} {attachments : List Attachment}
    {ms : List Mapping} (h : (s.mapEach override tag streams attachments).2 = .ok ms)
    (hm : m ∈ ms) : m.planes.AreInside s.memory := by
  induction attachments generalizing s ms with
  | nil =>
      cases h
      cases hm
  | cons a rest ih =>
      obtain ⟨first, others, hfirst, hothers, -, rfl⟩ := mapEach_cons_eq_ok h
      rw [List.mem_append, Option.mem_toList] at hm
      rcases hm with rfl | hm
      · obtain ⟨stream, -, hmap⟩ := exists_map_of_mapKnown hfirst
        exact areInside_of_map hmap
      · exact (ih hothers hm).congr (s.sameSizes_mapKnown override tag streams a).symm

/-! ### Painting -/

theorem foldlM_write {strokes : List (Region × UInt8)} {m : Memory}
    (h : ∀ stroke ∈ strokes, m.holds stroke.1 = true) :
    strokes.foldlM (fun m stroke => m.write stroke.1 fun _ _ => stroke.2) m =
      .ok (strokes.foldl (fun m stroke => m.fill stroke.1 stroke.2) m) := by
  induction strokes generalizing m with
  | nil => rfl
  | cons stroke rest ih =>
      have hfirst : m.write stroke.1 (fun _ _ => stroke.2) = .ok (m.fill stroke.1 stroke.2) :=
        if_pos (h stroke List.mem_cons_self)
      rw [List.foldlM_cons, hfirst]
      refine ih fun other hother => ?_
      rw [Memory.fill, (m.sameSizes_mapRegion stroke.1 _).holds_eq]
      exact h other (List.mem_cons_of_mem _ hother)

/-- Painting a mapping whose planes are inside their buffer does not stop. -/
theorem paintWithin_eq_ok (h : m.planes.AreInside s.memory) (shade : UInt8) :
    s.paintWithin m shade = .ok (s.paint m shade) := by
  rw [paintWithin, foldlM_write (h.strokes shade)]
  rfl

theorem sameSizes_paint (s : Store) (m : Mapping) (shade : UInt8) :
    s.memory.SameSizes (s.paint m shade).memory := by
  unfold paint
  simp only
  generalize m.planes.strokes shade = strokes
  generalize s.memory = memory
  induction strokes generalizing memory with
  | nil => exact .refl _
  | cons stroke rest ih => exact (memory.sameSizes_mapRegion stroke.1 _).trans (ih _)

end Store

/-! ## Any number of uses -/

/-- Uses that do not lock planes that do not fit together. -/
def Use.Fits : Use → Prop
  | lockPlanar _ width height => Planar.Fits width height
  | map override _ stream _ => (stream.seenThrough override).Fits
  | _ => True

namespace Importer

variable {s t : Importer}

/-- All that was handed out is inside its buffer. -/
structure Safe (s : Importer) : Prop where
  regions : ∀ r ∈ s.regions, s.store.memory.holds r = true
  mappings : ∀ m ∈ s.mappings, m.planes.AreInside s.store.memory

/-- What is handed out anew has to be inside, what was handed out before stays so. -/
theorem Safe.extend (h : s.Safe) (hsizes : s.store.memory.SameSizes t.store.memory)
    (hregions : ∀ r ∈ t.regions, r ∈ s.regions ∨ s.store.memory.holds r = true)
    (hmappings : ∀ m ∈ t.mappings, m ∈ s.mappings ∨ m.planes.AreInside s.store.memory) :
    t.Safe := by
  constructor
  case regions =>
      intro r hr
      rw [hsizes.holds_eq]
      rcases hregions r hr with hold | hnew
      · exact h.regions r hold
      · exact hnew
  case mappings =>
      intro m hm
      rcases hmappings m hm with hold | hnew
      · exact (h.mappings m hold).congr hsizes
      · exact hnew.congr hsizes

theorem Safe.lock (h : s.Safe) (buffer : Nat) (size : UInt32) :
    (s.lock buffer size).1.Safe ∧
      s.store.memory.SameSizes (s.lock buffer size).1.store.memory := by
  unfold Importer.lock
  cases hlock : s.store.memory.lock? buffer size with
  | none => exact ⟨h, .refl _⟩
  | some locked =>
      obtain ⟨memory, r⟩ := locked
      have hsizes := Memory.sameSizes_of_lock? hlock
      refine ⟨h.extend hsizes (fun other hother => ?_) (fun m hm => .inl hm), hsizes⟩
      rcases Array.mem_push.mp hother with hold | rfl
      · exact .inl hold
      · exact .inr (Memory.holds_of_lock? hlock)

theorem Safe.lockPlanar {width height : UInt32} (h : s.Safe) (buffer : Nat)
    (hfits : Planar.Fits width height) :
    ∃ t answer, s.lockPlanar buffer width height = .ok (t, answer) ∧ t.Safe ∧
      s.store.memory.SameSizes t.store.memory := by
  obtain ⟨locked, hlock, -⟩ := s.store.memory.lockPlanar?_of_fits buffer hfits
  cases locked with
  | none =>
      refine ⟨s, none, ?_, h, .refl _⟩
      rw [Importer.lockPlanar, hlock]
      rfl
  | some locked =>
      obtain ⟨memory, p⟩ := locked
      have hsizes := Memory.sameSizes_of_lockPlanar? hlock
      have hp := Memory.areInside_of_lockPlanar? hlock
      refine ⟨{ s.withMemory memory with regions := s.regions ++ #[p.luma, p.cb, p.cr] }, some p,
        ?_, h.extend hsizes (fun other hother => ?_) (fun m hm => .inl hm), hsizes⟩
      · rw [Importer.lockPlanar, hlock]
        rfl
      · simp only [Array.mem_append, List.mem_toArray, List.mem_cons, List.not_mem_nil,
          or_false] at hother
        rcases hother with hold | rfl | rfl | rfl
        · exact .inl hold
        · exact .inr hp.luma
        · exact .inr hp.cb
        · exact .inr hp.cr

theorem Safe.map {override : PixelFormat → PixelFormat} {stream : Stream} (h : s.Safe)
    (hfits : (stream.seenThrough override).Fits) (tag : FrameTag) (a : Attachment) :
    ∃ t answer, s.map override tag stream a = .ok (t, answer) ∧ t.Safe ∧
      s.store.memory.SameSizes t.store.memory := by
  have hsizes := s.store.sameSizes_map override tag stream a
  unfold Importer.map
  rcases hmap : s.store.map override tag stream a with ⟨store, ⟨fault | crash⟩ | m⟩
  · rw [hmap] at hsizes
    exact ⟨_, _, rfl, h.extend hsizes (fun r hr => .inl hr) (fun m hm => .inl hm), hsizes⟩
  · have hcrash : (s.store.map override tag stream a).2 = .error (.crashed crash) := by rw [hmap]
    exact absurd hfits (Store.crash_of_map hcrash).2
  · rw [hmap] at hsizes
    refine ⟨_, _, rfl, h.extend hsizes (fun r hr => .inl hr) (fun other hother => ?_), hsizes⟩
    rcases Array.mem_push.mp hother with hold | rfl
    · exact .inl hold
    · have hm : (s.store.map override tag stream a).2 = .ok other := by rw [hmap]
      exact .inr (Store.areInside_of_map hm)

/-- A use succeeds if all that was handed out is inside, and keeps it so. -/
theorem Safe.step {use : Use} (h : s.Safe) (hfits : use.Fits) :
    ∃ t, s.step use = .ok t ∧ t.Safe ∧ s.store.memory.SameSizes t.store.memory := by
  have still (t : Importer) (hsizes : s.store.memory.SameSizes t.store.memory)
      (hregions : t.regions = s.regions) (hmappings : t.mappings = s.mappings) : t.Safe :=
    h.extend hsizes (fun r hr => .inl (hregions ▸ hr)) (fun m hm => .inl (hmappings ▸ hm))
  cases use with
  | lock buffer size => exact ⟨_, rfl, h.lock buffer size⟩
  | lockPlanar buffer width height =>
      obtain ⟨t, answer, hlock, ht⟩ := h.lockPlanar buffer hfits
      refine ⟨t, ?_, ht⟩
      rw [Importer.step, hlock]
      rfl
  | map override tag stream a =>
      obtain ⟨t, answer, hmap, ht⟩ := h.map hfits tag a
      refine ⟨t, ?_, ht⟩
      rw [Importer.step, hmap]
      rfl
  | unlock buffer =>
      have hsizes := s.store.memory.sameSizes_release buffer
      exact ⟨_, rfl, still _ hsizes rfl rfl, hsizes⟩
  | setFence i f => exact ⟨_, rfl, still _ (.refl _) rfl rfl, .refl _⟩
  | write i f =>
      cases hr : s.regions[i]? with
      | none => exact ⟨s, by simp only [Importer.step, hr], h, .refl _⟩
      | some r =>
          have hinside : s.store.memory.holds r = true := h.regions r (Array.mem_of_getElem? hr)
          have hsizes := s.store.memory.sameSizes_mapRegion r f
          refine ⟨s.withMemory (s.store.memory.mapRegion r f), ?_, still _ hsizes rfl rfl, hsizes⟩
          simp only [Importer.step, hr, Importer.write, Memory.write, if_pos hinside]
          rfl
  | paint i shade =>
      cases hm : s.mappings[i]? with
      | none => exact ⟨s, by simp only [Importer.step, hm], h, .refl _⟩
      | some m =>
          have hinside := h.mappings m (Array.mem_of_getElem? hm)
          have hsizes := s.store.sameSizes_paint m shade
          refine ⟨{ s with store := s.store.paint m shade }, ?_, still _ hsizes rfl rfl, hsizes⟩
          simp only [Importer.step, hm, Importer.paint, Store.paintWithin_eq_ok hinside shade]
          rfl

/-- A use that locks planes that do not fit together stops its thread, whatever was handed
out before. -/
theorem step_of_not_fits {use : Use} (s : Importer) (h : ¬ use.Fits) :
    s.step use = .error .overflow := by
  cases use with
  | lockPlanar buffer width height =>
      rw [Importer.step, Importer.lockPlanar, Memory.lockPlanar?_of_not_fits _ _ h]
      rfl
  | map override tag stream a =>
      rw [Importer.step, Importer.map, Store.map_of_not_fits _ _ _ h]
      rfl
  | lock | unlock | write | paint | setFence => exact absurd trivial h

/-- Any number of uses: the induction over them. -/
theorem Safe.run {uses : List Use} (h : s.Safe) (hfits : ∀ use ∈ uses, use.Fits) :
    ∃ t, s.run uses = .ok t ∧ t.Safe ∧ s.store.memory.SameSizes t.store.memory := by
  induction uses generalizing s with
  | nil => exact ⟨s, rfl, h, .refl _⟩
  | cons use rest ih =>
      obtain ⟨t, hstep, ht, hfirst⟩ := h.step (hfits use List.mem_cons_self)
      obtain ⟨u, hrun, hu, hrest⟩ := ih ht fun other hother =>
        hfits other (List.mem_cons_of_mem _ hother)
      refine ⟨u, ?_, hu, hfirst.trans hrest⟩
      rw [Importer.run, List.foldlM_cons, hstep]
      exact hrun

/-- The first use that does not fit is the one that stops the run. -/
theorem Safe.run_of_not_fits {uses : List Use} (h : s.Safe) (hnot : ∃ use ∈ uses, ¬ use.Fits) :
    s.run uses = .error .overflow := by
  induction uses generalizing s with
  | nil =>
      obtain ⟨use, huse, -⟩ := hnot
      cases huse
  | cons use rest ih =>
      rw [Importer.run, List.foldlM_cons]
      by_cases hfits : use.Fits
      · obtain ⟨t, hstep, ht, -⟩ := h.step hfits
        obtain ⟨other, hmem, hother⟩ := hnot
        rw [hstep]
        rcases List.mem_cons.mp hmem with rfl | hmem
        · exact absurd hfits hother
        · exact ih ht ⟨other, hmem, hother⟩
      · rw [s.step_of_not_fits hfits]
        rfl

theorem safe_start (store : Store) : Safe { store } := by
  constructor
  · intro r hr
    cases Array.not_mem_empty r hr
  · intro m hm
    cases Array.not_mem_empty m hm

/-- What can be said of an importer that began with the store `store`. -/
structure StaysInside (store : Store) (s : Importer) : Prop where
  sizes : ∀ i, s.store.memory.sizeOf i = store.memory.sizeOf i
  regions : ∀ r ∈ s.regions, r.offset + r.size ≤ store.memory.sizeOf r.buffer
  /-- a write to a region does not stop and changes all of its bytes -/
  writes : ∀ r ∈ s.regions, ∀ f, s.store.memory.write r f = .ok (s.store.memory.mapRegion r f)
  mappings : ∀ m ∈ s.mappings, m.planes.AreInside s.store.memory
  paintings : ∀ m ∈ s.mappings, ∀ shade, s.store.paintWithin m shade = .ok (s.store.paint m shade)
  locks : ∀ i size, (s.store.memory.lock? i size).isSome = true ↔
    0 < size.toNat ∧ size.toNat ≤ store.memory.sizeOf i
  planarLocks : ∀ i width height, Planar.Fits width height →
    ∃ locked, s.store.memory.lockPlanar? i width height = .ok locked ∧
      (locked.isSome = true ↔ 0 < width.toNat * height.toNat ∧
        Planar.bytes width height ≤ store.memory.sizeOf i)
  planes : ∀ i width height m p,
    s.store.memory.lockPlanar? i width height = .ok (some (m, p)) → p.AreInside s.store.memory
  crashes : ∀ i width height, ¬ Planar.Fits width height →
    s.store.memory.lockPlanar? i width height = .error .overflow

theorem Safe.staysInside {store : Store} (h : s.Safe)
    (hsizes : store.memory.SameSizes s.store.memory) : s.StaysInside store where
  sizes := hsizes
  regions r hr := hsizes r.buffer ▸ Memory.holds_iff.mp (h.regions r hr)
  writes r hr f := if_pos (h.regions r hr)
  mappings := h.mappings
  paintings m hm := Store.paintWithin_eq_ok (h.mappings m hm)
  locks i size := by
    rw [← hsizes i]
    exact Memory.isSome_lock?_iff
  planarLocks i width height hfits := by
    rw [← hsizes i]
    exact s.store.memory.lockPlanar?_of_fits i hfits
  planes i width height m p hlock := Memory.areInside_of_lockPlanar? hlock
  crashes i width height hfits := s.store.memory.lockPlanar?_of_not_fits i hfits

end Importer

/-! ## What the sensor paints -/

theorem Admission.MadeFrom.inside {σ : Type} {E : Engine σ} {frame : UInt32} {p : Pipeline}
    {r : CaptureRequest} {s t : Store} {a : Admission} (h : a.MadeFrom E frame p r s t) :
    s.memory.SameSizes t.memory ∧ ∀ m ∈ a.mappings, m.planes.AreInside t.memory := by
  have houtput := s.sameSizes_mapAll E.overrideFormat a.tag p.streams r.outputs
  have hinput := (s.mapAll E.overrideFormat a.tag p.streams r.outputs).1.sameSizes_mapAll
    E.overrideFormat a.tag p.streams r.inputs
  rw [← h.store] at hinput
  refine ⟨houtput.trans hinput, fun m hm => ?_⟩
  rcases List.mem_append.mp hm with hm | hm
  · exact (Store.areInside_of_mem_mapEach (Store.mapAll_eq_ok h.inputs) hm).congr hinput
  · exact (Store.areInside_of_mem_mapEach (Store.mapAll_eq_ok h.outputs) hm).congr
      (houtput.trans hinput)

namespace Camera

open Sensor (Simulated)

variable {σ : Type} {E : Engine σ} {c d : Camera σ}

theorem sameSizes_perform (s : Stage σ) (speaker : Speaker) (e : Effect) :
    s.store.memory.SameSizes (s.perform speaker e).store.memory := by
  cases e with
  | tell tag event => exact .refl _
  | paint m shade => exact s.store.sameSizes_paint m shade
  | release m => exact s.store.memory.sameSizes_release m.buffer

theorem sameSizes_performAll (s : Stage σ) (speaker : Speaker) (effects : List Effect) :
    s.store.memory.SameSizes (s.performAll speaker effects).store.memory := by
  unfold Stage.performAll
  induction effects generalizing s with
  | nil => exact .refl _
  | cons e rest ih => exact (sameSizes_perform s speaker e).trans (ih _)

theorem sameSizes_settle (s : Store) (m : Mapping) :
    s.memory.SameSizes (s.settle m).1.memory := by
  unfold Store.settle
  cases s.outcome m with
  | ok => exact .refl _
  | error => exact s.memory.sameSizes_release m.buffer

theorem sameSizes_mapRequest {frame : UInt32} {p : Pipeline} {q : CaptureRequest} {store : Store}
    {mapped : Except Crash Admission} (hmap : c.mapRequest E frame p q = (store, mapped)) :
    c.stage.store.memory.SameSizes store.memory :=
  mapRequest_induct (P := fun t => c.stage.store.memory.SameSizes t.memory) (.refl _)
    (fun _ i ht => ht.acquire i) (fun _ i ht => ht.release i) hmap

/-- The mapped buffers of the requests of a camera are inside. -/
def KeepsInside (c : Camera σ) : Prop :=
  ∀ a ∈ c.requests, ∀ m ∈ a.mappings, m.planes.AreInside c.stage.store.memory

theorem KeepsInside.congr (h : c.KeepsInside) (hrequests : d.requests = c.requests)
    (hsizes : c.stage.store.memory.SameSizes d.stage.store.memory) : d.KeepsInside :=
  fun a ha m hm => (h a (hrequests ▸ ha) m hm).congr hsizes

theorem Transition.keepsInside {m : Move} (h : Transition E c m d) (hi : c.KeepsInside) :
    d.KeepsInside := by
  cases h with
  | perform | unwind | clear | report | closeEffect =>
      exact hi.congr (by simp [requests]) (sameSizes_perform _ _ _)
  | awaitOutput | awaitInput =>
      exact hi.congr (by simp [requests, Occurrence.request?]) (sameSizes_settle _ _)
  | @admitOne l r i phase frame table q left p store b hc hgo hcheck hroom hmap =>
      obtain ⟨hsizes, hinside⟩ := (mapRequest_eq_ok hmap).2.inside
      intro a ha m hm
      simp only [requests, Stage.history_note, Stage.history_mk, Occurrence.request?,
        Option.toList_some] at ha
      rcases List.mem_append.mp ha with hold | hnew
      · exact (hi a hold m hm).congr hsizes
      · obtain rfl := List.mem_singleton.mp hnew
        exact hinside m hm
  | abort hc hgo hcheck hroom hmap =>
      exact hi.congr (by simp [requests, Occurrence.request?]) (sameSizes_mapRequest hmap)
  | sensor hs =>
      obtain ⟨sensor, effects, -, rfl⟩ := Stage.sensorStep?_eq_some hs
      exact hi.congr (by simp [requests]) (sameSizes_performAll _ _ _)
  | _ => exact hi.congr (by simp [requests, Occurrence.request?, begin, paced]) (.refl _)

theorem Reachable.keepsInside {sensor : σ} (hc : Reachable E sensor c) : c.KeepsInside :=
  hc.induct (fun _ _ _ a ha => by simp [requests, Stage.history] at ha)
    fun _ h hi => h.keepsInside hi

/-- A step that paints does not reach beyond the buffer that it paints. -/
theorem Reachable.paintWithin_of_step {c d : Camera Simulated} {period : Nat} {m : Move}
    (hc : Reachable Simulated.engine { period } c) (h : c.step? Simulated.engine m = some d) :
    d.paints = c.paints ∨ ∃ k shade, d.paints = c.paints ++ [k] ∧
      c.stage.store.paintWithin k shade = .ok d.stage.store := by
  rcases (hc.transition h).writesOnlyPaint with ⟨hsame, -⟩ | ⟨k, shade, hpaints, hstore⟩
  · exact .inl hsame
  · refine .inr ⟨k, shade, hpaints, ?_⟩
    have hpainted : k ∈ d.paints := by simp [hpaints]
    obtain ⟨a, ha, hk, -⟩ := (hc.next h).exists_request_of_painted hpainted
    have hinside := (hc.next h).keepsInside a ha k (List.mem_append_right _ hk)
    have hsizes : c.stage.store.memory.SameSizes d.stage.store.memory :=
      hstore ▸ c.stage.store.sameSizes_paint k shade
    rw [Store.paintWithin_eq_ok (hinside.congr hsizes.symm), hstore]

/-- The camera of the two fences, just before the only step of its sensor that paints. -/
theorem fenced_reaches_painting :
    ∃ c d : Camera Simulated, Reachable Simulated.engine { period := 0 } c ∧
      c.step? Simulated.engine .sensor = some d ∧ c.paints = [] ∧
      d.paints.map (·.buffer) = [0] := by
  have hcreate : create {} ({ period := 0 } : Simulated) fenced.stage.store Sample.controls =
      .ok fenced := rfl
  have hrun : ((fenced.run? Simulated.engine (oneSignals.take 18)).bind fun c =>
      (c.step? Simulated.engine .sensor).map fun d =>
        (c.paints.map (·.buffer), d.paints.map (·.buffer))) = some ([], [0]) := by
    decide +kernel
  obtain ⟨c, hc, hmap⟩ := Option.bind_eq_some_iff.mp hrun
  obtain ⟨d, hd, heq⟩ := Option.map_eq_some_iff.mp hmap
  obtain ⟨hbefore, hafter⟩ := Prod.mk.inj heq
  exact ⟨c, d, (Reachable.created hcreate).run? hc, hd, List.map_eq_nil_iff.mp hbefore, hafter⟩

end Camera

namespace Importer

open Sensor (Simulated)

/-- Whatever the importer is used for, a run stops over the first lock of planes that do
not fit together, and nothing else stops it.  Without such a lock no buffer changes its
size, and all regions that are handed out are inside their buffers, so that writes to them
and paintings change all their bytes.  A lock succeeds if its size is at least one byte
and no more than there are, a planar one likewise for the exact number of bytes, and its
three planes have no byte in common.  Cameras map their buffers in this way: those of their
requests stay inside, and no painting of the simulated sensor reaches beyond them. -/
theorem regions_stay_inside (store : Store) (uses : List Use) (period : Nat)
    (c : Camera Simulated) :
    ((∃ use ∈ uses, ¬ use.Fits) ∧ ({ store } : Importer).run uses = .error .overflow ∨
      (∀ use ∈ uses, use.Fits) ∧
        ∃ s, ({ store } : Importer).run uses = .ok s ∧ s.StaysInside store) ∧
      (Camera.Reachable Simulated.engine { period } c →
        (∀ a ∈ c.requests, ∀ m ∈ a.mappings, m.planes.AreInside c.stage.store.memory) ∧
          ∀ move d, c.step? Simulated.engine move = some d →
            d.paints = c.paints ∨ ∃ m shade, d.paints = c.paints ++ [m] ∧
              c.stage.store.paintWithin m shade = .ok d.stage.store) := by
  refine ⟨?_, fun hc => ⟨hc.keepsInside, fun move d h => hc.paintWithin_of_step h⟩⟩
  by_cases hnot : ∃ use ∈ uses, ¬ use.Fits
  · exact .inl ⟨hnot, (safe_start store).run_of_not_fits hnot⟩
  · have hfits : ∀ use ∈ uses, use.Fits := fun use huse =>
      Classical.not_not.mp fun hfits => hnot ⟨use, huse, hfits⟩
    obtain ⟨s, hrun, hsafe, hsizes⟩ := (safe_start store).run hfits
    exact .inr ⟨hfits, s, hrun, hsafe.staysInside hsizes⟩

namespace Sample

/-- Two buffers: a planar image of 3 by 3 pixels fits into the first, which has a
byte to spare. -/
def store : Store :=
  ⟨⟨#[Buffer.zeroed 18, Buffer.zeroed 4]⟩, #[]⟩

def planar : Stream where
  id := 0
  width := 3
  height := 3
  format := .ycbcr420
  dataspace := .unknown
  bufferSize := 0
  usage := 0
  isInput := false

/-- The locks of nineteen bytes and of the second buffer fail. -/
def uses : List Use :=
  [.lockPlanar 0 3 3, .lock 0 19, .lock 0 18, .lockPlanar 1 3 3,
    .write 2 fun k byte => byte + k.toUInt8,
    .map id ⟨0, 0, 0, 0, ⟨0, true⟩⟩ planar ⟨0, 0, none, .error⟩, .paint 0 7]

end Sample

theorem sample_regions_stay_inside :
    (∃ s, ({ store := Sample.store } : Importer).run Sample.uses = .ok s ∧
      s.regions.size = 4 ∧ s.mappings.size = 1 ∧ s.StaysInside Sample.store) ∧
      ∃ c d : Camera Simulated, Camera.Reachable Simulated.engine { period := 0 } c ∧
        c.step? Simulated.engine .sensor = some d ∧
        ∃ m shade, m.buffer = 0 ∧ d.paints = c.paints ++ [m] ∧
          c.stage.store.paintWithin m shade = .ok d.stage.store := by
  obtain ⟨c, d, hc, hstep, hbefore, hafter⟩ := Camera.fenced_reaches_painting
  obtain ⟨hruns, hcamera⟩ := regions_stay_inside Sample.store Sample.uses 0 c
  constructor
  · have hsizes : (({ store := Sample.store } : Importer).run Sample.uses).map
        (fun s => (s.regions.size, s.mappings.size)) = .ok (4, 1) := by
      decide
    rcases hruns with ⟨-, hcrash⟩ | ⟨-, s, hrun, hinside⟩
    · rw [hcrash] at hsizes
      cases hsizes
    · rw [hrun] at hsizes
      obtain ⟨hfour, hone⟩ := Prod.mk.inj (Except.ok.inj hsizes)
      exact ⟨s, hrun, hfour, hone, hinside⟩
  · rcases (hcamera hc).2 .sensor d hstep with hsame | ⟨m, shade, hm, hpainted⟩
    · rw [hsame, hbefore] at hafter
      cases hafter
    · rw [hm, hbefore] at hafter
      exact ⟨c, d, hc, hstep, m, shade, List.head_eq_of_cons_eq hafter, hm, hpainted⟩

/-- An image of 2⁶⁴ + 4 bytes does not fit into a buffer of four, but the lock stops its
thread before it comes to that. -/
theorem uncountable_planes_stop_lock :
    Planar.bytes 4294836226 2863398913 = 2 ^ 64 + 4 ∧ Sample.store.memory.sizeOf 1 = 4 ∧
      (({ store := Sample.store } : Importer).lockPlanar 1 4294836226 2863398913).map (·.2) =
        .error .overflow := by
  decide

end Importer

end VirtualCamera
