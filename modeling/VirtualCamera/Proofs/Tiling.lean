import VirtualCamera.Proofs.Regions
import VirtualCamera.Proofs.Strokes

/-!
# Planes tile their buffer

A client allocates a planar buffer with the size that `Planar.total` tells, and the
lock places the planes in it by sums of its own.  Both agree as long as the exact size
is a word: the planes then follow one another from the first byte to the last
(`Region.Tile`).

What is filled into regions that tile a buffer can be read off the regions alone
(`Region.Tile.overlay_eq`): every byte is in some region, and whichever stroke is found
to cover it has the value that the concatenation of the filled regions has there.  So
the order in which they are filled does not matter.
-/

namespace VirtualCamera

/-! ## Tilings -/

namespace Region

/-- The regions follow one another in a buffer, from one position to another. -/
def Tile (buffer : Nat) : (first last : Nat) → List Region → Prop
  | first, last, [] => first = last
  | first, last, r :: rest =>
    r.buffer = buffer ∧ r.offset = first ∧ Tile buffer (first + r.size) last rest

theorem covers_iff {r : Region} {position : Nat} :
    r.covers position = true ↔ r.offset ≤ position ∧ position < r.offset + r.size := by
  simp [covers]

/-- The bytes of filled regions, one region after the other. -/
def filling (strokes : List (Region × UInt8)) : List UInt8 :=
  strokes.flatMap fun stroke => List.replicate stroke.1.size stroke.2

section Tile

variable {buffer first last position : Nat} {strokes : List (Region × UInt8)}

theorem Tile.length_filling (h : Tile buffer first last (strokes.map Prod.fst)) :
    first + (filling strokes).length = last := by
  induction strokes generalizing first with
  | nil => exact h
  | cons stroke rest ih =>
      obtain ⟨-, -, hrest⟩ := h
      have hlength := ih hrest
      simp only [filling, List.flatMap_cons, List.length_append, List.length_replicate]
        at hlength ⊢
      omega

theorem Tile.buffer_eq (h : Tile buffer first last (strokes.map Prod.fst)) :
    ∀ stroke ∈ strokes, stroke.1.buffer = buffer := by
  induction strokes generalizing first with
  | nil => exact fun stroke hstroke => absurd hstroke List.not_mem_nil
  | cons stroke rest ih =>
      obtain ⟨hbuffer, -, hrest⟩ := h
      intro other hother
      rcases List.mem_cons.mp hother with rfl | hother
      · exact hbuffer
      · exact ih hrest other hother

theorem Tile.bounds (h : Tile buffer first last (strokes.map Prod.fst)) :
    ∀ stroke ∈ strokes, first ≤ stroke.1.offset ∧ stroke.1.offset + stroke.1.size ≤ last := by
  induction strokes generalizing first with
  | nil => exact fun stroke hstroke => absurd hstroke List.not_mem_nil
  | cons stroke rest ih =>
      have hlast := h.length_filling
      obtain ⟨-, hoffset, hrest⟩ := h
      have hlast' := hrest.length_filling
      intro other hother
      rcases List.mem_cons.mp hother with rfl | hother
      · omega
      · have hbounds := ih hrest other hother
        omega

/-- No byte is between the regions. -/
theorem Tile.exists_covers (h : Tile buffer first last (strokes.map Prod.fst))
    (hfirst : first ≤ position) (hlast : position < last) :
    ∃ stroke ∈ strokes, stroke.1.covers position = true := by
  induction strokes generalizing first with
  | nil =>
      have heq : first = last := h
      omega
  | cons stroke rest ih =>
      obtain ⟨-, hoffset, hrest⟩ := h
      by_cases hinside : position < first + stroke.1.size
      · exact ⟨stroke, List.mem_cons_self, covers_iff.mpr ⟨by omega, by omega⟩⟩
      · obtain ⟨other, hother, hcovers⟩ := ih hrest (by omega)
        exact ⟨other, List.mem_cons_of_mem _ hother, hcovers⟩

/-- A stroke that covers a byte has the value that is there when all are filled. -/
theorem Tile.getElem?_filling (h : Tile buffer first last (strokes.map Prod.fst))
    {stroke : Region × UInt8} (hstroke : stroke ∈ strokes)
    (hcovers : stroke.1.covers position = true) :
    (filling strokes)[position - first]? = some stroke.2 := by
  have hbounds := h.bounds stroke hstroke
  rw [covers_iff] at hcovers
  induction strokes generalizing first with
  | nil => cases hstroke
  | cons head rest ih =>
      obtain ⟨-, hoffset, hrest⟩ := h
      rw [filling, List.flatMap_cons, List.getElem?_append, List.length_replicate]
      rcases List.mem_cons.mp hstroke with rfl | htail
      · rw [if_pos (by omega), List.getElem?_replicate, if_pos (by omega)]
      · have hrestBounds := hrest.bounds stroke htail
        rw [if_neg (by omega), Nat.sub_sub]
        exact ih hrest htail hrestBounds

/-- Regions that tile a buffer are filled in any order. -/
theorem Tile.overlay_eq {bytes : List UInt8} {order : List (Region × UInt8)}
    (h : Tile buffer 0 bytes.length (strokes.map Prod.fst)) (horder : order.Perm strokes) :
    overlay order buffer bytes = filling strokes := by
  refine List.ext_getElem? fun position => ?_
  rw [getElem?_overlay]
  have hlength := h.length_filling
  rw [Nat.zero_add] at hlength
  rcases Nat.lt_or_ge position bytes.length with hlt | hge
  · obtain ⟨byte, hbyte⟩ : ∃ byte, bytes[position]? = some byte :=
      ⟨_, List.getElem?_eq_getElem hlt⟩
    obtain ⟨stroke, hstroke, hcovers⟩ := h.exists_covers (Nat.zero_le _) hlt
    -- the last stroke that covers the byte may be another one
    obtain ⟨other, hother⟩ : ∃ other, order.reverse.find? (fun stroke =>
        stroke.1.buffer == buffer && stroke.1.covers position) = some other := by
      rw [← Option.isSome_iff_exists, List.find?_isSome]
      refine ⟨stroke, List.mem_reverse.mpr (horder.mem_iff.mpr hstroke), ?_⟩
      simp [h.buffer_eq stroke hstroke, hcovers]
    have hmem : other ∈ strokes :=
      horder.mem_iff.mp (List.mem_reverse.mp (List.mem_of_find?_eq_some hother))
    have hfound := List.find?_some hother
    simp only [Bool.and_eq_true] at hfound
    have hvalue := h.getElem?_filling hmem hfound.2
    rw [Nat.sub_zero] at hvalue
    rw [hbyte, lastStroke?, hother, hvalue]
    rfl
  · rw [List.getElem?_eq_none hge, List.getElem?_eq_none (hlength ▸ hge)]
    rfl

end Tile

end Region

/-! ## Planar locks -/

namespace PlanarRegions

/-- The regions in the order of the planes. -/
def toList (p : PlanarRegions) : List Region :=
  [p.luma, p.cb, p.cr]

end PlanarRegions

namespace Memory

variable {m : Memory} {i : Nat} {width height : UInt32}

theorem length_contents (m : Memory) (i : Nat) : (m.contents i).length = m.sizeOf i := by
  unfold contents sizeOf
  cases m.buffers[i]? <;> rfl

/-- The planes of a lock tile as many bytes as the exact size says. -/
theorem tile_of_lockPlanar? {n : Memory} {p : PlanarRegions}
    (h : m.lockPlanar? i width height = .ok (some (n, p))) :
    Region.Tile i 0 (Planar.bytes width height) p.toList := by
  have hfits := fits_of_lockPlanar? h
  obtain ⟨-, hluma, hcb, hcr⟩ := lockPlanar?_eq_some h
  rw [hfits.toNat_lumaSize_add] at hcr
  simp only [PlanarRegions.toList, hluma, hcb, hcr, Region.Tile, Planar.bytes_eq, true_and]
  omega

theorem strides_of_lockPlanar? {n : Memory} {p : PlanarRegions}
    (h : m.lockPlanar? i width height = .ok (some (n, p))) :
    p.lumaStride.toNat = width.toNat ∧ p.chromaStride.toNat = (width.toNat + 1) / 2 := by
  simp only [lockPlanar?] at h
  split at h
  · cases h
  obtain ⟨total, -, hsome⟩ := exists_of_map_eq_ok h
  rw [Option.ite_none_left_eq_some] at hsome
  obtain ⟨-, rfl⟩ := Prod.mk.inj (Option.some.inj hsome.2)
  have hlt := width.toNat_lt
  constructor
  · exact congrArg UInt32.toNat (UInt32.toUInt32_toUInt64 width)
  · rw [UInt64.toNat_toUInt32, Planar.ofSize, Planar.toNat_halfUp]
    exact Nat.mod_eq_of_lt (by omega)

/-- Writes to the planes of a lock go well in any order, and leave each plane filled. -/
theorem exists_foldlM_write {p : PlanarRegions} {a b c : UInt8} {order : List (Region × UInt8)}
    (h : Region.Tile i 0 (m.sizeOf i) p.toList)
    (horder : order.Perm [(p.luma, a), (p.cb, b), (p.cr, c)]) :
    ∃ filled, order.foldlM (fun m stroke => m.write stroke.1 fun _ _ => stroke.2) m =
        .ok filled ∧
      filled.contents i = Region.filling [(p.luma, a), (p.cb, b), (p.cr, c)] := by
  have htile : Region.Tile i 0 (m.sizeOf i)
      ([(p.luma, a), (p.cb, b), (p.cr, c)].map Prod.fst) := h
  refine ⟨_, Store.foldlM_write fun stroke hstroke => ?_, ?_⟩
  · have hmem := horder.mem_iff.mp hstroke
    rw [holds_iff, htile.buffer_eq stroke hmem]
    exact (htile.bounds stroke hmem).2
  · rw [← length_contents] at htile
    rw [contents_foldl_fill, htile.overlay_eq horder]

/-- A buffer with the exact number of bytes of a planar image: the size that is told for
the image is that number, the image is locked, and its planes are not empty and tile the
buffer in the order luma, cb, cr, each with as many rows of its stride as it has.  When
they are filled, in any order, the buffer holds their bytes one plane after the other. -/
theorem planes_tile_their_buffer (hwidth : 0 < width.toNat) (hheight : 0 < height.toNat)
    (hfits : Planar.Fits width height) (hsize : m.sizeOf i = Planar.bytes width height) :
    (Planar.ofSize width height).total.map UInt64.toNat = .ok (m.sizeOf i) ∧
      ∃ p, m.lockPlanar? i width height = .ok (some (m.acquire i, p)) ∧
        (p.lumaStride.toNat = width.toNat ∧ p.chromaStride.toNat = (width.toNat + 1) / 2) ∧
        (p.luma.size = p.lumaStride.toNat * height.toNat ∧
          p.cb.size = p.chromaStride.toNat * ((height.toNat + 1) / 2) ∧
          p.cr.size = p.chromaStride.toNat * ((height.toNat + 1) / 2)) ∧
        (0 < p.luma.size ∧ 0 < p.cb.size ∧ 0 < p.cr.size) ∧
        Region.Tile i 0 (m.sizeOf i) p.toList ∧
        ∀ (a b c : UInt8) (order : List (Region × UInt8)),
          order.Perm [(p.luma, a), (p.cb, b), (p.cr, c)] →
          ∃ filled, order.foldlM (fun m stroke => m.write stroke.1 fun _ _ => stroke.2)
              (m.acquire i) = .ok filled ∧
            filled.contents i = List.replicate p.luma.size a ++ List.replicate p.cb.size b ++
              List.replicate p.cr.size c := by
  have hluma : 0 < width.toNat * height.toNat := Nat.mul_pos hwidth hheight
  have hchroma : 0 < (width.toNat + 1) / 2 * ((height.toNat + 1) / 2) :=
    Nat.mul_pos (by omega) (by omega)
  obtain ⟨total, htotal, hbytes⟩ := hfits.exists_total
  obtain ⟨locked, hlock, hsome⟩ := m.lockPlanar?_of_fits i hfits
  obtain ⟨⟨n, p⟩, rfl⟩ := Option.isSome_iff_exists.mp
    (hsome.mpr ⟨hluma, Nat.le_of_eq hsize.symm⟩)
  obtain ⟨rfl, hp⟩ := lockPlanar?_eq_some hlock
  have htile := hsize ▸ tile_of_lockPlanar? hlock
  obtain ⟨hlumaStride, hchromaStride⟩ := strides_of_lockPlanar? hlock
  rw [← Planar.toNat_lumaSize] at hluma
  rw [← Planar.toNat_chromaSize] at hchroma
  refine ⟨?_, p, hlock, ⟨hlumaStride, hchromaStride⟩, ?_, ?_, htile,
    fun a b c order horder => ?_⟩
  · rw [htotal, hsize, ← hbytes]
    rfl
  · rw [hlumaStride, hchromaStride, ← Planar.toNat_lumaSize, ← Planar.toNat_chromaSize]
    simp only [hp, and_self]
  · simp only [hp]
    exact ⟨hluma, hchroma, hchroma⟩
  · rw [← m.sameSizes_acquire i i] at htile
    obtain ⟨filled, hwrite, hcontents⟩ := exists_foldlM_write htile horder
    exact ⟨filled, hwrite, by simpa [Region.filling] using hcontents⟩

/-- Seventeen bytes for an image of 3 by 3 pixels: the chroma planes have two rows of two
samples each. -/
theorem odd_planes_tile_their_buffer :
    ∃ p, lockPlanar? ⟨#[Buffer.zeroed 17]⟩ 0 3 3 =
        .ok (some (acquire ⟨#[Buffer.zeroed 17]⟩ 0, p)) ∧
      p.toList.map Region.size = [9, 4, 4] ∧ Region.Tile 0 0 17 p.toList ∧
      ∃ filled, [(p.cr, 3), (p.luma, 1), (p.cb, 2)].foldlM
          (fun m stroke => m.write stroke.1 fun _ _ => stroke.2)
          (acquire ⟨#[Buffer.zeroed 17]⟩ 0) = .ok filled ∧
        filled.contents 0 = [1, 1, 1, 1, 1, 1, 1, 1, 1, 2, 2, 2, 2, 3, 3, 3, 3] := by
  have hsize : sizeOf ⟨#[Buffer.zeroed 17]⟩ 0 = Planar.bytes 3 3 := by decide
  obtain ⟨-, p, hlock, -, -, -, htile, hfill⟩ :=
    planes_tile_their_buffer (by decide) (by decide) (by decide) hsize
  obtain ⟨-, hluma, hcb, hcr⟩ := lockPlanar?_eq_some hlock
  obtain ⟨filled, hwrite, hcontents⟩ := hfill 1 2 3 [(p.cr, 3), (p.luma, 1), (p.cb, 2)]
    ((List.Perm.swap _ _ _).trans ((List.Perm.swap _ _ _).cons _))
  refine ⟨p, hlock, ?_, htile, filled, hwrite, ?_⟩
  · simp only [PlanarRegions.toList, hluma, hcb, hcr]
    decide
  · rw [hcontents, hluma, hcb, hcr]
    decide

end Memory

end VirtualCamera
