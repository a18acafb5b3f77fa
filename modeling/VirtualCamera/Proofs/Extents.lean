import Mathlib.Order.Bounds.Basic
import VirtualCamera.Layout
import VirtualCamera.Limits

/-!
# Extents are exact or refused

A layout is computed in 32-bit words, and each operation gives its exact result or
none.  So the whole computation gives the numbers that unbounded arithmetic would
give, or it stops where one of them is no word.

`Exact` holds these numbers, written down without words: the stride, the size, and
what a depth image needs on the way to them.  For each format with a layout there is
one lemma that its words find the exact numbers just if all of them fit
(`Exact.FoundAs`); what `resolve` answers is read off that, in the same way for all
formats.
-/

namespace VirtualCamera

/-! ## Rounding up -/

/-- The least multiple of a step that is no less than a number. -/
def IsRoundedUp (step n m : Nat) : Prop :=
  IsLeast {k | step ∣ k ∧ n ≤ k} m

theorem isRoundedUp_self {step n : Nat} (h : step ∣ n) : IsRoundedUp step n n :=
  ⟨⟨h, Nat.le_refl n⟩, fun _ hk => hk.2⟩

theorem isRoundedUp_add {step n : Nat} (hpos : 0 < step) (h : n % step ≠ 0) :
    IsRoundedUp step n (n + (step - n % step)) := by
  have hrest : n % step < step := Nat.mod_lt n hpos
  have hn : step * (n / step) + n % step = n := Nat.div_add_mod n step
  have hnext : n + (step - n % step) = step * (n / step + 1) := by
    rw [Nat.mul_add, Nat.mul_one]
    omega
  rw [hnext]
  refine ⟨⟨Nat.dvd_mul_right _ _, by omega⟩, ?_⟩
  rintro _ ⟨⟨q, rfl⟩, hle⟩
  -- no multiple lies between `n` and the one before it
  have hlt : step * (n / step) < step * q := by omega
  exact Nat.mul_le_mul_left step (Nat.lt_of_mul_lt_mul_left hlt)

theorem exists_isRoundedUp {step : Nat} (hpos : 0 < step) (n : Nat) :
    ∃ m, IsRoundedUp step n m := by
  by_cases h : n % step = 0
  · exact ⟨n, isRoundedUp_self (Nat.dvd_of_mod_eq_zero h)⟩
  · exact ⟨_, isRoundedUp_add hpos h⟩

theorem IsRoundedUp.eq_iff {step n m k : Nat} (h : IsRoundedUp step n m) :
    IsRoundedUp step n k ↔ k = m :=
  ⟨fun hk => IsLeast.unique hk h, fun hk => hk ▸ h⟩

namespace Word

theorem roundUp?_eq_some_iff {value step result : UInt32} (hstep : step ≠ 0) :
    roundUp? value step = some result ↔
      IsRoundedUp step.toNat value.toNat result.toNat := by
  have hpos : 0 < step.toNat :=
    Nat.pos_of_ne_zero fun hzero => hstep (UInt32.toNat_inj.mp hzero)
  have hmod : value % step = 0 ↔ value.toNat % step.toNat = 0 := by
    rw [← UInt32.toNat_inj, UInt32.toNat_mod, UInt32.toNat_zero]
  unfold roundUp?
  split
  case isTrue h =>
    rw [(isRoundedUp_self (Nat.dvd_of_mod_eq_zero (hmod.mp h))).eq_iff, Option.some_inj,
      UInt32.toNat_inj, eq_comm]
  case isFalse h =>
    have hrest : (value % step).toNat ≤ step.toNat := by
      rw [UInt32.toNat_mod]
      exact Nat.le_of_lt (Nat.mod_lt _ hpos)
    rw [(isRoundedUp_add hpos (mt hmod.mpr h)).eq_iff, add?_eq_some_iff,
      UInt32.toNat_sub_of_le _ _ (UInt32.le_iff_toNat_le.mpr hrest), UInt32.toNat_mod]

/-- A word for each number that fits. -/
theorem exists_toNat_eq {n : Nat} (h : n < UInt32.size) : ∃ w : UInt32, w.toNat = n :=
  ⟨UInt32.ofNat n, UInt32.toNat_ofNat_of_lt' h⟩

end Word

/-- Rounding up crashes for the step zero only. -/
theorem alignUp_eq_ok {value step : UInt32} (hstep : step ≠ 0) :
    alignUp value step = .ok (Word.roundUp? value step) :=
  if_neg hstep

namespace Extent

/-! ## Exact layouts -/

/-- The numbers of a layout, without any bound. -/
structure Exact where
  stride : Nat
  size : Nat
  /-- what is computed on the way to the two -/
  others : List Nat := []

/-- The bytes of a pixel in the formats without gaps. -/
def pixelBytes? : PixelFormat → Option UInt32
  | .rgb888 => some 3
  | .rgba8888 => some 4
  | .raw16 => some 2
  | .y16 | .blob | .ycbcr420 | .implementationDefined => none

namespace Exact

/-- All numbers are 32-bit words. -/
def Fits (e : Exact) : Prop :=
  e.stride < UInt32.size ∧ e.size < UInt32.size ∧ ∀ n ∈ e.others, n < UInt32.size

/-- The exact layout of an image.  A packed image has the size of `width` rows; a depth
image has an even number of columns and of rows, two bytes a sample, and rows of a
multiple of 16 bytes. -/
inductive IsOf (width height bufferSize : Nat) : PixelFormat → Dataspace → Exact → Prop where
  | packed {format : PixelFormat} {bytes : UInt32} (space : Dataspace)
      (hbytes : pixelBytes? format = some bytes) :
      IsOf width height bufferSize format space
        ⟨bytes.toNat * width, bytes.toNat * width * width, []⟩
  | depth {columns stride rows : Nat} (hcolumns : IsRoundedUp 2 width columns)
      (hstride : IsRoundedUp 16 (2 * columns) stride) (hrows : IsRoundedUp 2 height rows) :
      IsOf width height bufferSize .y16 .depth ⟨stride, stride * rows, [columns, 2 * columns, rows]⟩
  | jfif : IsOf width height bufferSize .blob .jfif ⟨bufferSize, bufferSize, []⟩

/-- Words that are found for a layout are its exact numbers, and they are found just if
all of these fit. -/
def FoundAs (e : Exact) (found : Option Extent) : Prop :=
  ∀ x, found = some x ↔ x.stride.toNat = e.stride ∧ x.size.toNat = e.size ∧ e.Fits

theorem FoundAs.exists_iff {e : Exact} {found : Option Extent} (h : e.FoundAs found) :
    (∃ x, found = some x) ↔ e.Fits := by
  constructor
  · rintro ⟨x, hx⟩
    exact ((h x).mp hx).2.2
  · intro hfits
    obtain ⟨stride, hstride⟩ := Word.exists_toNat_eq hfits.1
    obtain ⟨size, hsize⟩ := Word.exists_toNat_eq hfits.2.1
    exact ⟨⟨stride, size⟩, (h _).mpr ⟨hstride, hsize, hfits⟩⟩

end Exact

/-! ## One lemma for each kind of layout -/

theorem foundAs_packed (bytes width : UInt32) :
    Exact.FoundAs ⟨bytes.toNat * width.toNat, bytes.toNat * width.toNat * width.toNat, []⟩
      (packed? bytes width) := by
  rintro ⟨x, y⟩
  simp only [packed?, Option.bind_eq_bind, Option.bind_eq_some_iff, Word.mul?_eq_some_iff,
    Option.pure_def, Option.some_inj, Extent.mk.injEq]
  constructor
  · rintro ⟨stride, hstride, size, hsize, rfl, rfl⟩
    rw [Nat.mul_comm] at hstride
    rw [hstride] at hsize
    exact ⟨hstride, hsize, hstride ▸ stride.toNat_lt, hsize ▸ size.toNat_lt, by simp⟩
  · rintro ⟨hstride, hsize, -⟩
    exact ⟨x, by rw [hstride, Nat.mul_comm], y, by rw [hsize, hstride], rfl, rfl⟩

theorem foundAs_depth {width height : UInt32} {columns stride rows : Nat}
    (hcolumns : IsRoundedUp 2 width.toNat columns)
    (hstride : IsRoundedUp 16 (2 * columns) stride) (hrows : IsRoundedUp 2 height.toNat rows) :
    Exact.FoundAs ⟨stride, stride * rows, [columns, 2 * columns, rows]⟩
      (depth? width height) := by
  have htwo (v r : UInt32) : Word.roundUp? v 2 = some r ↔ IsRoundedUp 2 v.toNat r.toNat :=
    Word.roundUp?_eq_some_iff (by decide)
  have hsixteen (v r : UInt32) : Word.roundUp? v 16 = some r ↔ IsRoundedUp 16 v.toNat r.toNat :=
    Word.roundUp?_eq_some_iff (by decide)
  have hdouble (c b : UInt32) : Word.mul? c 2 = some b ↔ b.toNat = 2 * c.toNat := by
    rw [Word.mul?_eq_some_iff, Nat.mul_comm]
    rfl
  rintro ⟨x, y⟩
  simp only [depth?, Option.bind_eq_bind, Option.bind_eq_some_iff, hdouble, htwo, hsixteen,
    Word.mul?_eq_some_iff, hcolumns.eq_iff, hrows.eq_iff, Option.pure_def, Option.some_inj,
    Extent.mk.injEq]
  constructor
  · rintro ⟨c, hc, b, hb, s, hs, r, hr, z, hz, rfl, rfl⟩
    rw [hc] at hb
    rw [hb, hstride.eq_iff] at hs
    rw [hs, hr] at hz
    refine ⟨hs, hz, hs ▸ s.toNat_lt, hz ▸ z.toNat_lt, ?_⟩
    simp only [List.mem_cons, List.not_mem_nil, or_false, forall_eq_or_imp, forall_eq]
    exact ⟨hc ▸ c.toNat_lt, hb ▸ b.toNat_lt, hr ▸ r.toNat_lt⟩
  · rintro ⟨hx, hy, -, -, hothers⟩
    simp only [List.mem_cons, List.not_mem_nil, or_false, forall_eq_or_imp, forall_eq] at hothers
    obtain ⟨hc, hb, hr⟩ := hothers
    obtain ⟨c, rfl⟩ := Word.exists_toNat_eq hc
    obtain ⟨b, hb⟩ := Word.exists_toNat_eq hb
    obtain ⟨r, rfl⟩ := Word.exists_toNat_eq hr
    refine ⟨c, rfl, b, hb, x, ?_, r, rfl, y, by rw [hy, hx], rfl, rfl⟩
    rw [hb, hstride.eq_iff, hx]

theorem foundAs_jfif (bufferSize : UInt32) :
    Exact.FoundAs ⟨bufferSize.toNat, bufferSize.toNat, []⟩ (some ⟨bufferSize, bufferSize⟩) := by
  rintro ⟨x, y⟩
  simp only [Option.some_inj, Extent.mk.injEq, UInt32.toNat_inj]
  constructor
  · rintro ⟨rfl, rfl⟩
    exact ⟨rfl, rfl, bufferSize.toNat_lt, bufferSize.toNat_lt, by simp⟩
  · rintro ⟨rfl, rfl, -⟩
    exact ⟨rfl, rfl⟩

/-! ## All formats -/

variable {format : PixelFormat} {dataspace : Dataspace} {width height bufferSize : UInt32}
  {e e' : Exact}

theorem resolve_of_pixelBytes? {bytes : UInt32} (h : pixelBytes? format = some bytes)
    (dataspace : Dataspace) (width height bufferSize : UInt32) :
    resolve format dataspace width height bufferSize =
      resolve.fits format width height (packed? bytes width) := by
  cases format <;> cases h <;> rfl

/-- What is found for an exact layout is the answer. -/
theorem Exact.IsOf.exists_foundAs
    (h : e.IsOf width.toNat height.toNat bufferSize.toNat format dataspace) :
    ∃ found, e.FoundAs found ∧ resolve format dataspace width height bufferSize =
      resolve.fits format width height found := by
  cases h with
  | packed _ hbytes => exact ⟨_, foundAs_packed _ width, resolve_of_pixelBytes? hbytes _ _ _ _⟩
  | depth hcolumns hstride hrows => exact ⟨_, foundAs_depth hcolumns hstride hrows, rfl⟩
  | jfif => exact ⟨_, foundAs_jfif bufferSize, rfl⟩

theorem Exact.IsOf.unique {width height bufferSize : Nat}
    (h : e.IsOf width height bufferSize format dataspace)
    (h' : e'.IsOf width height bufferSize format dataspace) : e' = e := by
  cases h with
  | packed _ hbytes =>
    cases h' with
    | packed _ hbytes' =>
      obtain rfl := Option.some.inj (hbytes.symm.trans hbytes')
      rfl
    | depth | jfif => cases hbytes
  | depth hcolumns hstride hrows =>
    cases h' with
    | packed _ hbytes => cases hbytes
    | depth hcolumns' hstride' hrows' =>
      obtain rfl := hcolumns.eq_iff.mp hcolumns'
      obtain rfl := hstride.eq_iff.mp hstride'
      obtain rfl := hrows.eq_iff.mp hrows'
      rfl
  | jfif =>
    cases h' with
    | packed _ hbytes => cases hbytes
    | jfif => rfl

/-- Whether images have a layout of a single plane in a format and dataspace. -/
def hasLayout : PixelFormat → Dataspace → Bool
  | .rgb888, _ | .rgba8888, _ | .raw16, _ | .y16, .depth | .blob, .jfif => true
  | _, _ => false

theorem Exact.IsOf.hasLayout {width height bufferSize : Nat}
    (h : e.IsOf width height bufferSize format dataspace) :
    Extent.hasLayout format dataspace = true := by
  cases h with
  | packed _ hbytes => cases format <;> cases hbytes <;> rfl
  | depth | jfif => rfl

theorem exists_isOf (h : hasLayout format dataspace = true) (width height bufferSize : Nat) :
    ∃ e, Exact.IsOf width height bufferSize format dataspace e := by
  unfold hasLayout at h
  split at h
  case h_1 | h_2 | h_3 => exact ⟨_, .packed dataspace rfl⟩
  case h_4 =>
    obtain ⟨columns, hcolumns⟩ := exists_isRoundedUp (by decide : 0 < 2) width
    obtain ⟨stride, hstride⟩ := exists_isRoundedUp (by decide : 0 < 16) (2 * columns)
    obtain ⟨rows, hrows⟩ := exists_isRoundedUp (by decide : 0 < 2) height
    exact ⟨_, .depth hcolumns hstride hrows⟩
  case h_5 => exact ⟨_, .jfif⟩
  case h_6 => cases h

theorem resolve_of_hasLayout_eq_false (h : hasLayout format dataspace = false)
    (width height bufferSize : UInt32) :
    resolve format dataspace width height bufferSize = .error (.unsupported
      ("pixel format " ++ format.name ++ " with dataspace " ++ Vocabulary.word dataspace)) := by
  unfold resolve
  split
  case h_6 => rfl
  all_goals cases h

theorem fits_eq_ok_iff {found : Option Extent} {x : Extent} :
    resolve.fits format width height found = .ok x ↔ found = some x := by
  cases found <;> simp [resolve.fits]

/-- Why an image is refused. -/
def refusal (format : PixelFormat) (dataspace : Dataspace) (width height : UInt32) : String :=
  if hasLayout format dataspace then
    toString width ++ "x" ++ toString height ++ " " ++ format.name ++
      " buffer exceeds the addressable size"
  else "pixel format " ++ format.name ++ " with dataspace " ++ Vocabulary.word dataspace

theorem fits_eq_error_iff (h : hasLayout format dataspace = true) {found : Option Extent} :
    resolve.fits format width height found =
        .error (.unsupported (refusal format dataspace width height)) ↔
      ¬ ∃ x, found = some x := by
  cases found <;> simp [resolve.fits, refusal, h]

/-- An image has its layout precisely if its format has one in this dataspace and all of
the exact numbers are 32-bit words.  The layout then consists of these numbers, and
otherwise the image is not supported, for one of two reasons.  Rounding up crashes for no
step that a depth image is rounded up to. -/
theorem extents_are_exact_or_refused (format : PixelFormat) (dataspace : Dataspace)
    (width height bufferSize : UInt32) :
    (hasLayout format dataspace = true ↔
      ∃! e, Exact.IsOf width.toNat height.toNat bufferSize.toNat format dataspace e) ∧
    (∀ x, resolve format dataspace width height bufferSize = .ok x ↔
      ∃ e, Exact.IsOf width.toNat height.toNat bufferSize.toNat format dataspace e ∧ e.Fits ∧
        x.stride.toNat = e.stride ∧ x.size.toNat = e.size) ∧
    (resolve format dataspace width height bufferSize =
        .error (.unsupported (refusal format dataspace width height)) ↔
      ¬ ∃ e, Exact.IsOf width.toNat height.toNat bufferSize.toNat format dataspace e ∧ e.Fits) ∧
    ∀ n, alignUp n 2 = .ok (Word.roundUp? n 2) ∧ alignUp n 16 = .ok (Word.roundUp? n 16) := by
  refine ⟨⟨fun h => ?_, fun ⟨e, he, _⟩ => he.hasLayout⟩, ?_⟩
  · obtain ⟨e, he⟩ := exists_isOf h width.toNat height.toNat bufferSize.toNat
    exact ⟨e, he, fun e' he' => he.unique he'⟩
  rw [← and_assoc]
  refine ⟨?_, fun n => ⟨alignUp_eq_ok (by decide), alignUp_eq_ok (by decide)⟩⟩
  cases hlayout : hasLayout format dataspace with
  | false =>
    have hnone (e : Exact) :
        ¬ e.IsOf width.toNat height.toNat bufferSize.toNat format dataspace := fun he =>
      Bool.noConfusion (hlayout.symm.trans he.hasLayout)
    simp [resolve_of_hasLayout_eq_false hlayout, hnone, refusal, hlayout]
  | true =>
    obtain ⟨e, he⟩ := exists_isOf hlayout width.toNat height.toNat bufferSize.toNat
    obtain ⟨found, hfound, hresolve⟩ := he.exists_foundAs
    have honly (e' : Exact) :
        e'.IsOf width.toNat height.toNat bufferSize.toNat format dataspace ↔ e' = e :=
      ⟨fun he' => he.unique he', fun heq => heq ▸ he⟩
    have hanswer (x : Extent) : resolve.fits format width height found = .ok x ↔
        e.Fits ∧ x.stride.toNat = e.stride ∧ x.size.toNat = e.size := by
      rw [fits_eq_ok_iff, hfound x, ← and_assoc, and_comm]
    simp only [honly, exists_eq_left, hresolve]
    exact ⟨hanswer, by rw [fits_eq_error_iff hlayout, hfound.exists_iff]⟩

end Extent

end VirtualCamera
