import Mathlib.Logic.Basic
import VirtualCamera.Stage

/-!
# Strokes

The sensor paints a buffer in strokes, each of which fills a region with one value.
Regions may lie over one another, in one buffer or because the same buffer came twice,
so what strokes leave in a byte is decided by the last one that covers it
(`lastStroke?`).  `overlay` says it for the bytes of a whole buffer: painting through a
mapping is to lay the strokes of its planes over them (`Store.contents_paint`), and
nothing else that is done to the memory changes them.
-/

namespace VirtualCamera

/-! ## Changes that leave bytes alone -/

namespace Memory

theorem contents_update_ne {m : Memory} {i j : Nat} {f : Buffer → Buffer} (h : i ≠ j) :
    (m.update i f).contents j = m.contents j := by
  simp [contents, update, Array.getElem?_modify, h]

/-- A change that is not one of the bytes. -/
theorem contents_update {m : Memory} {i : Nat} {f : Buffer → Buffer}
    (h : ∀ b, (f b).bytes = b.bytes) (j : Nat) : (m.update i f).contents j = m.contents j := by
  by_cases heq : i = j
  · subst heq
    unfold contents update
    rw [Array.getElem?_modify, if_pos rfl]
    cases m.buffers[i]? with
    | none => rfl
    | some b => simp [h]
  · exact contents_update_ne heq

@[simp] theorem contents_acquire (m : Memory) (i j : Nat) :
    (m.acquire i).contents j = m.contents j := by
  unfold acquire
  exact contents_update (by intro b; rfl) j

@[simp] theorem contents_release (m : Memory) (i j : Nat) :
    (m.release i).contents j = m.contents j := by
  unfold release
  exact contents_update (by intro b; rfl) j

end Memory

/-! ## Strokes -/

/-- What the last of the strokes that cover a byte of a buffer fills it with. -/
def lastStroke? (strokes : List (Region × UInt8)) (buffer position : Nat) : Option UInt8 :=
  (strokes.reverse.find? fun stroke =>
    stroke.1.buffer == buffer && stroke.1.covers position).map Prod.snd

/-- The bytes of a buffer under strokes. -/
def overlay (strokes : List (Region × UInt8)) (buffer : Nat) (bytes : List UInt8) : List UInt8 :=
  bytes.mapIdx fun position byte => (lastStroke? strokes buffer position).getD byte

section Overlay

variable (strokes strokes' : List (Region × UInt8)) (buffer : Nat) (bytes : List UInt8)

theorem getElem?_overlay (position : Nat) :
    (overlay strokes buffer bytes)[position]? =
      bytes[position]?.map fun byte => (lastStroke? strokes buffer position).getD byte := by
  rw [overlay, List.getElem?_mapIdx]

variable {strokes buffer} in
/-- Strokes in other buffers. -/
theorem overlay_eq_self (h : ∀ stroke ∈ strokes, stroke.1.buffer ≠ buffer) :
    overlay strokes buffer bytes = bytes := by
  have hnone (position : Nat) : lastStroke? strokes buffer position = none := by
    rw [lastStroke?, Option.map_eq_none_iff, List.find?_eq_none]
    intro stroke hstroke
    simp [h stroke (List.mem_reverse.mp hstroke)]
  refine List.ext_getElem? fun position => ?_
  rw [getElem?_overlay, hnone]
  simp

@[simp] theorem overlay_nil : overlay [] buffer bytes = bytes :=
  overlay_eq_self bytes (by simp)

theorem lastStroke?_append (position : Nat) :
    lastStroke? (strokes ++ strokes') buffer position =
      (lastStroke? strokes' buffer position).or (lastStroke? strokes buffer position) := by
  simp only [lastStroke?, List.reverse_append, List.find?_append, Option.map_or]

/-- Later strokes lie over earlier ones. -/
theorem overlay_append :
    overlay (strokes ++ strokes') buffer bytes =
      overlay strokes' buffer (overlay strokes buffer bytes) := by
  refine List.ext_getElem? fun position => ?_
  simp only [getElem?_overlay, lastStroke?_append, Option.map_map, Function.comp_def]
  cases lastStroke? strokes' buffer position <;> simp

end Overlay

namespace Memory

theorem contents_fill (m : Memory) (r : Region) (value : UInt8) (i : Nat) :
    (m.fill r value).contents i = overlay [(r, value)] i (m.contents i) := by
  refine List.ext_getElem? fun position => ?_
  by_cases hbuffer : r.buffer = i
  · subst hbuffer
    rw [getElem?_overlay]
    unfold fill mapRegion contents update
    rw [Array.getElem?_modify, if_pos rfl]
    cases m.buffers[r.buffer]? with
    | none => rfl
    | some b =>
        by_cases hcovers : r.covers position = true
        · simp [lastStroke?, hcovers]
        · simp [lastStroke?, hcovers]
  · rw [getElem?_overlay, fill, mapRegion, contents_update_ne hbuffer]
    simp [lastStroke?, hbuffer]

theorem contents_foldl_fill (strokes : List (Region × UInt8)) (m : Memory) (i : Nat) :
    (strokes.foldl (fun m stroke => m.fill stroke.1 stroke.2) m).contents i =
      overlay strokes i (m.contents i) := by
  induction strokes generalizing m with
  | nil => simp
  | cons stroke rest ih =>
      rw [List.foldl_cons, ih, contents_fill, ← overlay_append, List.singleton_append]

end Memory

namespace Store

theorem contents_paint (s : Store) (m : Mapping) (shade : UInt8) (i : Nat) :
    (s.paint m shade).memory.contents i =
      overlay (m.planes.strokes shade) i (s.memory.contents i) :=
  Memory.contents_foldl_fill _ _ i

end Store

end VirtualCamera
