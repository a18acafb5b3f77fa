import VirtualCamera.Word
import VirtualCamera.Stream
import VirtualCamera.Fault

/-!
# Layout of image buffers

How many bytes a stream's buffer needs and how its rows lie in it.

A buffer of a single plane is described by the bytes from one row to the next
and by its size (`Extent`).  The size of a packed image is that of `width` rows
and not of `height` rows: clients allocate their buffers that way.  A layout
whose numbers are no 32-bit words is refused.

A planar buffer holds the luma plane and then the two chroma planes, each with
half the columns and half the rows, rounded up (`Planar`).  Whoever adds up the
planes of an image with more bytes than a 64-bit word counts is stopped.
-/

namespace VirtualCamera

/-- The layout of a buffer of a single plane, in bytes. -/
structure Extent where
  stride : UInt32
  size : UInt32
  deriving DecidableEq, Repr

namespace Extent

/-- Pixels of `bytes` bytes without gaps. -/
def packed? (bytes width : UInt32) : Option Extent := do
  let stride ← Word.mul? width bytes
  let size ← Word.mul? stride width
  return ⟨stride, size⟩

/-- Depth samples of two bytes: an even number of rows of an even number of
samples, each row a multiple of 16 bytes. -/
def depth? (width height : UInt32) : Option Extent := do
  let columns ← Word.roundUp? width 2
  let bytes ← Word.mul? columns 2
  let stride ← Word.roundUp? bytes 16
  let rows ← Word.roundUp? height 2
  let size ← Word.mul? stride rows
  return ⟨stride, size⟩

/-- The layout of a single plane; the fault says whether the format has no
such layout or the image is too large for it. -/
def resolve (format : PixelFormat) (dataspace : Dataspace)
    (width height bufferSize : UInt32) : Except Fault Extent :=
  match format, dataspace with
  | .rgb888, _ => fits (packed? 3 width)
  | .rgba8888, _ => fits (packed? 4 width)
  | .raw16, _ => fits (packed? 2 width)
  | .y16, .depth => fits (depth? width height)
  | .blob, .jfif => .ok ⟨bufferSize, bufferSize⟩
  | _, _ =>
    .error (.unsupported
      ("pixel format " ++ format.name ++ " with dataspace " ++ Vocabulary.word dataspace))
where
  /-- An image that is too large has no layout. -/
  fits : Option Extent → Except Fault Extent
    | some extent => .ok extent
    | none =>
      .error (.unsupported (toString width ++ "x" ++ toString height ++ " " ++ format.name ++
        " buffer exceeds the addressable size"))

def ofStream (s : Stream) : Except Fault Extent :=
  resolve s.format s.dataspace s.width s.height s.bufferSize

end Extent

/-- The sizes of the planes of a planar image, in bytes.  Addresses are 64-bit
words. -/
structure Planar where
  lumaStride : UInt64
  lumaSize : UInt64
  chromaStride : UInt64
  chromaSize : UInt64
  deriving DecidableEq, Repr

namespace Planar

def ofSize (width height : UInt32) : Planar where
  lumaStride := width.toUInt64
  lumaSize := width.toUInt64 * height.toUInt64
  chromaStride := halfUp width.toUInt64
  chromaSize := halfUp width.toUInt64 * halfUp height.toUInt64

/-- The bytes of all three planes, which have to be countable. -/
def total (p : Planar) : Except Crash UInt64 :=
  addSizes p.lumaSize (2 * p.chromaSize)

end Planar

end VirtualCamera
