import VirtualCamera.Vocabulary

/-!
# Pixel formats and dataspaces

A stream's pixel format says how one pixel is stored, its dataspace how the
numbers are to be understood.  Both have names for people to type; names are
recognised whatever the case of their ASCII letters.
-/

namespace VirtualCamera

/-- How a pixel is stored. -/
inductive PixelFormat where
  /-- packed red, green, blue: 3 bytes a pixel -/
  | rgb888
  /-- packed red, green, blue, alpha: 4 bytes a pixel -/
  | rgba8888
  /-- one 16-bit channel, as in depth maps -/
  | y16
  /-- bytes without structure, as in compressed images -/
  | blob
  /-- 16-bit raw sensor data -/
  | raw16
  /-- three planes with chroma at half resolution in both directions -/
  | ycbcr420
  /-- a layout that only the producer knows, allowed for input streams -/
  | implementationDefined
  deriving DecidableEq, Repr

instance : Vocabulary PixelFormat where
  members := [.rgb888, .rgba8888, .y16, .blob, .raw16, .ycbcr420, .implementationDefined]
  word
    | .rgb888 => "Rgb888"
    | .rgba8888 => "Rgba8888"
    | .y16 => "Y16"
    | .blob => "Blob"
    | .raw16 => "Raw16"
    | .ycbcr420 => "YCbCr420"
    | .implementationDefined => "ImplementationDefined"

/-- What the numbers of a stream mean. -/
inductive Dataspace where
  | unknown
  /-- distances, in `y16` depth maps -/
  | depth
  /-- a compressed still image -/
  | jfif
  | srgb
  deriving DecidableEq, Repr

instance : Vocabulary Dataspace where
  members := [.unknown, .depth, .jfif, .srgb]
  word
    | .unknown => "Unknown"
    | .depth => "Depth"
    | .jfif => "Jfif"
    | .srgb => "Srgb"

/-- A name that stands for nothing. -/
inductive UnknownName where
  | pixelFormat (text : String)
  | dataspace (text : String)
  deriving DecidableEq, Repr

def UnknownName.message : UnknownName → String
  | .pixelFormat text => s!"unknown pixel format '{text}'"
  | .dataspace text => s!"unknown dataspace '{text}'"

namespace PixelFormat

def name : PixelFormat → String
  | rgb888 => "rgb888"
  | rgba8888 => "rgba8888"
  | y16 => "y16"
  | blob => "blob"
  | raw16 => "raw16"
  | ycbcr420 => "ycbcr420"
  | implementationDefined => "implementation-defined"

/-- Planar formats are locked as three planes instead of one. -/
def isPlanar : PixelFormat → Bool
  | ycbcr420 => true
  | _ => false

/-- The format in which a sensor consumes an input stream: a layout that only
the producer knows is read as planar. -/
def asInput : PixelFormat → PixelFormat
  | implementationDefined => ycbcr420
  | format => format

def ofName (text : String) : Except UnknownName PixelFormat :=
  match (Vocabulary.members : List PixelFormat).find? (·.name == text.toLower) with
  | some format => .ok format
  | none => .error (.pixelFormat text)

end PixelFormat

namespace Dataspace

def name : Dataspace → String
  | unknown => "unknown"
  | depth => "depth"
  | jfif => "jfif"
  | srgb => "srgb"

def ofName (text : String) : Except UnknownName Dataspace :=
  match (Vocabulary.members : List Dataspace).find? (·.name == text.toLower) with
  | some space => .ok space
  | none => .error (.dataspace text)

end Dataspace

end VirtualCamera
