import VirtualCamera.Limits
import VirtualCamera.Vocabulary
import VirtualCamera.Text.Quoted

/-!
# Capture settings

What a client may ask for with a capture request, and what the camera reports
back with its result: the modes of the three automatic controls (exposure,
white balance, focus), a range of frame rates, and the sensor parameters
themselves.  Every entry may be absent; an absent entry leaves the camera as it
is.
-/

namespace VirtualCamera

/-- What a frame is taken for. -/
inductive CaptureIntent where
  | custom
  | preview
  | stillCapture
  | videoRecord
  | videoSnapshot
  | zeroShutterLag
  | manual
  deriving DecidableEq, Repr

instance : Vocabulary CaptureIntent where
  members := [.custom, .preview, .stillCapture, .videoRecord, .videoSnapshot, .zeroShutterLag, .manual]
  word
    | .custom => "Custom"
    | .preview => "Preview"
    | .stillCapture => "StillCapture"
    | .videoRecord => "VideoRecord"
    | .videoSnapshot => "VideoSnapshot"
    | .zeroShutterLag => "ZeroShutterLag"
    | .manual => "Manual"

/-- The mode above all automatic controls. -/
inductive ControlMode where
  /-- everything is set by hand -/
  | off
  | auto
  | useSceneMode
  deriving DecidableEq, Repr

instance : Vocabulary ControlMode where
  members := [.off, .auto, .useSceneMode]
  word
    | .off => "Off"
    | .auto => "Auto"
    | .useSceneMode => "UseSceneMode"

/-- The mode of automatic exposure. -/
inductive ExposureMode where
  | off
  | on
  deriving DecidableEq, Repr

instance : Vocabulary ExposureMode where
  members := [.off, .on]
  word
    | .off => "Off"
    | .on => "On"

/-- The mode of automatic white balance. -/
inductive WhiteBalanceMode where
  | off
  | auto
  deriving DecidableEq, Repr

instance : Vocabulary WhiteBalanceMode where
  members := [.off, .auto]
  word
    | .off => "Off"
    | .auto => "Auto"

/-- The mode of automatic focus. -/
inductive FocusMode where
  | off
  | auto
  | continuousPicture
  deriving DecidableEq, Repr

instance : Vocabulary FocusMode where
  members := [.off, .auto, .continuousPicture]
  word
    | .off => "Off"
    | .auto => "Auto"
    | .continuousPicture => "ContinuousPicture"

/-- What automatic exposure reports about itself. -/
inductive ExposureState where
  /-- exposure is set by hand -/
  | inactive
  | searching
  | converged
  | locked
  deriving DecidableEq, Repr

instance : Vocabulary ExposureState where
  members := [.inactive, .searching, .converged, .locked]
  word
    | .inactive => "Inactive"
    | .searching => "Searching"
    | .converged => "Converged"
    | .locked => "Locked"

/-- A range of frame rates, in frames per second. -/
structure FrameRate where
  least : Int32
  most : Int32
  deriving DecidableEq, Repr

def FrameRate.diagnostic (r : FrameRate) : String :=
  Text.shownRecord "FpsRange" [("min", toString r.least), ("max", toString r.most)] ""

/-- Settings of a request, or the metadata of a result. -/
structure CaptureSettings where
  intent : Option CaptureIntent := none
  control : Option ControlMode := none
  exposure : Option ExposureMode := none
  whiteBalance : Option WhiteBalanceMode := none
  focus : Option FocusMode := none
  frameRate : Option FrameRate := none
  /-- in nanoseconds -/
  exposureTime : Option UInt64 := none
  /-- in nanoseconds -/
  frameDuration : Option UInt64 := none
  /-- in ISO units -/
  sensitivity : Option Int32 := none
  /-- reported with results; it has no effect in a request -/
  exposureState : Option ExposureState := none
  deriving DecidableEq, Repr

/-- The sensor's parameters for one frame. -/
structure SensorSettings where
  exposureTime : UInt64
  frameDuration : UInt64
  sensitivity : Int32
  deriving DecidableEq, Repr

/-- What a client can ask default settings for. -/
inductive Template where
  | preview
  | stillCapture
  | videoRecord
  | videoSnapshot
  | zeroShutterLag
  | manual
  deriving DecidableEq, Repr

instance : Vocabulary Template where
  members := [.preview, .stillCapture, .videoRecord, .videoSnapshot, .zeroShutterLag, .manual]
  word
    | .preview => "Preview"
    | .stillCapture => "StillCapture"
    | .videoRecord => "VideoRecord"
    | .videoSnapshot => "VideoSnapshot"
    | .zeroShutterLag => "ZeroShutterLag"
    | .manual => "Manual"

namespace Template

/-- The position of the template in the list of all templates. -/
def index (t : Template) : Nat :=
  (Vocabulary.members : List Template).idxOf t

/-- What a frame with the template's settings is taken for. -/
def intent : Template → CaptureIntent
  | preview => .preview
  | stillCapture => .stillCapture
  | videoRecord => .videoRecord
  | videoSnapshot => .videoSnapshot
  | zeroShutterLag => .zeroShutterLag
  | manual => .manual

end Template

end VirtualCamera
