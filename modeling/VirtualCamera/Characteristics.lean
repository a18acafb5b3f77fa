import VirtualCamera.Settings
import VirtualCamera.Fault

/-!
# Characteristics of a camera

The static description of one camera: what it can do, which modes it offers,
and the ranges of its sensor.  `Characteristics.check` says which descriptions
a camera can be run with.
-/

namespace VirtualCamera

/-- An ability that a camera advertises. -/
inductive Capability where
  /-- automatic capture as every camera has it -/
  | backwardCompatible
  /-- the sensor can be set by hand -/
  | manualSensor
  /-- results report the parameters of the sensor -/
  | readSensorSettings
  | raw
  | depthOutput
  deriving DecidableEq, Repr

instance : Vocabulary Capability where
  members := [.backwardCompatible, .manualSensor, .readSensorSettings, .raw, .depthOutput]
  word
    | .backwardCompatible => "BackwardCompatible"
    | .manualSensor => "ManualSensor"
    | .readSensorSettings => "ReadSensorSettings"
    | .raw => "Raw"
    | .depthOutput => "DepthOutput"

/-- How much of the interface the hardware supports. -/
inductive HardwareLevel where
  | limited
  | full
  | level3
  | external
  deriving DecidableEq, Repr

instance : Vocabulary HardwareLevel where
  members := [.limited, .full, .level3, .external]
  word
    | .limited => "Limited"
    | .full => "Full"
    | .level3 => "Level3"
    | .external => "External"

/-- The static description of a camera. -/
structure Characteristics where
  capabilities : List Capability
  maxPipelineDepth : UInt8
  hardwareLevel : HardwareLevel
  controlModes : List ControlMode
  exposureModes : List ExposureMode
  whiteBalanceModes : List WhiteBalanceMode
  focusModes : List FocusMode
  frameRates : List FrameRate
  sensitivity : Range Int32
  exposureTime : Range UInt64
  maxFrameDuration : UInt64
  deriving DecidableEq, Repr

namespace Characteristics

/-- A back camera whose sensor can be set by hand and reports its settings. -/
def standard : Characteristics where
  capabilities := [.backwardCompatible, .manualSensor, .readSensorSettings]
  maxPipelineDepth := 4
  hardwareLevel := .full
  controlModes := [.off, .auto]
  exposureModes := [.off, .on]
  whiteBalanceModes := [.off, .auto]
  focusModes := [.off]
  frameRates := [⟨15, 30⟩, ⟨30, 30⟩]
  sensitivity := Limits.sensitivity
  exposureTime := Limits.exposureTime
  maxFrameDuration := Limits.frameDuration.most

def supports (c : Characteristics) (capability : Capability) : Bool :=
  c.capabilities.contains capability

def frameDuration (c : Characteristics) : Range UInt64 :=
  ⟨Limits.frameDuration.least, c.maxFrameDuration⟩

/-- Accepts a description that a camera can be run with.  Of several faults
the first in this order is reported. -/
def check (c : Characteristics) : Except Fault Unit :=
  if c.capabilities.isEmpty then
    .error (.invalidArgument "no available capabilities")
  else if c.maxPipelineDepth = 0 then
    .error (.invalidArgument "maximum pipeline depth must be non-zero")
  else if c.hardwareLevel ≠ .limited ∧ c.hardwareLevel ≠ .full then
    .error (.invalidArgument
      ("hardware level " ++ Vocabulary.word c.hardwareLevel ++ " not supported"))
  else if c.frameRates.isEmpty then
    .error (.invalidArgument "no available fps ranges")
  else if c.controlModes.isEmpty || c.exposureModes.isEmpty || c.whiteBalanceModes.isEmpty ||
      c.focusModes.isEmpty then
    .error (.invalidArgument "3A mode lists must not be empty")
  else if c.sensitivity.most ≤ c.sensitivity.least ∨
      ¬ c.sensitivity.contains Limits.defaultSensitivity then
    .error (.invalidArgument "unsupported sensitivity range")
  else if c.exposureTime.most ≤ c.exposureTime.least then
    .error (.invalidArgument "unsupported exposure time range")
  else .ok ()

end Characteristics

end VirtualCamera
