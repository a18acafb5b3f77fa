import VirtualCamera.Characteristics
import VirtualCamera.Event

/-!
# Controls of a camera

The controls hold the modes and sensor parameters in force.  A request's
settings are applied to them as a list of adjustments, one after the other, up
to the first that stops (`Adjustment.runAll`): a mode that the camera does not
offer refuses the request, and a value that is moved into an empty range stops
the thread.  What earlier adjustments changed stays changed.

The adjustments of a request are first those of the modes, then those of the
sensor: by hand if exposure is not automatic, from the frame rate otherwise.
At the end the frame is made as long as the exposure.
-/

namespace VirtualCamera

/-- The controls of a camera. -/
structure Controls where
  /-- the camera that results name -/
  camera : UInt32
  characteristics : Option Characteristics := none
  control : ControlMode := .auto
  exposure : ExposureMode := .on
  whiteBalance : WhiteBalanceMode := .auto
  focus : FocusMode := .off
  exposureState : ExposureState := .inactive
  frameRate : FrameRate := ⟨30, 30⟩
  exposureTime : UInt64 := Limits.defaultExposureTime
  frameDuration : UInt64 := Limits.defaultFrameDuration
  sensitivity : Int32 := Limits.defaultSensitivity
  deriving DecidableEq, Repr

/-! ## Templates -/

/-- Default settings: everything automatic, at the first frame rate. -/
def Characteristics.automaticSettings (c : Characteristics) (intent : CaptureIntent) :
    CaptureSettings where
  intent := some intent
  control := some .auto
  exposure := some .on
  whiteBalance := some .auto
  focus := some .off
  frameRate := c.frameRates.head?

/-- The default settings of a template, if the camera's capabilities include
it. -/
def Characteristics.template? (c : Characteristics) (t : Template) : Option CaptureSettings :=
  match t with
  | .manual =>
    if c.supports .manualSensor then
      some { c.automaticSettings t.intent with
        control := some .off, exposure := some .off, whiteBalance := some .off }
    else none
  | .preview | .stillCapture | .videoRecord | .videoSnapshot =>
    if c.supports .backwardCompatible then some (c.automaticSettings t.intent) else none
  | .zeroShutterLag => none

/-! ## Adjustments -/

def Adjustment := Controls → Controls × Option Stop

namespace Adjustment

/-- Adjustments in order, up to the first that stops. -/
def runAll : List Adjustment → Adjustment
  | [], s => (s, none)
  | a :: rest, s =>
    match a s with
    | (s, none) => runAll rest s
    | stopped => stopped

/-- Puts a requested value in force if the camera offers it. -/
def adopt {α : Type} [BEq α] (name : String) (shown : α → String) (offered : List α)
    (requested : Option α) (put : Controls → α → Controls) : Adjustment := fun s =>
  match requested with
  | none => (s, none)
  | some a =>
    if offered.contains a then (put s a, none)
    else (s, some (.refused (.invalidArgument (name ++ " mode " ++ shown a ++ " not supported"))))

/-- Puts the value of a range in force that is nearest to the requested one. -/
def confine {α : Type} [LE α] [DecidableLE α] (range : Range α) (requested : Option α)
    (put : Controls → α → Controls) : Adjustment := fun s =>
  match requested with
  | none => (s, none)
  | some a =>
    match range.clamp a with
    | .ok b => (put s b, none)
    | .error crash => (s, some (.crashed crash))

def always (change : Controls → Controls) : Adjustment := fun s =>
  (change s, none)

end Adjustment

namespace FrameRate

/-- The highest rate, in frames per second; rates below one count as one. -/
def highest (r : FrameRate) : UInt64 :=
  UInt64.ofNat (max 1 r.most.toInt).toNat

/-- The duration of a frame at the highest rate, in nanoseconds. -/
def shortestFrame (r : FrameRate) : UInt64 :=
  1000000000 / r.highest

end FrameRate

namespace Controls

open Adjustment

def byHand (s : Controls) : Bool :=
  s.control == .off || s.exposure == .off

def adoptModes (c : Characteristics) (r : CaptureSettings) : List Adjustment :=
  [adopt "control" Vocabulary.word c.controlModes r.control fun s m => { s with control := m },
    adopt "AE" Vocabulary.word c.exposureModes r.exposure fun s m => { s with exposure := m },
    adopt "AWB" Vocabulary.word c.whiteBalanceModes r.whiteBalance
      fun s m => { s with whiteBalance := m },
    adopt "AF" Vocabulary.word c.focusModes r.focus fun s m => { s with focus := m },
    adopt "AE target fps" FrameRate.diagnostic c.frameRates r.frameRate
      fun s m => { s with frameRate := m }]

def setByHand (c : Characteristics) (r : CaptureSettings) : List Adjustment :=
  [confine c.exposureTime r.exposureTime fun s t => { s with exposureTime := t },
    confine c.frameDuration r.frameDuration fun s t => { s with frameDuration := t },
    confine c.sensitivity r.sensitivity fun s n => { s with sensitivity := n },
    always fun s => { s with exposureState := .inactive }]

/-- Makes the frame as short as the rate allows. -/
def followRate (c : Characteristics) : Adjustment := fun s =>
  confine c.frameDuration (some s.frameRate.shortestFrame)
    (fun s t => { s with frameDuration := t }) s

/-- The adjustments of a sensor under automatic exposure: the shortest frame,
and the default exposure as far as it fits into it. -/
def setAutomatically (c : Characteristics) : List Adjustment :=
  [followRate c,
    confine c.exposureTime (some Limits.defaultExposureTime)
      fun s t => { s with exposureTime := min t s.frameDuration },
    confine c.sensitivity (some Limits.defaultSensitivity)
      fun s n => { s with sensitivity := n },
    always fun s => { s with exposureState := .converged }]

def setSensor (c : Characteristics) (r : CaptureSettings) : Adjustment := fun s =>
  runAll (if s.byHand then setByHand c r else setAutomatically c) s

/-- A frame is as long as its exposure, as far as the camera's longest frame
allows. -/
def stretchFrame (c : Characteristics) (s : Controls) : Controls :=
  if s.frameDuration < s.exposureTime then
    { s with frameDuration := min s.exposureTime c.maxFrameDuration }
  else s

def sensor (s : Controls) : SensorSettings :=
  ⟨s.exposureTime, s.frameDuration, s.sensitivity⟩

def adjust (c : Characteristics) (r : CaptureSettings) : Adjustment :=
  runAll (adoptModes c r ++ [setSensor c r, always (stretchFrame c)])

/-! ## Operations -/

def notInitialized : Fault :=
  .invalidState "request state not initialized"

/-- Takes up the description of the camera.  Modes go back to automatic; the
parameters of the sensor stay. -/
def takeUp (s : Controls) (c : Characteristics) : Except Fault Controls := do
  c.check
  return { s with
    characteristics := some c
    control := .auto
    exposure := .on
    whiteBalance := .auto
    focus := .off
    exposureState := .inactive
    frameRate := c.frameRates.head?.getD s.frameRate }

def template (s : Controls) (t : Template) : Except Fault CaptureSettings :=
  match s.characteristics with
  | none => .error notInitialized
  | some c =>
    match c.template? t with
    | some settings => .ok settings
    | none =>
      .error (.invalidArgument ("request template " ++ Vocabulary.word t ++ " not supported"))

/-- Applies a request's settings: the controls afterwards, and the parameters
of the sensor or why there are none. -/
def apply (s : Controls) (r : CaptureSettings) : Controls × Except Stop SensorSettings :=
  match s.characteristics with
  | none => (s, .error (.refused notInitialized))
  | some c =>
    match adjust c r s with
    | (s, none) => (s, .ok s.sensor)
    | (s, some stop) => (s, .error stop)

/-- What the result of a frame reports: the request's settings, overwritten by
the modes in force, and by the sensor's parameters if the camera reports
them. -/
def metadata (s : Controls) (r : CaptureSettings) : CaptureSettings :=
  let modes := { r with
    control := some s.control
    exposure := some s.exposure
    whiteBalance := some s.whiteBalance
    focus := some s.focus
    exposureState := some s.exposureState
    frameRate := some s.frameRate }
  if s.characteristics.any (·.supports .readSensorSettings) then
    { modes with
      exposureTime := some s.exposureTime
      frameDuration := some s.frameDuration
      sensitivity := some s.sensitivity }
  else modes

/-- The record for the result of a frame that is about to be captured. -/
def record (s : Controls) (pipeline frame : UInt32) (r : CaptureSettings) : ResultRecord where
  camera := s.camera
  pipeline := pipeline
  frame := frame
  metadata := s.metadata r
  depth := (s.characteristics.map (·.maxPipelineDepth)).getD 0
  outputs := []
  inputs := []
  partials := Limits.partialResults

end Controls

end VirtualCamera
