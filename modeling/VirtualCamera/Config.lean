import VirtualCamera.Json.Diagnosis
import VirtualCamera.Json.Records
import VirtualCamera.Fault

/-!
# Configuration of the request processor

A configuration is read from a JSON file.  Fields that the file does not give
keep their defaults, so a file may give just what differs; what comes out is
checked before it is used.
-/

namespace VirtualCamera

open Json

/-- The configuration of the request processor and of the simulated sensor. -/
structure Config where
  /-- the camera that per-frame results name -/
  cameraId : UInt32 := 0
  /-- how many requests may wait for the worker -/
  pipelineDepth : UInt64 := Limits.pipelineDepth
  /-- the longest wait for a slot, a fence or the sensor, in nanoseconds -/
  maxFrameDuration : UInt64 := Limits.frameDuration.most
  /-- the period of the simulated sensor, in nanoseconds -/
  minFrameDuration : UInt64 := Limits.frameDuration.least
  deriving DecidableEq, Repr

namespace Config

def fieldNames : List String :=
  ["camera_id", "pipeline_depth", "max_frame_duration_ns", "min_frame_duration_ns"]

instance : Codec Config where
  encode c := .ofFields (
    field "camera_id" c.cameraId ++ field "pipeline_depth" c.pipelineDepth ++
    field "max_frame_duration_ns" c.maxFrameDuration ++
    field "min_frame_duration_ns" c.minFrameDuration)
  decode v := do
    let e ← entries? fieldNames v
    let standard : Config := {}
    return {
      cameraId := ← e.fieldOr? "camera_id" standard.cameraId
      pipelineDepth := ← e.fieldOr? "pipeline_depth" standard.pipelineDepth
      maxFrameDuration := ← e.fieldOr? "max_frame_duration_ns" standard.maxFrameDuration
      minFrameDuration := ← e.fieldOr? "min_frame_duration_ns" standard.minFrameDuration }

/-- The longest frame in whole milliseconds; fences are waited for that long. -/
def fenceTimeoutMs (c : Config) : UInt64 :=
  c.maxFrameDuration / 1000000

/-- The period of the simulated sensor in whole microseconds. -/
def minFrameMicros (c : Config) : UInt64 :=
  c.minFrameDuration / 1000

/-- Accepts a configuration that the processor can run with. -/
def check (c : Config) : Except Failure Unit :=
  if c.pipelineDepth = 0 then
    .error (.config "pipeline_depth must be non-zero")
  else if c.minFrameDuration = 0 ∨ c.maxFrameDuration = 0 then
    .error (.config "frame durations must be non-zero")
  else if c.maxFrameDuration < c.minFrameDuration then
    .error (.config ("min_frame_duration_ns (" ++ toString c.minFrameDuration ++
      ") exceeds max_frame_duration_ns (" ++ toString c.maxFrameDuration ++ ")"))
  else .ok ()

/-! ## Loading -/

/-- The text of a file: it has to be there and to be UTF-8. -/
def fileText (content : Option ByteArray) : Except Failure String :=
  match content with
  | none => .error (.file "no such file")
  | some bytes =>
    match String.fromUTF8? bytes with
    | some text => .ok text
    | none => .error (.file "not UTF-8")

/-- The record in the text of a file; its shape, where it is known, tells a
complaint what to look for. -/
def fileRecord {α : Type} [Codec α] (shape : Option Shape) (content : Option ByteArray) :
    Except Failure α := do
  let text ← fileText content
  match parse? text with
  | some a => .ok a
  | none => .error (.malformed (complaint shape text))

/-- What a file with a configuration is expected to hold. -/
def shape : Shape where
  name := "struct ProcessorConfig"
  fields := [("camera_id", ⟨"u32", 0xffffffff⟩),
    ("pipeline_depth", ⟨"usize", 0xffffffffffffffff⟩),
    ("max_frame_duration_ns", ⟨"u64", 0xffffffffffffffff⟩),
    ("min_frame_duration_ns", ⟨"u64", 0xffffffffffffffff⟩)]

/-- The configuration that a file holds (`none`: there is no file). -/
def load (content : Option ByteArray) : Except Failure Config := do
  let c ← fileRecord (some shape) content
  c.check
  return c

/-- The configuration that a file holds, or the default if it holds none that
can be used. -/
def loadOrDefault (content : Option ByteArray) : Config :=
  match load content with
  | .ok c => c
  | .error _ => {}

end Config

end VirtualCamera
