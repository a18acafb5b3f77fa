import VirtualCamera.Json.Codec
import VirtualCamera.Characteristics
import VirtualCamera.Stream

/-!
# The record formats

Field names and their order, for each record that is written as JSON.  The
fields of capture settings may all be absent, and absent ones are not written;
in the other records every field has to be there.
-/

namespace VirtualCamera

open Json

/-! ## Frame rates -/

def FrameRate.fieldNames : List String := ["min", "max"]

instance : Codec FrameRate where
  encode r := .ofFields (field "min" r.least ++ field "max" r.most)
  decode v := do
    let e ← entries? FrameRate.fieldNames v
    return { least := ← e.field? "min", most := ← e.field? "max" }

/-! ## Capture settings -/

def CaptureSettings.fieldNames : List String :=
  ["capture_intent", "control_mode", "ae_mode", "awb_mode", "af_mode", "ae_target_fps_range",
    "exposure_time_ns", "frame_duration_ns", "sensitivity", "ae_state"]

instance : Codec CaptureSettings where
  encode s := .ofFields (
    presentField "capture_intent" s.intent ++ presentField "control_mode" s.control ++
    presentField "ae_mode" s.exposure ++ presentField "awb_mode" s.whiteBalance ++
    presentField "af_mode" s.focus ++ presentField "ae_target_fps_range" s.frameRate ++
    presentField "exposure_time_ns" s.exposureTime ++
    presentField "frame_duration_ns" s.frameDuration ++
    presentField "sensitivity" s.sensitivity ++ presentField "ae_state" s.exposureState)
  decode v := do
    let e ← entries? CaptureSettings.fieldNames v
    return {
      intent := ← e.fieldOr? "capture_intent" none
      control := ← e.fieldOr? "control_mode" none
      exposure := ← e.fieldOr? "ae_mode" none
      whiteBalance := ← e.fieldOr? "awb_mode" none
      focus := ← e.fieldOr? "af_mode" none
      frameRate := ← e.fieldOr? "ae_target_fps_range" none
      exposureTime := ← e.fieldOr? "exposure_time_ns" none
      frameDuration := ← e.fieldOr? "frame_duration_ns" none
      sensitivity := ← e.fieldOr? "sensitivity" none
      exposureState := ← e.fieldOr? "ae_state" none }

/-! ## Characteristics -/

def Characteristics.fieldNames : List String :=
  ["capabilities", "max_pipeline_depth", "hardware_level", "available_control_modes",
    "available_ae_modes", "available_awb_modes", "available_af_modes", "available_fps_ranges",
    "sensitivity_range", "exposure_time_range_ns", "max_frame_duration_ns"]

instance : Codec Characteristics where
  encode c := .ofFields (
    field "capabilities" c.capabilities ++ field "max_pipeline_depth" c.maxPipelineDepth ++
    field "hardware_level" c.hardwareLevel ++ field "available_control_modes" c.controlModes ++
    field "available_ae_modes" c.exposureModes ++
    field "available_awb_modes" c.whiteBalanceModes ++
    field "available_af_modes" c.focusModes ++ field "available_fps_ranges" c.frameRates ++
    field "sensitivity_range" c.sensitivity ++ field "exposure_time_range_ns" c.exposureTime ++
    field "max_frame_duration_ns" c.maxFrameDuration)
  decode v := do
    let e ← entries? Characteristics.fieldNames v
    return {
      capabilities := ← e.field? "capabilities"
      maxPipelineDepth := ← e.field? "max_pipeline_depth"
      hardwareLevel := ← e.field? "hardware_level"
      controlModes := ← e.field? "available_control_modes"
      exposureModes := ← e.field? "available_ae_modes"
      whiteBalanceModes := ← e.field? "available_awb_modes"
      focusModes := ← e.field? "available_af_modes"
      frameRates := ← e.field? "available_fps_ranges"
      sensitivity := ← e.field? "sensitivity_range"
      exposureTime := ← e.field? "exposure_time_range_ns"
      maxFrameDuration := ← e.field? "max_frame_duration_ns" }

/-! ## Streams -/

def Stream.fieldNames : List String :=
  ["id", "width", "height", "format", "dataspace", "buffer_size", "producer_usage", "is_input"]

instance : Codec Stream where
  encode s := .ofFields (
    field "id" s.id ++ field "width" s.width ++ field "height" s.height ++
    field "format" s.format ++ field "dataspace" s.dataspace ++
    field "buffer_size" s.bufferSize ++ field "producer_usage" s.usage ++
    field "is_input" s.isInput)
  decode v := do
    let e ← entries? Stream.fieldNames v
    return {
      id := ← e.field? "id"
      width := ← e.field? "width"
      height := ← e.field? "height"
      format := ← e.field? "format"
      dataspace := ← e.field? "dataspace"
      bufferSize := ← e.field? "buffer_size"
      usage := ← e.field? "producer_usage"
      isInput := ← e.field? "is_input" }

end VirtualCamera
