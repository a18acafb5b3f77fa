import VirtualCamera.Capture
import VirtualCamera.CommandLine.Arguments

/-!
# Outcomes of the command line

What a command prints, what it complains about and how it exits.  A command
that fails has printed what it had to print until then.
-/

namespace VirtualCamera.CommandLine

/-- Why a command failed. -/
inductive Complaint where
  | fault (fault : Fault)
  | failure (failure : Failure)
  | crash (crash : Crash)
  deriving DecidableEq, Repr

namespace Complaint

def ofStop : Stop → Complaint
  | .refused f => fault f
  | .crashed c => crash c

def diagnostic : Complaint → String
  | fault f => f.diagnostic
  | failure f => f.diagnostic
  | crash c => c.message

def exitCode : Complaint → UInt8
  | fault _ | failure _ => 1
  | crash _ => 101

end Complaint

/-- What a command does to the outside. -/
structure Outcome where
  lines : List String
  warnings : List String := []
  complaint : Option Complaint := none
  deriving DecidableEq, Repr

namespace Outcome

def failed (complaint : Complaint) : Outcome :=
  { lines := [], complaint := some complaint }

def errorLines (o : Outcome) : List String :=
  o.warnings ++ o.complaint.toList.map fun c => "Error: " ++ c.diagnostic

def exitCode (o : Outcome) : UInt8 :=
  o.complaint.elim 0 Complaint.exitCode

end Outcome

def usageExitCode : UInt8 := 2

/-! ## Layouts and templates -/

def showGeometry (format : PixelFormat) (width height : UInt32) (dataspace : Dataspace)
    (bufferSize : UInt32) : Outcome :=
  match Extent.resolve format dataspace width height bufferSize with
  | .error fault => .failed (.fault fault)
  | .ok extent => {
      lines := [
        s!"Format:   {format.name} ({Vocabulary.word dataspace})",
        s!"Size:     {width}x{height}",
        s!"Stride:   {extent.stride} bytes",
        s!"Buffer:   {extent.size} bytes"] }

/-- Shows the settings of a template, or why there are none. -/
def templateLines (controls : Controls) (t : Template) : List String :=
  match controls.template t with
  | .ok settings =>
    (Vocabulary.word t ++ ":") :: (Json.encode settings).spread.splitOn "\n"
  | .error fault => [s!"{Vocabulary.word t}: unavailable ({fault.message})"]

def showTemplates (description : Characteristics) : Outcome :=
  let blank : Controls := { camera := 0 }
  match blank.takeUp description with
  | .error fault => .failed (.fault fault)
  | .ok controls =>
    { lines := (Vocabulary.members : List Template).flatMap (templateLines controls) }

/-! ## Capture runs -/

/-- A number in four columns at least, to the right. -/
def padded (n : UInt32) : String :=
  let digits := toString n
  String.ofList (List.replicate (4 - digits.length) ' ') ++ digits

def eventLine : Event → String
  | .shutter _ frame time => s!"  frame {padded frame}  shutter at {time} ns"
  | .error _ code frame _ => s!"  frame {padded frame}  {Vocabulary.word code} error"
  | .result r =>
    let exposure := r.metadata.exposureTime.getD 0
    let sensitivity := r.metadata.sensitivity.getD 0
    s!"  frame {padded r.frame}  {r.outputs.length} buffer(s), " ++
      s!"exposure {exposure} ns, iso {sensitivity}"

def totalLines (t : CaptureTotals) : List String :=
  ["", s!"Submitted {t.submitted}, completed {t.completed}, failed {t.failed}, " ++
    s!"sensor frames {t.captured}"]

def totalWarnings (t : CaptureTotals) : List String :=
  if t.gaveUp then
    [s!"Timed out waiting for {t.submitted - (t.completed + t.failed)} frame(s)"]
  else []

/-- What a run complains about whose session did not close well. -/
def closeComplaint : Except Fault Unit → Option Complaint
  | .ok _ => none
  | .error fault => some (.fault fault)

/-- The outcome of a run, as far as it has come. -/
def captureOutcome (c : Capture) : Outcome :=
  let header := s!"Capturing {c.frames} frame(s) at {Limits.previewWidth}x" ++
    s!"{Limits.previewHeight} (Ctrl+C to stop)"
  let lines := header :: c.read.map eventLine
  match c.phase with
  | .done totals closed => {
      lines := lines ++ totalLines totals
      warnings := totalWarnings totals
      complaint := closeComplaint closed }
  | .failed stop => { lines, complaint := some (.ofStop stop) }
  | _ => { lines }

def runCapture (config : Config) (description : Characteristics) (frames : UInt32) : Outcome :=
  match Capture.open? config description frames.toNat with
  | .error stop => .failed (.ofStop stop)
  | .ok c => captureOutcome c.follow

/-! ## Commands -/

/-- The files that a command may read: their contents by path, and the default
configuration. -/
structure Files where
  content : String → Option ByteArray
  defaultConfig : Option ByteArray

/-- The description of the camera: from a file, or the standard one. -/
def describe (files : Files) : Option String → Except Failure Characteristics
  | some path => Config.fileRecord none (files.content path)
  | none => .ok .standard

/-- The configuration: from a file that is named, or the default one. -/
def configure (files : Files) (path : Option String) : Config :=
  Config.loadOrDefault (path.elim files.defaultConfig files.content)

def usage : List String :=
  ["Drive the request pipeline of an emulated camera", "",
    "Usage: emulated-camera <COMMAND>", "",
    "Commands:",
    "  run        Capture frames from a simulated sensor",
    "  templates  Print the default request templates as JSON",
    "  geometry   Print the buffer geometry of a stream",
    "  help       Print this message"]

def Command.outcome (files : Files) : Command → Outcome
  | run frames config characteristics =>
    match describe files characteristics with
    | .error failure => .failed (.failure failure)
    | .ok description => runCapture (configure files config) description frames
  | templates characteristics =>
    match describe files characteristics with
    | .error failure => .failed (.failure failure)
    | .ok description => showTemplates description
  | geometry format width height dataspace bufferSize =>
    showGeometry format width height dataspace bufferSize
  | help => { lines := usage }
  | version => { lines := ["emulated-camera"] }

end VirtualCamera.CommandLine
