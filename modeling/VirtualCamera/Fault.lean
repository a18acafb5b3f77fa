import VirtualCamera.Limits
import VirtualCamera.Text.Quoted

/-!
# Faults

What can go wrong when requests are admitted, prepared and captured (`Fault`),
when a fence is waited for (`FenceFault`), and around them when files and
configurations are read (`Failure`).  Each has a message for people and a
diagnostic that names the fault and quotes what it carries.
-/

namespace VirtualCamera

/-- A fault of the request pipeline. -/
inductive Fault where
  /-- an unknown id, or input that is malformed otherwise -/
  | invalidArgument (reason : String)
  /-- the queue stayed full for longer than the longest frame -/
  | timeout
  /-- a client buffer could not be locked -/
  | lockFailed (reason : String)
  /-- a client buffer came with a fence that could not be imported -/
  | fenceNotImported
  /-- a pixel format and dataspace without a known layout -/
  | unsupported (reason : String)
  /-- an operation that the present state does not allow -/
  | invalidState (reason : String)
  /-- a failure reported by the sensor -/
  | sensor (reason : String)
  deriving DecidableEq, Repr

namespace Fault

def kind : Fault → String
  | invalidArgument _ => "InvalidArgument"
  | timeout => "Timeout"
  | lockFailed _ => "LockFailed"
  | fenceNotImported => "FenceImportError"
  | unsupported _ => "Unsupported"
  | invalidState _ => "InvalidState"
  | sensor _ => "Sensor"

/-- The reason that the fault carries, if its kind carries one. -/
def reason? : Fault → Option String
  | invalidArgument reason | lockFailed reason | unsupported reason | invalidState reason
  | sensor reason => some reason
  | timeout | fenceNotImported => none

/-- The fault of a kind, given by its word, with a reason. -/
def ofKind? (kind reason : String) : Option Fault :=
  [invalidArgument reason, timeout, lockFailed reason, fenceNotImported, unsupported reason,
    invalidState reason, sensor reason].find? fun fault => fault.kind == kind

def message : Fault → String
  | invalidArgument reason => s!"Invalid argument: {reason}"
  | timeout => "Timed out waiting for a pending request slot"
  | lockFailed reason => s!"Failed to lock buffer: {reason}"
  | fenceNotImported => "Failed to import acquire fence"
  | unsupported reason => s!"Unsupported: {reason}"
  | invalidState reason => s!"Invalid state: {reason}"
  | sensor reason => s!"Sensor error: {reason}"

def diagnostic (fault : Fault) : String :=
  match fault.reason? with
  | some reason => s!"{fault.kind}({Text.quoted reason})"
  | none => fault.kind

end Fault

/-- Why an operation stopped: it was refused, or its thread came to an end. -/
inductive Stop where
  | refused (fault : Fault)
  | crashed (crash : Crash)
  deriving DecidableEq, Repr

/-- Why a wait for a fence failed. -/
inductive FenceFault where
  /-- it stayed pending for the whole wait -/
  | timedOut
  /-- its producer reported an error, or its descriptor was closed -/
  | failed
  deriving DecidableEq, Repr

namespace FenceFault

/-- The word for the kind of fault, which is also its diagnostic. -/
def kind : FenceFault → String
  | timedOut => "TimedOut"
  | failed => "Failed"

/-- The fault of a kind, given by its word. -/
def ofKind? (kind : String) : Option FenceFault :=
  [timedOut, failed].find? fun fault => fault.kind == kind

def message : FenceFault → String
  | timedOut => "Fence wait timed out"
  | failed => "Fence signaled an error"

end FenceFault

/-- A failure outside the pipeline: of a request, of a configuration or of a
file. -/
inductive Failure where
  | processor (fault : Fault)
  /-- a configuration that was read but cannot be used -/
  | config (reason : String)
  /-- a text that is no record of the kind that was asked for -/
  | malformed (reason : String)
  | file (reason : String)
  deriving DecidableEq, Repr

namespace Failure

def kind : Failure → String
  | processor _ => "Processor"
  | config _ | malformed _ => "Config"
  | file _ => "Io"

def message : Failure → String
  | processor fault => s!"Processor error: {fault.message}"
  | config reason | malformed reason => s!"Configuration error: {reason}"
  | file reason => s!"I/O error: {reason}"

/-- The message of what caused the failure, when there is a cause. -/
def cause? : Failure → Option String
  | processor fault => some fault.message
  | config _ | malformed _ => none
  | file reason => some reason

def diagnostic : Failure → String
  | processor fault => s!"Processor({fault.diagnostic})"
  | config reason | malformed reason => s!"Config({Text.quoted reason})"
  | file reason =>
    "Io(" ++ Text.shownRecord "Custom" [("kind", "Other"), ("error", Text.quoted reason)] "" ++ ")"

end Failure

end VirtualCamera
