import VirtualCamera.Fault

/-!
# Fences

The producer of a buffer signals a fence once the buffer may be touched.  A
fence that was imported with a buffer is the client's fence itself: what the
client does to it later is seen by whoever waits for it.

A wait ends when the fence has left the pending state or when the waiter gives
up, so its outcome is that of the state at its end (`Fence.outcome`).
-/

namespace VirtualCamera

/-- The state of a fence. -/
inductive Fence where
  | pending
  | signaled
  | failed
  /-- the client gave its descriptor back -/
  | closed
  deriving DecidableEq, Repr

namespace Fence

def importable (f : Fence) : Bool :=
  f != closed

/-- How a wait ends that finds the fence in this state. -/
def outcome : Fence → Except FenceFault Unit
  | signaled => .ok ()
  | pending => .error .timedOut
  | failed | closed => .error .failed

def isSettled (f : Fence) : Bool :=
  f != pending

/-- A wait of `budget` milliseconds, and the fence after it, when the client
changes the fence `delay` milliseconds after the wait began. -/
def waitAcross (f : Fence) (budget delay : Nat) (change : Option Fence) :
    Except FenceFault Unit × Fence :=
  match change with
  | none => (f.outcome, f)
  | some g => (if f.isSettled || budget ≤ delay then f.outcome else g.outcome, g)

def waitTime (f : Fence) (budget delay : Nat) (change : Option Fence) : Nat :=
  if f.isSettled then 0
  else match change with
    | none => budget
    | some _ => min budget delay

end Fence

end VirtualCamera
