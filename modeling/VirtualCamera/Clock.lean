import VirtualCamera.Fence

/-!
# Clocks

Threads rest, and wait for limited times.  What they do in between takes no
time, so a state changes only at moments that can be foretold: a `Clockwork`
says when something will happen by itself the next time, and does what is due.
Time passes by leaps from one such moment to the next (`Clockwork.elapse`).

Times are counted in nanoseconds.  Every leap goes forward, which bounds the
number of leaps up to a deadline.
-/

namespace VirtualCamera

/-- Something at a time. -/
structure Timed (α : Type) where
  value : α
  now : Nat := 0
  /-- when the worker began its present wait -/
  workerSince : Nat := 0
  /-- when the client began its present wait -/
  clientSince : Nat := 0

namespace Timed

def map {α β : Type} (f : α → β) (t : Timed α) : Timed β :=
  { t with value := f t.value }

/-- A moment that is later than the end of any wait. -/
def eternity : Nat := 0x100000000000000000000

end Timed

/-- The first of several moments, some of which may never come. -/
def earliest (moments : List (Option Nat)) : Option Nat :=
  (moments.filterMap id).min?

/-- Makes a step again and again as long as it is possible, `n` times at
most. -/
def exhaust {α : Type} (step? : α → Option α) : Nat → α → α
  | 0, a => a
  | n + 1, a =>
    match step? a with
    | some b => exhaust step? n b
    | none => a

/-- How something goes on by itself. -/
structure Clockwork (α : Type) where
  /-- when something will happen the next time, unless it stands still -/
  due? : Timed α → Option Nat
  /-- does all that is due by now -/
  turn : Timed α → Timed α

namespace Clockwork

variable {α : Type}

/-- Lets happen what is due by a deadline, until `enough` holds. -/
def elapse (w : Clockwork α) (enough : α → Bool) (deadline : Nat) (t : Timed α) : Timed α :=
  if enough t.value then t
  else
    match w.due? t with
    | none => t
    | some due =>
      let time := max due (t.now + 1)
      if time ≤ deadline then
        elapse w enough deadline { w.turn { t with now := time } with now := time }
      else t
termination_by deadline - t.now

/-- Waits until `enough` holds, for a limited time. -/
def within (w : Clockwork α) (enough : α → Bool) (time : Nat) (t : Timed α) : Timed α :=
  let after := w.elapse enough (t.now + time) t
  if enough after.value then after else { after with now := t.now + time }

def pass (w : Clockwork α) (time : Nat) (t : Timed α) : Timed α :=
  w.within (fun _ => false) time t

/-- A client waits for a fence for `budget` milliseconds at most, and changes
it `delay` milliseconds after the wait began if there is a `change`. -/
def awaitFence (w : Clockwork α) (fence : α → Fence) (put : Fence → α → α) (budget delay : Nat)
    (change : Option Fence) (t : Timed α) : Timed α × Except FenceFault Unit :=
  let f := fence t.value
  let waited := w.pass (f.waitTime budget delay change * 1000000) t
  let (outcome, after) := f.waitAcross budget delay change
  (waited.map (put after), outcome)

end Clockwork

end VirtualCamera
