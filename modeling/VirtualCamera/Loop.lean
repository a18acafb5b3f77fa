import VirtualCamera.Fault

/-!
# Thread loops

Worker and sensor are threads that call a tick again and again until the tick
says to exit or the thread is told to stop.  The state that the ticks work on
is made on the thread before the first tick; if that fails there is no tick.

The thread looks at the stop flag between two ticks and never during one; the
flag may be set between the look and the tick.  Whoever stops the thread sets
the flag, takes the handle of the thread and waits for its end.  The thread
itself cannot wait for its own end: if it stops itself, from its tick, the
handle is lost, and nobody can wait any more.  A worker that is dropped is
stopped in the same way as long as the handle is there, and otherwise let go.
-/

namespace VirtualCamera

/-- What a tick says at its end. -/
inductive TickEnd where
  | goOn
  | exit
  /-- the tick crashed, and the thread with it -/
  | crash
  deriving DecidableEq, Repr

/-- What a thread does: how its state is made, and its tick. -/
structure LoopBody (α : Type) where
  init : Except Fault α
  tick : α → α × TickEnd

/-- Where a thread is. -/
inductive LoopPhase (α : Type) where
  /-- about to make its state -/
  | starting
  /-- about to look at the stop flag -/
  | checking (state : α)
  /-- saw that it may go on, and is about to begin a tick -/
  | cleared (state : α)
  /-- in a tick that began with this state -/
  | ticking (state : α)
  | ended (last : Option α)
  deriving DecidableEq, Repr

/-- Who has the handle of a thread, with which its end can be waited for. -/
inductive LoopHandle where
  /-- those who may stop the thread -/
  | kept
  /-- a caller that stopped the thread and waits for its end -/
  | awaited
  /-- nobody any more: a caller waited for the end of the thread -/
  | joined
  /-- nobody any more: the thread took it when it stopped itself -/
  | lost
  deriving DecidableEq, Repr

/-- What happens to a thread. -/
inductive LoopOccurrence (α : Type) where
  | tickBegan (state : α)
  | tickEnded (state : α) (how : TickEnd)
  /-- the stop flag was set -/
  | stopSet
  /-- a caller that stopped the thread has returned -/
  | stopReturned
  | threadEnded
  deriving DecidableEq, Repr

/-- A thread with those who stop it. -/
structure Loop (α : Type) where
  phase : LoopPhase α := .starting
  isStopping : Bool := false
  handle : LoopHandle := .kept
  /-- the newest first -/
  record : List (LoopOccurrence α) := []
  deriving DecidableEq, Repr

namespace Loop

variable {α : Type}

def note (l : Loop α) (o : LoopOccurrence α) : Loop α :=
  { l with record := o :: l.record }

def finish (l : Loop α) (last : Option α) : Loop α :=
  { l with phase := .ended last }.note .threadEnded

def hasEnded (l : Loop α) : Bool :=
  match l.phase with
  | .ended _ => true
  | .starting | .checking _ | .cleared _ | .ticking _ => false

/-- Whether the thread counts as running: only as long as its handle was not
taken. -/
def isRunning (l : Loop α) : Bool :=
  l.handle = .kept && !l.hasEnded

/-- The state that the thread works on, if it has been made. -/
def state? (l : Loop α) : Option α :=
  match l.phase with
  | .starting => none
  | .checking a | .cleared a | .ticking a => some a
  | .ended last => last

def ticks (l : Loop α) : Nat :=
  l.record.countP fun
    | .tickEnded .. => true
    | _ => false

/-- What can happen next. -/
inductive Move where
  /-- the thread goes on -/
  | thread
  /-- somebody, maybe the thread itself, sets the stop flag -/
  | requestStop
  /-- another thread stops the thread -/
  | stop
  /-- the thread stops itself -/
  | stopSelf
  /-- a waiting caller finds that the thread has ended -/
  | join
  deriving DecidableEq, Repr

def threadStep? (body : LoopBody α) (l : Loop α) : Option (Loop α) :=
  match l.phase with
  | .starting =>
    match body.init with
    | .ok a => some { l with phase := .checking a }
    | .error _ => some (l.finish none)
  | .checking a =>
    some (if l.isStopping then l.finish (some a) else { l with phase := .cleared a })
  | .cleared a => some ({ l with phase := .ticking a }.note (.tickBegan a))
  | .ticking a =>
    let (a, how) := body.tick a
    let l := l.note (.tickEnded a how)
    match how with
    | .goOn => some { l with phase := .checking a }
    | .exit | .crash => some (l.finish (some a))
  | .ended _ => none

def requestStop (l : Loop α) : Loop α :=
  { l with isStopping := true }.note .stopSet

/-- Another thread sets the flag and begins to wait, if the handle is there; if
not it returns at once.  While a caller waits there is no other one. -/
def stop? (l : Loop α) : Option (Loop α) :=
  match l.handle with
  | .kept => some { l.requestStop with handle := .awaited }
  | .awaited => none
  | .joined | .lost => some (l.requestStop.note .stopReturned)

/-- The thread sets the flag from its tick and takes the handle, but does not
wait. -/
def stopSelf? (l : Loop α) : Option (Loop α) :=
  match l.phase, l.handle with
  | .ticking _, .kept => some { l.requestStop with handle := .lost }
  | .ticking _, .joined | .ticking _, .lost => some l.requestStop
  | _, _ => none

def join? (l : Loop α) : Option (Loop α) :=
  if l.handle = .awaited ∧ l.hasEnded then some ({ l with handle := .joined }.note .stopReturned)
  else none

/-- One atomic step; `none` if the move is not possible now. -/
def step? (body : LoopBody α) (l : Loop α) : Move → Option (Loop α)
  | .thread => l.threadStep? body
  | .requestStop => some l.requestStop
  | .stop => l.stop?
  | .stopSelf => l.stopSelf?
  | .join => l.join?

def run? (body : LoopBody α) (l : Loop α) (moves : List Move) : Option (Loop α) :=
  moves.foldlM (fun l m => l.step? body m) l

def attempt (body : LoopBody α) (m : Move) (l : Loop α) : Loop α :=
  (l.step? body m).getD l

/-- Lets the thread go on for a number of steps, or to its end. -/
def goOn (body : LoopBody α) (steps : Nat) (l : Loop α) : Loop α :=
  Nat.repeat (attempt body .thread) steps l

/-! ## Counting threads -/

/-- A thread that counts its ticks, adds two to a number at each, and ends in
the given way once it has counted to `goal`.  It ticks once at least. -/
def counting (goal : Nat) (start : Int) (atGoal : TickEnd) : LoopBody (Nat × Int) where
  init := .ok (0, start)
  tick a := ((a.1 + 1, a.2 + 2), if goal ≤ a.1 + 1 then atGoal else .goOn)

def idling : LoopBody Unit where
  init := .ok ()
  tick a := (a, .goOn)

def stepsToCount (goal : Nat) : Nat :=
  3 * max 1 goal + 2

end Loop

end VirtualCamera
