import VirtualCamera.Clock
import VirtualCamera.Sensor.Simulated

/-!
# A sensor with several callers

A sensor on its own, without a processor: any number of callers hand frames
over, flush, wait for ticks and shut down, while the sensor's thread goes its
way.  A call is open from the moment it changes the sensor to the moment it
returns; in between it performs its effects, or waits.  Every move is one
atomic step of one thread (`Bench.step?`).
-/

namespace VirtualCamera.Sensor

/-- A call of a sensor that has not returned yet. -/
inductive SensorCall where
  /-- these effects are left before it returns -/
  | performing (effects : List Effect) (answer : Except Fault Unit)
  /-- waits for a tick -/
  | waiting (mark : UInt64)
  /-- shuts the sensor down: may have to wait for the end of its thread -/
  | halting (mustWait : Bool)
  deriving Repr

/-- A sensor with its callers. -/
structure Bench (σ : Type) where
  stage : Stage σ
  /-- the open calls by number -/
  calls : List (Nat × SensorCall) := []
  /-- how many calls were made -/
  opened : Nat := 0

namespace Bench

variable {σ : Type}

/-- What can happen next. -/
inductive Move where
  /-- a caller hands a frame over -/
  | hand (shot : Shot)
  | flush
  /-- a caller begins to wait for a tick -/
  | wait
  | shutDown
  /-- a call goes on -/
  | advance (call : Nat)
  /-- a call that waits for a tick gives up -/
  | expire (call : Nat)
  /-- the sensor's thread goes on -/
  | sensor
  deriving Repr

def note (b : Bench σ) (o : Occurrence) : Bench σ :=
  { b with stage := b.stage.note o }

def begin (b : Bench σ) (sensor : σ) (call : SensorCall) : Bench σ :=
  { stage := { b.stage with sensor }
    calls := b.calls ++ [(b.opened, call)]
    opened := b.opened + 1 }

def put (b : Bench σ) (i : Nat) (call : SensorCall) : Bench σ :=
  { b with calls := b.calls.map fun other => if other.1 = i then (i, call) else other }

/-- A call returns, with this occurrence. -/
def finish (b : Bench σ) (i : Nat) (o : Occurrence) : Bench σ :=
  { b.note o with calls := b.calls.filter (·.1 ≠ i) }

def advance? (E : Engine σ) (b : Bench σ) (i : Nat) : Option (Bench σ) :=
  match b.calls.lookup i with
  | none => none
  | some (.performing [] answer) => some (b.finish i (.returned i answer))
  | some (.performing (e :: rest) answer) =>
    some { b.put i (.performing rest answer) with stage := b.stage.perform .sensor e }
  | some (.waiting mark) =>
    (E.ticked? b.stage.sensor mark).map fun ticked => b.finish i (.paced (some i) ticked)
  | some (.halting mustWait) =>
    if mustWait ∧ !E.isHalted b.stage.sensor then none
    else
      let (sensor, effects, status) := E.close b.stage.sensor
      some { b.put i (.performing effects status) with stage := { b.stage with sensor } }

def expire? (E : Engine σ) (b : Bench σ) (i : Nat) : Option (Bench σ) :=
  match b.calls.lookup i with
  | some (.waiting mark) =>
    if (E.ticked? b.stage.sensor mark).isNone then some (b.finish i (.paced (some i) false))
    else none
  | _ => none

/-- One atomic step; `none` if the move is not possible now. -/
def step? (E : Engine σ) (b : Bench σ) : Move → Option (Bench σ)
  | .hand shot =>
    let (sensor, effects) := E.accept b.stage.sensor shot
    let handed := shot.tag?.toList.foldl (fun b tag => b.note (.handedOver tag shot)) b
    some (handed.begin sensor (.performing effects (.ok ())))
  | .flush =>
    let (sensor, effects, status) := E.flush b.stage.sensor
    some (b.begin sensor (.performing effects status))
  | .wait =>
    match E.mark? b.stage.sensor with
    | some mark => some (b.begin b.stage.sensor (.waiting mark))
    | none =>
      some { b with
        stage := b.stage.note (.paced (some b.opened) false)
        opened := b.opened + 1 }
  | .shutDown =>
    let (sensor, mustWait) := E.halt b.stage.sensor
    some (b.begin sensor (.halting mustWait))
  | .advance i => b.advance? E i
  | .expire i => b.expire? E i
  | .sensor => (b.stage.sensorStep? E).map fun stage => { b with stage }

def run? (E : Engine σ) (b : Bench σ) (moves : List Move) : Option (Bench σ) :=
  moves.foldlM (fun b m => b.step? E m) b

/-! ## One caller at a time -/

def attempt (E : Engine σ) (m : Move) (b : Bench σ) : Bench σ :=
  (b.step? E m).getD b

def isOpen (b : Bench σ) (i : Nat) : Bool :=
  (b.calls.lookup i).isSome

/-- How many steps a call needs at most before it waits or returns. -/
def patience (b : Bench σ) (i : Nat) : Nat :=
  match b.calls.lookup i with
  | some (.performing effects _) => effects.length + 1
  | some (.waiting _) | some (.halting _) => 1
  | none => 0

def pursue (E : Engine σ) (i : Nat) (b : Bench σ) : Bench σ :=
  let stretch (b : Bench σ) := exhaust (·.advance? E i) (b.patience i) b
  stretch (stretch b)

/-- Lets the simulated sensor do what is due, and the calls do what they can
then. -/
def turnBy (now : Nat) (b : Bench Simulated) : Bench Simulated :=
  let b := { b with stage := b.stage.sensorTurnBy now }
  b.calls.foldl (fun b call => b.pursue Simulated.engine call.1) b

def clockwork : Clockwork (Bench Simulated) where
  due? t := t.value.stage.sensor.due? t.now
  turn t := t.map (turnBy t.now)

def start (period : Nat) (store : Store) : Timed (Bench Simulated) :=
  clockwork.turn { value := { stage := { sensor := { period }, store } } }

/-- Makes a call of a simulated sensor and answers with its status. -/
def call (m : Move) (t : Timed (Bench Simulated)) : Timed (Bench Simulated) × Except Fault Unit :=
  let i := t.value.opened
  let begun := t.map fun b => (b.attempt Simulated.engine m).pursue Simulated.engine i
  let done := clockwork.elapse (fun b => !b.isOpen i) Timed.eternity begun
  (done, (done.value.stage.answer? i).getD (.ok ()))

def awaitTick (time : Nat) (t : Timed (Bench Simulated)) : Timed (Bench Simulated) × Bool :=
  let i := t.value.opened
  let begun := t.map (attempt Simulated.engine .wait)
  let waited := clockwork.within (fun b => !b.isOpen i) time begun
  let done := waited.map (attempt Simulated.engine (.expire i))
  (done, (done.value.stage.tickAnswer? i).getD false)

def withStore (b : Bench σ) (store : Store) : Bench σ :=
  { b with stage := { b.stage with store } }

end Bench

end VirtualCamera.Sensor
