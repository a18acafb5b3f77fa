import VirtualCamera.Proofs.Exposure
import VirtualCamera.Sensor.Bench

/-!
# What a caller of the sensor can do

The counterpart of `Camera.Transition` for a simulated sensor with several
callers: one constructor for each branch of `Bench.step?` that succeeds.  The
frames that are handed over are assumed to have outputs (`Move.HasOutputs`), as
those of the processor always do; a frame without outputs has nobody to be told
of it and leaves no trace in the record.
-/

namespace VirtualCamera.Sensor

namespace Bench

variable {b d : Bench Simulated} {m : Move} {period : Nat}

def Move.HasOutputs : Move → Prop
  | hand shot => shot.outputs ≠ []
  | flush | wait | shutDown | advance _ | expire _ | .sensor => True

/-- Whether a new caller makes the move. -/
def Move.begins : Move → Bool
  | hand _ | flush | wait | shutDown => true
  | advance _ | expire _ | .sensor => false

inductive Transition (b : Bench Simulated) : Move → Bench Simulated → Prop
  | hand {shot : Shot} {tag : FrameTag} (htag : shot.tag? = some tag) :
      Transition b (.hand shot)
        ((b.note (.handedOver tag shot)).begin (b.stage.sensor.accept shot).1
          (.performing (b.stage.sensor.accept shot).2 (.ok ())))
  | flush :
      Transition b .flush
        (b.begin b.stage.sensor.flush.1 (.performing b.stage.sensor.flush.2.1 (.ok ())))
  | wait (hflag : b.stage.sensor.isShuttingDown = false) :
      Transition b .wait (b.begin b.stage.sensor (.waiting b.stage.sensor.ticks))
  | refuse (hflag : b.stage.sensor.isShuttingDown = true) :
      Transition b .wait
        { b with
          stage := b.stage.note (.paced (some b.opened) false)
          opened := b.opened + 1 }
  | shutDown :
      Transition b .shutDown (b.begin b.stage.sensor.halt.1 (.halting b.stage.sensor.halt.2))
  | perform {l r : List (Nat × SensorCall)} {i : Nat} {e : Effect} {rest : List Effect}
      {answer : Except Fault Unit}
      (hcalls : b.calls = l ++ (i, .performing (e :: rest) answer) :: r) :
      Transition b (.advance i)
        { b with
          stage := b.stage.perform .sensor e
          calls := l ++ (i, .performing rest answer) :: r }
  | answer {l r : List (Nat × SensorCall)} {i : Nat} {answer : Except Fault Unit}
      (hcalls : b.calls = l ++ (i, .performing [] answer) :: r) :
      Transition b (.advance i)
        { b with stage := b.stage.note (.returned i answer), calls := l ++ r }
  | pace {l r : List (Nat × SensorCall)} {i : Nat} {mark : UInt64} {ticked : Bool}
      (hcalls : b.calls = l ++ (i, .waiting mark) :: r)
      (hticked : Simulated.engine.ticked? b.stage.sensor mark = some ticked) :
      Transition b (.advance i)
        { b with stage := b.stage.note (.paced (some i) ticked), calls := l ++ r }
  | close {l r : List (Nat × SensorCall)} {i : Nat} {mustWait : Bool}
      (hcalls : b.calls = l ++ (i, .halting mustWait) :: r)
      (hgo : mustWait = true → b.stage.sensor.thread = .ended) :
      Transition b (.advance i)
        { b with
          stage := { b.stage with sensor := b.stage.sensor.flush.1 }
          calls := l ++ (i, .performing b.stage.sensor.flush.2.1 (.ok ())) :: r }
  | expire {l r : List (Nat × SensorCall)} {i : Nat} {mark : UInt64}
      (hcalls : b.calls = l ++ (i, .waiting mark) :: r) :
      Transition b (.expire i)
        { b with stage := b.stage.note (.paced (some i) false), calls := l ++ r }
  | sensor {stage : Stage Simulated} (hs : b.stage.sensorStep? Simulated.engine = some stage) :
      Transition b .sensor { b with stage }

structure Numbered (b : Bench Simulated) : Prop extends NumberedBelow b.calls b.opened

theorem Transition.numbered (h : Transition b m d) (hn : b.Numbered) : d.Numbered := by
  obtain ⟨hnumbered⟩ := hn
  cases h with
  | hand | flush | wait | shutDown => exact ⟨hnumbered.append _⟩
  | refuse => exact ⟨hnumbered.nodup, fun p hp => Nat.lt_succ_of_lt (hnumbered.lt p hp)⟩
  | perform hcalls | close hcalls =>
      rw [hcalls] at hnumbered
      exact ⟨hnumbered.replace _⟩
  | answer hcalls | pace hcalls | expire hcalls =>
      rw [hcalls] at hnumbered
      exact ⟨hnumbered.remove⟩
  | sensor => exact ⟨hnumbered⟩

/-! ## Every step is a transition -/

theorem put_eq {l r : List (Nat × SensorCall)} {i : Nat} {old : SensorCall}
    {stage : Stage Simulated} (hn : b.Numbered) (hcalls : b.calls = l ++ (i, old) :: r)
    (new : SensorCall) :
    { b.put i new with stage } = { b with stage, calls := l ++ (i, new) :: r } := by
  have hreplaced := map_replace_split (hcalls ▸ hn.nodup) new
  simp only [put, hcalls, hreplaced]

theorem finish_eq {l r : List (Nat × SensorCall)} {i : Nat} {old : SensorCall} {o : Occurrence}
    (hn : b.Numbered) (hcalls : b.calls = l ++ (i, old) :: r) :
    b.finish i o = { b with stage := b.stage.note o, calls := l ++ r } := by
  have hremoved := filter_remove_split (hcalls ▸ hn.nodup)
  simp only [finish, note, hcalls, hremoved]

theorem transition_of_advance? {i : Nat} (hn : b.Numbered)
    (h : b.advance? Simulated.engine i = some d) : Transition b (.advance i) d := by
  unfold advance? at h
  split at h
  · cases h
  · rename_i answer hi
    obtain ⟨l, r, hcalls⟩ := exists_split_of_lookup hi
    obtain rfl := Option.some.inj h
    rw [finish_eq hn hcalls]
    exact .answer hcalls
  · rename_i e rest answer hi
    obtain ⟨l, r, hcalls⟩ := exists_split_of_lookup hi
    obtain rfl := Option.some.inj h
    exact put_eq hn hcalls _ ▸ .perform hcalls
  · rename_i mark hi
    obtain ⟨l, r, hcalls⟩ := exists_split_of_lookup hi
    obtain ⟨ticked, hticked, rfl⟩ := Option.map_eq_some_iff.mp h
    rw [finish_eq hn hcalls]
    exact .pace hcalls hticked
  · rename_i mustWait hi
    obtain ⟨l, r, hcalls⟩ := exists_split_of_lookup hi
    split at h
    · cases h
    · rename_i hgo
      obtain rfl := Option.some.inj h
      refine put_eq hn hcalls _ ▸ .close hcalls fun hwait => ?_
      simpa [hwait, Simulated.engine] using hgo

theorem transition_of_step? (hn : b.Numbered) (hm : m.HasOutputs)
    (h : b.step? Simulated.engine m = some d) : Transition b m d := by
  cases m with
  | hand shot =>
      obtain ⟨first, rest, hfirst⟩ := List.exists_cons_of_ne_nil hm
      have htag : shot.tag? = some first.tag := by simp [Shot.tag?, hfirst]
      simp only [step?, htag] at h
      obtain rfl := Option.some.inj h
      exact .hand htag
  | flush =>
      obtain rfl := Option.some.inj h
      exact .flush
  | wait =>
      cases hflag : b.stage.sensor.isShuttingDown with
      | true =>
          simp only [step?, Simulated.engine, hflag] at h
          obtain rfl := Option.some.inj h
          exact .refuse hflag
      | false =>
          simp only [step?, Simulated.engine, hflag] at h
          obtain rfl := Option.some.inj h
          exact .wait hflag
  | shutDown =>
      obtain rfl := Option.some.inj h
      exact .shutDown
  | advance i => exact transition_of_advance? hn h
  | expire i =>
      simp only [step?, expire?] at h
      split at h
      · rename_i mark hi
        obtain ⟨l, r, hcalls⟩ := exists_split_of_lookup hi
        split at h
        · obtain rfl := Option.some.inj h
          rw [finish_eq hn hcalls]
          exact .expire hcalls
        · cases h
      · cases h
  | sensor =>
      obtain ⟨stage, hs, rfl⟩ := Option.map_eq_some_iff.mp h
      exact .sensor hs

/-- Every step is a transition, but for one: a frame without outputs is put into the slot,
and nobody is told of it. -/
theorem transition_or_begin_of_step? (hn : b.Numbered) (h : b.step? Simulated.engine m = some d) :
    Transition b m d ∨ ∃ shot, m = .hand shot ∧
      d = b.begin (b.stage.sensor.accept shot).1
        (.performing (b.stage.sensor.accept shot).2 (.ok ())) := by
  by_cases hm : m.HasOutputs
  · exact .inl (transition_of_step? hn hm h)
  · cases m with
    | hand shot =>
        have htag : shot.tag? = none := by simp [Shot.tag?, not_not.mp hm]
        simp only [step?, htag] at h
        exact .inr ⟨shot, rfl, (Option.some.inj h).symm⟩
    | flush | wait | shutDown | advance | expire | sensor => exact absurd trivial hm

/-! ## Runs -/

/-- The states that a new sensor and its callers can come to. -/
inductive Reachable (period : Nat) : Bench Simulated → Prop
  | created (store : Store) : Reachable period { stage := { sensor := { period }, store } }
  | next {b d : Bench Simulated} {m : Move} (hb : Reachable period b) (hm : m.HasOutputs)
      (h : b.step? Simulated.engine m = some d) : Reachable period d

theorem Reachable.numbered (hb : Reachable period b) : b.Numbered := by
  induction hb with
  | created => exact ⟨by simp, by simp⟩
  | next hb hm h ih => exact (transition_of_step? ih hm h).numbered ih

theorem Reachable.transition (hb : Reachable period b) (hm : m.HasOutputs)
    (h : b.step? Simulated.engine m = some d) : Transition b m d :=
  transition_of_step? hb.numbered hm h

theorem run?_cons {moves : List Move} :
    b.run? Simulated.engine (m :: moves) =
      (b.step? Simulated.engine m).bind fun d => d.run? Simulated.engine moves := rfl

theorem Reachable.run_induct {P : Bench Simulated → Prop} {moves : List Move}
    (hb : Reachable period b) (hmoves : ∀ m ∈ moves, m.HasOutputs)
    (h : b.run? Simulated.engine moves = some d) (start : P b)
    (next : ∀ {c e : Bench Simulated} {m : Move}, m ∈ moves → Transition c m e → P c → P e) :
    Reachable period d ∧ P d := by
  induction moves generalizing b with
  | nil =>
      cases h
      exact ⟨hb, start⟩
  | cons m rest ih =>
      obtain ⟨c, hstep, hrun⟩ := Option.bind_eq_some_iff.mp (run?_cons ▸ h)
      have hm := hmoves m List.mem_cons_self
      have hc := next List.mem_cons_self (hb.transition hm hstep) start
      exact ih (hb.next hm hstep) (fun k hk => hmoves k (List.mem_cons_of_mem _ hk)) hrun hc
        fun hk => next (List.mem_cons_of_mem _ hk)

theorem Reachable.run? {moves : List Move} (hb : Reachable period b)
    (hmoves : ∀ m ∈ moves, m.HasOutputs) (h : b.run? Simulated.engine moves = some d) :
    Reachable period d :=
  (hb.run_induct (P := fun _ => True) hmoves h trivial fun _ _ _ => trivial).1

end Bench

end VirtualCamera.Sensor
