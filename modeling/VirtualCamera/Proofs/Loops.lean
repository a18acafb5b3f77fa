import VirtualCamera.Loop

/-!
# Threads and those who stop them

What holds of every thread, whatever its ticks do.  A tick may depend on what
other threads do meanwhile, so that the thread is described by what its ticks
may come to (`LoopLaw`), and a `LoopBody` is the special case of a function.

`Transition` lists what a move can do.  From it follow, by induction over the
moves, the laws of a thread (`Loop.Lawful`): its ticks run one after another,
each from the state that the one before left; none begins after one that asked
to exit or crashed; and at most one begins after the stop flag was set.  For the
last of these a thread that has looked at the flag already counts as one that
has begun a tick (`Flagged`).

A caller that stopped the thread returns after the end of the thread if it had
the handle, or another caller had it before.  So after a stop has returned no
tick is running, and none begins (`Reachable.quietSince_stop`), unless the
thread took the handle from all of them by stopping itself.
-/

namespace VirtualCamera

namespace LoopOccurrence

variable {α : Type}

/-- Whether it belongs to a tick. -/
def isTick : LoopOccurrence α → Bool
  | tickBegan _ | tickEnded .. => true
  | stopSet | stopReturned | threadEnded => false

def isBegin : LoopOccurrence α → Bool
  | tickBegan _ => true
  | tickEnded .. | stopSet | stopReturned | threadEnded => false

/-- Whether a tick ended so that no other one may follow. -/
def isLastTick : LoopOccurrence α → Bool
  | tickEnded _ how => how ≠ .goOn
  | tickBegan _ | stopSet | stopReturned | threadEnded => false

def isReturn : LoopOccurrence α → Bool
  | stopReturned => true
  | tickBegan _ | tickEnded .. | stopSet | threadEnded => false

end LoopOccurrence

/-! ## Laws -/

/-- What may come of making the state of a thread, and of a tick. -/
structure LoopLaw (α : Type) where
  makes : Except Fault α → Prop
  ticks : α → α → TickEnd → Prop

def LoopBody.law {α : Type} (body : LoopBody α) : LoopLaw α where
  makes made := body.init = made
  ticks a b how := body.tick a = (b, how)

namespace LoopLaw

variable {α : Type}

/-- Ticks that were run one after another and asked to go on, the oldest first:
they lead from the state `a` to a state. -/
inductive Series (L : LoopLaw α) (a : α) : List (LoopOccurrence α) → α → Prop
  | nil : Series L a [] a
  | snoc {ticks : List (LoopOccurrence α)} {b c : α} (h : Series L a ticks b)
      (htick : L.ticks b c .goOn) :
      Series L a (ticks ++ [.tickBegan b, .tickEnded c .goOn]) c

/-- The ticks of a thread whose state was `a` at first: a series, and maybe one
more, which is running, or was the last. -/
inductive Serial (L : LoopLaw α) (a : α) : List (LoopOccurrence α) → Prop
  | between {ticks : List (LoopOccurrence α)} {b : α} (h : L.Series a ticks b) :
      Serial L a ticks
  | running {ticks : List (LoopOccurrence α)} {b : α} (h : L.Series a ticks b) :
      Serial L a (ticks ++ [.tickBegan b])
  | last {ticks : List (LoopOccurrence α)} {b c : α} {how : TickEnd} (h : L.Series a ticks b)
      (htick : L.ticks b c how) (hhow : how ≠ .goOn) :
      Serial L a (ticks ++ [.tickBegan b, .tickEnded c how])

end LoopLaw

namespace Loop

variable {α : Type} {L : LoopLaw α} {l l' : Loop α} {m : Move}

/-- What was noted of ticks, the oldest first. -/
def tickRecord (l : Loop α) : List (LoopOccurrence α) :=
  l.record.reverse.filter (·.isTick)

/-- Once such a thing was noted the thread has ended, and no more of a tick was
noted since. -/
structure QuietSince (l : Loop α) (marks : LoopOccurrence α → Bool) : Prop where
  hasEnded : ∀ o ∈ l.record, marks o = true → l.hasEnded = true
  pairwise : l.record.Pairwise fun newer older => marks older = true → newer.isTick = false

/-- What holds of every thread. -/
structure Lawful (L : LoopLaw α) (l : Loop α) : Prop where
  /-- if there were ticks, a state had been made, and they followed each other from that -/
  serial : l.tickRecord = [] ∨ ∃ a, L.makes (.ok a) ∧ L.Serial a l.tickRecord
  /-- after a tick that asked to exit or crashed there is none -/
  last : l.QuietSince (·.isLastTick)
  /-- at most one tick began after the stop flag was set -/
  flagged : ∀ newer older, l.record = newer ++ .stopSet :: older →
    newer.countP (·.isBegin) ≤ 1

/-! ## Transitions -/

inductive Transition (L : LoopLaw α) (l : Loop α) : Move → Loop α → Prop
  -- the thread
  | make {a : α} (hp : l.phase = .starting) (hmade : L.makes (.ok a)) :
      Transition L l .thread { l with phase := .checking a }
  | fail {fault : Fault} (hp : l.phase = .starting) (hmade : L.makes (.error fault)) :
      Transition L l .thread (l.finish none)
  | leave {a : α} (hp : l.phase = .checking a) (hs : l.isStopping = true) :
      Transition L l .thread (l.finish (some a))
  | pass {a : α} (hp : l.phase = .checking a) (hs : l.isStopping = false) :
      Transition L l .thread { l with phase := .cleared a }
  | beginTick {a : α} (hp : l.phase = .cleared a) :
      Transition L l .thread ({ l with phase := .ticking a }.note (.tickBegan a))
  | goOn {a b : α} (hp : l.phase = .ticking a) (htick : L.ticks a b .goOn) :
      Transition L l .thread { l.note (.tickEnded b .goOn) with phase := .checking b }
  | last {a b : α} {how : TickEnd} (hp : l.phase = .ticking a) (htick : L.ticks a b how)
      (hhow : how ≠ .goOn) :
      Transition L l .thread ((l.note (.tickEnded b how)).finish (some b))
  | stopSelf {a : α} (hp : l.phase = .ticking a) (hh : l.handle = .kept) :
      Transition L l .stopSelf { l.requestStop with handle := .lost }
  | stopSelfAgain {a : α} (hp : l.phase = .ticking a)
      (hh : l.handle = .joined ∨ l.handle = .lost) :
      Transition L l .stopSelf l.requestStop
  -- others
  | requestStop : Transition L l .requestStop l.requestStop
  | stop (hh : l.handle = .kept) :
      Transition L l .stop { l.requestStop with handle := .awaited }
  | stopAgain (hh : l.handle = .joined ∨ l.handle = .lost) :
      Transition L l .stop (l.requestStop.note .stopReturned)
  | join (hh : l.handle = .awaited) (he : l.hasEnded = true) :
      Transition L l .join ({ l with handle := .joined }.note .stopReturned)

theorem transition_of_threadStep? {body : LoopBody α} (h : l.threadStep? body = some l') :
    Transition body.law l .thread l' := by
  unfold threadStep? at h
  split at h
  case h_1 hp =>
    split at h
    · rename_i a hmade
      cases h
      exact .make hp hmade
    · rename_i fault hmade
      cases h
      exact .fail hp hmade
  case h_2 a hp =>
    obtain rfl := Option.some.inj h
    split
    · rename_i hs
      exact .leave hp hs
    · rename_i hs
      exact .pass hp (Bool.eq_false_iff.mpr hs)
  case h_3 a hp =>
    cases h
    exact .beginTick hp
  case h_4 a hp =>
    obtain ⟨b, how, htick⟩ : ∃ b how, body.tick a = (b, how) := ⟨_, _, rfl⟩
    simp only [htick] at h
    cases how with
    | goOn =>
        cases h
        exact .goOn hp htick
    | exit | crash =>
        cases h
        exact .last hp htick (by decide)
  case h_5 => cases h

theorem transition_of_step? {body : LoopBody α} (h : l.step? body m = some l') :
    Transition body.law l m l' := by
  cases m with
  | thread => exact transition_of_threadStep? h
  | requestStop =>
      cases h
      exact .requestStop
  | stop =>
      simp only [step?, stop?] at h
      split at h
      · cases h
        exact .stop ‹_›
      · cases h
      · cases h
        exact .stopAgain (Or.inl ‹_›)
      · cases h
        exact .stopAgain (Or.inr ‹_›)
  | stopSelf =>
      simp only [step?, stopSelf?] at h
      split at h
      · cases h
        exact .stopSelf ‹_› ‹_›
      · cases h
        exact .stopSelfAgain ‹_› (Or.inl ‹_›)
      · cases h
        exact .stopSelfAgain ‹_› (Or.inr ‹_›)
      · cases h
  | join =>
      simp only [step?, join?] at h
      split at h
      · rename_i hgo
        cases h
        exact .join hgo.1 hgo.2
      · cases h

/-- What every transition preserves holds at the end of a run. -/
theorem run?_induct {P : Loop α → Prop} {body : LoopBody α} {moves : List Move}
    (h : run? body l moves = some l') (start : P l)
    (next : ∀ {l l' : Loop α} {m : Move}, m ∈ moves → Transition body.law l m l' → P l → P l') :
    P l' := by
  induction moves generalizing l with
  | nil =>
      cases h
      exact start
  | cons m rest ih =>
      obtain ⟨k, hk, hrest⟩ := Option.bind_eq_some_iff.mp h
      exact ih hrest (next List.mem_cons_self (transition_of_step? hk) start)
        fun hm => next (List.mem_cons_of_mem _ hm)

/-- The threads that come about from a new one. -/
inductive Reachable (L : LoopLaw α) : Loop α → Prop
  | created : Reachable L {}
  | next {l l' : Loop α} {m : Move} (hl : Reachable L l) (h : Transition L l m l') :
      Reachable L l'

theorem reachable_of_run? {body : LoopBody α} {moves : List Move}
    (h : run? body {} moves = some l) : Reachable body.law l :=
  run?_induct h .created fun _ hstep hl => hl.next hstep

/-! ## What is noted -/

theorem hasEnded_iff : l.hasEnded = true ↔ ∃ last, l.phase = .ended last := by
  unfold hasEnded
  split <;> simp_all

theorem Transition.hasEnded (h : Transition L l m l') (he : l.hasEnded = true) :
    l'.hasEnded = true := by
  obtain ⟨last, hended⟩ := hasEnded_iff.mp he
  cases h with
  | make hp | fail hp | leave hp | pass hp | beginTick hp | goOn hp | last hp =>
      cases hended.symm.trans hp
  | _ => exact he

theorem hasEnded_eq_false (h : ∀ last, l.phase ≠ .ended last) : l.hasEnded = false := by
  rw [Bool.eq_false_iff]
  intro he
  obtain ⟨last, hended⟩ := hasEnded_iff.mp he
  exact h last hended

/-- What a move notes, the newest first.  Only a thread that has not ended notes
something of a tick, and then as the first thing that the move notes. -/
theorem Transition.notes (h : Transition L l m l') :
    ∃ new, l'.record = new ++ l.record ∧ new.Pairwise (fun newer _ => newer.isTick = false) ∧
      ∀ o ∈ new, o.isTick = true → l.hasEnded = false := by
  cases h with
  | make | pass => exact ⟨[], rfl, .nil, nofun⟩
  | fail | leave => exact ⟨[.threadEnded], rfl, by simp, by simp [LoopOccurrence.isTick]⟩
  | beginTick hp | goOn hp =>
      refine ⟨[_], rfl, by simp, fun _ _ _ => hasEnded_eq_false ?_⟩
      simp [hp]
  | last hp =>
      refine ⟨[.threadEnded, _], rfl, by simp [LoopOccurrence.isTick], ?_⟩
      intro _ _ _
      exact hasEnded_eq_false (by simp [hp])
  | stopSelf | stopSelfAgain | requestStop | stop =>
      exact ⟨[.stopSet], rfl, by simp, by simp [LoopOccurrence.isTick]⟩
  | join => exact ⟨[.stopReturned], rfl, by simp, by simp [LoopOccurrence.isTick]⟩
  | stopAgain =>
      exact ⟨[.stopReturned, .stopSet], rfl, by simp [LoopOccurrence.isTick],
        by simp [LoopOccurrence.isTick]⟩

/-! ## After the end -/

variable {marks : LoopOccurrence α → Bool}

theorem quietSince_created : QuietSince ({} : Loop α) marks :=
  ⟨nofun, .nil⟩

/-- A thread stays quiet since certain things were noted if such a thing is
noted only at its end. -/
theorem QuietSince.step (hq : l.QuietSince marks) (h : Transition L l m l')
    (hnew : ∀ o ∈ l'.record, marks o = true → o ∈ l.record ∨ l'.hasEnded = true) :
    l'.QuietSince marks := by
  constructor
  · intro o ho hmark
    rcases hnew o ho hmark with hold | hended
    · exact h.hasEnded (hq.hasEnded o hold hmark)
    · exact hended
  · obtain ⟨new, hrecord, hpairwise, hticks⟩ := h.notes
    have hwithin : new.Pairwise fun newer older => marks older = true → newer.isTick = false := by
      refine hpairwise.imp ?_
      intro newer older htick _
      exact htick
    rw [hrecord, List.pairwise_append]
    refine ⟨hwithin, hq.pairwise, ?_⟩
    intro o ho p hp hmark
    rw [Bool.eq_false_iff]
    intro htick
    cases (hq.hasEnded p hp hmark).symm.trans (hticks o ho htick)

/-- After a tick that asked to exit or crashed there is no other one. -/
theorem Reachable.quietSince_last (hl : Reachable L l) : l.QuietSince (·.isLastTick) := by
  induction hl with
  | created => exact quietSince_created
  | next hl h ih =>
      refine ih.step h ?_
      intro o ho hmark
      cases h with
      | make | pass => exact Or.inl ho
      | fail | leave | last => exact Or.inr rfl
      | goOn =>
          rcases List.mem_cons.mp ho with rfl | hold
          · cases hmark
          · exact Or.inl hold
      | beginTick | stopSelf | stopSelfAgain | requestStop | stop | join =>
          rcases List.mem_cons.mp ho with rfl | hold
          · cases hmark
          · exact Or.inl hold
      | stopAgain =>
          rcases List.mem_cons.mp ho with rfl | hold
          · cases hmark
          · rcases List.mem_cons.mp hold with rfl | hold
            · cases hmark
            · exact Or.inl hold

/-! ## Stops -/

/-- If the handle was taken, then by a caller that waited for the end. -/
theorem Reachable.hasEnded_of_joined (hl : Reachable L l) (hh : l.handle = .joined) :
    l.hasEnded = true := by
  induction hl with
  | created => cases hh
  | next hl h ih =>
      refine h.hasEnded ?_
      cases h with
      | join _ he => exact he
      | stopSelf | stop => cases hh
      | _ => exact ih hh

/-- Once a thread has lost its handle it will not get it back. -/
theorem Transition.handle_ne_lost (h : Transition L l m l') (hh : l'.handle ≠ .lost) :
    l.handle ≠ .lost := by
  intro hlost
  cases h with
  | stop hkept | stopSelf _ hkept => cases hlost.symm.trans hkept
  | join hawaited => cases hlost.symm.trans hawaited
  | _ => exact hh hlost

theorem Transition.handle_eq_joined (h : Transition L l m l') (hh : l.handle = .joined) :
    l'.handle = .joined := by
  cases h with
  | stop hkept | stopSelf _ hkept => cases hh.symm.trans hkept
  | join => rfl
  | _ => exact hh

/-- When a stop has returned, the thread has ended, unless it stopped itself. -/
theorem Reachable.quietSince_stop (hl : Reachable L l) (hh : l.handle ≠ .lost) :
    l.QuietSince (·.isReturn) := by
  induction hl with
  | created => exact quietSince_created
  | @next l l' m hl h ih =>
      have hstep := h
      refine (ih (h.handle_ne_lost hh)).step hstep ?_
      intro o ho hmark
      cases h with
      | make | pass => exact Or.inl ho
      | join _ he => exact Or.inr he
      | stopAgain hhandle =>
          exact Or.inr (hl.hasEnded_of_joined (hhandle.resolve_right hh))
      | fail | leave | last => exact Or.inr rfl
      | goOn | beginTick | stopSelf | stopSelfAgain | requestStop | stop =>
          rcases List.mem_cons.mp ho with rfl | hold
          · cases hmark
          · exact Or.inl hold

/-- A thread that never stops itself keeps its handle for others. -/
theorem handle_ne_lost_of_run? {body : LoopBody α} {moves : List Move}
    (h : run? body {} moves = some l) (hmoves : .stopSelf ∉ moves) : l.handle ≠ .lost := by
  refine run?_induct (P := fun l => l.handle ≠ .lost) h nofun ?_
  intro l l' m hm hstep hh
  cases hstep with
  | stopSelf => exact absurd hm hmoves
  | stop | join => nofun
  | _ => exact hh

/-- After a thread has stopped itself in a tick, a stop by others does not wait
for the end of the tick. -/
example : (run? idling {} [.thread, .thread, .thread, .stopSelf, .stop]).map (fun l =>
    (l.phase, l.handle, l.record)) =
      some (.ticking (), .lost, [.stopReturned, .stopSet, .stopSet, .tickBegan ()]) := by
  decide

/-! ## The stop flag -/

def isCleared (l : Loop α) : Bool :=
  l.phase matches .cleared _

/-- Once it was noted that the stop flag was set, it is set.  At most one tick
began since, and none if the thread is about to begin one. -/
def Flagged (l : Loop α) : Prop :=
  ∀ newer older, l.record = newer ++ .stopSet :: older →
    l.isStopping = true ∧ newer.countP (·.isBegin) ≤ 1 ∧
      (l.isCleared = true → newer.countP (·.isBegin) = 0)

/-- The thread is not about to begin a tick, if it was not before, and nothing
was noted. -/
theorem Flagged.still (hf : l.Flagged) (hrecord : l'.record = l.record)
    (hs : l'.isStopping = l.isStopping) (hc : l'.isCleared = true → l.isCleared = true) :
    l'.Flagged := by
  intro newer older hsplit
  rw [hrecord] at hsplit
  obtain ⟨hstopping, hcount, hcleared⟩ := hf newer older hsplit
  exact ⟨hs.trans hstopping, hcount, fun h => hcleared (hc h)⟩

/-- Something else than the beginning of a tick was noted. -/
theorem Flagged.note {o : LoopOccurrence α} (hf : l.Flagged) (ho : o.isBegin = false)
    (hs : o = .stopSet → l.isStopping = true) : (l.note o).Flagged := by
  intro newer older hsplit
  rcases List.cons_eq_append_iff.mp hsplit with ⟨rfl, hhead⟩ | ⟨newer, rfl, hrest⟩
  · exact ⟨hs (List.cons.inj hhead).1.symm, Nat.zero_le 1, fun _ => rfl⟩
  · rw [List.countP_cons_of_neg (by simp [ho])]
    exact hf newer older hrest

theorem Flagged.requestStop (hf : l.Flagged) : l.requestStop.Flagged := by
  refine Flagged.note ?_ rfl fun _ => rfl
  intro newer older hsplit
  obtain ⟨-, hcount⟩ := hf newer older hsplit
  exact ⟨rfl, hcount⟩

theorem Transition.flagged (h : Transition L l m l') (hf : l.Flagged) : l'.Flagged := by
  cases h with
  | make => exact hf.still rfl rfl nofun
  | fail | leave => exact Flagged.note (hf.still rfl rfl nofun) rfl nofun
  | pass hp hs =>
      -- the flag is not set, so nothing is asked
      intro newer older hsplit
      cases hs.symm.trans (hf newer older hsplit).1
  | @beginTick a hp =>
      intro newer older hsplit
      rcases List.cons_eq_append_iff.mp hsplit with ⟨rfl, hhead⟩ | ⟨newer, rfl, hrest⟩
      · cases (List.cons.inj hhead).1
      · obtain ⟨hstopping, -, hcleared⟩ := hf newer older hrest
        have hnone : newer.countP (·.isBegin) = 0 := hcleared (by simp [isCleared, hp])
        refine ⟨hstopping, ?_, nofun⟩
        exact Nat.le_of_eq ((List.countP_cons_of_pos rfl).trans (congrArg (· + 1) hnone))
  | @goOn a b hp =>
      have hnoted : (l.note (.tickEnded b .goOn)).Flagged := hf.note rfl nofun
      exact hnoted.still rfl rfl nofun
  | @last a b how hp =>
      have hnoted : (l.note (.tickEnded b how)).Flagged := hf.note rfl nofun
      exact Flagged.note (hnoted.still rfl rfl nofun) rfl nofun
  | stopSelf | stop => exact hf.requestStop.still rfl rfl id
  | stopSelfAgain | requestStop => exact hf.requestStop
  | stopAgain => exact hf.requestStop.note rfl nofun
  | join => exact Flagged.note (hf.still rfl rfl id) rfl nofun

theorem Reachable.flagged (hl : Reachable L l) : l.Flagged := by
  induction hl with
  | created =>
      intro newer older hsplit
      cases List.nil_eq_append_iff.mp hsplit with
      | intro _ hcons => cases hcons
  | next _ h ih => exact h.flagged ih

/-! ## Ticks in a row -/

theorem tickRecord_note (o : LoopOccurrence α) :
    (l.note o).tickRecord = l.tickRecord ++ [o].filter (·.isTick) := by
  rw [tickRecord, note, List.reverse_cons, List.filter_append, tickRecord]

theorem tickRecord_note_of_isTick {o : LoopOccurrence α} (ho : o.isTick = true) :
    (l.note o).tickRecord = l.tickRecord ++ [o] := by
  rw [tickRecord_note, List.filter_cons_of_pos ho, List.filter_nil]

theorem tickRecord_note_of_not_isTick {o : LoopOccurrence α} (ho : o.isTick = false) :
    (l.note o).tickRecord = l.tickRecord := by
  rw [tickRecord_note, List.filter_cons_of_neg (by simp [ho]), List.filter_nil, List.append_nil]

/-- What was noted of ticks, by where the thread is. -/
def InRow (L : LoopLaw α) (l : Loop α) : Prop :=
  match l.phase with
  | .starting | .ended none => l.tickRecord = []
  | .checking b | .cleared b => ∃ a, L.makes (.ok a) ∧ L.Series a l.tickRecord b
  | .ticking b =>
    ∃ a ticks, L.makes (.ok a) ∧ L.Series a ticks b ∧ l.tickRecord = ticks ++ [.tickBegan b]
  | .ended (some _) => ∃ a, L.makes (.ok a) ∧ L.Serial a l.tickRecord

theorem Transition.inRow (h : Transition L l m l') (hr : l.InRow L) : l'.InRow L := by
  have hsame (hphase : l'.phase = l.phase) (hticks : l'.tickRecord = l.tickRecord) :
      l'.InRow L := by
    rwa [InRow, hphase, hticks]
  have hquiet {o : LoopOccurrence α} (ho : o.isTick = false) (k : Loop α) :
      (k.note o).tickRecord = k.tickRecord :=
    tickRecord_note_of_not_isTick ho
  cases h with
  | make hp hmade =>
      rw [InRow, hp] at hr
      refine ⟨_, hmade, ?_⟩
      show L.Series _ l.tickRecord _
      rw [hr]
      exact .nil
  | fail hp =>
      rw [InRow, hp] at hr
      exact (hquiet rfl _).trans hr
  | leave hp =>
      rw [InRow, hp] at hr
      obtain ⟨a, hmade, hseries⟩ := hr
      refine ⟨a, hmade, ?_⟩
      rw [finish, hquiet rfl]
      exact .between hseries
  | pass hp =>
      rw [InRow, hp] at hr
      exact hr
  | beginTick hp =>
      rw [InRow, hp] at hr
      obtain ⟨a, hmade, hseries⟩ := hr
      exact ⟨a, _, hmade, hseries, tickRecord_note_of_isTick rfl⟩
  | @goOn b c hp htick =>
      rw [InRow, hp] at hr
      obtain ⟨a, ticks, hmade, hseries, hticks⟩ := hr
      refine ⟨a, hmade, ?_⟩
      show L.Series a (l.note (.tickEnded c .goOn)).tickRecord c
      rw [tickRecord_note_of_isTick rfl, hticks, List.append_assoc]
      exact hseries.snoc htick
  | @last b c how hp htick hhow =>
      rw [InRow, hp] at hr
      obtain ⟨a, ticks, hmade, hseries, hticks⟩ := hr
      refine ⟨a, hmade, ?_⟩
      rw [finish, hquiet rfl]
      show L.Serial a (l.note (.tickEnded c how)).tickRecord
      rw [tickRecord_note_of_isTick rfl, hticks, List.append_assoc]
      exact .last hseries htick hhow
  | stopSelf | stopSelfAgain | requestStop | stop => exact hsame rfl (hquiet rfl _)
  | stopAgain => exact hsame rfl ((hquiet rfl _).trans (hquiet rfl _))
  | join => exact hsame rfl (hquiet rfl _)

theorem Reachable.inRow (hl : Reachable L l) : l.InRow L := by
  induction hl with
  | created => rfl
  | next _ h ih => exact h.inRow ih

theorem InRow.serial (hr : l.InRow L) :
    l.tickRecord = [] ∨ ∃ a, L.makes (.ok a) ∧ L.Serial a l.tickRecord := by
  unfold InRow at hr
  split at hr
  · exact Or.inl hr
  · exact Or.inl hr
  · obtain ⟨a, hmade, hseries⟩ := hr
    exact Or.inr ⟨a, hmade, .between hseries⟩
  · obtain ⟨a, hmade, hseries⟩ := hr
    exact Or.inr ⟨a, hmade, .between hseries⟩
  · obtain ⟨a, ticks, hmade, hseries, hticks⟩ := hr
    rw [hticks]
    exact Or.inr ⟨a, hmade, .running hseries⟩
  · exact Or.inr hr

theorem Reachable.lawful (hl : Reachable L l) : l.Lawful L where
  serial := hl.inRow.serial
  last := hl.quietSince_last
  flagged newer older hsplit := (hl.flagged newer older hsplit).2.1

end Loop

end VirtualCamera
