import VirtualCamera.Proofs.Record

/-!
# A call and the other threads

A call goes on by moves of its own (`Move.call?`).  All other moves leave its
phase alone, and the answer that it returned.  An open call, and a call that is
not made yet, has no answer; so there is one answer at most to every call.

Through all its phases a call stays of one kind (`Call.kind`): it submits, it
flushes or it stops.

As the calls have distinct numbers, the one that moves is the one that is looked
up.  So `Transition` says no more than `Camera.step?` (`Transition.step?_eq`).
-/

namespace VirtualCamera

/-! ## Answers in the record -/

namespace Stage

variable {σ : Type} {s : Stage σ} {i j : Nat}

theorem answer?_note_returned (answer : Except Fault Unit) :
    (s.note (.returned i answer)).answer? j = if i = j then some answer else s.answer? j := by
  simp only [answer?, note, List.findSome?_cons]
  split <;> simp_all

theorem answer?_note {o : Occurrence} (ho : ∀ answer, o ≠ .returned j answer) :
    (s.note o).answer? j = s.answer? j := by
  cases o with
  | returned i answer =>
      have hne : i ≠ j := fun heq => ho answer (heq ▸ rfl)
      rw [answer?_note_returned, if_neg hne]
  | _ => rfl

@[simp] theorem answer?_perform (speaker : Speaker) (e : Effect) :
    (s.perform speaker e).answer? j = s.answer? j := by
  cases e <;> rfl

@[simp] theorem answer?_performAll (speaker : Speaker) (effects : List Effect) :
    (s.performAll speaker effects).answer? j = s.answer? j := by
  induction effects generalizing s with
  | nil => rfl
  | cons e rest ih => exact ih.trans (answer?_perform speaker e)

end Stage

namespace Camera

variable {σ : Type} {E : Engine σ} {c d : Camera σ} {sensor : σ} {i : Nat}

/-! ## Kinds of calls -/

/-- An open call was open before, as one of its kind, or the move began it. -/
theorem Transition.kind_eq {m : Move} {p : Nat × Call} (h : Transition E c m d)
    (hp : p ∈ d.calls) :
    (∃ old, (p.1, old) ∈ c.calls ∧ p.2.kind = old.kind) ∨ m.opens? = some p.2.kind := by
  cases h.callsStep with
  | still hd _ => exact Or.inl ⟨p.2, hd ▸ hp, rfl⟩
  | answered _ hd _ =>
      rw [hd] at hp
      cases hp
  | goesOn _ hc hd hkind _ =>
      rw [hd, mem_split] at hp
      rw [hc]
      rcases hp with rfl | hp
      · exact Or.inl ⟨_, mem_split.mpr (Or.inl rfl), hkind⟩
      · exact Or.inl ⟨p.2, mem_split.mpr (Or.inr hp), rfl⟩
  | returns _ hc hd _ =>
      rw [hd] at hp
      rw [hc]
      exact Or.inl ⟨p.2, mem_split.mpr (Or.inr hp), rfl⟩
  | begins hm hd _ =>
      rw [hd, List.mem_append, List.mem_singleton] at hp
      rcases hp with hp | rfl
      · exact Or.inl ⟨p.2, hp, rfl⟩
      · exact Or.inr hm

/-- A kind of call that is not there comes only by a move that begins one. -/
theorem Transition.kind_ne {m : Move} {kind : CallKind} (h : Transition E c m d)
    (hm : m.opens? ≠ some kind) (hc : ∀ p ∈ c.calls, p.2.kind ≠ kind) :
    ∀ p ∈ d.calls, p.2.kind ≠ kind := by
  rintro p hp rfl
  rcases h.kind_eq hp with ⟨old, hold, hkind⟩ | hopens
  · exact hc _ hold hkind.symm
  · exact hm hopens

/-! ## Looking up calls -/

theorem lookup_split {l r : List (Nat × Call)} {call : Call} (hn : c.Numbered)
    (hc : c.calls = l ++ (i, call) :: r) : c.calls.lookup i = some call := by
  obtain ⟨hl, -⟩ := ne_of_nodup_split (hc ▸ hn.nodup)
  exact List.lookup_eq_some_iff.mpr ⟨l, r, hc, fun p hp => by simpa using (hl p hp).symm⟩

theorem mem_of_lookup {call : Call} (hi : c.calls.lookup i = some call) :
    (i, call) ∈ c.calls := by
  obtain ⟨l, r, hc⟩ := exists_split_of_lookup hi
  simp [hc]

theorem lookup_split_ne {l r : List (Nat × Call)} {j : Nat} {call : Call} (h : i ≠ j) :
    (l ++ (j, call) :: r).lookup i = (l ++ r).lookup i := by
  rw [List.lookup_append, List.lookup_append, List.lookup_cons, beq_false_of_ne h]

theorem lookup_eq_none (h : ∀ p ∈ c.calls, p.1 ≠ i) : c.calls.lookup i = none :=
  List.lookup_eq_none_iff.mpr fun p hp => bne_iff_ne.mpr (h p hp).symm

theorem lookup_put {old new : Call} (hi : c.calls.lookup i = some old) :
    (c.put i new).calls.lookup i = some new := by
  unfold put
  simp only
  generalize c.calls = calls at hi ⊢
  induction calls with
  | nil => cases hi
  | cons p rest ih =>
      rw [List.map_cons, List.lookup_cons]
      by_cases heq : p.1 = i
      · simp [heq]
      · rw [List.lookup_cons, beq_false_of_ne (Ne.symm heq)] at hi
        simp [heq, beq_false_of_ne (Ne.symm heq), ih hi]

theorem lookup_finish {answer : Except Fault Unit} :
    (c.finish i answer).calls.lookup i = none :=
  lookup_eq_none fun p hp => by simpa using (List.mem_filter.mp hp).2

theorem lookup_abort {crash : Crash} : (c.abort i crash).calls.lookup i = none :=
  lookup_eq_none fun p hp => by simpa using (List.mem_filter.mp hp).2

theorem crash?_abort (c : Camera σ) (i : Nat) (crash : Crash) :
    (c.abort i crash).stage.crash? i = some crash := by
  simp [abort, Stage.crash?, Stage.note]

theorem answer?_finish (c : Camera σ) (i : Nat) (answer : Except Fault Unit) :
    (c.finish i answer).stage.answer? i = some answer := by
  rw [finish, Stage.answer?_note_returned, if_pos rfl]

theorem step?_of_returned {m : Move} (hi : c.calls.lookup i = none) (hm : m.call? = some i) :
    c.step? E m = none := by
  cases m with
  | advance j =>
      obtain rfl : j = i := Option.some.inj hm
      simp [step?, callStep?, hi]
  | expire j =>
      obtain rfl : j = i := Option.some.inj hm
      simp [step?, expire?, hi]
  | _ => cases hm

/-! ## Every transition is a step -/

section

variable {phase : SubmitPhase} {frame : UInt32} {table : List Pipeline}

/-- A step of a submission that does not depend on whether there is a slot. -/
theorem step?_of_mayAdmit {left : List CaptureRequest}
    (hi : c.calls.lookup i = some (.submitting phase frame table left)) (hgo : c.MayAdmit phase)
    (hd : ∀ hasSlot, c.submitNext E i hasSlot frame table left = d) :
    c.step? E (.advance i) = some d := by
  rcases hgo with rfl | ⟨rfl, hlock, hroom⟩
  · simp [step?, callStep?, hi, hd]
  · have hgo' : (!c.isFull || c.isPoisoned) = true := by simpa [TakesSlot] using hroom
    simp [step?, callStep?, hi, hlock, hgo', hd]

theorem step?_of_admits {q : CaptureRequest} {left : List CaptureRequest} {p : Pipeline}
    (hi : c.calls.lookup i = some (.submitting phase frame table (q :: left)))
    (hgo : c.MayAdmit phase) (hcheck : checkRequest table q = .ok p) (hroom : c.TakesSlot phase)
    (hd : c.admitRequest E i frame table p q left = d) : c.step? E (.advance i) = some d := by
  rcases hgo with rfl | ⟨rfl, hlock, -⟩
  · have hfull : c.isFull = false := by simpa [TakesSlot] using hroom
    simp [step?, callStep?, hi, submitNext, hcheck, hfull, hd]
  · have hgo' : (!c.isFull || c.isPoisoned) = true := by simpa [TakesSlot] using hroom
    simp [step?, callStep?, hi, submitNext, hcheck, hlock, hgo', hd]

end

theorem Transition.step?_eq {m : Move} (hn : c.Numbered) (h : Transition E c m d) :
    c.step? E m = some d := by
  cases h with
  | check hw | outputsAwaited hw | perform hw | finished hw | unwind hw | unwound hw =>
      simp only [step?, workerStep?, hw]
  | awaitOutput hw | awaitInput hw => simp only [step?, workerStep?, hw]
  | handOver hw =>
      simp only [step?, workerStep?, hw]
      rfl
  | idle hw hfree hlock hq | take hw hfree hlock hq =>
      simp [step?, workerStep?, hw, hfree, hlock, pop, hq]
  | resolve hw hlock hr => simp [step?, workerStep?, hw, hlock, hr.resolve_eq]
  | crash hw hlock hs hr =>
      simp [step?, workerStep?, hw, hlock, Camera.resolve, hs, hr, Camera.crash]
  | record hw hlock => simp [step?, workerStep?, hw, hlock]
  | beginPacing hw hm | skipPacing hw hm => simp [step?, workerStep?, hw, hm]
  | pace hw ht => simp [step?, workerStep?, hw, ht]
  | giveUp hw ht => simp [step?, giveUp?, hw, ht]
  | submit hstop | flush hstop => simp [step?, hstop]
  | enter hc hlock =>
      simp only [step?, callStep?, lookup_split hn hc, hlock, if_true]
      refine congrArg some (put_split hn hc ?_ _)
      rfl
  | submitted hc hgo =>
      rw [← finish_split hn hc]
      exact step?_of_mayAdmit (lookup_split hn hc) hgo fun _ => rfl
  | refuse hc hgo hcheck =>
      rw [← finish_split hn hc]
      exact step?_of_mayAdmit (lookup_split hn hc) hgo fun _ => by simp only [submitNext, hcheck]
  | park hc hcheck hfull =>
      rw [← put_split hn hc rfl]
      simp [step?, callStep?, lookup_split hn hc, submitNext, hcheck, hfull]
  | @admitOne l r i phase frame table q left p store a hc hgo hcheck hroom hmap =>
      have henqueue : ((c.withStore store).enqueue i a).calls = c.calls := rfl
      have hput := put_split hn hc henqueue (.submitting .admitting frame table left)
      refine step?_of_admits (lookup_split hn hc) hgo hcheck hroom ?_
      simp only [admitRequest, hmap, hput]
      rfl
  | @abort l r i phase frame table q left p store crash hc hgo hcheck hroom hmap =>
      have habort := abort_split (d := c.withStore store) hn hc rfl crash
      refine step?_of_admits (lookup_split hn hc) hgo hcheck hroom ?_
      simp only [admitRequest, hmap, habort]
      rfl
  | expire hc hlock hgo =>
      rw [← finish_split hn hc]
      have hgo' : (c.isFull || c.isPoisoned) = true := by simpa [MayGiveUp] using hgo
      simp [step?, expire?, lookup_split hn hc, hlock, hgo']
  | flushSensor hc hfree hlock =>
      simp only [step?, callStep?, lookup_split hn hc, hfree, hlock, Bool.and_self, if_true]
      refine congrArg some (put_split hn hc ?_ _)
      rfl
  | clear hc | drain hc | report hc | closeEffect hc =>
      simp only [step?, callStep?, lookup_split hn hc]
      refine congrArg some (put_split hn hc ?_ _)
      rfl
  | flushed hc | stopped hc =>
      simp only [step?, callStep?, lookup_split hn hc]
      exact congrArg some (finish_split hn hc _)
  | halt hc hw =>
      simp only [step?, callStep?, lookup_split hn hc, hw, Bool.false_eq_true, if_false]
      refine congrArg some (put_split hn hc ?_ _)
      rfl
  | close hc hgo =>
      simp only [step?, callStep?, lookup_split hn hc]
      rw [if_neg (by simpa using hgo)]
      refine congrArg some (put_split hn hc ?_ _)
      rfl
  | stopAgain hc hs | stop hc hs => simp [step?, hc, beginStop, hs]
  | sensor hs => simp [step?, hs]
  | fence => rfl

/-! ## Moves of other threads -/

/-- A call does not change by the moves of others. -/
theorem Transition.lookup_eq {m : Move} (h : Transition E c m d) (hi : i < c.opened)
    (hm : m.call? ≠ some i) : d.calls.lookup i = c.calls.lookup i := by
  cases h.callsStep with
  | still hd _ => rw [hd]
  | answered hc hd _ => rw [hc, hd]
  | goesOn hm' hc hd _ _ | returns hm' hc hd _ =>
      have hne : i ≠ _ := fun heq => hm (heq ▸ hm')
      simp only [hc, hd, lookup_split_ne hne]
  | begins _ hd _ =>
      have hne : i ≠ c.opened := Nat.ne_of_lt hi
      rw [hd, lookup_split_ne hne, List.append_nil]

theorem Transition.opened_le {m : Move} (h : Transition E c m d) : c.opened ≤ d.opened := by
  cases h.callsStep with
  | answered _ _ ho | begins _ _ ho => exact ho ▸ Nat.le_succ _
  | still _ ho | goesOn _ _ _ _ ho | returns _ _ _ ho => exact ho ▸ Nat.le_refl _

/-- The answer to a call stays by the moves of others. -/
theorem Transition.answer?_eq {m : Move} (h : Transition E c m d) (hi : i < c.opened)
    (hm : m.call? ≠ some i) : d.stage.answer? i = c.stage.answer? i := by
  cases h with
  | submitted | refuse | expire | flushed | stopped =>
      have hne : _ ≠ i := fun heq => hm (congrArg some heq)
      exact Stage.answer?_note fun _ heq => hne (Occurrence.returned.inj heq).1
  | stopAgain =>
      exact Stage.answer?_note fun _ heq => Nat.ne_of_gt hi (Occurrence.returned.inj heq).1
  | perform | unwind | clear | report | closeEffect => exact Stage.answer?_perform _ _
  | sensor hs =>
      obtain ⟨sensor, effects, -, rfl⟩ := Stage.sensorStep?_eq_some hs
      exact Stage.answer?_performAll _ _
  | _ => rfl

/-! ## One answer to a call -/

/-- A call that is open, or that is not made yet, was not answered. -/
def Unanswered (c : Camera σ) : Prop :=
  ∀ i, (i < c.opened → c.calls.lookup i ≠ none) → c.stage.answer? i = none

theorem Unanswered.congr (hu : c.Unanswered) (hopened : c.opened ≤ d.opened)
    (hcalls : ∀ i < c.opened, d.calls.lookup i ≠ none → c.calls.lookup i ≠ none)
    (hanswer : ∀ i, d.stage.answer? i = c.stage.answer? i) : d.Unanswered := by
  intro i hi
  rw [hanswer]
  exact hu i fun hlt => hcalls i hlt (hi (Nat.lt_of_lt_of_le hlt hopened))

theorem Unanswered.replace {l r : List (Nat × Call)} {old new : Call} (hu : c.Unanswered)
    (hn : c.Numbered) (hc : c.calls = l ++ (i, old) :: r) (hd : d.calls = l ++ (i, new) :: r)
    (hopened : c.opened ≤ d.opened) (hanswer : ∀ j, d.stage.answer? j = c.stage.answer? j) :
    d.Unanswered := by
  refine hu.congr hopened (fun j _ hj => ?_) hanswer
  by_cases heq : j = i
  · rw [heq, lookup_split hn hc]
    exact Option.some_ne_none _
  · rwa [hc, lookup_split_ne heq, ← lookup_split_ne heq, ← hd]

theorem Unanswered.remove {l r : List (Nat × Call)} {call : Call} (hu : c.Unanswered)
    (hn : c.Numbered) (hc : c.calls = l ++ (i, call) :: r) (hd : d.calls = l ++ r)
    (hopened : d.opened = c.opened)
    (hanswer : ∀ j, i ≠ j → d.stage.answer? j = c.stage.answer? j) : d.Unanswered := by
  intro j hj
  rw [hopened, hd] at hj
  have hlt : i < c.opened := hn.lt (i, call) (by rw [hc]; simp)
  by_cases heq : i = j
  · obtain ⟨hl, hr⟩ := ne_of_nodup_split (hc ▸ hn.nodup)
    refine absurd (List.lookup_eq_none_iff.mpr fun p hp => ?_) (hj (heq ▸ hlt))
    rcases List.mem_append.mp hp with hp | hp
    · exact bne_iff_ne.mpr (heq ▸ (hl p hp).symm)
    · exact bne_iff_ne.mpr (heq ▸ (hr p hp).symm)
  · rw [hanswer j heq]
    exact hu j fun hlt' => by
      rw [hc, lookup_split_ne (Ne.symm heq)]
      exact hj hlt'

theorem Transition.unanswered {m : Move} (hn : c.Numbered) (h : Transition E c m d)
    (hu : c.Unanswered) : d.Unanswered := by
  cases h with
  | submitted hc | refuse hc | expire hc | flushed hc | stopped hc =>
      exact hu.remove hn hc rfl rfl fun j hne => by
        rw [Stage.answer?_note_returned, if_neg hne]
  | abort hc => exact hu.remove hn hc rfl rfl fun _ _ => rfl
  | enter hc | park hc | admitOne hc | flushSensor hc | drain hc | halt hc | close hc =>
      exact hu.replace hn hc rfl (Nat.le_refl _) fun _ => rfl
  | clear hc | report hc | closeEffect hc =>
      exact hu.replace hn hc rfl (Nat.le_refl _) fun _ => Stage.answer?_perform _ _
  | stopAgain hc =>
      intro j hj
      have hne : c.opened ≠ j := by
        rintro rfl
        exact hj (Nat.lt_succ_self _) (by simp [hc])
      rw [Stage.answer?_note_returned, if_neg hne]
      exact hu j fun hlt => hj (Nat.lt_succ_of_lt hlt)
  | submit | flush | stop =>
      refine hu.congr (Nat.le_succ _) (fun j hlt hj => ?_) fun _ => rfl
      rwa [begin, lookup_split_ne (Nat.ne_of_lt hlt), List.append_nil] at hj
  | perform | unwind =>
      exact hu.congr (Nat.le_refl _) (fun _ _ h => h) fun _ => Stage.answer?_perform _ _
  | sensor hs =>
      obtain ⟨sensor, effects, -, rfl⟩ := Stage.sensorStep?_eq_some hs
      exact hu.congr (Nat.le_refl _) (fun _ _ h => h) fun _ => Stage.answer?_performAll _ _
  | _ => exact hu.congr (Nat.le_refl _) (fun _ _ h => h) fun _ => rfl

theorem Reachable.unanswered (hc : Reachable E sensor c) : c.Unanswered :=
  hc.induct (fun _ _ _ _ _ => rfl) fun ho h ih => h.unanswered ho.toNumbered ih

theorem Reachable.answer?_eq_none {call : Call} (hc : Reachable E sensor c)
    (hi : c.calls.lookup i = some call) : c.stage.answer? i = none :=
  hc.unanswered i fun _ => by simp [hi]

theorem Numbered.lt_of_lookup {call : Call} (hn : c.Numbered)
    (hi : c.calls.lookup i = some call) : i < c.opened :=
  hn.lt (i, call) (mem_of_lookup hi)

end Camera

end VirtualCamera
