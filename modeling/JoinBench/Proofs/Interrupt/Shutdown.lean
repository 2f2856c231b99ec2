import JoinBench.Interrupt.Shutdown

/-!
# How a session ends

The listener does not look at whether it was told to end while it is sending, and the run, once it
waits for the listener, receives nothing more.  So a run that waits for a listener that is held up
by a full channel waits forever.  It takes five signals beyond the ones that were received to get
there; short of that the session can always be brought to its end.
-/

namespace JoinBench

namespace Listener

/-- A listener is held up: it is sending, and the channel has no room. -/
def IsHeldUp (l : Listener) : Prop :=
  (∃ kind, l.activity = .sending kind) ∧ l.send? = none

/-- How many interrupts the listener has taken and not yet put into the channel. -/
def inHand (l : Listener) : Nat :=
  match l.activity with
  | .sending _ => 1
  | .waiting | .ended => 0

/-- How many kinds of signals are pending. -/
def pendingCount (l : Listener) : Nat :=
  (l.pending .interrupt).toNat + (l.pending .suspend).toNat

variable {l l' : Listener} {signal : Signal} {kind : InterruptKind}

theorem isHeldUp_iff :
  l.IsHeldUp ↔
    (∃ kind, l.activity = .sending kind) ∧ l.isOpen = true ∧ channelCapacity ≤ l.channel.length
  := by
  constructor
  · rintro ⟨⟨kind, hsending⟩, hsend⟩
    refine ⟨⟨kind, hsending⟩, ?_⟩
    cases hopen : l.isOpen with
    | false => simp [send?, hsending, hopen] at hsend
    | true => simpa [send?, hsending, hopen] using hsend
  · rintro ⟨⟨kind, hsending⟩, hopen, hfull⟩
    refine ⟨⟨kind, hsending⟩, ?_⟩
    simp [send?, hsending, hopen, hfull]

/-- A listener that is held up does not notice that it was told to end. -/
theorem IsHeldUp.cancel (h : l.IsHeldUp) :
  l.cancel.IsHeldUp
  := by
  rw [isHeldUp_iff] at h ⊢
  exact h

theorem inHand_eq_one (h : l.activity = .sending kind) :
  l.inHand = 1
  := by simp [inHand, h]

theorem inHand_eq_zero (h : l.activity = .waiting) :
  l.inHand = 0
  := by simp [inHand, h]

theorem pendingCount_raise_le (signal : Signal) (l : Listener) :
  (l.raise signal).pendingCount ≤ l.pendingCount + 1
  := by
  cases signal <;> simp [raise, setPending, pendingCount] <;> omega

theorem pendingCount_take (h : l.pending signal = true) :
  (l.setPending signal false).pendingCount + 1 = l.pendingCount
  := by
  cases signal <;> simp [setPending, pendingCount, h] <;> omega

end Listener

namespace Session

variable {s s' : Session} {event : SessionEvent} {events later : List SessionEvent}

/-! ### What an event does -/

/-- What an event changes, and when it can happen. -/
inductive Step (s : Session) : SessionEvent → Session → Prop where
  | raise (signal : Signal) : Step s (.raise signal) { s with listener := s.listener.raise signal }
  | take {signal : Signal} (hwaiting : s.listener.activity = .waiting)
      (hpending : s.listener.pending signal = true) :
      Step s (.take signal)
        ⟨s.phase, { s.listener.setPending signal false with activity := .sending signal.kind }⟩
  | send {kind : InterruptKind} (hsending : s.listener.activity = .sending kind)
      (hroom : s.listener.channel.length < channelCapacity) :
      Step s .send
        ⟨s.phase,
          { s.listener with activity := .waiting, channel := s.listener.channel ++ [kind] }⟩
  /-- Nobody would receive what the listener is sending. -/
  | leave {kind : InterruptKind} (hsending : s.listener.activity = .sending kind)
      (hclosed : s.listener.isOpen = false) :
      Step s .send ⟨s.phase, { s.listener with activity := .ended }⟩
  | stop (hwaiting : s.listener.activity = .waiting) (hcancelled : s.listener.cancelled = true) :
      Step s .stop ⟨s.phase, { s.listener with activity := .ended }⟩
  | receive {kind : InterruptKind} {rest : List InterruptKind} (hrunning : s.phase = .running)
      (hchannel : s.listener.channel = kind :: rest) :
      Step s .receive ⟨.stopping kind, { s.listener with channel := rest }⟩
  | finish (hphase : s.phase = .running ∨ ∃ kind, s.phase = .stopping kind) :
      Step s .finish ⟨.joining, s.listener.cancel⟩
  | join (hjoining : s.phase = .joining) (hended : s.listener.activity = .ended) :
      Step s .join ⟨.over, s.listener⟩

theorem step_of_step? (h : s.step? event = some s') :
  s.Step event s'
  := by
  cases event with
  | raise signal =>
    cases h
    exact .raise signal
  | take signal =>
    obtain ⟨l, hl, rfl⟩ := Option.map_eq_some_iff.mp h
    rw [Listener.take?, Option.ite_none_right_eq_some] at hl
    obtain ⟨⟨hwaiting, hpending⟩, hl⟩ := hl
    cases hl
    exact .take hwaiting hpending
  | send =>
    obtain ⟨l, hl, rfl⟩ := Option.map_eq_some_iff.mp h
    rw [Listener.send?] at hl
    split at hl
    next kind hsending =>
      split at hl
      next hclosed =>
        cases hl
        exact .leave hsending (by simpa using hclosed)
      next =>
        rw [Option.ite_none_right_eq_some] at hl
        obtain ⟨hroom, hl⟩ := hl
        cases hl
        exact .send hsending hroom
    next => cases hl
  | stop =>
    obtain ⟨l, hl, rfl⟩ := Option.map_eq_some_iff.mp h
    rw [Listener.stop?, Option.ite_none_right_eq_some] at hl
    obtain ⟨⟨hwaiting, hcancelled⟩, hl⟩ := hl
    cases hl
    exact .stop hwaiting hcancelled
  | receive =>
    rw [step?, Option.ite_none_right_eq_some] at h
    obtain ⟨hrunning, h⟩ := h
    obtain ⟨⟨kind, l⟩, hl, rfl⟩ := Option.map_eq_some_iff.mp h
    rw [Listener.receive?] at hl
    split at hl
    next kind rest hchannel =>
      cases hl
      exact .receive hrunning hchannel
    next => cases hl
  | finish =>
    rw [step?] at h
    split at h
    next hphase =>
      cases h
      exact .finish (.inl hphase)
    next kind hphase =>
      cases h
      exact .finish (.inr ⟨kind, hphase⟩)
    next => cases h
    next => cases h
  | join =>
    rw [step?, Option.ite_none_right_eq_some] at h
    obtain ⟨⟨hjoining, hended⟩, h⟩ := h
    cases h
    exact .join hjoining (by simpa [Listener.hasEnded] using hended)

theorem run?_append :
  run? (events ++ later) s = (run? events s).bind (run? later)
  := by
  induction events generalizing s with
  | nil => rfl
  | cons event events ih =>
    simp only [List.cons_append, run?, Option.bind_assoc]
    congr 1
    funext s
    exact ih

/-! ### What holds of every session -/

/-- How many signals arrive. -/
def raises (events : List SessionEvent) : Nat :=
  events.countP fun | .raise _ => true | _ => false

/-- How many interrupts are received. -/
def receives (events : List SessionEvent) : Nat :=
  events.count .receive

/-- What holds of a session that some events led to. -/
structure IsSound (events : List SessionEvent) (s : Session) : Prop where
  /-- The run holds the receiving end until it is over. -/
  isOpen : s.listener.isOpen = true
  length_le : s.listener.channel.length ≤ channelCapacity
  cancelled_of_joining : s.phase = .joining → s.listener.cancelled = true
  joining_of_ended : s.listener.activity = .ended → s.phase = .joining ∨ s.phase = .over
  joining_of_cancelled : s.listener.cancelled = true → s.phase = .joining ∨ s.phase = .over
  /-- A signal is pending, in hand, in the channel or received, unless it came for nothing. -/
  raises_ge : receives events + s.listener.channel.length + s.listener.inHand
    + s.listener.pendingCount ≤ raises events

theorem isSound_start :
  IsSound [] start
  where
    isOpen := rfl
    length_le := Nat.zero_le _
    cancelled_of_joining := by simp [start]
    joining_of_ended := by simp [start, Listener.start]
    joining_of_cancelled := by simp [start, Listener.start]
    raises_ge := Nat.zero_le _

theorem IsSound.step (h : s.IsSound events) (hstep : s.Step event s') :
  s'.IsSound (events ++ [event])
  := by
  obtain ⟨hopen, hlength, hcancelled, hended, htold, hraises⟩ := h
  cases hstep with
  | raise signal =>
    have hpending := Listener.pendingCount_raise_le signal s.listener
    refine ⟨hopen, hlength, hcancelled, hended, htold, ?_⟩
    simp [raises, receives, Listener.raise, Listener.setPending, Listener.inHand,
      Listener.pendingCount] at *
    omega
  | take hwaiting hpending =>
    have htake := Listener.pendingCount_take hpending
    have hhand := Listener.inHand_eq_zero hwaiting
    refine ⟨hopen, hlength, hcancelled, by simp, htold, ?_⟩
    simp [raises, receives, Listener.setPending, Listener.inHand, Listener.pendingCount] at *
    omega
  | send hsending hroom =>
    have hhand := Listener.inHand_eq_one hsending
    refine ⟨hopen, ?_, hcancelled, by simp, htold, ?_⟩
    · simpa [Nat.succ_le_iff] using hroom
    simp [raises, receives, Listener.inHand, Listener.pendingCount] at *
    omega
  | leave hsending hclosed =>
    rw [hopen] at hclosed
    cases hclosed
  | stop hwaiting htold' =>
    have hhand := Listener.inHand_eq_zero hwaiting
    refine ⟨hopen, hlength, hcancelled, fun _ => htold htold', htold, ?_⟩
    simp [raises, receives, Listener.inHand, Listener.pendingCount] at *
    omega
  | receive hrunning hchannel =>
    rw [hchannel] at hlength hraises
    simp only [hrunning, reduceCtorEq, or_self, imp_false] at hended htold
    refine ⟨hopen, ?_, by simp, fun h => (hended h).elim, fun h => (htold h).elim, ?_⟩
    · simp at hlength ⊢
      omega
    simp [raises, receives, Listener.inHand, Listener.pendingCount] at *
    omega
  | finish hphase =>
    refine ⟨hopen, hlength, fun _ => rfl, fun _ => .inl rfl, fun _ => .inl rfl, ?_⟩
    simpa [raises, receives, Listener.cancel, Listener.inHand, Listener.pendingCount]
      using hraises
  | join hjoining hended' =>
    refine ⟨hopen, hlength, by simp, fun _ => .inr rfl, fun _ => .inr rfl, ?_⟩
    simpa [raises, receives] using hraises

theorem IsSound.run (h : s.IsSound events) (hrun : run? later s = some s') :
  s'.IsSound (events ++ later)
  := by
  induction later generalizing s events with
  | nil =>
    cases hrun
    simpa using h
  | cons event later ih =>
    obtain ⟨s₁, hstep, hrun⟩ := Option.bind_eq_some_iff.mp hrun
    have h₁ := ih (h.step (step_of_step? hstep)) hrun
    simpa using h₁

/-! ### Waiting forever -/

/-- The run waits for a listener that is held up. -/
structure IsStuck (s : Session) : Prop where
  phase_eq : s.phase = .joining
  isHeldUp : s.listener.IsHeldUp

theorem IsStuck.step (h : s.IsStuck) (hstep : s.Step event s') :
  s'.IsStuck
  := by
  obtain ⟨hjoining, hheld⟩ := h
  obtain ⟨⟨kind, hsending⟩, hopen, hfull⟩ := Listener.isHeldUp_iff.mp hheld
  cases hstep with
  | raise signal =>
    exact ⟨hjoining, Listener.isHeldUp_iff.mpr ⟨⟨kind, hsending⟩, hopen, hfull⟩⟩
  | take hwaiting | stop hwaiting =>
    rw [hsending] at hwaiting
    cases hwaiting
  | send _ hroom => omega
  | leave _ hclosed =>
    rw [hopen] at hclosed
    cases hclosed
  | receive hrunning =>
    rw [hjoining] at hrunning
    cases hrunning
  | finish hphase => simp [hjoining] at hphase
  | join _ hended =>
    rw [hsending] at hended
    cases hended

/-- A run that waits for a listener that is held up waits forever, whatever signals arrive. -/
theorem IsStuck.run (h : s.IsStuck) (hrun : run? later s = some s') :
  s'.IsStuck
  := by
  induction later generalizing s with
  | nil =>
    cases hrun
    exact h
  | cons event later ih =>
    obtain ⟨s₁, hstep, hrun⟩ := Option.bind_eq_some_iff.mp hrun
    exact ih (h.step (step_of_step? hstep)) hrun

/-- Four interrupts in the channel and one in hand arrived as signals, and were not received. -/
theorem IsSound.raises_ge_of_isStuck (h : s.IsSound events) (hstuck : s.IsStuck) :
  receives events + 5 ≤ raises events
  := by
  obtain ⟨⟨kind, hsending⟩, -, hfull⟩ := Listener.isHeldUp_iff.mp hstuck.isHeldUp
  have hhand := Listener.inHand_eq_one hsending
  have hraises := h.raises_ge
  rw [channelCapacity] at hfull
  omega

/-- A run that waits for a listener that is not held up sees it end, if no more signals are
taken. -/
theorem IsSound.exists_over (h : s.IsSound events) (hjoining : s.phase = .joining)
    (hstuck : ¬ s.IsStuck) :
  ∃ later s', later.Sublist [.send, .stop, .join] ∧ run? later s = some s' ∧ s'.phase = .over
  := by
  have hcancelled := h.cancelled_of_joining hjoining
  cases hactivity : s.listener.activity with
  | ended =>
    refine ⟨[.join], { s with phase := .over }, by simp, ?_, rfl⟩
    simp [run?, step?, hjoining, hactivity, Listener.hasEnded]
  | waiting =>
    refine ⟨[.stop, .join], ⟨.over, { s.listener with activity := .ended }⟩, by simp, ?_, rfl⟩
    simp [run?, step?, hjoining, hactivity, hcancelled, Listener.stop?, Listener.hasEnded]
  | sending kind =>
    have hroom : s.listener.channel.length < channelCapacity := by
      apply Nat.lt_of_not_le
      intro hfull
      exact hstuck ⟨hjoining, Listener.isHeldUp_iff.mpr ⟨⟨kind, hactivity⟩, h.isOpen, hfull⟩⟩
    refine ⟨[.send, .stop, .join], ⟨.over, { s.listener with
      activity := .ended, channel := s.listener.channel ++ [kind] }⟩, by simp, ?_, rfl⟩
    simp [run?, step?, hjoining, hactivity, hcancelled, h.isOpen, hroom, Listener.send?,
      Listener.stop?, Listener.hasEnded]

/-- A listener that waits for a signal can be made to fill the channel and to be held up by it. -/
theorem exists_run?_isHeldUp (hwaiting : s.listener.activity = .waiting)
    (hopen : s.listener.isOpen = true) (hlength : s.listener.channel.length ≤ channelCapacity) :
  ∃ later s', run? later s = some s' ∧ s'.phase = s.phase ∧ s'.listener.IsHeldUp
  := by
  -- on how much room the channel has
  obtain ⟨room, hroom⟩ := Nat.exists_eq_add_of_le hlength
  induction room generalizing s with
  | zero =>
    refine ⟨[.raise .interrupt, .take .interrupt],
      ⟨s.phase, { (s.listener.raise .interrupt).setPending .interrupt false with
        activity := .sending .cleanup }⟩, ?_, rfl, ?_⟩
    · simp [run?, step?, Listener.take?, Listener.raise, Listener.setPending, Signal.kind,
        hwaiting]
    · exact Listener.isHeldUp_iff.mpr ⟨⟨.cleanup, rfl⟩, hopen, Nat.le_of_eq hroom⟩
  | succ room ih =>
    have hsent : run? [.raise .interrupt, .take .interrupt, .send] s =
        some ⟨s.phase, { (s.listener.raise .interrupt).setPending .interrupt false with
          activity := .waiting, channel := s.listener.channel ++ [.cleanup] }⟩ := by
      have hlt : s.listener.channel.length < channelCapacity := by omega
      simp [run?, step?, Listener.take?, Listener.send?, Listener.raise, Listener.setPending,
        Signal.kind, hwaiting, hopen, hlt]
    obtain ⟨later, s', hrun, hphase, hheld⟩ := ih
      (s := ⟨s.phase, { (s.listener.raise .interrupt).setPending .interrupt false with
        activity := .waiting, channel := s.listener.channel ++ [.cleanup] }⟩)
      rfl hopen (by simp; omega) (by simp; omega)
    refine ⟨[.raise .interrupt, .take .interrupt, .send] ++ later, s', ?_, hphase, hheld⟩
    rw [run?_append, hsent]
    exact hrun

/-- As long as the listener was not told to end, signals can bring a session to wait forever. -/
theorem IsSound.exists_isStuck (h : s.IsSound events)
    (hphase : s.phase = .running ∨ ∃ kind, s.phase = .stopping kind) :
  ∃ later s', run? later s = some s' ∧ s'.IsStuck
  := by
  have hheld : ∃ later s', run? later s = some s' ∧ s'.phase = s.phase ∧
      s'.listener.IsHeldUp := by
    cases hactivity : s.listener.activity with
    | waiting => exact exists_run?_isHeldUp hactivity h.isOpen h.length_le
    | ended =>
      have := h.joining_of_ended hactivity
      obtain hphase | ⟨kind, hphase⟩ := hphase <;> simp [hphase] at this
    | sending kind =>
      by_cases hroom : s.listener.channel.length < channelCapacity
      · have hsent : s.step? .send = some ⟨s.phase, { s.listener with
            activity := .waiting, channel := s.listener.channel ++ [kind] }⟩ := by
          simp [step?, Listener.send?, hactivity, h.isOpen, hroom]
        obtain ⟨later, s', hrun, hs', hheld⟩ := exists_run?_isHeldUp
          (s := ⟨s.phase, { s.listener with
            activity := .waiting, channel := s.listener.channel ++ [kind] }⟩)
          rfl h.isOpen (by simpa [Nat.succ_le_iff] using hroom)
        refine ⟨.send :: later, s', ?_, hs', hheld⟩
        rw [run?, hsent]
        exact hrun
      · exact ⟨[], s, rfl, rfl, Listener.isHeldUp_iff.mpr
          ⟨⟨kind, hactivity⟩, h.isOpen, Nat.not_lt.mp hroom⟩⟩
  obtain ⟨later, s', hrun, hs', hheld⟩ := hheld
  have hfinish : s'.step? .finish = some ⟨.joining, s'.listener.cancel⟩ := by
    rw [← hs'] at hphase
    obtain hphase | ⟨kind, hphase⟩ := hphase <;> simp [step?, hphase]
  refine ⟨later ++ [.finish], ⟨.joining, s'.listener.cancel⟩, ?_, rfl, ?_⟩
  · simp [run?_append, hrun, run?, hfinish]
  · exact hheld.cancel

/-- After any events: a run that is stuck got at least five signals beyond those it received, and
stays stuck whatever follows; a run that waits for its listener and is not stuck can see it end;
and as long as the run does not wait, it can still come to be stuck. -/
theorem isStuck_spec (hrun : run? events start = some s) :
  (s.IsStuck → receives events + 5 ≤ raises events ∧
    ∀ later s', run? later s = some s' → s'.IsStuck) ∧
  (s.phase = .joining → ¬ s.IsStuck →
    ∃ later s', later.Sublist [.send, .stop, .join] ∧ run? later s = some s' ∧
      s'.phase = .over) ∧
  (s.phase = .running ∨ (∃ kind, s.phase = .stopping kind) →
    ∃ later s', run? later s = some s' ∧ s'.IsStuck)
  := by
  have hsound : s.IsSound events := by simpa using isSound_start.run hrun
  refine ⟨fun hstuck => ⟨hsound.raises_ge_of_isStuck hstuck, ?_⟩, ?_, ?_⟩
  · intro later s' hlater
    exact hstuck.run hlater
  · exact hsound.exists_over
  · exact hsound.exists_isStuck

/-- A signal arrives, is taken and sent on. -/
def forwarding : List SessionEvent :=
  [.raise .interrupt, .take .interrupt, .send]

/-- The first of six signals is received; the others arrive while the run cleans up. -/
def sixSignals : List SessionEvent :=
  forwarding ++ [.receive] ++ forwarding ++ forwarding ++ forwarding ++ forwarding ++
    [.raise .interrupt, .take .interrupt, .finish]

theorem isStuck_spec_sixSignals :
  ∃ s, run? sixSignals start = some s ∧ s.IsStuck ∧
    receives sixSignals + 5 ≤ raises sixSignals ∧
    ∀ later s', run? later s = some s' → s'.IsStuck
  := by
  obtain ⟨s, hrun, hstuck⟩ : ∃ s, run? sixSignals start = some s ∧ s.IsStuck :=
    ⟨_, rfl, rfl, ⟨.cleanup, rfl⟩, rfl⟩
  exact ⟨s, hrun, hstuck, (isStuck_spec hrun).1 hstuck⟩

/-- A run may come to wait forever. -/
theorem exists_reachable_isStuck :
  ∃ s, Reachable s ∧ s.IsStuck
  := ⟨_, ⟨sixSignals, rfl⟩, rfl, ⟨.cleanup, rfl⟩, rfl⟩

end Session

end JoinBench
