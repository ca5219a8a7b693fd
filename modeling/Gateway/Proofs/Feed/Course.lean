import Gateway.Feed.Timeline
import Mathlib.Data.List.Chain

/-!
# The course of a listener

What a listener goes through while it is called from outside and time passes. `Call` is what can be done
to it, `Timeline.call` what becomes of it, and `Timeline.history` the states that an observer sees one
after the other.

Whatever signals come, the state that is shown moves along the three ways of `State.Moves` and back to
disconnected (`Timeline.isChain_history`), and a change is handed on in the listening state only
(`Timeline.listening_of_dispatch`). Where every signal comes in the phase that waits for it, what is
handed on is just what the payloads of the signals say (`Timeline.dispatched_signals`).
-/

namespace Gateway.Feed

/-! ## §1 — the states that are shown -/

/-- The ways from one state to another. -/
inductive State.Moves : State → State → Prop
  /-- An attempt to connect begins. -/
  | attempt : Moves .disconnected .connecting
  /-- The attempt has opened a session. -/
  | success : Moves .connecting .listening
  /-- The attempt has failed, or is given up. -/
  | refusal : Moves .connecting .disconnected
  /-- The session is over, or is given up. -/
  | loss : Moves .listening .disconnected

/-- A state is followed by itself or by one to which there is a way. -/
def State.Follows (earlier later : State) : Prop :=
  later = earlier ∨ earlier.Moves later

namespace Phase

/-- The phase after signals in order. -/
def after (p : Phase) (signals : List Signal) : Phase :=
  signals.foldl (fun p s => (p.step s).1) p

/-- The states that are shown after each of the signals. -/
def shown (p : Phase) : List Signal → List State
  | [] => []
  | s :: rest => (p.step s).1.state :: (p.step s).1.shown rest

/-- **One signal moves the state along one of the ways**, or leaves it. -/
theorem follows_step (p : Phase) (s : Signal) : p.state.Follows (p.step s).1.state := by
  cases p <;> cases s <;>
    first
    | exact .inl rfl
    | exact .inr .attempt
    | exact .inr .success
    | exact .inr .refusal
    | exact .inr .loss

/-- The states that signals lead through follow one another, up to what comes after them. -/
theorem isChain_shown (p : Phase) (signals : List Signal) {later : List State}
    (h : ((p.after signals).state :: later).IsChain State.Follows) :
    (p.state :: (p.shown signals ++ later)).IsChain State.Follows := by
  induction signals generalizing p with
  | nil => exact h
  | cons s rest ih => exact (ih (p.step s).1 h).cons_cons (p.follows_step s)

/-- **A change is handed on in the listening phase**, which the listener keeps. -/
theorem step_of_dispatch {p : Phase} {s : Signal} {event : Event}
    (h : .dispatch event ∈ (p.step s).2) : (p.step s).1 = .listening := by
  cases p <;> cases s <;> first | rfl | simp [step] at h

/-! ## §2 — signals in turn -/

/-- The phase waits for the signal. -/
inductive Awaits : Phase → Signal → Prop
  | turn : Awaits .scheduled .wake
  | pauseEnd : Awaits .pausing .wake
  | opened : Awaits .connecting .opened
  | refused (fault : Fault) : Awaits .connecting (.refused fault)
  | notified (payload : String) : Awaits .listening (.notified payload)
  | interrupted (fault : Fault) : Awaits .listening (.interrupted fault)
  | ended : Awaits .listening .ended

/-- Every signal comes in the phase that waits for it. -/
def InTurn (p : Phase) : List Signal → Prop
  | [] => True
  | s :: rest => p.Awaits s ∧ (p.step s).1.InTurn rest

theorem inTurn_append {p : Phase} {first second : List Signal} :
    p.InTurn (first ++ second) ↔ p.InTurn first ∧ (p.after first).InTurn second := by
  induction first generalizing p with
  | nil => exact (true_and _).symm.to_iff
  | cons s rest ih =>
    show p.Awaits s ∧ (p.step s).1.InTurn (rest ++ second) ↔ _
    rw [ih, ← and_assoc]
    rfl

/-- A listener that gets the signal it waits for goes on. -/
theorem Awaits.isRunning {p : Phase} {s : Signal} (h : p.Awaits s) :
    (p.step s).1.isRunning = true := by
  cases h <;> rfl

theorem isRunning_after {p : Phase} {signals : List Signal} (running : p.isRunning = true)
    (h : p.InTurn signals) : (p.after signals).isRunning = true := by
  induction signals generalizing p with
  | nil => exact running
  | cons s rest ih => exact ih h.1.isRunning h.2

end Phase

/-- The payload that a signal brings. -/
def Signal.payload? : Signal → Option String
  | notified payload => some payload
  | _ => none

/-- **What the listener hands on for a signal that it waits for** is the change that the payload gives,
if it gives one. -/
theorem Phase.Awaits.actions {p : Phase} {s : Signal} (h : p.Awaits s) :
    (p.step s).2.filterMap (fun
      | .dispatch event => some event
      | .connect => none) = (s.payload?.bind Event.read?).toList := by
  cases h with
  | notified payload =>
    show ((Event.read? payload).toList.map Action.dispatch).filterMap _ = (Event.read? payload).toList
    rw [List.filterMap_map]
    exact List.filterMap_some
  | turn | pauseEnd | opened | refused | interrupted | ended => rfl

/-! ## §3 — what is handed on -/

/-- The changes that are handed on, in order. -/
def dispatched (entries : List Entry) : List Event :=
  entries.filterMap fun entry =>
    match entry.action with
    | .dispatch event => some event
    | .connect => none

@[simp] theorem dispatched_append (first second : List Entry) :
    dispatched (first ++ second) = dispatched first ++ dispatched second :=
  List.filterMap_append

/-- What the payloads of signals say, as far as they can be read. -/
def heardOf (signals : List (Nat × Signal)) : List Event :=
  signals.filterMap fun planned => planned.2.payload?.bind Event.read?

namespace Timeline

/-- Where signals lead, and which sessions they use up. -/
theorem signals_fst (t : Timeline) (signals : List (Nat × Signal)) :
    (t.signals signals).1 =
      { t with
        phase := t.phase.after (signals.map Prod.snd)
        sessions := t.sessions.drop (signals.countP fun planned => planned.2 = .wake) } := by
  induction signals generalizing t with
  | nil => rfl
  | cons planned rest ih =>
    obtain ⟨time, s⟩ := planned
    show ((t.signal time s).1.signals rest).1 = _
    rw [ih]
    by_cases turn : s = .wake
    · simp [signal, turn, Phase.after, List.drop_tail]
    · simp [signal, turn, Phase.after]

/-- **Signals in turn hand on what their payloads say**, in order. -/
theorem dispatched_signals {t : Timeline} {signals : List (Nat × Signal)}
    (h : t.phase.InTurn (signals.map Prod.snd)) :
    dispatched (t.signals signals).2 = heardOf signals := by
  induction signals generalizing t with
  | nil => rfl
  | cons planned rest ih =>
    obtain ⟨time, s⟩ := planned
    obtain ⟨awaited, later⟩ := h
    show dispatched ((t.signal time s).2 ++ ((t.signal time s).1.signals rest).2) = _
    rw [dispatched_append, ih later]
    have here : dispatched (t.signal time s).2 = (s.payload?.bind Event.read?).toList := by
      rw [← awaited.actions]
      exact List.filterMap_map
    rw [here, heardOf, heardOf, List.filterMap_cons]
    cases s.payload?.bind Event.read? <;> rfl

/-- **A change is handed on in the listening state only.** -/
theorem listening_of_mem_signals {t : Timeline} {signals : List (Nat × Signal)} {entry : Entry}
    {event : Event} (mem : entry ∈ (t.signals signals).2) (h : entry.action = .dispatch event) :
    entry.state = .listening := by
  induction signals generalizing t with
  | nil => exact absurd mem List.not_mem_nil
  | cons planned rest ih =>
    obtain ⟨time, s⟩ := planned
    have mem : entry ∈ (t.signal time s).2 ++ ((t.signal time s).1.signals rest).2 := mem
    rcases List.mem_append.1 mem with here | later
    · obtain ⟨action, done, rfl⟩ := List.mem_map.1 here
      obtain rfl : action = .dispatch event := h
      exact congrArg Phase.state (Phase.step_of_dispatch done)
    · exact ih later

end Timeline

/-! ## §4 — calls -/

/-- What is done to a listener from outside, and the time that passes in between. -/
inductive Call where
  | start
  | stop
  /-- So many milliseconds pass. -/
  | pass (duration : Nat)
deriving DecidableEq, Repr

namespace Timeline

/-- **What becomes of the listener**, and what it does. -/
def call (t : Timeline) : Call → Timeline × List Entry
  | .start => (t.start, [])
  | .stop => (t.stop, [])
  | .pass duration => t.run duration

/-- Calls one after the other. -/
def calls (t : Timeline) : List Call → Timeline × List Entry
  | [] => (t, [])
  | c :: rest =>
    let (t, entries) := t.call c
    let (t, more) := t.calls rest
    (t, entries ++ more)

/-- The signals that come while time passes. -/
def due (t : Timeline) (duration : Nat) : List (Nat × Signal) :=
  t.planned.takeWhile fun planned => planned.1 ≤ t.now + duration

/-- The states that are shown in the course of a call. -/
def states (t : Timeline) : Call → List State
  | .start => [t.start.phase.state]
  | .stop => [t.stop.phase.state]
  | .pass duration => t.phase.shown ((t.due duration).map Prod.snd)

/-- The states that are shown in the course of calls, one after the other. -/
def history (t : Timeline) : List Call → List State
  | [] => []
  | c :: rest => t.states c ++ (t.call c).1.history rest

theorem calls_cons (t : Timeline) (c : Call) (rest : List Call) :
    t.calls (c :: rest) =
      (((t.call c).1.calls rest).1, (t.call c).2 ++ ((t.call c).1.calls rest).2) := rfl

/-- A listener that runs is not started again. -/
theorem start_of_isRunning {t : Timeline} (running : t.phase.isRunning = true) : t.start = t :=
  if_pos running

theorem start_of_stopped {t : Timeline} (h : t.phase = .stopped) :
    t.start = { t with phase := .scheduled, planned := plan t.pause t.now t.sessions } := by
  rw [start, h]
  rfl

/-- **A stopped listener is as good as new**: of its past only the clock and the sessions used up are
left. -/
theorem stop_eq (t : Timeline) :
    t.stop = { pause := t.pause, now := t.now, sessions := t.sessions } := by
  show { t with phase := (t.phase.step .stop).1, planned := [] } = _
  cases t.phase <;> rfl

/-- The signals that come while time passes are handed over, and the others stay planned. -/
theorem run_eq (t : Timeline) (duration : Nat) :
    t.run duration =
      signals
        { t with
          now := t.now + duration
          planned := t.planned.dropWhile fun planned => planned.1 ≤ t.now + duration }
        (t.due duration) := rfl

theorem now_call (t : Timeline) (c : Call) :
    (t.call c).1.now = t.now + (match c with | .pass duration => duration | _ => 0) := by
  cases c with
  | start =>
    show t.start.now = _
    unfold start
    split <;> rfl
  | stop => rfl
  | pass duration =>
    show (t.run duration).1.now = _
    rw [run_eq, signals_fst]

/-- The states of a call lead from the state before it to the state after it. -/
theorem isChain_states (t : Timeline) (c : Call) {later : List State}
    (h : ((t.call c).1.phase.state :: later).IsChain State.Follows) :
    (t.phase.state :: (t.states c ++ later)).IsChain State.Follows := by
  cases c with
  | start =>
    refine h.cons_cons ?_
    show t.phase.state.Follows t.start.phase.state
    unfold start
    split
    · exact .inl rfl
    · exact t.phase.follows_step .start
  | stop => exact h.cons_cons (t.phase.follows_step .stop)
  | pass duration =>
    refine t.phase.isChain_shown _ ?_
    have reached : (t.call (.pass duration)).1.phase =
        t.phase.after ((t.due duration).map Prod.snd) := by
      show (t.run duration).1.phase = _
      rw [run_eq, signals_fst]
    exact reached ▸ h

/-- **The states that an observer sees follow one another.** -/
theorem isChain_history (t : Timeline) (calls : List Call) :
    (t.phase.state :: t.history calls).IsChain State.Follows := by
  induction calls generalizing t with
  | nil => exact List.isChain_singleton _
  | cons c rest ih => exact t.isChain_states c (ih (t.call c).1)

/-- **Every change is handed on while the listener listens.** -/
theorem listening_of_dispatch {t : Timeline} {calls : List Call} {entry : Entry} {event : Event}
    (mem : entry ∈ (t.calls calls).2) (h : entry.action = .dispatch event) :
    entry.state = .listening := by
  induction calls generalizing t with
  | nil => exact absurd mem List.not_mem_nil
  | cons c rest ih =>
    rw [calls_cons] at mem
    rcases List.mem_append.1 mem with here | later
    · cases c with
      | start | stop => exact absurd here List.not_mem_nil
      | pass duration => exact listening_of_mem_signals here h
    · exact ih later

end Timeline

end Gateway.Feed
