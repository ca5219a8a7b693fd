import Gateway.Feed.Listener

/-!
# The listener on a clock

A listener whose sessions are known beforehand: how long each attempt to connect takes, whether it is
refused, and which notifications a session yields after which time. From the moment it starts, the
signals it will get are a list with the times at which they come (`plan`), and letting time pass hands
it those that are due. When no session is left, the last attempt has no outcome. Times are in
milliseconds.
-/

namespace Gateway.Feed

/-- Something that a session yields. -/
structure Item where
  /-- How long it takes to come. -/
  delay : Nat
  /-- A notification, or the fault that interrupts the session. -/
  content : Except Fault String

/-- How a session that is not interrupted goes on after its last item. -/
inductive Close where
  /-- It ends. -/
  | ends
  /-- It stays open and yields nothing more. -/
  | hangs
deriving DecidableEq, Repr

/-- What an attempt to connect leads to. -/
inductive Attempt where
  | refused (fault : Fault)
  | opened (items : List Item) (close : Close)

/-- An attempt to connect and how long its outcome takes to come. -/
structure Session where
  delay : Nat
  attempt : Attempt

/-- The signals of an open session and, when it is over at some time, that time. -/
def itemSignals (now : Nat) (close : Close) : List Item → List (Nat × Signal) × Option Nat
  | [] =>
    match close with
    | .ends => ([(now, .ended)], some now)
    | .hangs => ([], none)
  | item :: rest =>
    let now := now + item.delay
    match item.content with
    | .error fault => ([(now, .interrupted fault)], some now)
    | .ok payload =>
      let (signals, finish) := itemSignals now close rest
      ((now, .notified payload) :: signals, finish)

/-- The signals of an attempt to connect and of its session. -/
def Session.signals (s : Session) (now : Nat) : List (Nat × Signal) × Option Nat :=
  let now := now + s.delay
  match s.attempt with
  | .refused fault => ([(now, .refused fault)], some now)
  | .opened items close =>
    let (signals, finish) := itemSignals now close items
    ((now, .opened) :: signals, finish)

/-- The signals of a listener whose turn comes now, with a pause before every further attempt. -/
def plan (pause now : Nat) : List Session → List (Nat × Signal)
  -- The last attempt never has an outcome.
  | [] => [(now, .wake)]
  | s :: rest =>
    let (signals, finish) := s.signals now
    (now, .wake) :: signals ++ finish.elim [] fun time => plan pause (time + pause) rest

/-- An action of the listener, when it was done, and the state it was done in. -/
structure Entry where
  time : Nat
  state : State
  action : Action

/-- A listener on a clock. -/
structure Timeline where
  /-- How long the listener pauses before it tries to connect again. -/
  pause : Nat
  phase : Phase := .stopped
  now : Nat := 0
  /-- The sessions of the attempts to come. -/
  sessions : List Session
  /-- The signals to come, unless the listener is stopped. -/
  planned : List (Nat × Signal) := []

namespace Timeline

/-- Start the listener; one that runs goes on as it is. -/
def start (t : Timeline) : Timeline :=
  if t.phase.isRunning then t
  else
    { t with phase := (t.phase.step .start).1, planned := plan t.pause t.now t.sessions }

/-- Stop the listener; what was planned does not come to pass. -/
def stop (t : Timeline) : Timeline :=
  { t with phase := (t.phase.step .stop).1, planned := [] }

/-- Hand the listener one signal. An attempt to connect takes the next session. -/
def signal (t : Timeline) (time : Nat) (s : Signal) : Timeline × List Entry :=
  let (phase, actions) := t.phase.step s
  let sessions := if s = .wake then t.sessions.tail else t.sessions
  ({ t with phase, sessions }, actions.map fun action => ⟨time, phase.state, action⟩)

/-- Hand the listener signals in order. -/
def signals (t : Timeline) : List (Nat × Signal) → Timeline × List Entry
  | [] => (t, [])
  | (time, s) :: rest =>
    let (t, entries) := t.signal time s
    let (t, more) := t.signals rest
    (t, entries ++ more)

/-- **Let time pass.** -/
def run (t : Timeline) (duration : Nat) : Timeline × List Entry :=
  let now := t.now + duration
  let isDue (planned : Nat × Signal) : Bool := planned.1 ≤ now
  { t with now, planned := t.planned.dropWhile isDue }.signals (t.planned.takeWhile isDue)

end Timeline

end Gateway.Feed
