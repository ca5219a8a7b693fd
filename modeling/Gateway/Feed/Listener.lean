import Gateway.Feed.Event
import Gateway.Feed.Fault
import Gateway.Feed.State
import Gateway.Health

/-!
# The listener of the change feed

The listener keeps a session open in which the database announces changes, and hands every change on.
It is a machine that waits for signals: it is started and stopped from outside, and in between it tries
to connect, listens, and pauses before the next attempt when the session or the attempt has failed. A
notification that cannot be read is skipped. Signals that belong to another phase have no effect.
-/

namespace Gateway.Feed

/-- What the listener is waiting for. -/
inductive Phase where
  /-- To be started. -/
  | stopped
  /-- For its first turn after the start. -/
  | scheduled
  /-- For the outcome of an attempt to connect. -/
  | connecting
  /-- For the next notification of a session. -/
  | listening
  /-- For the pause before the next attempt to end. -/
  | pausing
deriving DecidableEq, Repr

/-- The state that is shown of a phase. -/
def Phase.state : Phase → State
  | stopped | scheduled | pausing => .disconnected
  | connecting => .connecting
  | listening => .listening

/-- What happens to the listener. -/
inductive Signal where
  | start
  | stop
  /-- Its turn comes, or its pause ends. -/
  | wake
  /-- An attempt to connect has opened a session. -/
  | opened
  /-- An attempt to connect has failed. -/
  | refused (fault : Fault)
  /-- The session yields a notification. -/
  | notified (payload : String)
  /-- The session fails. -/
  | interrupted (fault : Fault)
  /-- The session ends. -/
  | ended
deriving DecidableEq, Repr

/-- What the listener does. -/
inductive Action where
  /-- Try to connect. -/
  | connect
  /-- Hand a change on. -/
  | dispatch (event : Event)
deriving Repr, BEq

namespace Phase

/-- The listener has been started and not stopped since. -/
def isRunning : Phase → Bool
  | stopped => false
  | _ => true

/-- **What a signal leads to.** -/
def step : Phase → Signal → Phase × List Action
  -- A stop is obeyed in every phase.
  | _, .stop => (stopped, [])
  | stopped, .start => (scheduled, [])
  | scheduled, .wake | pausing, .wake => (connecting, [.connect])
  | connecting, .opened => (listening, [])
  | connecting, .refused _ => (pausing, [])
  | listening, .notified payload =>
    (listening, (Event.read? payload).toList.map .dispatch)
  | listening, .interrupted _ | listening, .ended => (pausing, [])
  -- The signal belongs to another phase.
  | phase, _ => (phase, [])

/-- How the listener is doing. -/
def health (phase : Phase) : Health :=
  if !phase.isRunning then .notRunning
  else
    match phase.state with
    | .listening => .healthy
    | state => .warning ("Change feed " ++ state.name)

end Phase

end Gateway.Feed
