/-!
# The state of the change feed
-/

namespace Gateway.Feed

/-- How far the listener of the change feed has come. -/
inductive State where
  | disconnected
  | connecting
  /-- Changes are being heard of. -/
  | listening
deriving DecidableEq, Repr

/-- The name of a state. -/
def State.name : State → String
  | disconnected => "disconnected"
  | connecting => "connecting"
  | listening => "listening"

end Gateway.Feed
