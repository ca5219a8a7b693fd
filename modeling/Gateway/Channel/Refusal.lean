import Gateway.Diagnostic

/-!
# Refused frames

Why the server does not do what a frame of a client asks for. A frame that breaks the protocol is
dropped without an answer; every other refusal is answered.
-/

namespace Gateway.Channel

/-- Why a frame is refused. -/
inductive Refusal where
  /-- The text is not a frame, or the payload has the wrong shape. -/
  | malformedFrame
  /-- The event is not one that clients may send. -/
  | unknownEvent (event : String)
  | alreadyJoined (topic : String)
  | notJoined (topic : String)
  /-- A change filter cannot be read. -/
  | invalidFilter (raw : String)
  | notTracked (topic : String)
  /-- The connection is gone. -/
  | closed
deriving DecidableEq, Repr

namespace Refusal

/-- The wording of a refusal. -/
def message : Refusal → String
  | malformedFrame => "malformed frame"
  | unknownEvent event => "unknown event '" ++ event ++ "'"
  | alreadyJoined topic => "topic '" ++ topic ++ "' is already joined"
  | notJoined topic => "topic '" ++ topic ++ "' is not joined"
  | invalidFilter raw => "invalid change filter: " ++ raw
  | notTracked topic => "presence is not tracked on topic '" ++ topic ++ "'"
  | closed => "connection is closed"

/-- The stable code of a refusal. -/
def code : Refusal → String
  | malformedFrame => "CHANNEL_001"
  | unknownEvent _ => "CHANNEL_002"
  | alreadyJoined _ => "CHANNEL_003"
  | notJoined _ => "CHANNEL_004"
  | invalidFilter _ => "CHANNEL_005"
  | notTracked _ => "CHANNEL_006"
  | closed => "CHANNEL_007"

/-- The class of a refusal. -/
def kind : Refusal → ErrorKind
  | malformedFrame | unknownEvent _ => .protocol
  | alreadyJoined _ | notJoined _ | invalidFilter _ | notTracked _ => .validation
  | closed => .transport

/-- A refusal as a client sees it. -/
def diagnostic (r : Refusal) : Diagnostic where
  code := r.code
  kind := r.kind
  message := r.message

/-- The frame breaks the protocol and is dropped without an answer. -/
def isProtocol : Refusal → Bool
  | malformedFrame | unknownEvent _ => true
  | _ => false

end Refusal

end Gateway.Channel
