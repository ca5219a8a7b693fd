import Gateway.Channel.Refusal
import Gateway.Json.Printer
import Gateway.Json.Record

/-!
# Frames

What goes over a socket in either direction: a topic, the name of an event, a payload and, for requests
and their replies, a reference that ties one to the other. A frame travels as a JSON record. A client
may send its reference as any JSON value; what is not a string counts by its text, and `null` is none.
-/

namespace Gateway.Channel

open Gateway.Json (Field)

/-- A frame. -/
structure Frame where
  topic : String
  event : String
  payload : Json
  /-- What ties a reply to its request. -/
  reference : Option String
deriving Repr, BEq

/-! ## Names of events -/

/-- Join a topic. -/
def joinEvent : String := "phx_join"

/-- Leave a topic. -/
def leaveEvent : String := "phx_leave"

/-- Show that the client lives. -/
def heartbeatEvent : String := "heartbeat"

/-- Present a token. -/
def accessTokenEvent : String := "access_token"

/-- Track or untrack presence. -/
def presenceEvent : String := "presence"

/-- The answer to a request. -/
def replyEvent : String := "phx_reply"

/-- The state of the change feed. -/
def systemEvent : String := "system"

/-- A change of a row. -/
def changesEvent : String := "postgres_changes"

/-- Who is present on a topic. -/
def presenceStateEvent : String := "presence_state"

/-- Who came and who went. -/
def presenceDiffEvent : String := "presence_diff"

namespace Frame

/-! ## Reading and writing -/

/-- The record of a frame as JSON gives it. -/
def fields : List Field :=
  [.string ["topic"] .required, .string ["event"] .required, .any ["payload"], .any ["ref"]]

/-- The reference that a value stands for. -/
def reference? : Json → Option String
  | .null => none
  | .str s => some s
  | other => some other.text

/-- The frame that the fields of a record give. -/
def ofSlots? : Json.Record.Slots → Option Frame
  | [some (.str topic), some (.str event), payload, ref] =>
    some ⟨topic, event, payload.getD .null, ref.bind reference?⟩
  | _ => none

/-- **Read a frame.** -/
def read (text : String) : Except Refusal Frame :=
  match (Json.Record.ofText fields text).bind ofSlots? with
  | some frame => .ok frame
  | none => .error .malformedFrame

/-- The members of the record of a frame, in the order of its fields. -/
def members (f : Frame) : List (String × Json) :=
  [("topic", .str f.topic), ("event", .str f.event), ("payload", f.payload),
    ("ref", Json.ofOption f.reference)]

/-- **The text of a frame**, its fields in order. -/
def text (f : Frame) : String :=
  (Json.obj f.members).text

/-! ## Frames of the server -/

/-- A frame that answers no request. -/
def push (topic event : String) (payload : Json) : Frame :=
  ⟨topic, event, payload, none⟩

/-- The outcome of a request. -/
inductive Status where
  | ok
  | error
deriving DecidableEq, Repr

/-- The name of an outcome. -/
def Status.name : Status → String
  | ok => "ok"
  | error => "error"

/-- The answer to a request. -/
def reply (request : Frame) (status : Status) (response : Json) : Frame where
  topic := request.topic
  event := replyEvent
  payload := Json.object [("status", .str status.name), ("response", response)]
  reference := request.reference

/-- The answer to a request that was met. -/
def replyOk (request : Frame) (response : Json) : Frame :=
  request.reply .ok response

/-- The answer to a request that was refused. -/
def replyError (request : Frame) (r : Refusal) : Frame :=
  request.reply .error (.obj [("reason", .str r.message)])

end Frame

end Gateway.Channel
