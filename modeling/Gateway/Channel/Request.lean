import Gateway.Channel.ChangeFilter
import Gateway.Channel.Frame

/-!
# Requests

What a client may ask for with a frame: join or leave a topic, show that it lives, present a token,
track or untrack its presence. Most events have a second, plain name.
-/

namespace Gateway.Channel

open Gateway.Json (Field)

/-- What a client wants when it joins a topic. -/
structure JoinRequest where
  /-- The key under which its presence is tracked; a blank one leaves the choice to the server. -/
  presenceKey : String := ""
  accessToken : Option String := none
  /-- The changes it wants to hear of. -/
  changes : List ChangeRequest := []
deriving DecidableEq, Repr

namespace JoinRequest

/-- The presence key in the presence part of a configuration. -/
def presenceKey? (presence : Json) : Option String := do
  let slots ← Json.Record.ofValue [.string ["key"]] presence
  match slots with
  | [key] => some ((key.bind Json.str?).getD "")
  | _ => none

/-- The change filters in a configuration. -/
def changes? : Json → Option (List ChangeRequest)
  | .arr items => items.mapM ChangeRequest.ofValue?
  | _ => none

/-- The presence key and the change filters that a configuration gives. -/
def config? (config : Json) : Option (String × List ChangeRequest) := do
  let slots ← Json.Record.ofValue [.any ["presence"], .any ["postgres_changes", "changes"]] config
  match slots with
  | [presence, changes] =>
    return (← presence.elim (some "") presenceKey?, ← changes.elim (some []) changes?)
  | _ => none

/-- The request that the payload of a join gives. -/
def ofPayload? (payload : Json) : Option JoinRequest := do
  let slots ← Json.Record.ofValue [.any ["config"], .optionalString ["access_token"]] payload
  match slots with
  | [config, token] =>
    let (presenceKey, changes) ← config.elim (some ("", [])) config?
    return ⟨presenceKey, token.bind Json.str?, changes⟩
  | _ => none

end JoinRequest

/-- What a client asks for. -/
inductive Request where
  | join (j : JoinRequest)
  | leave
  | heartbeat
  /-- Present a token. -/
  | attach (token : Option String)
  /-- Be present with this metadata. -/
  | track (metadata : List (String × Json))
  | untrack
deriving Repr, BEq

namespace Request

/-- The metadata of a request to track: the payload inside the payload when that is an object, or else
the payload itself without its envelope. -/
def metadata (payload : Json) : List (String × Json) :=
  match payload.member? "payload", payload with
  | some (.obj members), _ => members
  -- What is left are the members beside the envelope.
  | _, .obj members => members.filter fun (k, _) => k != "event" && k != "type"
  | _, _ => []

/-- The request that the payload of a join gives; `null` asks for nothing in particular. -/
def ofJoin (payload : Json) : Except Refusal Request :=
  if payload.isNull then .ok (.join {})
  else
    match JoinRequest.ofPayload? payload with
    | some j => .ok (.join j)
    | none => .error .malformedFrame

/-- The request that the payload of a presence frame gives. -/
def ofPresence (payload : Json) : Except Refusal Request :=
  match (payload.member? "event").bind Json.str? with
  | some "track" => .ok (.track (metadata payload))
  | some "untrack" => .ok .untrack
  | other => .error (.unknownEvent ("presence/" ++ other.getD ""))

/-- **The request that a frame makes.** -/
def ofFrame (f : Frame) : Except Refusal Request :=
  if f.event = joinEvent || f.event = "join" then ofJoin f.payload
  else if f.event = leaveEvent || f.event = "leave" then .ok .leave
  else if f.event = heartbeatEvent then .ok .heartbeat
  else if f.event = accessTokenEvent || f.event = "identity-attach" then
    .ok (.attach ((f.payload.member? "access_token").bind Json.str?))
  else if f.event = presenceEvent then ofPresence f.payload
  else if f.event = "presence-track" then .ok (.track (metadata f.payload))
  else if f.event = "presence-untrack" then .ok .untrack
  else .error (.unknownEvent f.event)

end Request

end Gateway.Channel
