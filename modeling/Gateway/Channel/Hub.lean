import Gateway.Auth.Verifier
import Gateway.Channel.Presence
import Gateway.Channel.Request
import Gateway.Feed.State

/-!
# The hub

Who is connected, who each connection speaks for, and which topics it has joined: the state that all
sockets share. Each step of the hub yields the new state and the frames it *offers* to connections, in
order. Whether the queue of a connection takes an offer is decided elsewhere, so nothing a step does can
depend on it.

A request that is refused offers nothing and changes nothing but the number of the next change filter.
-/

namespace Gateway.Channel

open Gateway.Auth (Identity Verifier)
open Gateway.Feed (Event)
open Presence (Diff)

/-- A topic that a connection has joined. -/
structure Subscription where
  topic : String
  filters : List ChangeFilter
  /-- The key under which the connection tracks its presence. -/
  presenceKey : String
deriving Repr

/-- The number of the first filter that admits a change. -/
def Subscription.admitting? (s : Subscription) (e : Event) : Option Nat :=
  (s.filters.find? (·.admits e)).map (·.id)

/-- A connection that is open. -/
structure Connection where
  identity : Identity
  subscriptions : Keyed String Subscription := .empty
deriving Repr

/-- A frame that is offered to a connection. -/
structure Offer where
  receiver : ConnectionId
  frame : Frame
deriving Repr, BEq

/-- The state that all sockets share. -/
structure Hub where
  /-- What tokens are verified against. -/
  verifier : Verifier := {}
  connections : Keyed ConnectionId Connection := .empty
  presence : Presence.Table := {}
  /-- The state of the change feed, once one is attached. -/
  feed : Option Feed.State := none
  /-- The number of the next connection. -/
  nextConnection : Nat := 1
  /-- The number of the next change filter. -/
  nextFilter : Nat := 1
deriving Repr

/-- Whether a connection has joined a topic. -/
inductive TopicState where
  | joined
  | left
deriving DecidableEq, Repr

namespace Hub

/-! ## Looking up -/

/-- The subscription of a connection to a topic. -/
def subscription? (h : Hub) (c : ConnectionId) (topic : String) : Option Subscription :=
  (h.connections.get? c).bind (·.subscriptions.get? topic)

/-- Whether a connection has joined a topic; one that is gone has not. -/
def topicState (h : Hub) (c : ConnectionId) (topic : String) : TopicState :=
  if (h.subscription? c topic).isSome then .joined else .left

/-- Who a connection speaks for. -/
def identity? (h : Hub) (c : ConnectionId) : Option Identity :=
  (h.connections.get? c).map (·.identity)

/-- The subscription that a request on a topic needs. -/
def requireSubscription (h : Hub) (c : ConnectionId) (topic : String) :
    Except Refusal Subscription :=
  match h.connections.get? c with
  | none => .error .closed
  | some connection =>
    match connection.subscriptions.get? topic with
    | none => .error (.notJoined topic)
    | some s => .ok s

/-! ## Offering frames -/

/-- Offer a frame to a connection that is open. -/
def offerTo (h : Hub) (c : ConnectionId) (frame : Frame) : List Offer :=
  if h.connections.contains c then [⟨c, frame⟩] else []

/-- Offer a frame to every connection on a topic but the one it comes from. -/
def broadcast (h : Hub) (origin : ConnectionId) (topic : String) (frame : Frame) : List Offer :=
  h.connections.entries.filterMap fun (c, connection) =>
    if c ≠ origin ∧ connection.subscriptions.contains topic then some ⟨c, frame⟩ else none

/-- Tell the others on a topic what changed in its presence. -/
def broadcastDiff (h : Hub) (origin : ConnectionId) (topic : String) (d : Diff) : List Offer :=
  if d.isEmpty then [] else h.broadcast origin topic (.push topic presenceDiffEvent d.value)

/-! ## Connections -/

/-- Put a connection in place of the one of the same number. -/
def setConnection (h : Hub) (c : ConnectionId) (connection : Connection) : Hub :=
  { h with connections := h.connections.insert c connection }

/-- **Open a connection.** -/
def connect (h : Hub) (identity : Identity) : Hub × ConnectionId :=
  let c : ConnectionId := ⟨h.nextConnection⟩
  ({ h.setConnection c { identity } with nextConnection := h.nextConnection + 1 }, c)

/-- Untrack a connection on a topic that it has left, and tell the others. -/
def release (h : Hub) (c : ConnectionId) (s : Subscription) : Hub × List Offer :=
  match h.presence.untrack s.topic s.presenceKey c with
  | none => (h, [])
  | some (presence, d) => ({ h with presence }, h.broadcastDiff c s.topic d)

/-- Release several subscriptions in order. -/
def releaseAll (h : Hub) (c : ConnectionId) : List Subscription → Hub × List Offer
  | [] => (h, [])
  | s :: rest =>
    let (h, offers) := h.release c s
    let (h, more) := h.releaseAll c rest
    (h, offers ++ more)

/-- **Close a connection** with all its subscriptions and its presence. -/
def disconnect (h : Hub) (c : ConnectionId) : Hub × List Offer :=
  match h.connections.get? c with
  | none => (h, [])
  | some connection =>
    -- The connection goes first, so it is not told of its own leaving.
    { h with connections := h.connections.erase c }.releaseAll c connection.subscriptions.values

/-! ## The change feed -/

/-- Attach the change feed; only the first one is attached. -/
def attachFeed (h : Hub) (state : Feed.State) : Hub :=
  { h with feed := h.feed <|> some state }

/-- The attached change feed has come to a state. -/
def feedChanged (h : Hub) (state : Feed.State) : Hub :=
  { h with feed := h.feed.map fun _ => state }

/-- What a client with change filters is told of the change feed. -/
def feedStatus (h : Hub) : Json :=
  let (status, message) :=
    if h.feed = some .listening then ("ok", "Subscribed to PostgreSQL")
    else ("error", "Change feed is not connected; events will resume once it reconnects")
  Json.object [("extension", .str changesEvent), ("status", .str status),
    ("message", .str message)]

/-- The frame that tells a connection of a change: the first of its filters that admits it. -/
def changeFrame? (connection : Connection) (e : Event) : Option Frame :=
  connection.subscriptions.values.findSome? fun s =>
    (s.admitting? e).map fun id =>
      .push s.topic changesEvent (Json.object [("ids", .arr [.int id]), ("data", e.value)])

/-- **Offer a change** to every connection that wants to hear of it, once. -/
def publish (h : Hub) (e : Event) : List Offer :=
  h.connections.entries.filterMap fun (c, connection) =>
    (changeFrame? connection e).map fun frame => ⟨c, frame⟩

/-! ## Requests -/

/-- A connection presents a token; one that is refused leaves everything as it is. -/
def attach (h : Hub) (c : ConnectionId) (token : Option String) : Hub :=
  match token, h.connections.get? c with
  | some token, some connection =>
    match h.verifier.verify token with
    | .ok identity => h.setConnection c { connection with identity }
    | .error _ => h
  | _, _ => h

/-- Number the change filters of a request and accept them in order, up to the first that cannot be
read; also the number of the next filter. -/
def acceptFilters (next : Nat) : List ChangeRequest → Nat × Except Refusal (List ChangeFilter)
  | [] => (next, .ok [])
  | r :: rest =>
    match ChangeFilter.ofRequest next r with
    | .error refusal => (next + 1, .error refusal)
    | .ok f =>
      let (next, accepted) := acceptFilters (next + 1) rest
      (next, accepted.map (f :: ·))

/-- The presence key of a join: the trimmed one that the client chose, or else the connection. -/
def presenceKeyFor (c : ConnectionId) (j : JoinRequest) : String :=
  let key := Text.trim j.presenceKey.toList
  if key.isEmpty then c.text else String.ofList key

/-- A connection joins a topic with accepted filters. -/
def enter (h : Hub) (c : ConnectionId) (topic : String) (s : Subscription) : Except Refusal Hub :=
  match h.connections.get? c with
  | none => .error .closed
  | some connection =>
    if connection.subscriptions.contains topic then .error (.alreadyJoined topic)
    else
      .ok (h.setConnection c
        { connection with subscriptions := connection.subscriptions.insert topic s })

/-- The frames offered to a connection that has joined: the reply, who is present, and the state of the
change feed when it has change filters. -/
def joinOffers (h : Hub) (c : ConnectionId) (frame : Frame) (filters : List ChangeFilter) :
    List Offer :=
  let response := .obj [("postgres_changes", .arr (filters.map ChangeFilter.describe))]
  h.offerTo c (frame.replyOk response)
    ++ h.offerTo c (.push frame.topic presenceStateEvent (h.presence.snapshot frame.topic))
    ++ if filters.isEmpty then []
      else h.offerTo c (.push frame.topic systemEvent h.feedStatus)

/-- Join a topic. -/
def join (h : Hub) (c : ConnectionId) (frame : Frame) (j : JoinRequest) :
    Hub × Except Refusal (List Offer) :=
  let (nextFilter, accepted) := acceptFilters h.nextFilter j.changes
  -- The numbers of the filters are used up even when the join is refused.
  let h := { h with nextFilter }
  match accepted with
  | .error refusal => (h, .error refusal)
  | .ok filters =>
    match h.enter c frame.topic ⟨frame.topic, filters, presenceKeyFor c j⟩ with
    | .error refusal => (h, .error refusal)
    | .ok entered =>
      -- A token counts only once the topic has been joined.
      let h := entered.attach c j.accessToken
      (h, .ok (h.joinOffers c frame filters))

/-- The reply to a request that has nothing to report. -/
def acknowledge (h : Hub) (c : ConnectionId) (frame : Frame) : List Offer :=
  h.offerTo c (frame.replyOk (.obj []))

/-- Leave a topic. -/
def leave (h : Hub) (c : ConnectionId) (frame : Frame) : Except Refusal (Hub × List Offer) :=
  match h.connections.get? c with
  | none => .error .closed
  | some connection =>
    match connection.subscriptions.get? frame.topic with
    | none => .error (.notJoined frame.topic)
    | some s =>
      let h := h.setConnection c
        { connection with subscriptions := connection.subscriptions.erase frame.topic }
      let (released, offers) := h.release c s
      -- The reply comes before anything that leaving causes.
      .ok (released, h.acknowledge c frame ++ offers)

/-- Track the presence of a connection on a topic. -/
def track (h : Hub) (c : ConnectionId) (frame : Frame) (metadata : List (String × Json)) :
    Except Refusal (Hub × List Offer) := do
  let s ← h.requireSubscription c frame.topic
  let (presence, d) := h.presence.track frame.topic s.presenceKey c metadata
  let h := { h with presence }
  return (h, h.acknowledge c frame ++ h.broadcastDiff c frame.topic d)

/-- Untrack the presence of a connection on a topic. -/
def untrack (h : Hub) (c : ConnectionId) (frame : Frame) : Except Refusal (Hub × List Offer) := do
  let s ← h.requireSubscription c frame.topic
  match h.presence.untrack frame.topic s.presenceKey c with
  | none => throw (.notTracked frame.topic)
  | some (presence, d) =>
    let h := { h with presence }
    return (h, h.acknowledge c frame ++ h.broadcastDiff c frame.topic d)

/-- A state and offers, or the state as it was and a refusal. -/
def orUnchanged (h : Hub) : Except Refusal (Hub × List Offer) → Hub × Except Refusal (List Offer)
  | .ok (h, offers) => (h, .ok offers)
  | .error refusal => (h, .error refusal)

/-- **Do what a frame of a connection asks for.** -/
def handle (h : Hub) (c : ConnectionId) (frame : Frame) : Hub × Except Refusal (List Offer) :=
  match Request.ofFrame frame with
  | .error refusal => (h, .error refusal)
  | .ok (.join j) => h.join c frame j
  | .ok .leave => h.orUnchanged (h.leave c frame)
  | .ok .heartbeat => (h, .ok (h.acknowledge c frame))
  | .ok (.attach token) =>
    let h := h.attach c token
    (h, .ok (h.acknowledge c frame))
  | .ok (.track metadata) => h.orUnchanged (h.track c frame metadata)
  | .ok .untrack => h.orUnchanged (h.untrack c frame)

/-- **Do what a text of a connection asks for.** A text that breaks the protocol is dropped; any other
refusal is answered. -/
def handleText (h : Hub) (c : ConnectionId) (text : String) : Hub × List Offer :=
  match Frame.read text with
  | .error _ => (h, [])
  | .ok frame =>
    match h.handle c frame with
    | (h, .ok offers) => (h, offers)
    | (h, .error refusal) =>
      (h, if refusal.isProtocol then [] else h.offerTo c (frame.replyError refusal))

end Hub

end Gateway.Channel
