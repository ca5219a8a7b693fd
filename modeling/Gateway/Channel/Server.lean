import Gateway.Channel.Hub

/-!
# The channel server

The hub together with the queues through which its frames reach the sockets. A queue holds a bounded
number of frames; a frame that is offered to a full queue, or to one whose reader is gone, is lost, and
that is all that happens.
-/

namespace Gateway.Channel

open Gateway.Auth (Identity)
open Gateway.Feed (Event)

/-- The frames that wait for the reader of a connection. -/
structure Queue where
  /-- How many frames may wait. -/
  capacity : Nat
  /-- The frames that wait, the oldest first. -/
  waiting : List Frame := []
  /-- The reader is gone. -/
  closed : Bool := false
deriving Repr

namespace Queue

/-- The queue takes another frame. -/
def takes (q : Queue) : Bool :=
  !q.closed && q.waiting.length < q.capacity

/-- Offer a frame to the queue. -/
def offer (q : Queue) (frame : Frame) : Queue :=
  if q.takes then { q with waiting := q.waiting ++ [frame] } else q

/-- The reader takes the frame that has waited longest, if one waits. -/
def receive (q : Queue) : Queue × Option Frame :=
  ({ q with waiting := q.waiting.tail }, q.waiting.head?)

/-- The reader takes all that waits. -/
def drain (q : Queue) : Queue × List Frame :=
  ({ q with waiting := [] }, q.waiting)

/-- The reader goes, and what waited is lost. -/
def close (q : Queue) : Queue :=
  { q with waiting := [], closed := true }

end Queue

/-- How many frames may wait for a client that does not read. -/
def defaultCapacity : Nat := 256

/-- The hub and the queue of each connection. -/
structure Server where
  hub : Hub := {}
  /-- The capacity of a new queue. -/
  capacity : Nat := defaultCapacity
  queues : Keyed ConnectionId Queue := .empty
deriving Repr

namespace Server

/-- Offer a frame to the queue of its receiver; also whether the queue took it. -/
def offer (s : Server) (o : Offer) : Server × Bool :=
  match s.queues.get? o.receiver with
  | none => (s, false)
  | some q => ({ s with queues := s.queues.insert o.receiver (q.offer o.frame) }, q.takes)

/-- Offer frames in order; also how many were taken. -/
def deliver (s : Server) : List Offer → Server × Nat
  | [] => (s, 0)
  | o :: rest =>
    let (s, taken) := s.offer o
    let (s, count) := s.deliver rest
    (s, if taken then count + 1 else count)

/-- Take up a new state of the hub and deliver what it offers. -/
def advance (s : Server) (step : Hub × List Offer) : Server :=
  ({ s with hub := step.1 }.deliver step.2).1

/-- **Open a connection** with an empty queue. -/
def connect (s : Server) (identity : Identity) : Server × ConnectionId :=
  let (hub, c) := s.hub.connect identity
  ({ s with hub, queues := s.queues.insert c { capacity := s.capacity } }, c)

/-- **Close a connection.** Its queue can still be read. -/
def disconnect (s : Server) (c : ConnectionId) : Server :=
  s.advance (s.hub.disconnect c)

/-- The reader of a connection goes. -/
def closeQueue (s : Server) (c : ConnectionId) : Server :=
  match s.queues.get? c with
  | none => s
  | some q => { s with queues := s.queues.insert c q.close }

/-- The reader of a connection takes the frame that has waited longest for it. -/
def receive (s : Server) (c : ConnectionId) : Server × Option Frame :=
  match s.queues.get? c with
  | none => (s, none)
  | some q =>
    let (q, frame) := q.receive
    ({ s with queues := s.queues.insert c q }, frame)

/-- The reader of a connection takes all that waits for it. -/
def drain (s : Server) (c : ConnectionId) : Server × List Frame :=
  match s.queues.get? c with
  | none => (s, [])
  | some q =>
    let (q, frames) := q.drain
    ({ s with queues := s.queues.insert c q }, frames)

/-- **Handle a text** of a connection. -/
def handleText (s : Server) (c : ConnectionId) (text : String) : Server :=
  s.advance (s.hub.handleText c text)

/-- **Handle a frame** of a connection; a refusal is for the caller to answer. -/
def handleFrame (s : Server) (c : ConnectionId) (frame : Frame) : Server × Except Refusal Unit :=
  match s.hub.handle c frame with
  | (hub, .ok offers) => (s.advance (hub, offers), .ok ())
  | (hub, .error refusal) => ({ s with hub }, .error refusal)

/-- **Publish a change**; also the number of connections whose queue took it. -/
def publish (s : Server) (e : Event) : Server × Nat :=
  s.deliver (s.hub.publish e)

/-- Attach the change feed; only the first one is attached. -/
def attachFeed (s : Server) (state : Feed.State) : Server :=
  { s with hub := s.hub.attachFeed state }

/-- The attached change feed has come to a state. -/
def feedChanged (s : Server) (state : Feed.State) : Server :=
  { s with hub := s.hub.feedChanged state }

end Server

end Gateway.Channel
