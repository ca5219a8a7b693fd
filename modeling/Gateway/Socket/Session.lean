import Gateway.Channel.Server

/-!
# The session of a socket

From the moment a socket is open until it is closed, its session hands what the client sends to the
channel server and what the server offers to the client, and pings the client at regular intervals. A
client that has not answered a ping by the time of the next one is given up. However the session ends,
the connection is closed with all that belongs to it.
-/

namespace Gateway.Socket

open Gateway.Channel (ConnectionId Frame Server)

/-- What happens to an open socket. -/
inductive Event where
  /-- The client sends a text. -/
  | text (s : String)
  /-- The client sends bytes, which are no part of the protocol. -/
  | binary
  /-- The client pings; the transport answers by itself. -/
  | ping
  /-- The client answers a ping. -/
  | pong
  /-- The client closes the socket, or the stream ends. -/
  | closed
  /-- Reading from the socket fails. -/
  | readFailure
  /-- The next frame is taken out of the queue of the connection, and is or is not sent. -/
  | outbound (isSent : Bool)
  /-- The queue of the connection has come to its end. -/
  | exhausted
  /-- It is time for the next ping, which is or is not sent. -/
  | tick (isSent : Bool)
  /-- The service signals that it stops, or that it goes on. -/
  | signal (stops : Bool)
deriving Repr

/-- Where a session stands. -/
inductive Phase where
  /-- The socket is open; a ping may be waiting for its answer. -/
  | active (awaitingPong : Bool)
  | ended
deriving DecidableEq, Repr

/-- A session begins without a ping. -/
def Phase.initial : Phase := active false

/-- What a session does with the socket. -/
inductive Action where
  | send (frame : Frame)
  | ping
  | close
deriving Repr, BEq

/-- What an event of an active session leads to. -/
def Phase.step (awaitingPong : Bool) : Event → Phase × List Action
  | .text _ | .binary | .ping => (active awaitingPong, [])
  | .pong => (active false, [])
  | .closed | .readFailure | .exhausted => (ended, [])
  | .outbound isSent => (if isSent then active awaitingPong else ended, [])
  | .tick isSent =>
    -- The last ping has not been answered.
    if awaitingPong then (ended, [.close])
    else (if isSent then active true else ended, [.ping])
  | .signal stops => if stops then (ended, [.close]) else (active awaitingPong, [])

/-- The session of an open socket. -/
structure Session where
  connection : ConnectionId
  phase : Phase := .initial
deriving Repr

namespace Session

/-- Begin the session of a socket that a caller has opened. -/
def start (server : Server) (identity : Auth.Identity) : Server × Session :=
  let (server, connection) := server.connect identity
  (server, { connection })

/-- What an event does to the server: a text is handled, a frame is taken out of its queue to be sent. -/
def handle (s : Session) (server : Server) : Event → Server × List Action
  | .text text => (server.handleText s.connection text, [])
  | .outbound _ =>
    let (server, frame) := server.receive s.connection
    (server, frame.toList.map .send)
  | _ => (server, [])

/-- Close the connection at the end of a session. -/
def settle (s : Session) (server : Server) : Server :=
  match s.phase with
  | .active _ => server
  | .ended => server.disconnect s.connection

/-- **What an event leads to**; when the session is over, to nothing. -/
def step (s : Session) (server : Server) (e : Event) : Server × Session × List Action :=
  match s.phase with
  | .ended => (server, s, [])
  | .active awaitingPong =>
    let (phase, actions) := Phase.step awaitingPong e
    let (server, sent) := s.handle server e
    let next := { s with phase }
    (next.settle server, next, sent ++ actions)

/-- What events lead to, in order. -/
def run (s : Session) (server : Server) : List Event → Server × Session × List Action
  | [] => (server, s, [])
  | e :: rest =>
    let (server, s, actions) := s.step server e
    let (server, s, more) := s.run server rest
    (server, s, actions ++ more)

end Session

end Gateway.Socket
