import Gateway.Channel.Server
import Gateway.Config
import Gateway.Lifecycle

/-!
# The socket service

The service that accepts sockets, up to a number of open ones at the same time.
-/

namespace Gateway.Socket

/-- The socket service. -/
structure Service where
  lifecycle : Lifecycle := {}
  /-- How many sockets may be open at the same time. -/
  limit : Nat
  /-- How many sockets are open. -/
  active : Nat := 0
deriving Repr

namespace Service

/-- Accept a socket, unless too many are open. -/
def accept? (s : Service) : Option Service :=
  if s.lifecycle.running && s.active < s.limit then some { s with active := s.active + 1 } else none

/-- A socket has been closed. -/
def release (s : Service) : Service :=
  { s with active := s.active - 1 }

/-- Start the service on an address. -/
def start (s : Service) (address : String) : Except Diagnostic Service :=
  (s.lifecycle.start address).map fun lifecycle => { s with lifecycle }

/-- Stop the service; every session ends with it. -/
def stop (s : Service) : Service :=
  { s with lifecycle := s.lifecycle.stop, active := 0 }

/-- How the service is doing: more than nine tenths of the limit are a cause for concern. -/
def health (s : Service) : Health :=
  if s.lifecycle.running && s.limit * 90 / 100 < s.active then
    .warning ("High connection count: " ++ toString s.active ++ "/" ++ toString s.limit)
  else s.lifecycle.health

end Service

end Gateway.Socket
