import Gateway.Diagnostic
import Gateway.Health
import Gateway.Text.InternetAddress

/-!
# Starting and stopping

A service listens on an address. Starting it takes the address, which can fail; starting one that runs
and stopping one that does not have no effect.

Which addresses can be taken depends on the machine. This one has no interface up, and so no address of
its own that a long one could be compared with, while a short one is taken as it is.
-/

namespace Gateway

open Gateway.Text

/-- A service that can be started and stopped. -/
structure Lifecycle where
  running : Bool := false
  /-- It has been listening on its address at some time. -/
  bound : Bool := false
deriving DecidableEq, Repr

/-- The address cannot be listened on. -/
def bindFailure : Diagnostic where
  code := "SUB_001"
  kind := .transport
  message := "failed to bind"
  hint := some "Check that the address is valid and the port is not already in use"

/-- The text is a long address that can be listened on: the unspecified one, or a short one. -/
def isOpenLongAddress (s : List Char) : Bool :=
  (readScopedAddress? s).any fun groups => isUnspecified groups || isMapped groups

/-- The text names a host that can be listened on. The only name that is known is `localhost`. -/
def isOpenHost (host : List Char) : Bool :=
  isLooseAddress host || isOpenLongAddress host || lower host == "localhost".toList

/-- The text is an address that can be listened on: a host and a port with a colon between. -/
def isBindable (address : String) : Bool :=
  match cutLast ':' address.toList with
  | none => false
  | some (host, port) =>
    match between? '[' ']' host with
    -- Behind a bracket the port is digits alone.
    | some inner => isOpenLongAddress inner && port.head? != some '+' && (readPort? port).isSome
    | none => isOpenHost host && (readPort? port).isSome

namespace Lifecycle

/-- **Start** a service on an address. -/
def start (l : Lifecycle) (address : String) : Except Diagnostic Lifecycle :=
  if l.running then .ok l
  else if isBindable address then .ok ⟨true, true⟩
  else .error bindFailure

/-- **Stop** a service. -/
def stop (l : Lifecycle) : Lifecycle :=
  { l with running := false }

/-- How a service is doing. -/
def health (l : Lifecycle) : Health :=
  if l.running then .healthy else .notRunning

end Lifecycle

end Gateway
