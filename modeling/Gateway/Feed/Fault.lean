import Gateway.Diagnostic

/-!
# What can go wrong with the change feed

The feed loses its connection, or is sent a notification that it cannot read.
-/

namespace Gateway.Feed

/-- A fault of the change feed. -/
inductive Fault where
  /-- No connection came about. -/
  | connect (reason : String)
  /-- The database refused to announce changes on a channel. -/
  | listen (channel : String) (reason : String)
  /-- The connection was lost. -/
  | connection (reason : String)
  /-- A notification is not a change. -/
  | malformed
deriving DecidableEq, Repr

namespace Fault

/-- The wording of a fault. -/
def message : Fault → String
  | connect reason => "change feed connection failed: " ++ reason
  | listen channel reason => "LISTEN on \"" ++ channel ++ "\" failed: " ++ reason
  | connection reason => "change feed connection lost: " ++ reason
  | malformed => "malformed change notification"

/-- The stable code of a fault. -/
def code : Fault → String
  | connect _ => "CDC_001"
  | listen _ _ => "CDC_002"
  | connection _ => "CDC_003"
  | malformed => "CDC_004"

/-- A bad notification breaks the protocol; every other fault is one of transport. -/
def kind : Fault → ErrorKind
  | malformed => .protocol
  | _ => .transport

/-- A fault as a client sees it. -/
def diagnostic (f : Fault) : Diagnostic where
  code := f.code
  kind := f.kind
  message := f.message

end Fault

end Gateway.Feed
