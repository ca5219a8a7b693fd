import Gateway.Database.Address
import Gateway.Feed.Fault

/-!
# Where notifications come from

A session of the change feed is a connection to the database of its own, on which the database is asked
to announce what is sent on a channel. The session yields what is announced until the connection is
lost, and says so at its end.
-/

namespace Gateway.Feed

/-- What a database sends on a connection. -/
inductive Message where
  | notification (payload : String)
  /-- A remark that is no notification. -/
  | notice (text : String)
deriving DecidableEq, Repr

/-- How a database treats a connection of the change feed. -/
structure Announcer where
  /-- Whether a connection comes about, or why not. -/
  connect : Except String Unit
  /-- Whether the database accepts a statement, or why not. -/
  run : String → Except String Unit
  /-- What it sends before the connection is lost. -/
  messages : List Message
  /-- Why the connection is lost. -/
  loss : String := "connection closed"

/-- A database to which there is no way. -/
def Announcer.unreachable : Announcer where
  connect := .error "error connecting to server"
  run _ := .error "connection closed"
  messages := []

/-- The statement that asks for the notifications of a channel. -/
def listenSql (channel : String) : String :=
  let quoted := channel.toList.flatMap fun c => if c = '"' then ['"', '"'] else [c]
  "LISTEN " ++ String.ofList ('"' :: (quoted ++ ['"']))

/-- What a session yields: payloads in order, and the loss of the connection. -/
def Announcer.stream (a : Announcer) : List (Except Fault String) :=
  a.messages.filterMap (fun
    | .notification payload => some (.ok payload)
    | .notice _ => none) ++ [.error (.connection a.loss)]

/-- **Open a session** on a channel of the database at an address. -/
def openSession (a : Announcer) (address channel : String) :
    Except Fault (List (Except Fault String)) :=
  match Database.Address.read? address with
  | none => .error (.connect "invalid connection string")
  | some target =>
    if !target.isComplete then .error (.connect "invalid configuration")
    else
      match a.connect, a.run (listenSql channel) with
      | .error reason, _ => .error (.connect reason)
      | .ok (), .error reason => .error (.listen channel reason)
      | .ok (), .ok () => .ok a.stream

end Gateway.Feed
