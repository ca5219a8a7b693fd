import Gateway.Diagnostic
import Gateway.Json.Printer

/-!
# What can go wrong with the database

The database reports an error of its own, or the connection to it fails, or no connection is to be had,
or what it returns has the wrong shape. An error of the database keeps its own code, message, details
and hint; every other failure has a code of the gateway.
-/

namespace Gateway.Database

/-- An error that the database reports. -/
structure ServerError where
  /-- The five-character code of the error. -/
  code : String
  message : String
  detail : Option String := none
  hint : Option String := none
deriving DecidableEq, Repr

/-- Why a command on a connection fails. -/
inductive Fault where
  | server (e : ServerError)
  /-- The connection is gone. -/
  | closed
  /-- There is no way to the database. -/
  | unreachable
  /-- The address of the database is not consistent. -/
  | misaddressed
deriving DecidableEq, Repr

/-- The wording of a fault of the connection. -/
def Fault.message : Fault → String
  | server _ => "db error"
  | closed => "connection closed"
  | unreachable => "error connecting to server"
  | misaddressed => "invalid configuration"

/-- Why no connection is to be had. -/
inductive PoolFault where
  /-- All connections are busy for too long. -/
  | timeout
  /-- A new connection cannot be opened. -/
  | notOpened (f : Fault)
  | unavailable (reason : String)
deriving DecidableEq, Repr

/-- What is wrong with a result. -/
inductive ShapeFlaw where
  /-- The rows do not come as an array. -/
  | notArray (value : Json)
  | negativeCount (n : Int)
deriving Repr, BEq

/-- The wording of a flaw. -/
def ShapeFlaw.reason : ShapeFlaw → String
  | notArray value => "expected a JSON array, got " ++ value.text
  | negativeCount n => "negative count " ++ toString n

/-- Why an operation on the database fails. -/
inductive Failure where
  | poolTimeout
  | unavailable (reason : String)
  /-- The address of the database cannot be used. -/
  | configuration
  | fault (f : Fault)
  | shape (flaw : ShapeFlaw)
deriving Repr, BEq

namespace Failure

/-- No connection is to be had. -/
def ofPool : PoolFault → Failure
  | .timeout => poolTimeout
  | .notOpened f => fault f
  | .unavailable reason => unavailable reason

/-- The code of the error that the database reported. -/
def serverCode? : Failure → Option String
  | fault (.server e) => some e.code
  | _ => none

/-- A failure as a client sees it. -/
def diagnostic : Failure → Diagnostic
  | poolTimeout =>
    { code := "TXN_001", kind := .transport,
      message := "timed out waiting for a database connection",
      hint := some ("All pooled connections are busy; retry later or raise "
        ++ "RELAY_DB_POOL_SIZE") }
  | unavailable reason =>
    { code := "TXN_002", kind := .transport,
      message := "database connection unavailable: " ++ reason }
  | configuration =>
    { code := "TXN_003", kind := .internal, message := "invalid database configuration" }
  | fault (.server e) =>
    { code := e.code, kind := .database, message := e.message, details := e.detail,
      hint := e.hint }
  | fault f => { code := "TXN_004", kind := .transport, message := f.message }
  | shape flaw =>
    { code := "TXN_005", kind := .internal,
      message := "unexpected result shape: " ++ flaw.reason }

end Failure

end Gateway.Database
