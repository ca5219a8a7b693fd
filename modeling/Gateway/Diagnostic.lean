/-!
# Diagnostics

Every failure a client can see is reported as a `Diagnostic`: a stable code, a kind, a message, and
optionally details and a hint. The kind alone decides the HTTP status.
-/

namespace Gateway

/-- The coarse classes of failure. -/
inductive ErrorKind where
  /-- Malformed input, refused before any statement ran. -/
  | validation
  /-- A refused credential. -/
  | authorization
  /-- A route or resource that does not exist. -/
  | notFound
  /-- An invalid conflict target. -/
  | conflict
  /-- The rows cannot take the requested shape. -/
  | notAcceptable
  /-- A pool that ran out, or a connection that was lost. -/
  | transport
  /-- A malformed channel frame. -/
  | protocol
  /-- A statement that failed inside the database. -/
  | database
  /-- A fault of the gateway itself. -/
  | internal
deriving DecidableEq, Repr

namespace ErrorKind

/-- The public name of a kind. -/
def name : ErrorKind → String
  | validation => "ValidationError"
  | authorization => "AuthorizationError"
  | notFound => "NotFoundError"
  | conflict => "ConflictError"
  | notAcceptable => "NotAcceptableError"
  | transport => "TransportError"
  | protocol => "ProtocolError"
  | database => "DatabaseError"
  | internal => "InternalError"

/-- The HTTP status that a failure of this kind is answered with. -/
def status : ErrorKind → Nat
  | validation | conflict | protocol | database => 400
  | authorization => 401
  | notFound => 404
  | notAcceptable => 406
  | transport => 503
  | internal => 500

end ErrorKind

/-- A failure as a client sees it. -/
structure Diagnostic where
  /-- The stable code, such as `QUERY_001`. -/
  code : String
  /-- The class of failure. -/
  kind : ErrorKind
  /-- What went wrong. -/
  message : String
  /-- More about it, where the source of the failure gave more. -/
  details : Option String := none
  /-- What to do about it. -/
  hint : Option String := none
deriving DecidableEq, Repr

/-- The one-line form: the code in brackets, then the message. -/
def Diagnostic.display (d : Diagnostic) : String :=
  "[" ++ d.code ++ "] " ++ d.message

end Gateway
