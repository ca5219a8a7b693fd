import Gateway.Diagnostic
import Gateway.Json.Printer

/-!
# Failed requests

Why a request is not served: a failure that some part of the gateway reported, or one of three that
concern the request itself. Its kind decides the status of the answer, and its body is the diagnostic
as a JSON object. What is not foreseen, a number that is too large to compute with, has no answer at
all.
-/

namespace Gateway.Http

/-- Why a request is not served. -/
inductive Failure where
  /-- A part of the gateway reported it. -/
  | reported (d : Diagnostic)
  /-- The body cannot be read. -/
  | badRequest (message : String)
  /-- The answer cannot take the form that the client accepts. -/
  | notAcceptable (message : String)
  /-- There is nothing at this path. -/
  | notFound (message : String)
deriving DecidableEq, Repr

namespace Failure

/-- The failure as it is reported to the client. -/
def diagnostic : Failure → Diagnostic
  | reported d => d
  | badRequest message => { code := "HTTP_001", kind := .validation, message }
  | notAcceptable message =>
    { code := "HTTP_002", kind := .notAcceptable, message,
      hint := some "Drop the single-object Accept header or narrow the filters to one row" }
  | notFound message => { code := "HTTP_003", kind := .notFound, message }

/-- The one-line form. -/
def display : Failure → String
  | reported d => d.display
  | badRequest message => "Bad request: " ++ message
  | notAcceptable message => "Not acceptable: " ++ message
  | notFound message => "Not found: " ++ message

/-- The status of the answer. -/
def status (f : Failure) : Nat :=
  f.diagnostic.kind.status

/-- The body of the answer. -/
def body (f : Failure) : Json :=
  let d := f.diagnostic
  .obj [("message", .str d.message), ("error", .str d.kind.name), ("code", .str d.code),
    ("details", Json.ofOption d.details), ("hint", Json.ofOption d.hint)]

end Failure

/-- What keeps a request from being served to its end. -/
inductive Interruption where
  /-- A failure, which the client is told. -/
  | failure (f : Failure)
  /-- A sum beyond the machine words. The connection is broken off without an answer. -/
  | overflow
deriving DecidableEq, Repr

end Gateway.Http
