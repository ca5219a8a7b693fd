import Gateway.Auth.Verifier
import Gateway.Database.Executor
import Gateway.Http.ContentRange
import Gateway.Http.Failure
import Gateway.Http.Preferences
import Gateway.Http.Route
import Gateway.Json.Bytes
import Gateway.Sql.Change

/-!
# Serving requests

Tables are read, counted, written to, changed and cleared over HTTP, and functions are called. A request
is first compiled as a whole, and only what has been accepted reaches the database, as the caller whom
the credential of the request speaks for.
-/

namespace Gateway.Http

open Gateway.Auth (Identity Verifier)
open Gateway.Database (Backend Operation Outcome Session Wire)
open Gateway.Sql (Query Rejection Statement)

/-! ## Handlers -/

/-- A computation that serves a request: it may talk to the database, and it may be interrupted. -/
abbrev Handler (σ : Type) := ExceptT Interruption (StateM (Wire σ))

variable {σ α : Type}

/-- Go on with what was accepted, or fail with the refusal. -/
def accepted (x : Except Rejection α) : Handler σ α :=
  match x with
  | .ok a => pure a
  | .error r => throw (.failure (.reported r.diagnostic))

/-- Talk to the database, or fail as it fails. -/
def onDatabase (x : Session σ α) : Handler σ α := fun w =>
  let (result, w) := x w
  (result.mapError fun f => .failure (.reported f.diagnostic), w)

/-- The whole gateway as requests see it. -/
structure Service (σ : Type) where
  database : Backend σ
  config : Config
  /-- The present time in seconds. -/
  now : Nat

namespace Service

/-- What credentials are verified against. -/
def verifier (s : Service σ) : Verifier where
  secret := s.config.jwtSecret
  serviceKey := s.config.serviceKey
  leeway := s.config.leeway
  now := s.now

/-- The credential of a request: its bearer token, or else its key. -/
def credential? (hs : Headers) : Option String :=
  (hs.text? "authorization").bind Auth.bearerToken <|> hs.text? "apikey"

/-- Who sends a request. -/
def caller (s : Service σ) (r : Request) : Identity :=
  s.verifier.identify (credential? r.headers)

/-- The parameters of a request. -/
def parameters (r : Request) : List (String × String) :=
  Text.Percent.readQuery (r.uri.query.getD [])

/-- The body of a request as JSON. -/
def readBody (body : List UInt8) : Handler σ Json :=
  match Json.readBytes? body with
  | some value => pure value
  | none => throw (.failure (.badRequest "invalid JSON body"))

/-- Run an operation for the sender of a request. -/
def run (s : Service σ) (r : Request) (op : Operation) : Handler σ Outcome :=
  onDatabase (Database.run s.database s.config (s.caller r) op)

/-! ## Tables -/

/-- Rows as a single object. -/
def singleObject : List Json → Except Failure Json
  | [] => .ok .null
  | [row] => .ok row
  | rows =>
    .error (.notAcceptable
      ("JSON object requested, " ++ toString rows.length ++ " rows returned"))

/-- The answer to a read of rows from a row on. -/
def page (single : Bool) (offset : Nat) (outcome : Outcome) : Except Interruption Response :=
  -- The range comes first: without one, it does not matter which form the rows are wanted in.
  match contentRange? offset outcome.rows.length outcome.total with
  | none => .error .overflow
  | some range =>
    match if single then singleObject outcome.rows else .ok (.arr outcome.rows) with
    | .ok body => .ok (.withBody 200 (.json body) range)
    | .error f => .error (.failure f)

/-- Read rows of a table. -/
def read (s : Service σ) (r : Request) (table : String) : Handler σ Response := do
  let q ← accepted (Query.read table (parameters r))
  let outcome ← s.run r (.read q (Preferences.ofHeaders r.headers).count)
  match page (wantsSingleObject r.headers) (q.offset.getD 0) outcome with
  | .ok response => return response
  | .error interruption => throw interruption

/-- Count the rows of a table. -/
def count (s : Service σ) (r : Request) (table : String) : Handler σ Response := do
  let q ← accepted (Query.read table (parameters r))
  let outcome ← s.run r (.count q)
  let total := outcome.total.getD 0
  return { status := 200, contentRange := some (wholeRange total (some total)) }

/-- The answer to a write; `status` is that of an answer without rows. -/
def written (status : Nat) (p : Preferences) (outcome : Outcome) : Response :=
  if p.wantsRows then
    .withBody (if status = 201 then 201 else 200) (.json (.arr outcome.rows))
      (wholeRange outcome.rows.length none)
  else { status, contentRange := some (wholeRange 0 (some outcome.affected)) }

/-- Insert rows into a table. -/
def create (s : Service σ) (r : Request) (table : String) : Handler σ Response := do
  let q ← accepted (Query.read table (parameters r))
  let p := Preferences.ofHeaders r.headers
  let body ← readBody r.body
  let upsert := p.resolution.map fun resolution => (⟨resolution, q.onConflict⟩ : Sql.Upsert)
  let statements ← accepted (Sql.insert q.table body p.wantsRows upsert q.columns)
  return written 201 p (← s.run r (.write statements))

/-- Update rows of a table. -/
def modify (s : Service σ) (r : Request) (table : String) : Handler σ Response := do
  let q ← accepted (Query.read table (parameters r))
  let p := Preferences.ofHeaders r.headers
  let body ← readBody r.body
  let statement ← accepted (Sql.update q.table body q.filters p.wantsRows)
  return written 204 p (← s.run r (.write [statement]))

/-- Delete rows of a table. -/
def remove (s : Service σ) (r : Request) (table : String) : Handler σ Response := do
  let q ← accepted (Query.read table (parameters r))
  let p := Preferences.ofHeaders r.headers
  let statement ← accepted (Sql.delete q.table q.filters p.wantsRows)
  return written 204 p (← s.run r (.write [statement]))

/-! ## Functions -/

/-- Call a function with arguments. -/
def call (s : Service σ) (r : Request) (function : String) (arguments : List (String × Json))
    (readOnly : Bool) : Handler σ Response := do
  let statement ← accepted (Sql.call function arguments)
  let value ← onDatabase (Database.invoke s.database s.config (s.caller r) statement readOnly)
  return .withBody 200 (.json value)

/-- Call a function with the parameters of a request as its arguments. -/
def callWithParameters (s : Service σ) (r : Request) (function : String) : Handler σ Response :=
  s.call r function (Json.sortMembers ((parameters r).map fun (k, v) => (k, .str v))) true

/-- The byte is a blank. -/
def isBlankByte (b : UInt8) : Bool :=
  b == 0x20 || b == 0x09 || b == 0x0A || b == 0x0C || b == 0x0D

/-- The arguments in a body; a blank body and `null` give none. -/
def readArguments (body : List UInt8) : Handler σ (List (String × Json)) := do
  if body.all isBlankByte then return []
  match ← readBody body with
  | .obj arguments => return arguments
  | .null => return []
  | _ => throw (.failure (.badRequest "RPC arguments must be a JSON object"))

/-- Call a function with the arguments in the body of a request. -/
def callWithBody (s : Service σ) (r : Request) (function : String) : Handler σ Response := do
  s.call r function (← readArguments r.body) false

/-! ## Dispatch -/

/-- The methods of a route as an answer names them. -/
def allowed (route : Route) : String :=
  ",".intercalate (route.methods.map Method.name)

/-- The answer to a request whose path is no text where a parameter stands. -/
def invalidPath (p : Parameter) : Response :=
  .withBody 400 (.text ("Invalid URL: Invalid UTF-8 in `" ++ p.name ++ "`"))

/-- The answer to a request whose path has so many parameters, when the prefix has some of its own. -/
def wrongParameterCount (count : Nat) : Response :=
  .withBody 500 (.text ("Wrong number of path arguments for `Path`. Expected 1 but got "
    ++ toString count ++ ". Note that multiple parameters must be extracted with a tuple "
    ++ "`Path<(_, _)>` or a struct `Path<YourParams>`"))

/-- Serve a request on the name that is the only parameter of its path. -/
def onName (parameters : List Parameter) (serve : String → Handler σ Response) :
    Handler σ Response :=
  match parameters.find? (·.value?.isNone), parameters.filterMap Parameter.value? with
  | some p, _ => return invalidPath p
  | none, [name] => serve name
  | none, names => return wrongParameterCount names.length

/-- Serve a request on its route. -/
def onRoute (s : Service σ) (r : Request) (route : Route) (parameters : List Parameter) :
    Handler σ Response :=
  match route, r.method with
  -- A request for options is answered on any path.
  | route, .options => return { status := 200, allow := some (allowed route) }
  | .health, .get | .health, .head =>
    return .withBody 200 (.json (.obj [("status", .str "ok")]))
  | .table, .get => onName parameters (s.read r)
  | .table, .head => onName parameters (s.count r)
  | .table, .post => onName parameters (s.create r)
  | .table, .patch => onName parameters (s.modify r)
  | .table, .delete => onName parameters (s.remove r)
  | .function, .get | .function, .head => onName parameters (s.callWithParameters r)
  | .function, .post => onName parameters (s.callWithBody r)
  | route, _ => return { status := 405, allow := some (allowed route) }

/-- Serve a request, or fail. -/
def handle (s : Service σ) (r : Request) : Handler σ Response :=
  match Route.ofPath? s.config.restPrefix r.uri.path with
  | some (route, parameters) => s.onRoute r route parameters
  | none =>
    if r.method = .options then return { status := 200 }
    else throw (.failure (.notFound "no route matches this path"))

/-- **Answer a request**, unless the connection is broken off. -/
def respond (s : Service σ) (r : Request) : StateM (Wire σ) (Option Response) := do
  match ← (s.handle r).run with
  | .ok response => return some (response.sentTo r.method)
  | .error (.failure f) =>
    return some ((Response.withBody f.status (.json f.body)).sentTo r.method)
  | .error .overflow => return none

end Service

end Gateway.Http
