import Gateway.Http.Service

/-!
# What a request comes to

A request is compiled before anything is sent. What it is compiled to is its plan: an answer that needs
no database, an operation with the answer that its outcome gives, or a call. `handle_eq` says that serving
a request is serving its plan, so that what a request does on the connection can be read off the plan.
-/

namespace Gateway.Http

open Gateway.Database (Operation Outcome)
open Gateway.Sql (Query Rejection Statement)

variable {σ : Type}

/-! ## §1 — plans -/

/-- What a request comes to once it is compiled. -/
inductive Plan where
  /-- An answer without the database. -/
  | settled (answer : Except Failure Response)
  /-- An operation on a table, and the answer that its outcome gives. -/
  | table (op : Operation) (answer : Outcome → Except Interruption Response)
  /-- A call of a function. -/
  | function (call : Statement) (readOnly : Bool)

namespace Plan

/-- The operation that reaches the database. -/
def operation? : Plan → Option Operation
  | settled _ => none
  | table op _ => some op
  | function call readOnly => some (.call call readOnly)

/-- A plan that may be refused. -/
def ofExcept : Except Failure Plan → Plan
  | .ok plan => plan
  | .error f => settled (.error f)

/-- **Serve a plan.** -/
def serve (s : Service σ) (r : Request) : Plan → Handler σ Response
  | settled (.ok response) => return response
  | settled (.error f) => throw (.failure f)
  | table op answer => do
    match answer (← s.run r op) with
    | .ok response => return response
    | .error interruption => throw interruption
  | function call readOnly => do
    let value ← onDatabase (Database.invoke s.database s.config (s.caller r) call readOnly)
    return .withBody 200 (.json value)

end Plan

/-! ## §2 — compiling a request -/

/-- What was compiled, or the refusal as a client sees it. -/
def compiled {α : Type} (x : Except Rejection α) : Except Failure α :=
  x.mapError fun e => .reported e.diagnostic

/-- The body of a request as JSON. -/
def parsed (body : List UInt8) : Except Failure Json :=
  match Json.readBytes? body with
  | some value => .ok value
  | none => .error (.badRequest "invalid JSON body")

namespace Request

/-- The query of a request on a table. -/
def query (r : Request) (table : String) : Except Failure Query :=
  compiled (Query.read table (Service.parameters r))

/-- What the client prefers. -/
def preferences (r : Request) : Preferences :=
  .ofHeaders r.headers

def readPlan (r : Request) (table : String) : Except Failure Plan := do
  let q ← r.query table
  return .table (.read q r.preferences.count)
    (Service.page (wantsSingleObject r.headers) (q.offset.getD 0))

/-- The answer to a count. -/
def countAnswer (outcome : Outcome) : Except Interruption Response :=
  let total := outcome.total.getD 0
  .ok { status := 200, contentRange := some (wholeRange total (some total)) }

def countPlan (r : Request) (table : String) : Except Failure Plan := do
  return .table (.count (← r.query table)) countAnswer

/-- A write that is answered as the client prefers. -/
def writePlan (r : Request) (status : Nat) (statements : List Statement) : Plan :=
  .table (.write statements) fun outcome => .ok (Service.written status r.preferences outcome)

def createPlan (r : Request) (table : String) : Except Failure Plan := do
  let q ← r.query table
  let body ← parsed r.body
  let upsert := r.preferences.resolution.map fun resolution =>
    (⟨resolution, q.onConflict⟩ : Sql.Upsert)
  let statements ← compiled (Sql.insert q.table body r.preferences.wantsRows upsert q.columns)
  return r.writePlan 201 statements

def modifyPlan (r : Request) (table : String) : Except Failure Plan := do
  let q ← r.query table
  let body ← parsed r.body
  let statement ← compiled (Sql.update q.table body q.filters r.preferences.wantsRows)
  return r.writePlan 204 [statement]

def removePlan (r : Request) (table : String) : Except Failure Plan := do
  let q ← r.query table
  let statement ← compiled (Sql.delete q.table q.filters r.preferences.wantsRows)
  return r.writePlan 204 [statement]

def callPlan (function : String) (arguments : List (String × Json)) (readOnly : Bool) :
    Except Failure Plan := do
  return .function (← compiled (Sql.call function arguments)) readOnly

def callWithParametersPlan (r : Request) (function : String) : Except Failure Plan :=
  callPlan function
    (Json.sortMembers ((Service.parameters r).map fun (k, v) => (k, .str v))) true

/-- The arguments in the body of a request. -/
def arguments (body : List UInt8) : Except Failure (List (String × Json)) := do
  if body.all Service.isBlankByte then return []
  match ← parsed body with
  | .obj arguments => return arguments
  | .null => return []
  | _ => .error (.badRequest "RPC arguments must be a JSON object")

def callWithBodyPlan (r : Request) (function : String) : Except Failure Plan := do
  callPlan function (← arguments r.body) false

/-- The plan of a request on the name that is the only parameter of its path. -/
def namedPlan (parameters : List Parameter) (plan : String → Except Failure Plan) : Plan :=
  match parameters.find? (·.value?.isNone), parameters.filterMap Parameter.value? with
  | some p, _ => .settled (.ok (Service.invalidPath p))
  | none, [name] => .ofExcept (plan name)
  | none, names => .settled (.ok (Service.wrongParameterCount names.length))

/-- The plan of a request on its route. -/
def routePlan (r : Request) (route : Route) (parameters : List Parameter) : Plan :=
  match route, r.method with
  | route, .options => .settled (.ok { status := 200, allow := some (Service.allowed route) })
  | .health, .get | .health, .head =>
    .settled (.ok (.withBody 200 (.json (.obj [("status", .str "ok")]))))
  | .table, .get => namedPlan parameters r.readPlan
  | .table, .head => namedPlan parameters r.countPlan
  | .table, .post => namedPlan parameters r.createPlan
  | .table, .patch => namedPlan parameters r.modifyPlan
  | .table, .delete => namedPlan parameters r.removePlan
  | .function, .get | .function, .head => namedPlan parameters r.callWithParametersPlan
  | .function, .post => namedPlan parameters r.callWithBodyPlan
  | route, _ => .settled (.ok { status := 405, allow := some (Service.allowed route) })

end Request

namespace Service

/-- **The plan of a request.** -/
def plan (s : Service σ) (r : Request) : Plan :=
  match Route.ofPath? s.config.restPrefix r.uri.path with
  | some (route, parameters) => r.routePlan route parameters
  | none =>
    if r.method = .options then .settled (.ok { status := 200 })
    else .settled (.error (.notFound "no route matches this path"))

/-! ## §3 — serving a request is serving its plan -/

/-- What was decided without the database, as a part of serving a request. -/
def decided {α : Type} (x : Except Failure α) : Handler σ α :=
  match x with
  | .ok a => pure a
  | .error f => throw (.failure f)

theorem accepted_eq {α : Type} (x : Except Rejection α) :
    (accepted x : Handler σ α) = decided (compiled x) := by
  cases x <;> rfl

theorem readBody_eq (body : List UInt8) :
    (readBody body : Handler σ Json) = decided (parsed body) := by
  unfold readBody parsed
  cases Json.readBytes? body <;> rfl

/-- Compiling on from a part is serving on from it. -/
theorem serve_bind {α : Type} (s : Service σ) (r : Request) (x : Except Failure α)
    (f : α → Except Failure Plan) : (Plan.ofExcept (x >>= f)).serve s r =
      decided x >>= fun a => (Plan.ofExcept (f a)).serve s r := by
  cases x <;> rfl

theorem decided_bind {α β : Type} (x : Except Failure α) (f : α → Except Failure β) :
    (decided (x >>= f) : Handler σ β) = decided x >>= fun a => decided (f a) := by
  cases x <;> rfl

section
variable (s : Service σ) (r : Request)

theorem read_eq (table : String) :
    s.read r table = (Plan.ofExcept (r.readPlan table)).serve s r := by
  simp only [read, Request.readPlan, Request.query, accepted_eq, serve_bind]
  rfl

theorem count_eq (table : String) :
    s.count r table = (Plan.ofExcept (r.countPlan table)).serve s r := by
  simp only [count, Request.countPlan, Request.query, accepted_eq, serve_bind]
  rfl

theorem create_eq (table : String) :
    s.create r table = (Plan.ofExcept (r.createPlan table)).serve s r := by
  simp only [create, Request.createPlan, Request.query, accepted_eq, readBody_eq, serve_bind]
  rfl

theorem modify_eq (table : String) :
    s.modify r table = (Plan.ofExcept (r.modifyPlan table)).serve s r := by
  simp only [modify, Request.modifyPlan, Request.query, accepted_eq, readBody_eq, serve_bind]
  rfl

theorem remove_eq (table : String) :
    s.remove r table = (Plan.ofExcept (r.removePlan table)).serve s r := by
  simp only [remove, Request.removePlan, Request.query, accepted_eq, serve_bind]
  rfl

theorem call_eq (function : String) (arguments : List (String × Json)) (readOnly : Bool) :
    s.call r function arguments readOnly =
      (Plan.ofExcept (Request.callPlan function arguments readOnly)).serve s r := by
  simp only [call, Request.callPlan, accepted_eq, serve_bind]
  rfl

theorem readArguments_eq (body : List UInt8) :
    (readArguments body : Handler σ _) = decided (Request.arguments body) := by
  unfold readArguments Request.arguments
  simp only [readBody_eq]
  split
  · rfl
  · rw [decided_bind]
    congr 1
    funext value
    cases value <;> rfl

theorem callWithBody_eq (function : String) :
    s.callWithBody r function = (Plan.ofExcept (r.callWithBodyPlan function)).serve s r := by
  simp only [callWithBody, Request.callWithBodyPlan, readArguments_eq, serve_bind, call_eq]

theorem onName_eq (parameters : List Parameter) {serve : String → Handler σ Response}
    {plan : String → Except Failure Plan}
    (same : ∀ name, serve name = (Plan.ofExcept (plan name)).serve s r) :
    onName parameters serve = (Request.namedPlan parameters plan).serve s r := by
  unfold onName Request.namedPlan
  cases parameters.find? (·.value?.isNone) with
  | some p => rfl
  | none =>
    rcases parameters.filterMap Parameter.value? with - | ⟨name, - | ⟨second, rest⟩⟩
    · rfl
    · exact same name
    · rfl

theorem onRoute_eq (route : Route) (parameters : List Parameter) :
    s.onRoute r route parameters = (r.routePlan route parameters).serve s r := by
  unfold onRoute Request.routePlan
  cases route with
  | health => cases r.method <;> rfl
  | table =>
    cases r.method with
    | get => exact onName_eq s r parameters (read_eq s r)
    | head => exact onName_eq s r parameters (count_eq s r)
    | post => exact onName_eq s r parameters (create_eq s r)
    | patch => exact onName_eq s r parameters (modify_eq s r)
    | delete => exact onName_eq s r parameters (remove_eq s r)
    | options => rfl
    | other name => rfl
  | function =>
    cases r.method with
    | get | head => exact onName_eq s r parameters fun function => call_eq s r function _ true
    | post => exact onName_eq s r parameters (callWithBody_eq s r)
    | patch | delete | options | other => rfl

/-- **Serving a request is serving its plan.** -/
theorem handle_eq : s.handle r = (s.plan r).serve s r := by
  unfold handle plan
  cases Route.ofPath? s.config.restPrefix r.uri.path with
  | none =>
    by_cases options : r.method = .options
    · simp only [options, if_true]
      rfl
    · simp only [options, if_false]
      rfl
  | some found =>
    obtain ⟨route, parameters⟩ := found
    exact onRoute_eq s r route parameters

end

end Service

end Gateway.Http
