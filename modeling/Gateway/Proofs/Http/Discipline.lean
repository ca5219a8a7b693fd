import Gateway.Proofs.Database.Transaction
import Gateway.Proofs.Http.Caller
import Gateway.Proofs.Http.Demand
import Gateway.Proofs.Http.Range

/-!
# The transaction of a request

Every request that reaches the database does so in one transaction, and its answer says how that ended.
`fits_plan` lists the plans that requests of each method have, `serve_transaction` gives the transaction
of a plan, and `respond_disciplined` puts the two together: which operation it is, who is told to be
calling, what is sent and in what order, that success is reported of nothing but what is committed, and
which failures are excused, and how.
-/

namespace Gateway.Http

open Gateway.Auth (Identity)
open Gateway.Database
open Gateway.Sql (Query Statement)
open Gateway.Text (wordSize)

variable {σ : Type}

/-! ## §1 — the plans of requests -/

namespace Service
variable {s : Service σ} {r : Request}

/-- **The plans that a request may have**, by its method. -/
inductive Fits (s : Service σ) (r : Request) : Plan → Prop
  /-- Without the database only the methods of a path and the health of the gateway are told. -/
  | settled {answer : Except Failure Response}
      (told : ∀ response, answer = .ok response → response.status < 400 → r.method = .options ∨
        ∃ parameters, Route.ofPath? s.config.restPrefix r.uri.path = some (.health, parameters)) :
      Fits s r (.settled answer)
  | read (get : r.method = .get) (q : Query) : Fits s r (.table (.read q r.preferences.count)
      (page (wantsSingleObject r.headers) (q.offset.getD 0)))
  | count (head : r.method = .head) (q : Query) : Fits s r (.table (.count q) Request.countAnswer)
  | write (method : r.method = .post ∨ r.method = .patch ∨ r.method = .delete) {status : Nat}
      (success : status = 201 ∨ status = 204) (statements : List Statement) :
      Fits s r (r.writePlan status statements)
  | query (method : r.method = .get ∨ r.method = .head) (call : Statement) :
      Fits s r (.function call true)
  | call (post : r.method = .post) (call : Statement) : Fits s r (.function call false)

namespace Fits

theorem refused (f : Failure) : Fits s r (.settled (.error f)) :=
  .settled fun _ h => by cases h

/-- An answer that reports no success fits every request. -/
theorem unsuccessful {response : Response} (h : 400 ≤ response.status) :
    Fits s r (.settled (.ok response)) := by
  apply Fits.settled
  intro other same success
  obtain rfl := Except.ok.inj same
  omega

theorem bind {α : Type} {x : Except Failure α} {f : α → Except Failure Plan}
    (h : ∀ a, Fits s r (.ofExcept (f a))) : Fits s r (.ofExcept (x >>= f)) := by
  cases x with
  | error e => exact refused e
  | ok a => exact h a

theorem named (parameters : List Parameter) {plan : String → Except Failure Plan}
    (h : ∀ name, Fits s r (.ofExcept (plan name))) :
    Fits s r (Request.namedPlan parameters plan) := by
  unfold Request.namedPlan
  split
  · exact unsuccessful (by simp [invalidPath, Response.withBody])
  · exact h _
  · exact unsuccessful (by simp [wrongParameterCount, Response.withBody])

theorem readPlan (get : r.method = .get) (table : String) : Fits s r (.ofExcept (r.readPlan table)) :=
  bind fun q => .read get q

theorem countPlan (head : r.method = .head) (table : String) :
    Fits s r (.ofExcept (r.countPlan table)) :=
  bind fun q => .count head q

theorem createPlan (post : r.method = .post) (table : String) :
    Fits s r (.ofExcept (r.createPlan table)) :=
  bind fun _ => bind fun _ => bind fun statements => .write (.inl post) (.inl rfl) statements

theorem modifyPlan (patch : r.method = .patch) (table : String) :
    Fits s r (.ofExcept (r.modifyPlan table)) :=
  bind fun _ => bind fun _ => bind fun statement =>
    .write (.inr (.inl patch)) (.inr rfl) [statement]

theorem removePlan (delete : r.method = .delete) (table : String) :
    Fits s r (.ofExcept (r.removePlan table)) :=
  bind fun _ => bind fun statement => .write (.inr (.inr delete)) (.inr rfl) [statement]

theorem callWithParametersPlan (method : r.method = .get ∨ r.method = .head) (function : String) :
    Fits s r (.ofExcept (r.callWithParametersPlan function)) :=
  bind fun call => .query method call

theorem callWithBodyPlan (post : r.method = .post) (function : String) :
    Fits s r (.ofExcept (r.callWithBodyPlan function)) :=
  bind fun _ => bind fun call => .call post call

end Fits

/-- **Every request has a plan that fits it.** -/
theorem fits_plan (s : Service σ) (r : Request) : Fits s r (s.plan r) := by
  unfold plan
  cases found : Route.ofPath? s.config.restPrefix r.uri.path with
  | none =>
    by_cases options : r.method = .options
    · rw [if_pos options]
      exact .settled fun _ _ _ => .inl options
    · rw [if_neg options]
      exact .refused _
  | some place =>
    obtain ⟨route, parameters⟩ := place
    unfold Request.routePlan
    cases method : r.method with
    | options => exact .settled fun _ _ _ => .inl method
    | other name =>
      have refused : Fits s r (.settled (.ok { status := 405, allow := some (allowed route) })) :=
        .unsuccessful (by simp)
      cases route <;> exact refused
    | get =>
      cases route with
      | health => exact .settled fun _ _ _ => .inr ⟨parameters, found⟩
      | table => exact .named _ (.readPlan method)
      | function => exact .named _ (.callWithParametersPlan (.inl method))
    | head =>
      cases route with
      | health => exact .settled fun _ _ _ => .inr ⟨parameters, found⟩
      | table => exact .named _ (.countPlan method)
      | function => exact .named _ (.callWithParametersPlan (.inr method))
    | post =>
      cases route with
      | health => exact .unsuccessful (by simp)
      | table => exact .named _ (.createPlan method)
      | function => exact .named _ (.callWithBodyPlan method)
    | patch =>
      cases route with
      | table => exact .named _ (.modifyPlan method)
      | health | function => exact .unsuccessful (by simp)
    | delete =>
      cases route with
      | table => exact .named _ (.removePlan method)
      | health | function => exact .unsuccessful (by simp)

end Service

/-! ## §2 — the transaction of a plan -/

/-- What a plan comes to, given how its transaction ended. -/
def Plan.concluded (ending : Ending) : Plan → Except Interruption Response
  | settled answer => answer.mapError .failure
  | table op answer =>
    match ending.result op with
    | .ok outcome => answer outcome
    | .error f => .error (.failure (.reported f.diagnostic))
  | function call readOnly =>
    match ending.value (.call call readOnly) with
    | .ok value => .ok (.withBody 200 (.json value))
    | .error f => .error (.failure (.reported f.diagnostic))

/-- A failure as it is sent to the client. -/
def Request.refused (r : Request) (f : Failure) : Response :=
  (Response.withBody f.status (.json f.body)).sentTo r.method

/-- A result as it is sent to the client, if it is sent at all. -/
def Request.answered (r : Request) : Except Interruption Response → Option Response
  | .ok response => some (response.sentTo r.method)
  | .error (.failure f) => some (r.refused f)
  | .error .overflow => none

namespace Service

theorem respond_apply (s : Service σ) (r : Request) (w : Wire σ) :
    s.respond r w = (r.answered ((s.plan r).serve s r w).1, ((s.plan r).serve s r w).2) := by
  rw [← handle_eq]
  simp only [respond, bind, StateT.bind, ExceptT.run]
  rcases s.handle r w with ⟨(f | -) | response, v⟩ <;> rfl

theorem onDatabase_apply {α : Type} {x : Session σ α} {w v : Wire σ} {result : Except Database.Failure α}
    (h : x w = (result, v)) :
    onDatabase x w = (result.mapError fun f => .failure (.reported f.diagnostic), v) := by
  show ((x w).1.mapError _, (x w).2) = _
  rw [h]

theorem serve_settled (s : Service σ) (r : Request) (answer : Except Failure Response) (w : Wire σ) :
    (Plan.settled answer).serve s r w = (answer.mapError .failure, w) := by
  cases answer <;> rfl

/-- **The transaction of a plan**, and what the plan comes to. -/
theorem serve_transaction (s : Service σ) (r : Request) {plan : Plan} {op : Operation}
    (h : plan.operation? = some op) (w : Wire σ) :
    ∃ es ending v,
      Transaction s.config (s.caller r) op (takeConnection s.database s.config w).1 es ending ∧
      Conversation s.database (takeConnection s.database s.config w).2 es v ∧
      plan.serve s r w = (plan.concluded ending, v) := by
  cases plan with
  | settled answer => simp [Plan.operation?] at h
  | table op' answer =>
    obtain rfl := Option.some.inj h
    obtain ⟨es, ending, v, way, talk, ran⟩ :=
      run_transaction s.database s.config (s.caller r) op' w
    refine ⟨es, ending, v, way, talk, ?_⟩
    have served := onDatabase_apply ran
    cases result : ending.result op' with
    | error f =>
      rw [result] at served
      rw [Plan.concluded, result]
      exact bind_of_error served _
    | ok outcome =>
      rw [result] at served
      rw [Plan.concluded, result]
      refine (bind_of_ok served _).trans ?_
      show _ = (answer outcome, v)
      cases answer outcome <;> rfl
  | function call readOnly =>
    obtain rfl := Option.some.inj h
    obtain ⟨es, ending, v, way, talk, ran⟩ :=
      invoke_transaction s.database s.config (s.caller r) call readOnly w
    refine ⟨es, ending, v, way, talk, ?_⟩
    have served := onDatabase_apply ran
    cases value : ending.value (.call call readOnly) with
    | error f =>
      rw [value] at served
      rw [Plan.concluded, value]
      exact bind_of_error served _
    | ok json =>
      rw [value] at served
      rw [Plan.concluded, value]
      exact bind_of_ok served _

end Service

/-! ## §3 — success, and what is excused -/

/-- **The failures that are excused**, and the answers to them. -/
inductive Excused (r : Request) : Operation → Ending → Response → Prop
  /-- A table or a column that does not exist has no rows. -/
  | read (get : r.method = .get) {q : Query} {counted : Bool} {f : Database.Failure}
      (missing : f.serverCode? = some "42P01" ∨ f.serverCode? = some "42703") {body : Json}
      (shown : Shows r.headers [] body) :
      Excused r (.read q counted) (.rolledBack f)
        { status := 200, contentRange := some (if counted then "*/0" else "*/*"),
          contentType := some "application/json", body := .json body }
  | count (head : r.method = .head) {q : Query} {f : Database.Failure}
      (missing : f.serverCode? = some "42P01" ∨ f.serverCode? = some "42703") :
      Excused r (.count q) (.rolledBack f) { status := 200, contentRange := some "*/0" }
  /-- A function that does not exist yields `null`, wherever the call failed. -/
  | call {call : Statement} {readOnly : Bool} {ending : Ending} {f : Database.Failure}
      (failed : ending.failure? = some f) (missing : f.serverCode? = some "42883") :
      Excused r (.call call readOnly) ending
        { status := 200, contentType := some "application/json",
          body := if r.method = .head then .empty else .json .null }

/-- **What the rows of a call yield**: the value of the only column of the only row, or else all of them. -/
inductive Yields : List Json → Json → Prop
  | single (column : String) (value : Json) : Yields [.obj [(column, value)]] value
  | rows {rows : List Json} (other : ∀ column value, rows ≠ [.obj [(column, value)]]) :
    Yields rows (.arr rows)

theorem yields_unwrapScalar (rows : List Json) : Yields rows (unwrapScalar rows) := by
  unfold unwrapScalar
  split
  next column value => exact .single column value
  next other => exact .rows other

/-- An operation is answered well when it is committed, or when its failure is made good. -/
theorem Plan.ending_of_concluded_table {op : Operation}
    {answer : Outcome → Except Interruption Response} {ending : Ending} {response : Response}
    (h : (table op answer).concluded ending = .ok response) :
    (∃ outcome, ending = .committed outcome) ∨
      ∃ f outcome, ending = .rolledBack f ∧ op.recover f = .ok outcome := by
  rw [concluded] at h
  cases result : ending.result op with
  | ok outcome =>
    rcases Ending.result_eq_ok result with committed | ⟨f, rolledBack, recovered⟩
    · exact .inl ⟨outcome, committed⟩
    · exact .inr ⟨f, outcome, rolledBack, recovered⟩
  | error f =>
    rw [result] at h
    cases h

/-- A call is answered well when it is committed, or when there is no such function. -/
theorem Plan.ending_of_concluded_function {call : Statement} {readOnly : Bool} {ending : Ending}
    {response : Response} (h : (function call readOnly).concluded ending = .ok response) :
    (∃ outcome, ending = .committed outcome) ∨
      ∃ f, ending.failure? = some f ∧ f.serverCode? = some "42883" := by
  rw [concluded, Ending.value] at h
  cases result : ending.result (.call call readOnly) with
  | ok outcome =>
    obtain rfl | ⟨f, rfl, recovered⟩ := Ending.result_eq_ok result
    · exact .inl ⟨outcome, rfl⟩
    · cases recovered
  | error f =>
    by_cases missing : f.serverCode? = some missingFunctionCode
    · exact .inr ⟨f, Ending.result_call.1 result, missing⟩
    · simp only [result, missing, if_false] at h
      cases h

/-- A failure is never reported as a success. -/
theorem Failure.le_status (f : Failure) : 400 ≤ f.status := by
  unfold Failure.status ErrorKind.status
  cases f.diagnostic.kind <;> decide

@[simp] theorem Response.status_sentTo (response : Response) (m : Method) :
    (response.sentTo m).status = response.status := by
  unfold Response.sentTo
  split <;> rfl

/-- What is answered with success did not fail. -/
theorem Request.exists_ok_of_status {r : Request} {result : Except Interruption Response}
    {answer : Response} (answered : r.answered result = some answer) (success : answer.status < 400) :
    ∃ response, result = .ok response ∧ answer = response.sentTo r.method := by
  cases result with
  | ok response => exact ⟨response, rfl, (Option.some.inj answered).symm⟩
  | error interruption =>
    cases interruption with
    | overflow => cases answered
    | failure f =>
      obtain rfl := Option.some.inj answered
      have refused := f.le_status
      rw [Request.refused, Response.status_sentTo] at success
      exact absurd success (Nat.not_lt.2 refused)

/-- Only a sum that cannot be represented keeps a result from being sent. -/
theorem Request.eq_overflow_of_answered {r : Request} {result : Except Interruption Response}
    (silent : r.answered result = none) : result = .error .overflow := by
  rcases result with (f | -) | response
  · cases silent
  · rfl
  · cases silent

namespace Service
variable {s : Service σ} {r : Request} {plan : Plan} {op : Operation} {ending : Ending}

/-- Reads are the operations of `GET` and `HEAD`. -/
theorem Fits.isReadOnly_iff (fits : Fits s r plan) (h : plan.operation? = some op) :
    op.isReadOnly = true ↔ r.method = .get ∨ r.method = .head := by
  cases fits with
  | settled told => cases h
  | read get q =>
    obtain rfl := Option.some.inj h
    simp [Operation.isReadOnly, get]
  | count head q =>
    obtain rfl := Option.some.inj h
    simp [Operation.isReadOnly, head]
  | write method success statements =>
    obtain rfl := Option.some.inj h
    rcases method with post | patch | delete
    · simp [Operation.isReadOnly, post]
    · simp [Operation.isReadOnly, patch]
    · simp [Operation.isReadOnly, delete]
  | query method call =>
    obtain rfl := Option.some.inj h
    simp [Operation.isReadOnly, method]
  | call post call =>
    obtain rfl := Option.some.inj h
    simp [Operation.isReadOnly, post]

/-- **Success is reported of what is committed**, or of what is excused. -/
theorem Fits.success (fits : Fits s r plan) (h : plan.operation? = some op) {response : Response}
    (well : plan.concluded ending = .ok response) :
    (∃ outcome, ending = .committed outcome) ∨ ∃ answer, Excused r op ending answer := by
  cases fits with
  | settled told => cases h
  | read get q =>
    obtain rfl := Option.some.inj h
    rcases Plan.ending_of_concluded_table well with committed | ⟨f, outcome, rfl, recovered⟩
    · exact .inl committed
    · have missing := Operation.missing_of_recover recovered
      rcases exists_shows r.headers [] with ⟨body, shown, -⟩ | ⟨-, several, -⟩
      · exact .inr ⟨_, .read get missing shown⟩
      · cases several
  | count head q =>
    obtain rfl := Option.some.inj h
    rcases Plan.ending_of_concluded_table well with committed | ⟨f, outcome, rfl, recovered⟩
    · exact .inl committed
    · exact .inr ⟨_, .count head (Operation.missing_of_recover recovered)⟩
  | write method success statements =>
    obtain rfl := Option.some.inj h
    rcases Plan.ending_of_concluded_table well with committed | ⟨f, outcome, rfl, recovered⟩
    · exact .inl committed
    · cases recovered
  | query | call =>
    obtain rfl := Option.some.inj h
    rcases Plan.ending_of_concluded_function well with committed | ⟨f, failed, missing⟩
    · exact .inl committed
    · exact .inr ⟨_, .call failed missing⟩

/-- **What is excused is answered so.** -/
theorem Fits.answered_of_excused (fits : Fits s r plan) (h : plan.operation? = some op)
    {answer : Response} (excused : Excused r op ending answer) :
    r.answered (plan.concluded ending) = some answer := by
  cases excused with
  | @read get q counted f missing body shown =>
    have gone := (Operation.isMissingRelation_iff _).2 missing
    cases fits with
    | read _ q =>
      obtain ⟨rfl, rfl⟩ := Operation.read.inj (Option.some.inj h)
      simp only [Plan.concluded, Ending.result, Operation.recover, gone, if_true]
      rw [page_empty shown, Request.answered, get]
      cases r.preferences.count <;> rfl
    | settled | count | write | query | call => cases h
  | count head missing =>
    have gone := (Operation.isMissingRelation_iff _).2 missing
    cases fits with
    | count _ q =>
      simp only [Plan.concluded, Ending.result, Operation.recover, gone, if_true]
      rw [Request.countAnswer, Request.answered, head]
      rfl
    | settled | read | write | query | call => cases h
  | call failed missing =>
    cases fits with
    | query | call =>
      rw [Plan.concluded, Ending.value_of_missing failed missing, Request.answered, Response.sentTo]
      split <;> rfl
    | settled | read | count | write => cases h

theorem status_written {status : Nat} (success : status = 201 ∨ status = 204) (p : Preferences)
    (outcome : Outcome) : (written status p outcome).status < 400 := by
  unfold written
  cases p.wantsRows <;> rcases success with rfl | rfl <;> simp [Response.withBody]

/-- **A write that is committed succeeds**, and a client that wants its rows is sent them. -/
theorem Fits.answer_of_written (fits : Fits s r plan) {statements : List Statement}
    (h : plan.operation? = some (.write statements)) (outcome : Outcome) :
    ∃ answer, r.answered (plan.concluded (.committed outcome)) = some answer ∧ answer.status < 400 ∧
      (AsksRows r.headers → answer.body = .json (.arr outcome.rows)) := by
  cases fits with
  | write method success statements =>
    refine ⟨_, rfl, (Response.status_sentTo _ _).trans_lt (status_written success _ outcome), fun asks => ?_⟩
    have wanted : r.preferences.wantsRows = true := (Preferences.wantsRows_ofHeaders_iff _).2 asks
    have other : r.method ≠ .head := by
      rcases method with post | patch | delete
      · simp [post]
      · simp [patch]
      · simp [delete]
    simp [Response.sentTo, other, written, wanted, Response.withBody]
  | settled | read | count | query | call => cases h

/-- **What a call yields** is the answer to a client that is sent a body. -/
theorem Fits.answer_of_called (fits : Fits s r plan) {call : Statement} {readOnly : Bool}
    (h : plan.operation? = some (.call call readOnly)) (outcome : Outcome) :
    ∃ answer value, r.answered (plan.concluded (.committed outcome)) = some answer ∧
      Yields outcome.rows value ∧ answer.status = 200 ∧
      (r.method ≠ .head → answer.body = .json value) := by
  cases fits with
  | query | call =>
    refine ⟨_, _, rfl, yields_unwrapScalar outcome.rows, Response.status_sentTo _ _, fun other => ?_⟩
    simp [Response.sentTo, other, Response.withBody]
  | settled | read | count | write => cases h

/-- **An answer fails to come** only to a read whose page has no range. -/
theorem Fits.silent (fits : Fits s r plan) (h : plan.operation? = some op)
    (silent : r.answered (plan.concluded ending) = none) : ∃ q counted outcome,
      op = .read q counted ∧ ending = .committed outcome ∧
        ¬ Numbered (q.offset.getD 0) outcome.rows.length := by
  have overflow := Request.eq_overflow_of_answered silent
  cases fits with
  | settled told => cases h
  | read get q =>
    obtain rfl := Option.some.inj h
    rw [Plan.concluded] at overflow
    cases result : ending.result (.read q r.preferences.count) with
    | error f =>
      rw [result] at overflow
      cases overflow
    | ok outcome =>
      simp only [result] at overflow
      have beyond := not_numbered_of_page overflow
      rcases Ending.result_eq_ok result with rfl | ⟨f, rfl, recovered⟩
      · exact ⟨q, _, outcome, rfl, rfl, beyond⟩
      · -- What is excused has no rows, and so it has a range.
        exact absurd (.inl (Operation.rows_of_recover recovered)) beyond
  | count head q =>
    rw [Plan.concluded] at overflow
    split at overflow <;> cases overflow
  | write method success statements =>
    rw [Request.writePlan, Plan.concluded] at overflow
    split at overflow <;> cases overflow
  | query | call =>
    rw [Plan.concluded] at overflow
    split at overflow <;> cases overflow

/-! ## §4 — the discipline -/

/-- **The discipline of transactions**: what a request with an operation lets pass over its connection,
how its transaction ends, and how it is answered. -/
structure Disciplined (s : Service σ) (r : Request) (w : Wire σ) (op : Operation) (i : Identity)
    (es : List Exchange) (ending : Ending) : Prop where
  /-- The operation is the one that the request asks for. -/
  asked : s.Asks r op
  /-- The caller is the one whom the credential of the request speaks for. -/
  sender : s.IsSender r i
  /-- The exchanges are one transaction for this caller. -/
  transaction : Transaction s.config i op (takeConnection s.database s.config w).1 es ending
  /-- It has a connection whenever there is one to be had. -/
  connected : (∀ f, ending ≠ .unconnected f) ↔
    s.config.poolSize ≠ 0 ∧ (s.database.acquire w.state).1 = .ok ()
  /-- The statement that follows the beginning sets the settings of this caller, each to its value. -/
  projection : ∀ e ∈ es[1]?, SetsAll (callerSettings s.config i) e.sent
  /-- The exchanges are what the database takes part in. -/
  conversation : Conversation s.database (takeConnection s.database s.config w).2 es (s.respond r w).2
  /-- Nothing else reaches the connection. -/
  sent : (s.respond r w).2.sent = w.sent ++ es.map Exchange.sent
  readOnly : op.isReadOnly = true ↔ r.method = .get ∨ r.method = .head
  /-- Success is reported of what is committed, or of what is excused. -/
  success : ∀ answer, (s.respond r w).1 = some answer → answer.status < 400 →
    (∃ outcome, ending = .committed outcome) ∨ Excused r op ending answer
  /-- What is excused is answered so. -/
  excused : ∀ answer, Excused r op ending answer → (s.respond r w).1 = some answer
  /-- The statements of a write give their rows back to a client that asks for rows, and to no other. -/
  returns : ∀ statements, op = .write statements → ∀ t ∈ statements, Returns r.headers t
  /-- A write that is committed succeeds, and returns the rows of its statements in order. -/
  written : ∀ statements outcome, op = .write statements → ending = .committed outcome →
    outcome.rows = es.flatMap Exchange.rows ∧
      ∃ answer, (s.respond r w).1 = some answer ∧ answer.status < 400 ∧
        (AsksRows r.headers → answer.body = .json (.arr (es.flatMap Exchange.rows)))
  /-- A call returns what the function yields; only a `HEAD` is answered without it. -/
  called : ∀ call readOnly outcome, op = .call call readOnly → ending = .committed outcome →
    ∃ answer value, (s.respond r w).1 = some answer ∧ Yields (es.flatMap Exchange.rows) value ∧
      answer.status = 200 ∧ (r.method ≠ .head → answer.body = .json value)
  /-- An answer fails to come only to a read, when what it has read reaches beyond the row numbers. -/
  silent : (s.respond r w).1 = none → ∃ q counted outcome, op = .read q counted ∧
    ending = .committed outcome ∧ ¬ Numbered (q.offset.getD 0) outcome.rows.length

/-- **Every request keeps the discipline of transactions.** One that does not come to an operation
reaches no connection, and only tells of the methods of a path or of the health of the gateway. -/
theorem respond_disciplined (s : Service σ) (r : Request) (w : Wire σ) :
    match (s.plan r).operation? with
    | some op => ∃ i es ending, Disciplined s r w op i es ending
    | none => (s.respond r w).2 = w ∧ ∃ answer, (s.respond r w).1 = some answer ∧
        (answer.status < 400 → r.method = .options ∨
          ∃ parameters, Route.ofPath? s.config.restPrefix r.uri.path = some (.health, parameters)) := by
  have fits := fits_plan s r
  have answered := respond_apply s r w
  cases h : (s.plan r).operation? with
  | some op =>
    obtain ⟨es, ending, v, way, talk, served⟩ := serve_transaction s r h w
    simp only [served] at answered
    have sender : s.IsSender r (s.caller r) := isSender_iff.2 rfl
    have asked := asks_of_plan h
    refine ⟨_, es, ending, asked, sender, way, way.connected_iff.trans takeConnection_eq_ok_iff,
      way.setsAll, ?_, ?_, fits.isReadOnly_iff h, ?_, ?_, ?_, ?_, ?_, ?_⟩
    · rw [answered]
      exact talk
    · rw [answered, talk.sent_eq, sent_takeConnection]
    · rw [answered]
      intro answer told success
      obtain ⟨response, well, -⟩ := Request.exists_ok_of_status told success
      rcases fits.success h well with committed | ⟨other, excused⟩
      · exact .inl committed
      · have same := (fits.answered_of_excused h excused).symm.trans told
        exact .inr (Option.some.inj same ▸ excused)
    · rw [answered]
      exact fun answer excused => fits.answered_of_excused h excused
    · rintro statements rfl
      exact asked.returns
    · rintro statements outcome rfl rfl
      rw [answered, ← way.rows_of_committed]
      exact ⟨rfl, fits.answer_of_written h outcome⟩
    · rintro call readOnly outcome rfl rfl
      rw [answered, ← way.rows_of_committed]
      exact fits.answer_of_called h outcome
    · rw [answered]
      exact fits.silent h
  | none =>
    cases plan : s.plan r with
    | settled answer =>
      rw [plan, serve_settled] at answered
      rw [plan] at fits
      rw [answered]
      refine ⟨rfl, ?_⟩
      obtain ⟨told, sent⟩ : ∃ told, r.answered (answer.mapError .failure) = some told := by
        cases answer <;> exact ⟨_, rfl⟩
      refine ⟨told, sent, fun success => ?_⟩
      obtain ⟨response, well, rfl⟩ := Request.exists_ok_of_status sent success
      cases fits with
      | settled tells =>
        rw [Response.status_sentTo] at success
        exact tells response (mapError_eq_ok_iff.1 well) success
    | table op answer => simp [plan, Plan.operation?] at h
    | function call readOnly => simp [plan, Plan.operation?] at h

end Service

end Gateway.Http
