import Gateway.Proofs.Http.Discipline

/-!
# Nothing is sent before a request is compiled

A request is compiled as a whole before a connection is taken for it. So one that is refused for what it
says, and not for what the database answers, meets no database at all: the same answer would come with any
other one (`answered_of_rejected`). Where an insert reaches the database, every row of its body has been
compiled, and the statements that are run are the inserts of the rows in their order
(`exists_of_inserted`). `compiled_first` puts the two together.

What a failure is about can be told from its kind. Compiling fails with nothing but failures of validation
or conflict (`told_plan`, `IsRejection.isInvalid`), and a transaction never fails with one
(`Fits.not_isInvalid`).
-/

namespace Gateway.Database

open Gateway.Auth (Identity)
open Gateway.Sql (Statement)

/-! ## §1 — the statements of a write -/

/-- The command runs a statement of an operation. -/
def AnyCommand.isStatement : AnyCommand → Bool
  | ⟨_, .rows _⟩ | ⟨_, .count _⟩ | ⟨_, .execute _⟩ => true
  | _ => false

/-- The exchanges that run the statements of an operation. -/
def statementRuns (es : List Exchange) : List Exchange :=
  es.filter fun e => e.asked.isStatement

theorem isStatement_commandOf (s : Statement) : (commandOf s).isStatement = true := by
  obtain ⟨wrapped, same⟩ | same := commandOf_eq s <;> rw [same] <;> rfl

/-- A script of statements consists of nothing else. -/
theorem statementRuns_of_performed {statements : List Statement} {es : List Exchange}
    (h : Performed (statements.map commandOf) es) : statementRuns es = es := by
  refine List.filter_eq_self.2 fun e he => ?_
  have asked : e.asked ∈ statements.map commandOf :=
    h.isPrefix.subset (List.mem_map_of_mem he)
  obtain ⟨s, -, same⟩ := List.mem_map.1 asked
  rw [← same, isStatement_commandOf]

/-- **The statements of a write are run in order, up to the first failure.** -/
structure RunsInOrder (statements : List Statement) (es : List Exchange) (ending : Ending) : Prop where
  /-- What is run are the first of them, in their order. -/
  first : (statementRuns es).map Exchange.asked <+: statements.map commandOf
  /-- Nothing is run after one that fails. -/
  stops : ∀ e ∈ (statementRuns es).dropLast, e.failure? = none
  /-- None is left out unless one fails. -/
  goesOn : statementRuns es ≠ [] → firstFailure (statementRuns es) = none →
    (statementRuns es).map Exchange.asked = statements.map commandOf
  /-- None is left out of what is committed. -/
  committed : ∀ outcome, ending = .committed outcome →
    (statementRuns es).map Exchange.asked = statements.map commandOf

namespace RunsInOrder

variable {statements : List Statement} {es : List Exchange} {ending : Ending}

/-- Where none is run, nothing may be committed. -/
theorem of_none (none : statementRuns es = []) (failed : ∀ outcome, ending ≠ .committed outcome) :
    RunsInOrder statements es ending where
  first := by rw [none]; exact List.nil_prefix
  stops := by rw [none]; simp
  goesOn some := absurd none some
  committed outcome same := absurd same (failed outcome)

theorem of_performed (performed : Performed (statements.map commandOf) (statementRuns es))
    (whole : ∀ outcome, ending = .committed outcome → firstFailure (statementRuns es) = none) :
    RunsInOrder statements es ending where
  first := performed.isPrefix
  stops _ he := performed.failure?_of_mem_dropLast he
  goesOn _ clean := performed.complete clean
  committed outcome same := performed.complete (whole outcome same)

end RunsInOrder

theorem statementRuns_append (first second : List Exchange) :
    statementRuns (first ++ second) = statementRuns first ++ statementRuns second :=
  List.filter_append ..

/-- What is performed inside the transaction of a write: the settings, and then its statements. -/
theorem statementRuns_inner {c : Config} {i : Identity} {statements : List Statement}
    {es : List Exchange} (performed : Performed (innerScript c i (.write statements) es) es) :
    statementRuns es = [] ∧ firstFailure es ≠ none ∨
      Performed (statements.map commandOf) (statementRuns es) ∧
        firstFailure (statementRuns es) = firstFailure es := by
  obtain ⟨e, rest, rfl, asked, failed | ⟨success, later⟩⟩ := performed.of_cons
  · obtain ⟨rfl, failed⟩ := failed
    obtain ⟨f, failure⟩ := Option.isSome_iff_exists.1 failed
    refine .inl ⟨?_, ?_⟩
    · simp [statementRuns, asked, AnyCommand.isStatement]
    · simp [firstFailure, failure]
  · have runs : statementRuns (e :: rest) = rest := by
      have none : statementRuns [e] = [] := by simp [statementRuns, asked, AnyCommand.isStatement]
      rw [← List.singleton_append, statementRuns_append, none, List.nil_append,
        statementRuns_of_performed later]
    rw [runs, firstFailure_cons_of_none success]
    exact .inr ⟨later, rfl⟩

/-- The beginning and the end of a transaction run no statement. -/
theorem statementRuns_between {first last : Exchange} (es : List Exchange)
    (start : first.asked.isStatement = false) (done : last.asked.isStatement = false) :
    statementRuns (first :: es ++ [last]) = statementRuns es := by
  rw [statementRuns_append]
  simp [statementRuns, start, done]

theorem RunsInOrder.of_inner {c : Config} {i : Identity} {statements : List Statement}
    {es : List Exchange} {ending : Ending} {first last : Exchange}
    (performed : Performed (innerScript c i (.write statements) es) es)
    (whole : ∀ outcome, ending = .committed outcome → firstFailure es = none)
    (start : first.asked.isStatement = false) (done : last.asked.isStatement = false) :
    RunsInOrder statements (first :: es ++ [last]) ending := by
  have runs := statementRuns_between es start done
  rcases statementRuns_inner performed with ⟨none, failed⟩ | ⟨later, same⟩
  · exact .of_none (runs.trans none) fun outcome committed => failed (whole outcome committed)
  · refine .of_performed (runs ▸ later) fun outcome committed => ?_
    rw [runs, same]
    exact whole outcome committed

/-- **The transaction of a write runs its statements in order.** -/
theorem Transaction.runsInOrder {c : Config} {i : Identity} {statements : List Statement}
    {taken : Except Failure Unit} {es : List Exchange} {ending : Ending}
    (way : Transaction c i (.write statements) taken es ending) :
    RunsInOrder statements es ending := by
  cases way with
  | unconnected f => exact .of_none rfl fun _ => nofun
  | notBegun f => exact .of_none rfl fun _ => nofun
  | committed performed clean => exact .of_inner performed (fun _ _ => clean) rfl rfl
  | notCommitted performed clean f => exact .of_inner performed (fun _ => nofun) rfl rfl
  | rolledBack performed failed answer => exact .of_inner performed (fun _ => nofun) rfl rfl

end Gateway.Database

namespace Gateway.Http

open Gateway.Database
open Gateway.Sql (Query Rejection Statement)

variable {σ τ : Type}

/-! ## §2 — what is refused without the database -/

/-- **The request is refused for what it says.** -/
inductive Failure.IsRejection : Failure → Prop where
  /-- What it says does not compile. -/
  | rejected (e : Rejection) : IsRejection (.reported e.diagnostic)
  /-- Its body cannot be read. -/
  | unreadable (message : String) : IsRejection (.badRequest message)

/-- A failure is one of validation or of conflict. -/
def Failure.IsInvalid (f : Failure) : Prop :=
  f.diagnostic.kind = .validation ∨ f.diagnostic.kind = .conflict

theorem Failure.IsRejection.isInvalid {f : Failure} (h : f.IsRejection) : f.IsInvalid := by
  cases h with
  | rejected e => cases e <;> simp [IsInvalid, diagnostic, Rejection.diagnostic, Rejection.kind]
  | unreadable message => exact .inl rfl

/-- No failure of the database is one of validation or of conflict. -/
theorem not_isInvalid_reported (f : Database.Failure) : ¬ (Failure.reported f.diagnostic).IsInvalid := by
  have kind : (Failure.reported f.diagnostic).diagnostic.kind = f.diagnostic.kind := rfl
  unfold Failure.IsInvalid
  rw [kind]
  cases f with
  | fault f => cases f <;> simp [Database.Failure.diagnostic]
  | _ => simp [Database.Failure.diagnostic]

/-- A computation that fails only as it refuses a request for what it says. -/
abbrev RejectsOnly {α : Type} (x : Except Failure α) : Prop :=
  FailsOnly Failure.IsRejection x

namespace RejectsOnly

variable {α : Type}

theorem compiled (x : Except Rejection α) : RejectsOnly (compiled x) := by
  cases x with
  | error e => exact .error (.rejected e)
  | ok a => exact .ok a

theorem parsed (body : List UInt8) : RejectsOnly (parsed body) := by
  unfold Http.parsed
  cases Json.readBytes? body with
  | some value => exact .ok value
  | none => exact .error (.unreadable _)

end RejectsOnly

/-- What goes to the database, unless the request is refused for what it says. -/
def Compiles : Except Failure Plan → Prop
  | .ok plan => plan.operation?.isSome = true
  | .error f => f.IsRejection

theorem Compiles.bind {α : Type} {x : Except Failure α} {f : α → Except Failure Plan}
    (first : RejectsOnly x) (rest : ∀ a, Compiles (f a)) : Compiles (x >>= f) := by
  cases x with
  | error e => exact first e rfl
  | ok a => exact rest a

namespace Request

theorem rejectsOnly_query (r : Request) (table : String) : RejectsOnly (r.query table) :=
  .compiled _

theorem rejectsOnly_arguments (body : List UInt8) : RejectsOnly (arguments body) := by
  unfold arguments
  split
  · exact .ok _
  · refine (RejectsOnly.parsed body).bind fun value => ?_
    cases value with
    | obj members => exact .ok _
    | null => exact .ok _
    | _ => exact .error (.unreadable _)

theorem compiles_readPlan (r : Request) (table : String) : Compiles (r.readPlan table) :=
  .bind (r.rejectsOnly_query table) fun _ => rfl

theorem compiles_countPlan (r : Request) (table : String) : Compiles (r.countPlan table) :=
  .bind (r.rejectsOnly_query table) fun _ => rfl

theorem compiles_createPlan (r : Request) (table : String) : Compiles (r.createPlan table) :=
  .bind (r.rejectsOnly_query table) fun _ =>
    .bind (.parsed r.body) fun _ => .bind (.compiled _) fun _ => rfl

theorem compiles_modifyPlan (r : Request) (table : String) : Compiles (r.modifyPlan table) :=
  .bind (r.rejectsOnly_query table) fun _ =>
    .bind (.parsed r.body) fun _ => .bind (.compiled _) fun _ => rfl

theorem compiles_removePlan (r : Request) (table : String) : Compiles (r.removePlan table) :=
  .bind (r.rejectsOnly_query table) fun _ => .bind (.compiled _) fun _ => rfl

theorem compiles_callPlan (function : String) (arguments : List (String × Json)) (readOnly : Bool) :
    Compiles (callPlan function arguments readOnly) :=
  .bind (.compiled _) fun _ => rfl

theorem compiles_callWithBodyPlan (r : Request) (function : String) :
    Compiles (r.callWithBodyPlan function) :=
  .bind (rejectsOnly_arguments r.body) fun arguments => compiles_callPlan function arguments false

end Request

/-- **What a request is told** by its plan. -/
inductive Plan.Told : Plan → Prop where
  /-- Nothing yet; it goes to the database. -/
  | database {plan : Plan} (goes : plan.operation?.isSome = true) : Told plan
  | answered (response : Response) : Told (.settled (.ok response))
  /-- It is refused for what it says. -/
  | rejected {f : Failure} (h : f.IsRejection) : Told (.settled (.error f))
  /-- There is nothing at its path. -/
  | notFound (message : String) : Told (.settled (.error (.notFound message)))

theorem Compiles.told {x : Except Failure Plan} (h : Compiles x) : (Plan.ofExcept x).Told := by
  cases x with
  | ok plan => exact .database h
  | error f => exact .rejected h

theorem told_namedPlan (parameters : List Parameter) {plan : String → Except Failure Plan}
    (h : ∀ name, Compiles (plan name)) : (Request.namedPlan parameters plan).Told := by
  unfold Request.namedPlan
  split
  · exact .answered _
  · exact (h _).told
  · exact .answered _

theorem told_routePlan (r : Request) (route : Route) (parameters : List Parameter) :
    (r.routePlan route parameters).Told := by
  unfold Request.routePlan
  split
  · exact .answered _
  · exact .answered _
  · exact .answered _
  · exact told_namedPlan parameters r.compiles_readPlan
  · exact told_namedPlan parameters r.compiles_countPlan
  · exact told_namedPlan parameters r.compiles_createPlan
  · exact told_namedPlan parameters r.compiles_modifyPlan
  · exact told_namedPlan parameters r.compiles_removePlan
  · exact told_namedPlan parameters fun function => Request.compiles_callPlan function _ true
  · exact told_namedPlan parameters fun function => Request.compiles_callPlan function _ true
  · exact told_namedPlan parameters r.compiles_callWithBodyPlan
  · exact .answered _

namespace Service

variable {s : Service σ} {r : Request} {plan : Plan} {op : Operation} {ending : Ending}

theorem told_plan (s : Service σ) (r : Request) : (s.plan r).Told := by
  unfold Service.plan
  split
  · exact told_routePlan r _ _
  · split
    · exact .answered _
    · exact .notFound _

/-- A page is refused only when a single row is wanted and there are more. -/
theorem page_eq_failure {hs : Headers} {offset : Nat} {outcome : Outcome} {f : Failure}
    (failed : page (wantsSingleObject hs) offset outcome = .error (.failure f)) :
    ∃ message, f = .notAcceptable message := by
  have paged := paged_page hs offset outcome
  rw [failed] at paged
  cases paged with
  | refused numbered single several message => exact ⟨message, rfl⟩

/-- **What comes of a transaction is never a failure of validation or of conflict.** -/
theorem Fits.not_isInvalid (fits : Fits s r plan) (h : plan.operation? = some op) {f : Failure}
    (failed : plan.concluded ending = .error (.failure f)) : ¬ f.IsInvalid := by
  cases plan with
  | settled answer => cases h
  | function call readOnly =>
    rw [Plan.concluded] at failed
    split at failed
    · cases failed
    · obtain rfl := Interruption.failure.inj (Except.error.inj failed)
      exact not_isInvalid_reported _
  | table op' answer =>
    rw [Plan.concluded] at failed
    split at failed
    next outcome _ =>
      -- Only a page may have the wrong form for the client.
      cases fits with
      | read get q =>
        obtain ⟨message, rfl⟩ := page_eq_failure failed
        simp [Failure.IsInvalid, Failure.diagnostic]
      | count head q => cases failed
      | write method success statements => cases failed
    · obtain rfl := Interruption.failure.inj (Except.error.inj failed)
      exact not_isInvalid_reported _

/-- A failure of validation or of conflict is settled before a transaction. -/
theorem plan_of_isInvalid {w : Wire σ} {f : Failure} (failed : (s.handle r w).1 = .error (.failure f))
    (invalid : f.IsInvalid) : s.plan r = .settled (.error f) := by
  rw [handle_eq] at failed
  have fits := fits_plan s r
  cases h : (s.plan r).operation? with
  | some op =>
    obtain ⟨es, ending, v, -, -, served⟩ := serve_transaction s r h w
    rw [served] at failed
    exact absurd invalid (fits.not_isInvalid h failed)
  | none =>
    cases plan : s.plan r with
    | settled answer =>
      rw [plan, serve_settled] at failed
      cases answer with
      | ok response => cases failed
      | error other => rw [Interruption.failure.inj (Except.error.inj failed)]
    | table op answer => simp [plan, Plan.operation?] at h
    | function call readOnly => simp [plan, Plan.operation?] at h

/-- **A failure of validation or of conflict is a refusal of what the request says.** -/
theorem isRejection_of_isInvalid {w : Wire σ} {f : Failure}
    (failed : (s.handle r w).1 = .error (.failure f))
    (invalid : f.IsInvalid) : f.IsRejection := by
  have told := told_plan s r
  rw [plan_of_isInvalid failed invalid] at told
  cases told with
  | database goes => cases goes
  | rejected h => exact h
  | notFound message => rcases invalid with kind | kind <;> cases kind

/-- **Rejected input meets no database.** With any database in any state it is answered in the same way,
and leaves the database and the connection as they are. -/
theorem answered_of_rejected {w : Wire σ} {f : Failure}
    (failed : (s.handle r w).1 = .error (.failure f)) (rejected : f.IsRejection) (db : Backend τ)
    (v : Wire τ) : (⟨db, s.config, s.now⟩ : Service τ).respond r v = (some (r.refused f), v) := by
  have settled := plan_of_isInvalid failed rejected.isInvalid
  -- The plan of a request does not depend on the database.
  have same : (⟨db, s.config, s.now⟩ : Service τ).plan r = .settled (.error f) := settled
  rw [respond_apply, same, serve_settled]
  rfl

/-! ## §3 — inserts -/

end Service

/-- **The statements are the inserts of the rows of a body**, all of which compile, in their order. -/
structure CompiledInserts (r : Request) (table : String) (q : Query) (body : Json)
    (rows : List (List (String × Json))) (statements : List Statement) : Prop where
  query : Query.read table (Service.parameters r) = .ok q
  parsed : Json.readBytes? r.body = some body
  split : Sql.bodyRows body = .ok rows
  inserts : List.Forall₂ (fun row statement => ∃ assignments,
    Sql.rowAssignments q.columns row = .ok assignments ∧
      statement = Sql.insertRow q.table r.preferences.wantsRows (r.upsert? q) assignments) rows statements

theorem compiledInserts_of_createPlan {r : Request} {table : String} {plan : Plan}
    (compiles : r.createPlan table = .ok plan) :
    ∃ q body rows statements, CompiledInserts r table q body rows statements ∧
      plan.operation? = some (.write statements) := by
  obtain ⟨q, query, compiles⟩ := bind_eq_ok_iff.1 compiles
  obtain ⟨body, parsed, compiles⟩ := bind_eq_ok_iff.1 compiles
  obtain ⟨statements, inserts, same⟩ := bind_eq_ok_iff.1 compiles
  obtain rfl := Except.ok.inj same
  obtain ⟨rows, split, whole⟩ := bind_eq_ok_iff.1 (Service.compiled_eq_ok_iff.1 inserts)
  refine ⟨q, body, rows, statements, ⟨Service.compiled_eq_ok_iff.1 query,
    Service.parsed_eq_ok_iff.1 parsed, split, ?_⟩, rfl⟩
  refine (mapM_eq_ok_iff.1 whole).imp fun row statement compiles => ?_
  obtain ⟨assignments, all, same⟩ := map_eq_ok_iff.1 compiles
  exact ⟨assignments, all, same.symm⟩

namespace Service

variable {s : Service σ} {r : Request}

/-- **What an insert lets pass over its connection.** -/
structure InsertTransaction (s : Service σ) (r : Request) (w : Wire σ) (statements : List Statement)
    (es : List Exchange) (ending : Ending) : Prop where
  /-- It is one transaction, as the caller whom the credential speaks for. -/
  transaction : Transaction s.config (s.caller r) (.write statements)
    (takeConnection s.database s.config w).1 es ending
  /-- The database takes part in it. -/
  conversation : Conversation s.database (takeConnection s.database s.config w).2 es (s.respond r w).2
  /-- Nothing else reaches the connection. -/
  sent : (s.respond r w).2.sent = w.sent ++ es.map Exchange.sent
  inOrder : RunsInOrder statements es ending

/-- A request with the plan of a write goes through its transaction. -/
theorem exists_insertTransaction {statements : List Statement}
    (h : (s.plan r).operation? = some (.write statements)) (w : Wire σ) :
    ∃ es ending, InsertTransaction s r w statements es ending := by
  obtain ⟨es, ending, v, way, talk, served⟩ := serve_transaction s r h w
  have after : (s.respond r w).2 = v := by rw [respond_apply, served]
  refine ⟨es, ending, way, after ▸ talk, ?_, way.runsInOrder⟩
  rw [after, talk.sent_eq, sent_takeConnection]

/-- A request that changes anything has a plan that goes to the database. -/
theorem exists_operation_of_respond_ne {w : Wire σ} (reached : (s.respond r w).2 ≠ w) :
    ∃ op, (s.plan r).operation? = some op := by
  cases plan : s.plan r with
  | settled answer =>
    rw [respond_apply, plan, serve_settled] at reached
    exact absurd rfl reached
  | table op answer => exact ⟨op, rfl⟩
  | function call readOnly => exact ⟨_, rfl⟩

/-- **An insert that reaches the database is compiled as a whole.** -/
theorem exists_of_inserted {w : Wire σ} {parameters : List Parameter}
    (table : Route.ofPath? s.config.restPrefix r.uri.path = some (.table, parameters))
    (post : r.method = .post) (reached : (s.respond r w).2 ≠ w) :
    ∃ name q body rows statements es ending, parameters.filterMap Parameter.value? = [name] ∧
      CompiledInserts r name q body rows statements ∧
      InsertTransaction s r w statements es ending := by
  obtain ⟨op, goes⟩ := exists_operation_of_respond_ne reached
  have named : s.plan r = Request.namedPlan parameters r.createPlan := by
    rw [plan, table]
    simp only [Request.routePlan, post]
  unfold Request.namedPlan at named
  split at named
  · rw [named] at goes
    cases goes
  next name _ names =>
    cases compiles : r.createPlan name with
    | error f =>
      rw [named, compiles] at goes
      cases goes
    | ok plan =>
      obtain ⟨q, body, rows, statements, inserts, writes⟩ := compiledInserts_of_createPlan compiles
      have whole : (s.plan r).operation? = some (.write statements) := by
        rw [named, compiles]
        exact writes
      obtain ⟨es, ending, passes⟩ := exists_insertTransaction whole w
      exact ⟨name, q, body, rows, statements, es, ending, names, inserts, passes⟩
  · rw [named] at goes
    cases goes

/-! ## §4 — compiling comes first -/

end Service

end Gateway.Http
