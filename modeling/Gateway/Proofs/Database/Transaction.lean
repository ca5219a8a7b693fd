import Gateway.Proofs.Database.Exchange
import Gateway.Proofs.Database.Projection

/-!
# Transactions

What every operation does to its connection, and how it ends. `script` lists the commands of an
operation, `outcomeOf` gives its outcome from what comes back, and `performs_execute` says that running
the operation is performing its script. Around the script stand the beginning of the transaction, the
settings of the caller, and one commit or one rollback: `Transaction` lists the ways in which that can
go, and `run_transaction` says that every run of an operation goes in one of them.
-/

namespace Gateway.Database

open Gateway.Auth (Identity)
open Gateway.Sql (Query Statement StatementKind Template)
open Session (IsExchange Performs)

variable {σ : Type} {db : Backend σ}

/-! ## §1 — statements -/

/-- Fetching the rows of a statement is one exchange. -/
theorem isExchange_fetchRows (s : Statement) :
    IsExchange db (fetchRows db s) (commandOf s) Exchange.rows := by
  unfold fetchRows commandOf
  cases s.jsonRows with
  | none => exact Session.isExchange_send_bind fun n w => rfl
  | some wrapped =>
    apply Session.isExchange_send_bind
    intro value w
    cases value <;> rfl

/-- Counting is one exchange. -/
theorem isExchange_fetchCount (s : Statement) :
    IsExchange db (fetchCount db s) ⟨_, .count s⟩ fun e => e.counted?.getD 0 := by
  apply Session.isExchange_send_bind
  intro n w
  by_cases negative : n < 0
  · simp only [concluded, firstFailure, List.findSome?_cons, Exchange.failure?_ok, Command.flaw?,
      negative, if_true]
    rfl
  · simp only [concluded, firstFailure, List.findSome?_cons, Exchange.failure?_ok, Command.flaw?,
      negative, if_false]
    rfl

theorem commandOf_eq (s : Statement) :
    (∃ wrapped, commandOf s = ⟨_, .rows wrapped⟩) ∨ commandOf s = ⟨_, .execute s⟩ := by
  unfold commandOf
  cases s.jsonRows with
  | some wrapped => exact .inl ⟨wrapped, rfl⟩
  | none => exact .inr rfl

theorem producesRows_eq (s : Statement) : s.producesRows = s.jsonRows.isSome := by
  unfold Statement.jsonRows Statement.producesRows
  cases s.kind <;> cases s.returning <;> rfl

/-- **A statement gives back the rows that it writes**: it ends in `RETURNING *`, and all its rows are
fetched as one array. -/
structure GivesRows (s : Statement) : Prop where
  returning : ∃ head, s.sql = head ++ " RETURNING *"
  fetched : ∃ wrapped, commandOf s = ⟨_, .rows wrapped⟩ ∧ Template.sql wrapped =
    "WITH \"_r\" AS (" ++ s.sql ++ ") SELECT coalesce(json_agg(\"_r\"), '[]'::json) FROM \"_r\""

section
variable {kind : StatementKind} (writes : kind = .insert ∨ kind = .update ∨ kind = .delete) (t : Template)
include writes

/-- A write that is to return its rows gives them back. -/
theorem givesRows_writing : GivesRows (.writing kind t true) := by
  have wraps : (Statement.writing kind t true).jsonRows =
      some ([.word .withWord, .space, .name .rowAlias, .space, .word .asWord, .space, .symbol .opening]
        ++ ((Statement.writing kind t true).template ++ ([.symbol .closing, .space] ++ Statement.gathered
          ++ [.name .rowAlias]))) := by
    rcases writes with rfl | rfl | rfl <;> simp [Statement.writing, Statement.jsonRows,
      Statement.producesRows, Template.paren]
  refine ⟨⟨t.write 1, Template.write_append t _ 1⟩, _, by rw [commandOf, wraps], ?_⟩
  rw [Template.sql, Template.write_append, Template.write_append, String.append_assoc]
  rfl

/-- A write that is not to return its rows is run without them. -/
theorem commandOf_writing :
    commandOf (.writing kind t false) = ⟨_, .execute (.writing kind t false)⟩ := by
  rcases writes with rfl | rfl | rfl <;> rfl

end

/-- Running a statement of a write is one exchange. -/
theorem isExchange_runWrite (s : Statement) :
    IsExchange db (runWrite db s) (commandOf s) fun e => (e.rows, e.touched) := by
  unfold runWrite
  cases h : s.jsonRows with
  | none =>
    have silent : s.producesRows = false := by rw [producesRows_eq, h]; rfl
    have asked : commandOf s = ⟨_, .execute s⟩ := by rw [commandOf, h]
    rw [if_neg (by simp [silent]), asked]
    exact Session.isExchange_send_bind fun n w => rfl
  | some wrapped =>
    have produces : s.producesRows = true := by rw [producesRows_eq, h]; rfl
    have asked : commandOf s = ⟨_, .rows wrapped⟩ := by rw [commandOf, h]
    have fetched : IsExchange db (fetchRows db s) (commandOf s) Exchange.rows := isExchange_fetchRows s
    rw [asked] at fetched ⊢
    rw [if_pos produces]
    apply fetched.map
    intro a
    cases a with
    | error f => rfl
    | ok value => cases value <;> rfl

/-! ## §2 — operations -/

/-- The names of the columns of its table that a query with embeds is given. -/
def knownColumns (q : Query) (es : List Exchange) : Option (List String) :=
  if q.embeds.isEmpty then none else es.findSome? Exchange.columns?

namespace Operation

/-- **The commands of an operation**, in order. The statement of a read that has embeds depends on the
columns that are looked up before. -/
def script (c : Config) (es : List Exchange) : Operation → List AnyCommand
  | read q counted =>
    let q := q.withMaxRows c.maxRows
    (if q.embeds.isEmpty then [] else [⟨_, .columns q.table⟩])
      ++ [commandOf (q.selectStatement ⟨c.relationships, knownColumns q es⟩)]
      ++ (if counted then [⟨_, .count q.countStatement⟩] else [])
  | count q => [⟨_, .count q.countStatement⟩]
  | write statements => statements.map commandOf
  | call s _ => [commandOf s]

/-- **The outcome of an operation** with these exchanges: the rows of its statements in order, the number
of rows that were read or written, and the number of all rows when they were counted. -/
def outcomeOf (op : Operation) (es : List Exchange) : Outcome :=
  let rows := es.flatMap Exchange.rows
  match op with
  | write _ => { rows, affected := es.foldr (fun e n => e.touched + n) 0 }
  | _ => { rows, affected := rows.length, total := es.findSome? Exchange.counted? }

end Operation

/-- **Running the statements of a write** is performing them in order. -/
theorem performs_runWrites (statements : List Statement) :
    Performs db (runWrites db statements) (fun _ => statements.map commandOf)
      (Operation.write statements).outcomeOf := by
  induction statements with
  | nil => exact .pure rfl rfl
  | cons s rest ih =>
    apply Performs.bind (isExchange_runWrite s) (fun _ _ => rfl)
    intro a success
    exact ih.map fun outcome => _

/-- A statement is neither a count nor a look at columns. -/
theorem counted?_commandOf (s : Statement) (a : Except Fault (commandOf s).1) :
    ((commandOf s).answered a).counted? = none := by
  have cases := commandOf_eq s
  generalize commandOf s = q at a cases
  obtain ⟨wrapped, rfl⟩ | rfl := cases <;> rfl

/-- Reading a page, and counting all rows when that is wanted. -/
theorem performs_page (q : Query) (s : Statement) (counted : Bool) :
    Performs db
      (do
        let rows ← fetchRows db s
        let total ← if counted then some <$> fetchCount db q.countStatement else pure none
        return ({ rows, affected := rows.length, total } : Outcome))
      (fun _ => commandOf s :: if counted then [⟨_, .count q.countStatement⟩] else [])
      (Operation.read q counted).outcomeOf := by
  apply Performs.bind (isExchange_fetchRows s) (fun _ _ => rfl)
  intro a _
  cases counted with
  | false =>
    simp only [Bool.false_eq_true, if_false, pure_bind]
    refine .pure rfl ?_
    simp [Operation.outcomeOf, counted?_commandOf]
  | true =>
    simp only [if_true, map_eq_pure_bind, bind_assoc, pure_bind]
    apply Performs.bind (isExchange_fetchCount q.countStatement) (fun _ _ => rfl)
    intro n success
    refine .pure rfl ?_
    obtain ⟨n, rfl⟩ := Exchange.exists_ok_of_failure?_eq_none success
    have total : (AnyCommand.answered ⟨_, .count q.countStatement⟩ (.ok n)).counted? =
      some n.toNat := rfl
    have bare : (AnyCommand.answered ⟨_, .count q.countStatement⟩ (.ok n)).rows = [] := rfl
    simp [Operation.outcomeOf, counted?_commandOf, total, bare]

/-- **Running an operation is performing its script.** -/
theorem performs_execute (c : Config) (op : Operation) :
    Performs db (execute db c op) (op.script c) op.outcomeOf := by
  cases op with
  | write statements => exact performs_runWrites statements
  | count q =>
    apply Performs.bind (isExchange_fetchCount q.countStatement) (fun _ _ => rfl)
    intro a success
    refine .pure rfl ?_
    obtain ⟨n, rfl⟩ := Exchange.exists_ok_of_failure?_eq_none success
    rfl
  | call s readOnly =>
    apply Performs.bind (isExchange_fetchRows s) (fun _ _ => rfl)
    intro a success
    refine .pure rfl ?_
    simp [Operation.outcomeOf, counted?_commandOf]
  | read q counted =>
    unfold execute resolver Operation.script knownColumns
    by_cases embeds : (q.withMaxRows c.maxRows).embeds.isEmpty
    · simp only [embeds, if_true, pure_bind]
      exact performs_page _ _ counted
    · simp only [embeds, Bool.false_eq_true, if_false, bind_assoc, pure_bind]
      have names : IsExchange db (Session.send db (.columns (q.withMaxRows c.maxRows).table)) _
          fun e => e.columns?.getD [] := Session.isExchange_send fun _ => rfl
      apply Performs.bind names (fun _ _ => rfl)
      intro a success
      obtain ⟨names, rfl⟩ := Exchange.exists_ok_of_failure?_eq_none success
      exact performs_page _ _ counted

/-! ## §3 — transactions -/

/-- The commands inside a transaction: the settings of the caller, and the operation. -/
def innerScript (c : Config) (i : Identity) (op : Operation) (es : List Exchange) : List AnyCommand :=
  ⟨_, .project (callerSettings c i)⟩ :: op.script c es

theorem script_project (c : Config) (op : Operation) (settings : List Setting) (a : Except Fault Unit)
    (es : List Exchange) : op.script c (⟨.project settings, a⟩ :: es) = op.script c es := by
  cases op <;> rfl

theorem outcomeOf_project (op : Operation) (settings : List Setting) (a : Except Fault Unit)
    (es : List Exchange) : op.outcomeOf (⟨.project settings, a⟩ :: es) = op.outcomeOf es := by
  cases op with
  | write statements =>
    have nothing : Exchange.touched ⟨.project settings, a⟩ = 0 := rfl
    have bare : Exchange.rows ⟨.project settings, a⟩ = [] := rfl
    simp only [Operation.outcomeOf, List.flatMap_cons, List.foldr_cons, nothing, bare, Nat.zero_add,
      List.nil_append]
  | read q counted => rfl
  | count q => rfl
  | call s readOnly => rfl

/-- **What happens inside a transaction** is performing the settings and the operation. -/
theorem performs_inner (c : Config) (i : Identity) (op : Operation) :
    Performs db
      (do
        Session.send db (.project (identitySettings c i))
        execute db c op)
      (innerScript c i op) op.outcomeOf := by
  rw [identitySettings_eq]
  have projected : IsExchange db (Session.send db (.project (callerSettings c i))) _ fun _ => () :=
    Session.isExchange_send fun _ => rfl
  have shape : ∀ a es, innerScript c i op (AnyCommand.answered ⟨_, .project (callerSettings c i)⟩ a :: es)
      = ⟨_, .project (callerSettings c i)⟩ :: op.script c es := by
    intro a es
    rw [innerScript, AnyCommand.answered, script_project]
  apply Performs.bind projected shape
  intro a _
  simp only [AnyCommand.answered, outcomeOf_project]
  exact performs_execute c op

/-- How a transaction ends. -/
inductive Ending where
  /-- There is no connection for it. -/
  | unconnected (f : Failure)
  /-- It cannot begin. -/
  | notBegun (f : Fault)
  | committed (outcome : Outcome)
  /-- All is done, but cannot be committed. -/
  | notCommitted (f : Fault)
  /-- Something failed in it. -/
  | rolledBack (f : Failure)

namespace Ending

/-- How the transaction failed, if it did. -/
def failure? : Ending → Option Failure
  | unconnected f | rolledBack f => some f
  | notBegun f | notCommitted f => some (.fault f)
  | committed _ => none

/-- What an operation ends with. -/
def result (op : Operation) : Ending → Except Failure Outcome
  | committed outcome => .ok outcome
  | rolledBack f => op.recover f
  | unconnected f => .error f
  | notBegun f | notCommitted f => .error (.fault f)

/-- What a call ends with. -/
def value (op : Operation) (e : Ending) : Except Failure Json :=
  match e.result op with
  | .ok outcome => .ok (unwrapScalar outcome.rows)
  | .error f => if f.serverCode? = some missingFunctionCode then .ok .null else .error f

/-- An operation ends well when it is committed, or when its failure is made good. -/
theorem result_eq_ok {op : Operation} {ending : Ending} {outcome : Outcome}
    (h : ending.result op = .ok outcome) :
    ending = .committed outcome ∨ ∃ f, ending = .rolledBack f ∧ op.recover f = .ok outcome := by
  cases ending with
  | committed other =>
    obtain rfl := Except.ok.inj h
    exact .inl rfl
  | rolledBack f => exact .inr ⟨f, rfl, h⟩
  | unconnected f => cases h
  | notBegun f => cases h
  | notCommitted f => cases h

/-- A call fails as its transaction does. -/
theorem result_call {s : Statement} {readOnly : Bool} {ending : Ending} {f : Failure} :
    ending.result (.call s readOnly) = .error f ↔ ending.failure? = some f := by
  cases ending <;> simp [result, failure?, Operation.recover]

/-- A call of a function that does not exist yields `null`. -/
theorem value_of_missing {s : Statement} {readOnly : Bool} {ending : Ending} {f : Failure}
    (failed : ending.failure? = some f) (missing : f.serverCode? = some "42883") :
    ending.value (.call s readOnly) = .ok .null := by
  have code : f.serverCode? = some missingFunctionCode := missing
  rw [value, result_call.2 failed]
  exact if_pos code

end Ending

theorem Operation.isMissingRelation_iff (f : Failure) : isMissingRelation f = true ↔
    f.serverCode? = some "42P01" ∨ f.serverCode? = some "42703" := by
  unfold isMissingRelation missingRelationCodes
  cases f.serverCode? <;> simp

/-- A failure is made good only when a table or a column does not exist. -/
theorem Operation.missing_of_recover {op : Operation} {f : Failure} {outcome : Outcome}
    (h : op.recover f = .ok outcome) :
    f.serverCode? = some "42P01" ∨ f.serverCode? = some "42703" := by
  rw [← isMissingRelation_iff]
  by_contra found
  cases op <;> simp [recover, found] at h

/-- What is made good has no rows. -/
theorem Operation.rows_of_recover {op : Operation} {f : Failure} {outcome : Outcome}
    (h : op.recover f = .ok outcome) : outcome.rows.length = 0 := by
  cases op <;> simp only [recover] at h
  case read | count =>
    split at h
    · obtain rfl := Except.ok.inj h
      rfl
    · cases h
  case write | call => cases h

/-- **The ways of a transaction**, given whether there is a connection: what passes over the connection,
and how it ends. -/
inductive Transaction (c : Config) (i : Identity) (op : Operation) :
    Except Failure Unit → List Exchange → Ending → Prop
  /-- Without a connection nothing is sent. -/
  | unconnected (f : Failure) : Transaction c i op (.error f) [] (.unconnected f)
  /-- Nothing follows a beginning that fails. -/
  | notBegun (f : Fault) :
      Transaction c i op (.ok ()) [⟨.start op.isReadOnly, .error f⟩] (.notBegun f)
  /-- All is done, and one commit follows. -/
  | committed {es : List Exchange} (performed : Performed (innerScript c i op es) es)
      (clean : firstFailure es = none) :
      Transaction c i op (.ok ()) (⟨.start op.isReadOnly, .ok ()⟩ :: es ++ [⟨.commit, .ok ()⟩])
        (.committed (op.outcomeOf es))
  | notCommitted {es : List Exchange} (performed : Performed (innerScript c i op es) es)
      (clean : firstFailure es = none) (f : Fault) :
      Transaction c i op (.ok ()) (⟨.start op.isReadOnly, .ok ()⟩ :: es ++ [⟨.commit, .error f⟩])
        (.notCommitted f)
  /-- All is done up to a failure, and one rollback follows, however it is answered. -/
  | rolledBack {es : List Exchange} (performed : Performed (innerScript c i op es) es) {f : Failure}
      (failed : firstFailure es = some f) (answer : Except Fault Unit) :
      Transaction c i op (.ok ()) (⟨.start op.isReadOnly, .ok ()⟩ :: es ++ [⟨.rollback, answer⟩])
        (.rolledBack f)

/-- **The second command of a transaction**, where there is one, sets the settings of the caller. -/
theorem Transaction.setsAll {c : Config} {i : Identity} {op : Operation} {taken : Except Failure Unit}
    {es : List Exchange} {ending : Ending} (h : Transaction c i op taken es ending) :
    ∀ e ∈ es[1]?, SetsAll (callerSettings c i) e.sent := by
  -- Inside the transaction the settings come first, whether they are taken or not.
  have inner {es : List Exchange} (performed : Performed (innerScript c i op es) es) (last : Exchange) :
      ∀ e ∈ (es ++ [last])[0]?, SetsAll (callerSettings c i) e.sent := by
    intro e mem
    obtain ⟨first, rest, rfl, asked, -⟩ := performed.of_cons
    obtain rfl : first = e := by simpa using mem
    have sent : first.command.sent = (Command.project (callerSettings c i)).sent :=
      congrArg (fun q : AnyCommand => q.2.sent) asked
    rw [Exchange.sent_eq, sent]
    exact setsAll_project c i
  cases h with
  | unconnected f => nofun
  | notBegun f => nofun
  | committed performed clean => exact inner performed _
  | notCommitted performed clean f => exact inner performed _
  | rolledBack performed failed answer => exact inner performed _

/-- An operation that is committed has the rows of its statements, in order. -/
theorem Transaction.rows_of_committed {c : Config} {i : Identity} {op : Operation}
    {taken : Except Failure Unit} {es : List Exchange} {outcome : Outcome}
    (h : Transaction c i op taken es (.committed outcome)) :
    outcome.rows = es.flatMap Exchange.rows := by
  cases h with
  | committed performed clean => cases op <;> simp [Operation.outcomeOf, Exchange.rows]

/-- Taking a connection sends nothing. -/
theorem sent_takeConnection (db : Backend σ) (c : Config) (w : Wire σ) :
    (takeConnection db c w).2.sent = w.sent := by
  unfold takeConnection
  split <;> rfl

/-- A connection is taken from a pool that holds one, when the database hands it out. -/
theorem takeConnection_eq_ok_iff {c : Config} {w : Wire σ} :
    (takeConnection db c w).1 = .ok () ↔ c.poolSize ≠ 0 ∧ (db.acquire w.state).1 = .ok () := by
  unfold takeConnection
  by_cases empty : c.poolSize = 0
  · rw [if_pos empty]
    exact ⟨nofun, fun h => absurd empty h.1⟩
  · rw [if_neg empty]
    exact mapError_eq_ok_iff.trans (and_iff_right empty).symm

/-- A transaction is without a connection only if none is taken. -/
theorem Transaction.connected_iff {c : Config} {i : Identity} {op : Operation} {taken : Except Failure Unit}
    {es : List Exchange} {ending : Ending} (h : Transaction c i op taken es ending) :
    (∀ f, ending ≠ .unconnected f) ↔ taken = .ok () := by
  cases h <;> simp

/-- **Running an operation goes one of the ways of a transaction.** -/
theorem run_transaction (db : Backend σ) (c : Config) (i : Identity) (op : Operation) (w : Wire σ) :
    ∃ es ending v, Transaction c i op (takeConnection db c w).1 es ending ∧
      Conversation db (takeConnection db c w).2 es v ∧ run db c i op w = (ending.result op, v) := by
  unfold run
  rcases taken : takeConnection db c w with ⟨f | ⟨⟩, w₁⟩
  · exact ⟨_, _, _, .unconnected f, .nil w₁, bind_of_error taken _⟩
  rw [bind_of_ok taken]
  have talk := Conversation.single db (.start op.isReadOnly) w₁
  have sent := Session.send_apply db (.start op.isReadOnly) w₁
  rcases begun : (db.answer (.start op.isReadOnly) w₁.state).1 with f | ⟨⟩
  · rw [begun] at talk sent
    exact ⟨_, _, _, .notBegun f, talk, bind_of_error sent _⟩
  rw [begun] at talk sent
  rw [bind_of_ok sent]
  obtain ⟨es, v, inside, performed, ran⟩ := performs_inner c i op (db.after (.start op.isReadOnly) w₁)
  have ended := Session.attempt_apply ran
  rw [bind_of_ok ended]
  rcases failed : firstFailure es with - | f
  · -- All is done; only the commit can still fail.
    have commit := Conversation.single db .commit v
    have sent := Session.send_apply db .commit v
    rcases committed : (db.answer .commit v.state).1 with f | ⟨⟩
    · rw [committed] at commit sent
      refine ⟨_, _, _, .notCommitted performed failed f, (talk.append inside).append commit, ?_⟩
      rw [concluded, failed]
      exact bind_of_error sent _
    · rw [committed] at commit sent
      refine ⟨_, _, _, .committed performed failed, (talk.append inside).append commit, ?_⟩
      rw [concluded, failed]
      exact bind_of_ok sent _
  · -- What failed is what counts, whatever becomes of the rollback.
    have rollback := Conversation.single db .rollback v
    have sent := Session.attempt_apply (Session.send_apply db .rollback v)
    refine ⟨_, _, _, .rolledBack performed failed _, (talk.append inside).append rollback, ?_⟩
    rw [concluded, failed]
    refine (bind_of_ok sent _).trans ?_
    cases h : op.recover f <;> simp [Ending.result, h]
    all_goals rfl

/-- **Calling a function goes one of the ways of a transaction.** -/
theorem invoke_transaction (db : Backend σ) (c : Config) (i : Identity) (s : Statement)
    (readOnly : Bool) (w : Wire σ) :
    ∃ es ending v, Transaction c i (.call s readOnly) (takeConnection db c w).1 es ending ∧
      Conversation db (takeConnection db c w).2 es v ∧
      invoke db c i s readOnly w = (ending.value (.call s readOnly), v) := by
  obtain ⟨es, ending, v, way, talk, ran⟩ := run_transaction db c i (.call s readOnly) w
  refine ⟨es, ending, v, way, talk, ?_⟩
  unfold invoke
  rw [bind_of_ok (Session.attempt_apply ran), Ending.value]
  cases ending.result (.call s readOnly) with
  | ok outcome => rfl
  | error f =>
    by_cases missing : f.serverCode? = some missingFunctionCode
    · simp only [missing, if_true]
      rfl
    · simp only [missing, if_false]
      rfl

end Gateway.Database
