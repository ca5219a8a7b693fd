import Gateway.Database.Fault
import Gateway.Sql.Statement

/-!
# Talking to the database

The commands that a transaction consists of, what each is answered with, and a backend as anything
that answers them. A session is a computation that sends commands; it keeps the state of the database
and the list of what has reached the connection, and it ends with a result or with the first failure
that it does not handle.
-/

namespace Gateway.Database

open Gateway.Sql (Identifier Param Statement Template)

/-! ## Commands -/

/-- A setting of a transaction. -/
structure Setting where
  name : String
  value : String
deriving DecidableEq, Repr

/-- The statement that sets settings for the rest of the transaction. -/
def projectionSql (settings : List Setting) : String :=
  let calls := settings.zipIdx 1 |>.map fun (s, k) =>
    "set_config('" ++ s.name ++ "', $" ++ toString k ++ ", true)"
  "SELECT " ++ ", ".intercalate calls

/-- The statement that looks up the columns of a table. -/
def columnsSql : String :=
  "SELECT column_name::text FROM information_schema.columns "
    ++ "WHERE table_name = $1 AND table_schema = ANY (current_schemas(false))"

/-- A command, and what it is answered with when it succeeds. -/
inductive Command : Type → Type where
  /-- Begin a transaction. -/
  | start (readOnly : Bool) : Command Unit
  /-- Set the settings that say who is calling. -/
  | project (settings : List Setting) : Command Unit
  /-- Look up the names of the columns of a table. -/
  | columns (table : Identifier) : Command (List String)
  /-- Run a statement that returns all its rows as one value. -/
  | rows (wrapped : Template) : Command Json
  /-- Run a statement that returns a number. -/
  | count (s : Statement) : Command Int
  /-- Run a statement that returns nothing but the number of rows it touched. -/
  | execute (s : Statement) : Command Nat
  | commit : Command Unit
  | rollback : Command Unit

/-- What reaches the connection. -/
inductive Sent where
  | start (readOnly : Bool)
  | statement (sql : String) (params : List Param)
  | commit
  | rollback
deriving DecidableEq, Repr

/-- What a command sends. -/
def Command.sent {α : Type} : Command α → Sent
  | .start readOnly => .start readOnly
  | .project settings => .statement (projectionSql settings) (settings.map fun s => some s.value)
  | .columns table => .statement columnsSql [some table.text]
  | .rows wrapped => .statement (Template.sql wrapped) wrapped.params
  | .count s => .statement s.sql s.params
  | .execute s => .statement s.sql s.params
  | .commit => .commit
  | .rollback => .rollback

/-! ## Databases and sessions -/

/-- Anything that hands out connections and answers commands on them. -/
structure Backend (σ : Type) where
  /-- Hand out a connection. -/
  acquire : σ → Except PoolFault Unit × σ
  /-- Answer a command. -/
  answer : {α : Type} → Command α → σ → Except Fault α × σ

/-- A database to which there is no way. -/
def Backend.unreachable : Backend Unit where
  acquire s := (.error (.notOpened .unreachable), s)
  answer _ s := (.error .unreachable, s)

/-- The state of a database and what has reached the connection to it. -/
structure Wire (σ : Type) where
  state : σ
  sent : List Sent := []

/-- A computation that sends commands. -/
abbrev Session (σ : Type) := ExceptT Failure (StateM (Wire σ))

namespace Session

variable {σ α : Type}

/-- Take a connection. -/
def acquire (db : Backend σ) : Session σ Unit := fun w =>
  let (answer, state) := db.acquire w.state
  (answer.mapError .ofPool, { w with state })

/-- Send a command. -/
def send (db : Backend σ) (c : Command α) : Session σ α := fun w =>
  let (answer, state) := db.answer c w.state
  (answer.mapError .fault, ⟨state, w.sent ++ [c.sent]⟩)

/-- Run a session to its end and go on with its result or its failure. -/
def attempt (x : Session σ α) : Session σ (Except Failure α) := fun w =>
  let (result, w) := x w
  (.ok result, w)

end Session

end Gateway.Database
