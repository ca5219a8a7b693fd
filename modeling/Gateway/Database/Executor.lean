import Gateway.Auth.Identity
import Gateway.Config
import Gateway.Database.Connection
import Gateway.Database.Scalar
import Gateway.Sql.Call
import Gateway.Sql.Query

/-!
# Operations on the database

Every operation is one transaction: it begins, tells the database who is calling, runs its statements
in order up to the first failure, and is committed, or rolled back after a failure. A read of a table or
a column that does not exist then yields no rows, and a call of a function that does not exist yields
`null`; every other failure is passed on.
-/

namespace Gateway.Database

open Gateway.Auth (Identity)
open Gateway.Sql (EmbedResolver Query Statement)

/-! ## Who is calling -/

/-- The settings that tell the database who is calling. -/
def identitySettings (c : Config) (i : Identity) : List Setting :=
  [⟨"request.jwt.claim.sub", i.subject.getD ""⟩, ⟨"request.jwt.claim.role", i.role⟩,
    ⟨"request.jwt.claim.email", i.email.getD ""⟩, ⟨"request.jwt.claims", i.claims.text⟩]
  ++ (if c.assumeRole then [⟨"role", i.role⟩] else [])
  ++ c.statementTimeout.toList.map fun ms => ⟨"statement_timeout", toString ms⟩

/-! ## Operations -/

/-- What is done in one transaction. -/
inductive Operation where
  /-- Read rows, and count all of them when `counted`. -/
  | read (q : Query) (counted : Bool)
  /-- Count rows. -/
  | count (q : Query)
  /-- Run statements in order. -/
  | write (statements : List Statement)
  /-- Call a function. -/
  | call (s : Statement) (readOnly : Bool)

/-- The outcome of an operation. -/
structure Outcome where
  /-- The rows that were returned, in the order of the statements. -/
  rows : List Json := []
  /-- The number of rows that were read or written. -/
  affected : Nat := 0
  /-- The number of all rows, when they were counted. -/
  total : Option Nat := none
deriving Repr, BEq

namespace Operation

/-- The operation changes nothing in the database. -/
def isReadOnly : Operation → Bool
  | read _ _ | count _ => true
  | write _ => false
  | call _ readOnly => readOnly

/-- The codes of the errors that say that a table or a column does not exist. -/
def missingRelationCodes : List String := ["42P01", "42703"]

/-- The failure says that a table or a column does not exist. -/
def isMissingRelation (f : Failure) : Bool :=
  f.serverCode?.any missingRelationCodes.contains

/-- What becomes of a failure once the transaction has been rolled back. -/
def recover (op : Operation) (f : Failure) : Except Failure Outcome :=
  match op with
  | read _ counted =>
    if isMissingRelation f then .ok { total := if counted then some 0 else none } else .error f
  | count _ => if isMissingRelation f then .ok { total := some 0 } else .error f
  | write _ | call _ _ => .error f

end Operation

/-! ## Running statements -/

variable {σ : Type}

/-- Run a statement and take its rows. -/
def fetchRows (db : Backend σ) (s : Statement) : Session σ (List Json) :=
  match s.jsonRows with
  | none => do
    let _ ← Session.send db (.execute s)
    return []
  | some wrapped => do
    match ← Session.send db (.rows wrapped) with
    | .arr rows => return rows
    | other => throw (.shape (.notArray other))

/-- Run a statement that counts. -/
def fetchCount (db : Backend σ) (s : Statement) : Session σ Nat := do
  let n ← Session.send db (.count s)
  if n < 0 then throw (.shape (.negativeCount n))
  return n.toNat

/-- What names the columns of related tables: the declared relationships, and the columns of the table
itself when it has related tables to show. -/
def resolver (db : Backend σ) (c : Config) (q : Query) : Session σ EmbedResolver := do
  -- Only embeds need the columns.
  if q.embeds.isEmpty then return ⟨c.relationships, none⟩
  let columns ← Session.send db (.columns q.table)
  return ⟨c.relationships, some columns⟩

/-- Run a statement of a write; its rows, and the number of rows that it wrote. -/
def runWrite (db : Backend σ) (s : Statement) : Session σ (List Json × Nat) := do
  if s.producesRows then
    let rows ← fetchRows db s
    return (rows, rows.length)
  else return ([], ← Session.send db (.execute s))

/-- Run the statements of a write in order. -/
def runWrites (db : Backend σ) : List Statement → Session σ Outcome
  | [] => return {}
  | s :: rest => do
    let (rows, affected) ← runWrite db s
    let outcome ← runWrites db rest
    return { outcome with rows := rows ++ outcome.rows, affected := affected + outcome.affected }

/-- Run the statements of an operation. -/
def execute (db : Backend σ) (c : Config) : Operation → Session σ Outcome
  | .read q counted => do
    let q := q.withMaxRows c.maxRows
    let rows ← fetchRows db (q.selectStatement (← resolver db c q))
    let total ← if counted then some <$> fetchCount db q.countStatement else pure none
    return { rows, affected := rows.length, total }
  | .count q => return { total := some (← fetchCount db q.countStatement) }
  | .write statements => runWrites db statements
  | .call s _ => do
    let rows ← fetchRows db s
    return { rows, affected := rows.length }

/-- Take a connection. A pool that holds none never hands one out. -/
def takeConnection (db : Backend σ) (c : Config) : Session σ Unit :=
  if c.poolSize = 0 then throw .poolTimeout else Session.acquire db

/-- **Run an operation** for a caller. -/
def run (db : Backend σ) (c : Config) (i : Identity) (op : Operation) : Session σ Outcome := do
  takeConnection db c
  Session.send db (.start op.isReadOnly)
  let result ← Session.attempt do
    Session.send db (.project (identitySettings c i))
    execute db c op
  match result with
  | .ok outcome => do
    -- Nothing follows a commit that fails.
    Session.send db .commit
    return outcome
  | .error failure => do
    -- The failure that led here is reported, not one of the rollback.
    let _ ← Session.attempt (Session.send db .rollback)
    match op.recover failure with
    | .ok outcome => return outcome
    | .error failure => throw failure

/-- The code of the error that says that a function does not exist. -/
def missingFunctionCode : String := "42883"

/-- **Call a function** for a caller. -/
def invoke (db : Backend σ) (c : Config) (i : Identity) (s : Statement) (readOnly : Bool) :
    Session σ Json := do
  match ← Session.attempt (run db c i (.call s readOnly)) with
  | .ok outcome => return unwrapScalar outcome.rows
  | .error failure =>
    if failure.serverCode? = some missingFunctionCode then return .null else throw failure

end Gateway.Database
