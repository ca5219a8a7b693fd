import Gateway.Diagnostic
import Gateway.Sql.Relationship
import Gateway.Text.Cut
import Gateway.Text.Numeral

/-!
# Configuration

The settings of a gateway, read from named variables. A variable that is unset or blank leaves its
setting at the default; one that cannot be read is an error, and the first of them, in a fixed order,
is reported.
-/

namespace Gateway

open Gateway.Text

/-- The settings of a gateway. Times are in milliseconds. -/
structure Config where
  httpBind : String := "0.0.0.0:8090"
  wsBind : String := "0.0.0.0:8091"
  /-- The path under which tables and functions are served; empty, or with a leading slash. -/
  restPrefix : String := "/rest/v1"
  databaseUrl : String := "postgres://postgres@localhost/postgres"
  poolSize : Nat := 16
  /-- How long a request waits for a connection. -/
  acquireTimeout : Nat := 5000
  statementTimeout : Option Nat := none
  jwtSecret : Option String := none
  serviceKey : Option String := none
  /-- For how many seconds past its expiry a token is accepted. -/
  leeway : Nat := 0
  /-- The database session takes on the caller's role. -/
  assumeRole : Bool := false
  /-- A cap on the rows of a read. -/
  maxRows : Option Nat := none
  relationships : Sql.Relationships := []
  /-- The channel on which the database announces changes. -/
  changeChannel : String := "relay_changes"
  reconnectDelay : Nat := 5000
  heartbeat : Nat := 30000
  maxConnections : Nat := 10000
  /-- How many frames wait for a client that does not read. -/
  pushCapacity : Nat := 256
  logFilter : String := "info"
  logJson : Bool := false
deriving Repr

/-- Why a variable cannot be read. -/
inductive SettingFlaw where
  | numeral (e : NumeralError)
  | truth
  | relationships (r : Sql.Rejection)
deriving DecidableEq, Repr

/-- The wording of a flaw. -/
def SettingFlaw.reason : SettingFlaw → String
  | numeral e => e.message
  | truth => "provided string was not `true` or `false`"
  | relationships r => r.message

/-- A variable that cannot be read. -/
structure ConfigError where
  variableName : String
  flaw : SettingFlaw
deriving DecidableEq, Repr

/-- An unreadable variable as it is reported. -/
def ConfigError.diagnostic (e : ConfigError) : Diagnostic where
  code := "SUB_003"
  kind := .internal
  message := "invalid configuration " ++ e.variableName ++ ": " ++ e.flaw.reason

namespace Config

/-- A path without the slashes around it, and a single one in front; blank is empty. -/
def normalizePrefix (path : String) : String :=
  let inner := strip '/' (trim path.toList)
  if inner.isEmpty then "" else String.ofList ('/' :: inner)

/-- Where variables are looked up. -/
abbrev Variables := String → Option String

/-- The trimmed value of a variable that is not blank. -/
def value? (vars : Variables) (key : String) : Option String :=
  (vars key).bind fun raw =>
    let value := trim raw.toList
    if value.isEmpty then none else some (String.ofList value)

/-- A number, where the variable is set. -/
def natural? (vars : Variables) (key : String) : Except ConfigError (Option Nat) :=
  match value? vars key with
  | none => .ok none
  | some raw =>
    match readNumeral maxUnsigned64 raw.toList with
    | .ok n => .ok (some n)
    | .error e => .error ⟨key, .numeral e⟩

/-- A truth value, where the variable is set. -/
def truth? (vars : Variables) (key : String) : Except ConfigError (Option Bool) :=
  match value? vars key with
  | none => .ok none
  | some "true" => .ok (some true)
  | some "false" => .ok (some false)
  | some _ => .error ⟨key, .truth⟩

/-- Declared relationships, where the variable is set. -/
def relationships? (vars : Variables) (key : String) :
    Except ConfigError (Option Sql.Relationships) :=
  match value? vars key with
  | none => .ok none
  | some raw =>
    match Sql.Relationships.read raw with
    | .ok declared => .ok (some declared)
    | .error r => .error ⟨key, .relationships r⟩

/-- **Read the settings.** -/
def read (vars : Variables) : Except ConfigError Config := do
  let default : Config := {}
  let text (key fallback : String) : String := (value? vars key).getD fallback
  -- The order of these lines decides which of several unreadable variables is reported.
  let poolSize ← natural? vars "RELAY_DB_POOL_SIZE"
  let acquireTimeout ← natural? vars "RELAY_DB_ACQUIRE_TIMEOUT_MS"
  let statementTimeout ← natural? vars "RELAY_DB_STATEMENT_TIMEOUT_MS"
  let assumeRole ← truth? vars "RELAY_ASSUME_ROLE"
  let maxRows ← natural? vars "RELAY_MAX_ROWS"
  let relationships ← relationships? vars "RELAY_RELATIONSHIPS"
  let reconnectDelay ← natural? vars "RELAY_CDC_RECONNECT_MS"
  let heartbeat ← natural? vars "RELAY_WS_HEARTBEAT_MS"
  let maxConnections ← natural? vars "RELAY_WS_MAX_CONNECTIONS"
  let logJson ← truth? vars "RELAY_LOG_JSON"
  return { default with
    httpBind := text "RELAY_HTTP_BIND" default.httpBind
    wsBind := text "RELAY_WS_BIND" default.wsBind
    restPrefix := ((value? vars "RELAY_REST_PREFIX").map normalizePrefix).getD default.restPrefix
    databaseUrl := text "RELAY_DATABASE_URL" default.databaseUrl
    poolSize := poolSize.getD default.poolSize
    acquireTimeout := acquireTimeout.getD default.acquireTimeout
    statementTimeout
    jwtSecret := value? vars "RELAY_JWT_SECRET"
    serviceKey := value? vars "RELAY_SERVICE_KEY"
    assumeRole := assumeRole.getD default.assumeRole
    maxRows
    relationships := relationships.getD default.relationships
    changeChannel := text "RELAY_CDC_CHANNEL" default.changeChannel
    reconnectDelay := reconnectDelay.getD default.reconnectDelay
    heartbeat := heartbeat.getD default.heartbeat
    maxConnections := maxConnections.getD default.maxConnections
    logFilter := text "RELAY_LOG" default.logFilter
    logJson := logJson.getD default.logJson }

end Config

end Gateway
