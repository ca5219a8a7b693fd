import Gateway.Text.Blank
import Gateway.Text.InternetAddress
import Gateway.Text.Percent

/-!
# The address of a database

Where a database is found: a URI that starts with `postgres://` or `postgresql://`, or a list of options
`key=value`. What it must say depends on who uses it: a pool needs the name of a database, a single
connection needs a host.
-/

namespace Gateway.Database

open Gateway.Text

/-- What an address says, as far as it matters before a connection is opened. -/
structure Address where
  /-- The number of hosts, given by name or by number. -/
  hosts : Nat := 0
  /-- The number of numeric host addresses that were given on top. -/
  hostAddresses : Nat := 0
  ports : Nat := 0
  /-- The name of the database. -/
  database : Option String := none
deriving DecidableEq, Repr

namespace Address

/-! ## Options -/

/-- A whole number between two limits, with an optional sign. -/
def isWhole (least most : Nat) (s : List Char) : Bool :=
  match s with
  | '-' :: rest => !rest.isEmpty && rest.head? != some '+' && (readNumeral least rest).isOk
  | _ => (readNumeral most s).isOk

/-- A signed 64-bit number. -/
def isSigned64 : List Char → Bool := isWhole 0x8000000000000000 0x7FFFFFFFFFFFFFFF

/-- The numbers of a list of ports; an empty one is the default. -/
def countPorts? (value : List Char) : Option Nat :=
  let ports := fields ',' value
  if ports.all fun p => p.isEmpty || (readPort? p).isSome then some ports.length else none

/-- An option that has to take one of a few values. -/
def choices? : String → Option (List String)
  | "sslmode" => some ["disable", "prefer", "require"]
  | "sslnegotiation" => some ["postgres", "direct"]
  | "target_session_attrs" => some ["any", "read-write", "read-only"]
  | "channel_binding" => some ["disable", "prefer", "require"]
  | "load_balance_hosts" => some ["disable", "random"]
  | _ => none

/-- Take up one option. -/
def option? (a : Address) (key : String) (value : List Char) : Option Address :=
  match key with
  | "user" | "password" | "options" | "application_name" => some a
  | "dbname" => some { a with database := some (String.ofList value) }
  | "host" => some { a with hosts := a.hosts + (fields ',' value).length }
  | "hostaddr" =>
    let addresses := fields ',' value
    if addresses.all isInternetAddress then
      some { a with hostAddresses := a.hostAddresses + addresses.length }
    else none
  | "port" => (countPorts? value).map fun n => { a with ports := a.ports + n }
  | "connect_timeout" | "tcp_user_timeout" | "keepalives_idle" | "keepalives_interval" =>
    if isSigned64 value then some a else none
  | "keepalives" => if (readNumeral maxUnsigned64 value).isOk then some a else none
  | "keepalives_retries" => if (readNumeral 0xFFFFFFFF value).isOk then some a else none
  | key =>
    match choices? key with
    | some choices => if choices.contains (String.ofList value) then some a else none
    | none => none

/-! ## A list of options -/

/-- A value up to the next blank; a backslash takes the next character as it is. -/
def simpleValue : List Char → List Char × List Char
  | [] => ([], [])
  | ['\\'] => ([], [])
  | '\\' :: c :: rest =>
    let (value, rest) := simpleValue rest
    (c :: value, rest)
  | c :: rest =>
    if isBlank c then ([], c :: rest)
    else
      let (value, rest) := simpleValue rest
      (c :: value, rest)

/-- A value up to the closing quote; a backslash takes the next character as it is. -/
def quotedValue : List Char → Option (List Char × List Char)
  | [] => none
  | '\x27' :: rest => some ([], rest)
  | '\\' :: c :: rest => (quotedValue rest).map fun (value, rest) => (c :: value, rest)
  | c :: rest => (quotedValue rest).map fun (value, rest) => (c :: value, rest)

/-- The value behind the equals sign of an option. -/
def optionValue? : List Char → Option (List Char × List Char)
  | '\x27' :: rest => quotedValue rest
  | s =>
    let (value, rest) := simpleValue s
    if value.isEmpty then none else some (value, rest)

/-- Read options up to the end, or up to something that is no key. -/
def readOptions (a : Address) : Nat → List Char → Option Address
  | 0, _ => none
  | fuel + 1, s =>
    let isKeyChar (c : Char) : Bool := !isBlank c && c != '='
    let s := trimStart s
    let key := s.takeWhile isKeyChar
    if key.isEmpty then some a
    else
      match trimStart (s.dropWhile isKeyChar) with
      | '=' :: rest => do
        let (value, rest) ← optionValue? (trimStart rest)
        readOptions (← a.option? (String.ofList key) value) fuel rest
      | _ => none

/-! ## A URI -/

/-- The text that an escaped text stands for, when it is one. -/
def unescape? (s : List Char) : Option (List Char) :=
  Utf8.decode? (Percent.decode s)

/-- A host is a text, or a path of bytes. -/
def isHost (s : List Char) : Bool :=
  (Percent.decode s).head? == some 0x2F || (unescape? s).isSome

/-- The text up to the first character with a property, and the rest from there on. -/
def upTo (isEnd : Char → Bool) (s : List Char) : List Char × List Char :=
  (s.takeWhile (!isEnd ·), s.dropWhile (!isEnd ·))

/-- The host and the port of one host of a URI. -/
def hostAndPort? (s : List Char) : Option (List Char × List Char) :=
  match s with
  | '[' :: rest =>
    match cut ']' rest with
    | some (host, []) => some (host, "5432".toList)
    | some (host, ':' :: port) => some (host, port)
    | _ => none
  | _ => some ((cut ':' s).getD (s, "5432".toList))

/-- Take up one host of a URI. -/
def addHost? (a : Address) (s : List Char) : Option Address := do
  let (host, port) ← hostAndPort? s
  if !isHost host then none
  let port ← unescape? port
  return { a with hosts := a.hosts + 1, ports := a.ports + (← countPorts? port) }

/-- Take up the parameters of a URI. -/
def readParameters (a : Address) : Nat → List Char → Option Address
  | 0, _ => none
  | fuel + 1, s =>
    if s.isEmpty then some a
    else do
      let (key, rest) ← cut '=' s
      let key ← unescape? key
      let (value, rest) := (cut '&' rest).getD (rest, [])
      -- A host may be a path, whose bytes need not be a text.
      if key = "host".toList then
        if isHost value then readParameters { a with hosts := a.hosts + 1 } fuel rest else none
      else readParameters (← a.option? (String.ofList key) (← unescape? value)) fuel rest

/-- Read a URI behind its scheme. -/
def readUri (s : List Char) : Option Address := do
  -- A password may be any bytes; the name in front of it has to be a text.
  let (credentials, s) := (cut '@' s).getD ([], s)
  if ((unescape? ((cut ':' credentials).elim credentials (·.1))).isNone) then none
  let (hosts, s) := upTo (fun c => c == '/' || c == '?') s
  let a : Address ← if hosts.isEmpty then some {} else (fields ',' hosts).foldlM addHost? {}
  let (name, s) := if s.head? == some '/' then upTo (· == '?') s.tail else ([], s)
  let name ← unescape? name
  let a := if name.isEmpty then a else { a with database := some (String.ofList name) }
  if s.isEmpty then some a else readParameters a (s.length + 1) s.tail

/-- **Read an address.** -/
def read? (address : String) : Option Address :=
  let s := address.toList
  match dropFront? "postgres://".toList s <|> dropFront? "postgresql://".toList s with
  | some rest => readUri rest
  | none => readOptions {} (s.length + 1) s

/-! ## What an address is good for -/

/-- The address names a database, as a pool needs it. -/
def namesDatabase (a : Address) : Bool :=
  a.database.any (!·.isEmpty)

/-- The address with the usual hosts in place of none: three directories in which a database on this
machine may have left its socket. -/
def withUsualHosts (a : Address) : Address :=
  { a with hosts := if a.hosts = 0 then 3 else a.hosts }

/-- The address says where to connect: there is a host, and the numbers of hosts, numeric addresses and
ports go together. -/
def isComplete (a : Address) : Bool :=
  let targets := if a.hosts = 0 then a.hostAddresses else a.hosts
  targets != 0 && (a.hosts == 0 || a.hostAddresses == 0 || a.hosts == a.hostAddresses)
    && (a.ports ≤ 1 || a.ports == targets)

end Address

end Gateway.Database
