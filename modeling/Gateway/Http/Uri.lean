import Gateway.Text.Cut
import Gateway.Text.Utf8

/-!
# Request targets

The path and the query of a request target. Most targets are a path with an optional query; a target
may also be a whole URI with scheme and authority, or an authority alone. A fragment is cut off. The
characters that each part may hold are those of the URI syntax, and a few more that clients are known
to send as they are.
-/

namespace Gateway.Http

open Gateway.Text

/-- A request target. -/
structure Uri where
  path : List Char
  /-- The query behind the question mark, where there is one. -/
  query : Option (List Char)
deriving DecidableEq, Repr

namespace Uri

/-- A character that may stand in a path. -/
def isPathChar (c : Char) : Bool :=
  let n := c.toNat
  n == 0x21 || (0x24 ≤ n && n ≤ 0x3B) || n == 0x3D || (0x40 ≤ n && n ≤ 0x5F)
    || (0x61 ≤ n && n ≤ 0x7E) || 0x80 ≤ n || c == '"'

/-- A character that may stand in a query. -/
def isQueryChar (c : Char) : Bool :=
  let n := c.toNat
  n == 0x21 || (0x24 ≤ n && n ≤ 0x3B) || n == 0x3D || (0x3F ≤ n && n ≤ 0x7E) || 0x80 ≤ n

/-- A character that may stand in an authority, besides the percent sign. -/
def isAuthorityChar (c : Char) : Bool :=
  c.isAlphanum || "!$&'()*+,-.:;=@[]_~".toList.contains c

/-- A character that may stand in a scheme. -/
def isSchemeChar (c : Char) : Bool :=
  c.isAlphanum || c == '+' || c == '-' || c == '.' || c == '~'

/-- The longest target, in bytes. -/
def maxLength : Nat := 65534

/-- Read a path and its query. -/
def readPath? (s : List Char) : Option Uri :=
  let s := (cut '#' s).elim s (·.1)
  let (path, query) := (cut '?' s).elim (s, none) fun (p, q) => (p, some q)
  if path.all isPathChar && (query.getD []).all isQueryChar then
    some ⟨if path.isEmpty then ['/'] else path, query⟩
  else none

/-- What the scan of an authority has seen since the last `@` or bracket. -/
structure AuthorityScan where
  colons : Nat := 0
  opened : Bool := false
  closed : Bool := false
  percent : Bool := false
  /-- The last character was an `@`. -/
  atSign : Bool := false
deriving DecidableEq, Repr

/-- Read one character of an authority. -/
def AuthorityScan.step (a : AuthorityScan) (c : Char) : Option AuthorityScan :=
  let a := { a with atSign := c == '@' }
  if c = ':' then if 8 ≤ a.colons then none else some { a with colons := a.colons + 1 }
  else if c = '[' then if a.percent || a.opened then none else some { a with opened := true }
  else if c = ']' then
    if !a.opened || a.closed then none
    else some { a with closed := true, colons := 0, percent := false }
  else if c = '@' then some { a with colons := 0, percent := false }
  else if c = '%' then some { a with percent := true }
  else if isAuthorityChar c then some a
  else none

/-- The text is an authority; an empty one is. -/
def isAuthority (s : List Char) : Bool :=
  match s.foldlM AuthorityScan.step {} with
  | none => false
  -- One colon may stand before a port, and a percent sign only before an `@`.
  | some a => a.opened == a.closed && a.colons ≤ 1 && !a.atSign && !a.percent

/-- The text behind a scheme, when there is one. -/
def afterScheme? (s : List Char) : Option (List Char) := do
  let (scheme, rest) ← cut ':' s
  let rest ← dropFront? ['/', '/'] rest
  if scheme.all isSchemeChar && scheme.length ≤ 64 then some rest else none

/-- Read a target that does not start with a slash. -/
def readFull? (s : List Char) : Option Uri :=
  let isEnd (c : Char) : Bool := c == '/' || c == '?' || c == '#'
  match afterScheme? s with
  | some rest =>
    let authority := rest.takeWhile (!isEnd ·)
    -- A scheme has to be followed by an authority.
    if !authority.isEmpty && isAuthority authority then readPath? (rest.dropWhile (!isEnd ·))
    else none
  | none => if !s.any isEnd && isAuthority s then some ⟨[], none⟩ else none

/-- **Read a request target.** -/
def read? (target : String) : Option Uri :=
  let s := target.toList
  if s.isEmpty || maxLength < target.utf8ByteSize then none
  else if s = ['*'] then some ⟨['*'], none⟩
  else if s.head? = some '/' then readPath? s
  else readFull? s

end Uri

end Gateway.Http
