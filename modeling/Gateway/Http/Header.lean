import Gateway.Text.Cut
import Gateway.Text.Utf8

/-!
# Header fields

The header fields of a request in the order in which they came, with names in lower case. A name is a
token; a value holds no control character but the tabulator. A value with other than ASCII characters
is legal, but cannot be read as text.
-/

namespace Gateway.Http

open Gateway.Text (lower)

/-- A character that may stand in the name of a field. -/
def isTokenChar (c : Char) : Bool :=
  c.isAlphanum || "!#$%&'*+-.^_`|~".toList.contains c

/-- A character that may stand in a value that is read as text. -/
def isReadable (c : Char) : Bool :=
  c == '\t' || (0x20 ≤ c.toNat && c.toNat < 0x7F)

/-- A byte that may stand in a value. -/
def isValueByte (b : UInt8) : Bool :=
  b == 0x09 || (0x20 ≤ b && b != 0x7F)

/-- One header field. -/
structure Header where
  /-- The name in lower case. -/
  name : String
  value : String
deriving DecidableEq, Repr

/-- The header fields of a request. -/
abbrev Headers := List Header

/-- A legal header field. -/
def Header.read? (name value : String) : Option Header :=
  if !name.isEmpty && name.toList.all isTokenChar
      && (Text.Utf8.encode value.toList).all isValueByte then
    some ⟨String.ofList (lower name.toList), value⟩
  else none

namespace Headers

/-- The values of a field that can be read as text, in order. -/
def texts (hs : Headers) (name : String) : List String :=
  ((hs.filter (·.name == name)).map (·.value)).filter fun v => v.toList.all isReadable

/-- The first value of a field, when it can be read as text. -/
def text? (hs : Headers) (name : String) : Option String :=
  ((hs.find? (·.name == name)).map (·.value)).filter fun v => v.toList.all isReadable

end Headers

end Gateway.Http
