import Gateway.Json.Reader

/-!
# Reading records from JSON

A record has named fields in a fixed order. As JSON it is an object, whose other members are not
looked at, or an array that gives the fields in order, of which the last ones may be missing. A field
is given at most once, under any of its names, and says itself where it must be given and which values
it takes. It sees a value as it is written, so that it can tell an object that repeats a key.

`Record.ofText` reads a record from a text: members that belong to no field only have to be JSON.
`Record.ofValue` reads it from a value. Both yield one entry for each field, the value that was given
or nothing, and fail when the shape is wrong.
-/

namespace Gateway.Json

/-- Where a field must be given. -/
inductive Presence where
  /-- In every record. -/
  | required
  /-- In a record that is written as an array. -/
  | listed
  /-- Nowhere. -/
  | optional
deriving DecidableEq, Repr

/-- One field of a record. -/
structure Field where
  /-- The names under which an object may give the field. -/
  names : List String
  /-- Where the field must be given. -/
  presence : Presence
  /-- The values that the field takes. -/
  admits : Json → Bool

namespace Field

/-- A field for any value. -/
def any (names : List String) (presence : Presence := .optional) : Field :=
  ⟨names, presence, fun _ => true⟩

/-- A field for a string. -/
def string (names : List String) (presence : Presence := .optional) : Field :=
  ⟨names, presence, fun
    | .str _ => true
    | _ => false⟩

/-- A field for a string or `null`. -/
def optionalString (names : List String) (presence : Presence := .optional) : Field :=
  ⟨names, presence, fun
    | .str _ | .null => true
    | _ => false⟩

end Field

/-- The choice that a value names: a string, or an object with the name as its only key and a value
that says no more, which `isNothing` tells. -/
def choice? (choices : List String) (isNothing : Json → Bool) : Json → Option String
  | .str name => if choices.contains name then some name else none
  | .obj [(name, value)] => if choices.contains name && isNothing value then some name else none
  | _ => none

namespace Record

/-- What has been given for each field so far. -/
abbrev Slots := List (Option Json)

/-- No field has been given. -/
def blank (fields : List Field) : Slots :=
  fields.map fun _ => none

/-- The field of a name and its place. -/
def fieldAt? (fields : List Field) (name : String) : Option (Nat × Field) :=
  (fields.zipIdx.find? fun (f, _) => f.names.contains name).map fun (f, i) => (i, f)

/-- Fill the empty slot of a field. -/
def put (slots : Slots) (i : Nat) (value : Json) : Option Slots :=
  if (slots[i]?.join).isNone then some (slots.set i (some value)) else none

/-- The slots are a record when every required field has been given. -/
def complete (fields : List Field) (slots : Slots) : Option Slots :=
  if (fields.zip slots).all fun (f, slot) => f.presence != .required || slot.isSome then some slots
  else none

/-! ## From a value -/

/-- Take up one member. -/
def putMember (fields : List Field) (slots : Slots) (member : String × Json) : Option Slots :=
  match fieldAt? fields member.1 with
  | none => some slots
  | some (i, f) => if f.admits member.2 then put slots i member.2 else none

/-- Read the fields of an array in order. -/
def ofItems : List Field → List Json → Option Slots
  | [], [] => some []
  | [], _ :: _ => none
  | f :: fs, [] => if f.presence = .optional then (ofItems fs []).map (none :: ·) else none
  | f :: fs, value :: rest => if f.admits value then (ofItems fs rest).map (some value :: ·) else none

/-- **Read a record from a value.** -/
def ofValue (fields : List Field) : Json → Option Slots
  | .obj members => (members.foldlM (putMember fields) (blank fields)).bind (complete fields)
  | .arr items => ofItems fields items
  | _ => none

/-! ## From a text -/

/-- Read the value behind a key, from the colon on. -/
def readMember (fields : List Field) (slots : Slots) (key : List Char) (s : List Char) :
    Option (Slots × List Char) :=
  match skipBlank s with
  | ':' :: rest =>
    match fieldAt? fields (String.ofList key) with
    -- Nobody looks at a member that belongs to no field.
    | none => (skipFront rest).map fun rest => (slots, rest)
    -- The record itself takes up one level of nesting.
    | some (i, f) => do
      let (value, rest) ← readFront (maxDepth - 1) rest
      if f.admits value then
        let slots ← put slots i value.normalize
        return (slots, rest)
      else none
  | _ => none

/-- Read the members of an object up to its end; there is at least one. -/
def readMembers (fields : List Field) (slots : Slots) : Nat → List Char → Option (Slots × List Char)
  | 0, _ => none
  | fuel + 1, s =>
    match skipBlank s with
    | '"' :: rest => do
      let (key, rest) ← readChars .strict rest
      let (slots, rest) ← readMember fields slots key rest
      match skipBlank rest with
      | '\x7d' :: rest => some (slots, rest)
      | ',' :: rest => readMembers fields slots fuel rest
      | _ => none
    | _ => none

/-- Read the fields of an array in order, up to its end; `first` says that none was read before. -/
def readItems (first : Bool) : List Field → List Char → Option (Slots × List Char)
  | [], s =>
    match skipBlank s with
    | ']' :: rest => some ([], rest)
    | _ => none
  | f :: fs, s =>
    match skipBlank s with
    -- The bracket stays where it is for the fields that are left.
    | ']' :: rest =>
      if f.presence = .optional then
        (readItems first fs (']' :: rest)).map fun (slots, rest) => (none :: slots, rest)
      else none
    | ',' :: rest => if first then none else item f fs rest
    | s => if first then item f fs s else none
where
  item (f : Field) (fs : List Field) (s : List Char) : Option (Slots × List Char) := do
    let (value, rest) ← readFront (maxDepth - 1) s
    if f.admits value then
      let (slots, rest) ← readItems false fs rest
      return (some value.normalize :: slots, rest)
    else none

/-- Read a record at the front of a text. -/
def readRecord (fields : List Field) (s : List Char) : Option (Slots × List Char) :=
  match skipBlank s with
  | '\x7b' :: rest =>
    match skipBlank rest with
    | '\x7d' :: rest => (complete fields (blank fields)).map fun slots => (slots, rest)
    | rest => do
      let (slots, rest) ← readMembers fields (blank fields) (rest.length + 1) rest
      return (← complete fields slots, rest)
  | '[' :: rest => readItems true fields rest
  | _ => none

/-- **Read a whole text as a record.** -/
def ofText (fields : List Field) (text : String) : Option Slots := do
  let (slots, rest) ← readRecord fields text.toList
  if (skipBlank rest).isEmpty then some slots else none

end Record

end Gateway.Json
