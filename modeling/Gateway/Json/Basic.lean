import Gateway.Binary64.Basic

/-!
# JSON values

A number is a whole number between `-2 ^ 63` and `2 ^ 64 - 1`, kept exactly, or a finite binary one.
The members of an object stand in the order of their keys, one for each key; `Json.object` brings
members into that form, the last one of a key counting.
-/

namespace Gateway

/-- A JSON value. -/
inductive Json where
  | null
  | bool (b : Bool)
  | int (n : Int)
  | float (x : Binary64)
  | str (s : String)
  | arr (items : List Json)
  | obj (members : List (String × Json))
deriving Repr, BEq, Inhabited

namespace Json

/-! ## Members -/

/-- Put a member in its place among members in the order of their keys; one of the same key goes. -/
def insertMember (key : String) (value : Json) : List (String × Json) → List (String × Json)
  | [] => [(key, value)]
  | (k, v) :: rest =>
    if key < k then (key, value) :: (k, v) :: rest
    else if key = k then (key, value) :: rest
    else (k, v) :: insertMember key value rest

/-- Members in the order of their keys, the last one of a key counting. -/
def sortMembers (members : List (String × Json)) : List (String × Json) :=
  members.foldl (fun sorted (k, v) => insertMember k v sorted) []

/-- An object of these members. -/
def object (members : List (String × Json)) : Json :=
  .obj (sortMembers members)

/-- The member of a key, when the value is an object that has it. -/
def member? (key : String) : Json → Option Json
  | .obj members => members.lookup key
  | _ => none

/-- The text of a string value. -/
def str? : Json → Option String
  | .str s => some s
  | _ => none

theorem str?_eq_some_iff {value : Json} {s : String} : value.str? = some s ↔ value = .str s := by
  cases value <;> simp [str?]

/-- A text or nothing, as a value. -/
def ofOption (s : Option String) : Json :=
  s.elim .null .str

/-- The value is `null`. -/
def isNull : Json → Bool
  | .null => true
  | _ => false

mutual

/-- The value with the members of every object inside it brought into order. -/
def normalize : Json → Json
  | .arr items => .arr (normalizeItems items)
  | .obj members => .obj (sortMembers (normalizeMembers members))
  | value => value

def normalizeItems : List Json → List Json
  | [] => []
  | value :: rest => value.normalize :: normalizeItems rest

def normalizeMembers : List (String × Json) → List (String × Json)
  | [] => []
  | (k, v) :: rest => (k, v.normalize) :: normalizeMembers rest

end

end Json

end Gateway
