import Gateway.Binary64.Reader
import Gateway.Channel.Refusal
import Gateway.Json.Printer
import Gateway.Text.Blank

/-!
# Column filters

A column filter `column=op.value` selects the rows in which a column compares to a value in a certain
way. A number compares as a number when the value spells one, everything else by its text, character by
character; a column that is missing or `null` does not compare, and then no operator holds.
-/

namespace Gateway.Channel

open Gateway.Text

/-- How a column has to compare. -/
inductive ColumnOperator where
  | eq | neq | lt | lte | gt | gte
  /-- Equal to one of a list of values. -/
  | oneOf
deriving DecidableEq, Repr

namespace ColumnOperator

/-- The operator of a token. -/
def read? (token : List Char) : Option ColumnOperator :=
  match String.ofList token with
  | "eq" => some eq
  | "neq" => some neq
  | "lt" => some lt
  | "lte" => some lte
  | "gt" => some gt
  | "gte" => some gte
  | "in" => some oneOf
  | _ => none

/-- The operator holds when the column compares to a value like this. -/
def holds : ColumnOperator → Ordering → Bool
  | eq, o | oneOf, o => o == .eq
  | neq, o => o != .eq
  | lt, o => o == .lt
  | lte, o => o != .gt
  | gt, o => o == .gt
  | gte, o => o != .lt

end ColumnOperator

/-- A filter on one column. -/
structure ColumnFilter where
  /-- The filter as the client wrote it. -/
  raw : String
  column : String
  operator : ColumnOperator
  operands : List String
deriving DecidableEq, Repr

namespace ColumnFilter

/-- The operands that a value gives: the items of a bracketed list, without blanks and double quotes
around them, or the value itself. -/
def operands? (operator : ColumnOperator) (value : List Char) : Option (List (List Char)) :=
  if operator = .oneOf then
    (between? '(' ')' value).map fun list => (fields ',' list).map fun item => strip '"' (trim item)
  else some [value]

/-- **Read a filter.** -/
def read (raw : String) : Except Refusal ColumnFilter :=
  let parts : Option ColumnFilter := do
    let (column, rest) ← cut '=' raw.toList
    let (token, value) ← cut '.' rest
    let column := trim column
    if column.isEmpty then none
    let operator ← ColumnOperator.read? token
    let operands ← operands? operator value
    return ⟨raw, String.ofList column, operator, operands.map String.ofList⟩
  match parts with
  | some filter => .ok filter
  | none => .error (.invalidFilter raw)

/-- How a text compares to another, character by character. -/
def compareText (x y : String) : Ordering :=
  compare x y

/-- How a value compares to an operand, where it does. -/
def compareValue (value : Json) (operand : String) : Option Ordering :=
  let numeric (x : Binary64) : Option Ordering :=
    match Binary64.read? operand.toList with
    | some y => x.order? y
    -- The operand spells no number.
    | none => some (compareText value.text operand)
  match value with
  | .null => none
  | .int n => numeric (Binary64.ofInt n)
  | .float x => numeric x
  | .str s => some (compareText s operand)
  | other => some (compareText other.text operand)

/-- The operator holds of a value and one of the operands. -/
def admits (f : ColumnFilter) (value : Json) : Bool :=
  f.operands.any fun operand => (compareValue value operand).any f.operator.holds

/-- **The filter selects a row**; it never selects a row that is not there. -/
def selects (f : ColumnFilter) (row : Option Json) : Bool :=
  (row.bind (Json.member? f.column)).any f.admits

end ColumnFilter

end Gateway.Channel
