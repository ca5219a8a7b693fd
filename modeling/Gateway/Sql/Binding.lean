import Gateway.Json.Printer
import Gateway.Sql.Template
import Gateway.Text.Uuid

/-!
# Binding JSON values

How a JSON value is bound in a statement. A value for a column is bound without a type, so that it is
read as the column's own type; only arrays and objects are cast to `jsonb`. An argument of a function
has no column to take its type from, so its type is guessed from the value.
-/

namespace Gateway.Sql

/-- A value to bind and the type its placeholder is cast to, if any. -/
structure Binding where
  value : Param
  cast : Option Word := none
deriving DecidableEq, Repr

namespace Binding

/-- The placeholder with its cast. -/
def template (b : Binding) : Template :=
  .bound b.value :: (b.cast.map fun type => [.symbol .cast, .word type]).getD []

/-- A value for a column. -/
def ofColumnValue : Json → Binding
  | .null => ⟨none, none⟩
  | .str s => ⟨some s, none⟩
  | .arr items => ⟨some (Json.arr items).text, some .jsonb⟩
  | .obj members => ⟨some (Json.obj members).text, some .jsonb⟩
  | scalar => ⟨some scalar.text, none⟩

/-- The type of a whole number as an argument: `integer` when it has 32 bits. -/
def integerType (n : Int) : Word :=
  if -0x80000000 ≤ n ∧ n < 0x80000000 then .integer else .bigint

/-- A value for an argument of a function. -/
def ofArgument : Json → Binding
  | .str s => ⟨some s, if Text.isUuid s.toList then some .uuid else none⟩
  | .int n => ⟨some (Json.int n).text, some (integerType n)⟩
  | .bool b => ⟨some (Json.bool b).text, some .boolean⟩
  | value => ofColumnValue value

end Binding

end Gateway.Sql
