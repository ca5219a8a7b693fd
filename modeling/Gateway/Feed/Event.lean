import Gateway.Json.Printer
import Gateway.Json.Record
import Gateway.Text.Cut

/-!
# Change events

A change is the insertion, update or deletion of a row: the schema and the table of the row, the row as
it is now and as it was before. The database announces it as a JSON record; the operation may be
written in any case and is always shown in upper case, and a row that is `null` is no row.
-/

namespace Gateway.Feed

open Gateway.Json (Field)
open Gateway.Text (upper)

/-- What happened to a row. -/
inductive Operation where
  | insert
  | update
  | delete
deriving DecidableEq, Repr

namespace Operation

/-- The name of an operation. -/
def name : Operation → String
  | insert => "INSERT"
  | update => "UPDATE"
  | delete => "DELETE"

/-- The operation of a name, in any case. -/
def read? (raw : String) : Option Operation :=
  match String.ofList (upper raw.toList) with
  | "INSERT" => some insert
  | "UPDATE" => some update
  | "DELETE" => some delete
  | _ => none

/-- An operation is read back from its name. -/
theorem read?_name (op : Operation) : read? op.name = some op := by
  cases op <;> decide

end Operation

/-- The change of one row. -/
structure Event where
  schema : String
  table : String
  operation : Operation
  /-- The row as it is now. -/
  record : Option Json
  /-- The row as it was before. -/
  oldRecord : Option Json
deriving Repr, BEq

namespace Event

/-- The record of a change as JSON gives it. -/
def fields : List Field :=
  [.string ["schema"] .required, .string ["table"] .required,
    ⟨["type"], .required, fun v => (v.str?.bind Operation.read?).isSome⟩,
    .any ["record"], .any ["old_record"]]

/-- A row that may be missing or `null`. -/
def row? (slot : Option Json) : Option Json :=
  slot.filter (!·.isNull)

/-- The change that the fields of a record give. -/
def ofSlots? : Json.Record.Slots → Option Event
  | [some (.str schema), some (.str table), some (.str operation), record, oldRecord] =>
    (Operation.read? operation).map fun op => ⟨schema, table, op, row? record, row? oldRecord⟩
  | _ => none

/-- **Read a notification.** -/
def read? (payload : String) : Option Event :=
  (Json.Record.ofText fields payload).bind ofSlots?

/-- The change that a value gives. -/
def ofValue? (value : Json) : Option Event :=
  (Json.Record.ofValue fields value).bind ofSlots?

/-- The members of the record of a change, in the order of its fields. -/
def members (e : Event) : List (String × Json) :=
  [("schema", .str e.schema), ("table", .str e.table), ("type", .str e.operation.name),
    ("record", e.record.getD .null), ("old_record", e.oldRecord.getD .null)]

/-- The change as a value. -/
def value (e : Event) : Json :=
  Json.object e.members

/-- The change as a text, its fields in order. -/
def text (e : Event) : String :=
  (Json.obj e.members).text

end Event

end Gateway.Feed
