import Gateway.Channel.ColumnFilter
import Gateway.Feed.Event
import Gateway.Json.Record

/-!
# Change filters

Which changes a client wants to hear of: an operation, a schema, a table and a filter on one column,
each of which may be left open. A filter that the server accepts has a number, under which the client
hears of its changes.
-/

namespace Gateway.Channel

open Gateway.Feed (Event Operation)
open Gateway.Json (Field)
open Gateway.Text

/-- A change filter as a client asks for it. -/
structure ChangeRequest where
  event : String := "*"
  schema : Option String := none
  table : Option String := none
  filter : Option String := none
deriving DecidableEq, Repr

namespace ChangeRequest

/-- The record of a change filter as JSON gives it. -/
def fields : List Field :=
  [.string ["event", "operation"], .optionalString ["schema"], .optionalString ["table"],
    .optionalString ["filter"]]

/-- The request that the fields of a record give. -/
def ofSlots? : Json.Record.Slots → Option ChangeRequest
  | [event, schema, table, filter] =>
    let text (slot : Option Json) : Option String := slot.bind Json.str?
    some ⟨(text event).getD "*", text schema, text table, text filter⟩
  | _ => none

/-- Read a request from a text. -/
def read? (s : String) : Option ChangeRequest :=
  (Json.Record.ofText fields s).bind ofSlots?

/-- Read a request from a value. -/
def ofValue? (value : Json) : Option ChangeRequest :=
  (Json.Record.ofValue fields value).bind ofSlots?

end ChangeRequest

/-- A change filter that the server has accepted. What is left open admits everything. -/
structure ChangeFilter where
  id : Nat
  operation : Option Operation
  schema : Option String
  table : Option String
  column : Option ColumnFilter
deriving DecidableEq, Repr

namespace ChangeFilter

/-- A trimmed text that is neither empty nor a star. -/
def named? (value : Option String) : Option String :=
  (value.map fun v => String.ofList (trim v.toList)).filter fun v => !v.isEmpty && v != "*"

/-- The operation that a request names. -/
def readOperation (event : String) : Except Refusal (Option Operation) :=
  match named? (some event) with
  | none => .ok none
  | some name =>
    match Operation.read? name with
    | some op => .ok (some op)
    | none => .error (.invalidFilter name)

/-- The column filter of a request; a blank one is none. -/
def readColumn (filter : Option String) : Except Refusal (Option ColumnFilter) :=
  match (filter.map fun f => String.ofList (trim f.toList)).filter (!·.isEmpty) with
  | none => .ok none
  | some raw => (ColumnFilter.read raw).map some

/-- **Accept a request under a number.** -/
def ofRequest (id : Nat) (r : ChangeRequest) : Except Refusal ChangeFilter := do
  let operation ← readOperation r.event
  let column ← readColumn r.filter
  return ⟨id, operation, named? r.schema, named? r.table, column⟩

/-- **The filter admits a change**; a column filter looks at the row as it is now. -/
def admits (f : ChangeFilter) (e : Event) : Bool :=
  f.operation.all (· == e.operation) && f.schema.all (· == e.schema) && f.table.all (· == e.table)
    && f.column.all (·.selects e.record)

/-- The accepted filter as the client is told of it. -/
def describe (f : ChangeFilter) : Json :=
  Json.object [("id", .int f.id), ("event", .str (f.operation.elim "*" Operation.name)),
    ("schema", .str (f.schema.getD "*")), ("table", .str (f.table.getD "*")),
    ("filter", Json.ofOption (f.column.map (·.raw)))]

end ChangeFilter

end Gateway.Channel
