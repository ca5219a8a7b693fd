import Gateway.Sql.Binding
import Gateway.Sql.Filter.Reader
import Gateway.Sql.Statement

/-!
# Inserts

A body, an object or an array of objects, becomes one insert for each row, in order. The keys of a row
name its columns; a list of columns may restrict which of them are written, but every key must be a
name. A row without columns inserts the table's default values.

With a conflict mode a row that collides with the conflict target is left alone or merged: merging
sets every inserted column outside the target.
-/

namespace Gateway.Sql

open Template (paren listed names)

/-- What becomes of a row that collides with the conflict target. -/
inductive Resolution where
  | mergeDuplicates
  | ignoreDuplicates
deriving DecidableEq, Repr

/-- How collisions are resolved. -/
structure Upsert where
  resolution : Resolution
  /-- The conflict target; `id` when it is empty. -/
  onConflict : List Identifier
deriving DecidableEq, Repr

namespace Upsert

/-- The columns whose collision is resolved. -/
def target (u : Upsert) : List Identifier :=
  match u.onConflict with
  | [] => [.id]
  | columns => columns

/-- The inserted columns that a merge sets. -/
def merged (u : Upsert) (columns : List Identifier) : List Identifier :=
  columns.filter fun c => !u.target.contains c

/-- The `ON CONFLICT` clause for the inserted columns, with the blank before it. -/
def template (u : Upsert) (columns : List Identifier) : Template :=
  let head : Template :=
    [.space, .word .on, .space, .word .conflict, .space] ++ paren (names u.target)
      ++ [.space, .word .doWord, .space]
  let updates := u.merged columns
  if u.resolution = .ignoreDuplicates ∨ updates = [] then head ++ [.word .nothing]
  else
    head ++ [.word .update, .space, .word .set, .space]
      ++ listed (updates.map fun c =>
        [.name c, .space, .symbol .equal, .space, .word .excluded, .symbol .dot, .name c])

end Upsert

/-- One value of a row under its column. -/
structure Assignment where
  column : Identifier
  binding : Binding
deriving DecidableEq, Repr

/-- What a row writes: its members whose column is allowed. -/
def rowAssignments (allowed : Option (List Identifier)) (row : List (String × Json)) :
    Except Rejection (List Assignment) := do
  let all ← row.mapM fun (key, value) => do
    return (⟨← Identifier.read key.toList, .ofColumnValue value⟩ : Assignment)
  -- A key that is not written must be a name all the same.
  return all.filter fun a => allowed.all fun columns => columns.contains a.column

/-- The rows of a body. -/
def bodyRows : Json → Except Rejection (List (List (String × Json)))
  | .obj row => .ok [row]
  | .arr [] => .error .emptyPayload
  | .arr items =>
    items.mapM fun
      | .obj row => .ok row
      | _ => .error (.invalidPayload .itemNotObject)
  | _ => .error (.invalidPayload .notRows)

/-- The insert of one row. -/
def insertRow (table : Identifier) (returning : Bool) (upsert : Option Upsert)
    (row : List Assignment) : Statement :=
  let columns := row.map (·.column)
  let head : Template := [.word .insert, .space, .word .into, .space, .name table, .space]
  let values : Template :=
    if row.isEmpty then [.word .default, .space, .word .values]
    else
      paren (names columns) ++ [.space, .word .values, .space]
        ++ paren (listed (row.map fun a => a.binding.template))
  let conflict : Template := (upsert.map fun u => u.template columns).getD []
  .writing .insert (head ++ values ++ conflict) returning

/-- **The inserts of a body.** -/
def insert (table : Identifier) (body : Json) (returning : Bool) (upsert : Option Upsert)
    (allowed : Option (List Identifier)) : Except Rejection (List Statement) := do
  let rows ← bodyRows body
  rows.mapM fun row => (rowAssignments allowed row).map (insertRow table returning upsert)

end Gateway.Sql
