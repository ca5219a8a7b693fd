import Gateway.Sql.Insert

/-!
# Updates and deletes

An update sets the columns that the keys of its body name, in the rows that the filters select. A
delete removes the rows that the filters select, and is refused without a filter.
-/

namespace Gateway.Sql

open Template (listed)

/-- The update of the selected rows. -/
def update (table : Identifier) (body : Json) (filters : List Filter) (returning : Bool) :
    Except Rejection Statement :=
  match body with
  | .obj [] => .error .emptyPayload
  | .obj row => do
    let assignments ← rowAssignments none row
    let set : Template := listed (assignments.map fun a =>
      [.name a.column, .space, .symbol .equal, .space] ++ a.binding.template)
    return .writing .update
      ([.word .update, .space, .name table, .space, .word .set, .space] ++ set
        ++ whereClause filters) returning
  | _ => .error (.invalidPayload .notObject)

/-- The delete of the selected rows. -/
def delete (table : Identifier) (filters : List Filter) (returning : Bool) :
    Except Rejection Statement :=
  match filters with
  | [] => .error .unfilteredDelete
  | _ :: _ =>
    .ok (.writing .delete
      ([.word .delete, .space, .word .fromWord, .space, .name table] ++ whereClause filters)
      returning)

end Gateway.Sql
