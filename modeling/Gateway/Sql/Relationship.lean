import Gateway.Sql.Filter.Reader

/-!
# Declared relationships

Which column of a table refers to which related table. A deployment may declare it, as in
`posts.author=author_id; posts.editor=edited_by`: outer table, key under which the related row is
asked for, column. Of several declarations for the same table and key the last one counts.

`singular` guesses the usual name of a reference from the name of the related table.
-/

namespace Gateway.Sql

open Gateway.Text

/-- One declaration. -/
structure Relationship where
  /-- The table that holds the reference. -/
  outer : Identifier
  /-- The key under which the related row is asked for. -/
  key : Identifier
  /-- The column that refers to the related row. -/
  column : Identifier
deriving DecidableEq, Repr

/-- Declarations in the order in which they were made. -/
abbrev Relationships := List Relationship

namespace Relationship

/-- Read `table.key=column`. -/
def read (entry : List Char) : Except Rejection Relationship := do
  let malformed : Rejection := .malformedSelect (String.ofList entry)
  let some (path, column) := cut '=' entry | throw malformed
  let some (table, key) := cut '.' (trim path) | throw malformed
  return ⟨← Identifier.read table, ← Identifier.read key, ← Identifier.read (trim column)⟩

end Relationship

namespace Relationships

/-- Read declarations separated by semicolons or commas; empty ones are left out. -/
def read (raw : String) : Except Rejection Relationships :=
  let entries := ((fieldsBy (fun c => c == ';' || c == ',') raw.toList).map trim).filter (!·.isEmpty)
  entries.mapM Relationship.read

/-- The declared column of a table for a key. -/
def column? (declared : Relationships) (outer key : Identifier) : Option Identifier :=
  (declared.reverse.find? fun r => r.outer == outer && r.key == key).map (·.column)

end Relationships

/-- The text before `back`, when it ends with that. -/
def dropBack? (back : String) (s : List Char) : Option (List Char) :=
  (dropFront? back.toList.reverse s.reverse).map List.reverse

theorem dropBack?_eq_some_iff {back : String} {s t : List Char} :
    dropBack? back s = some t ↔ s = t ++ back.toList := by
  rw [dropBack?, Option.map_eq_some_iff, ← List.reverse_inj, List.reverse_append]
  constructor
  · rintro ⟨u, front, rfl⟩
    rw [List.reverse_reverse]
    exact dropFront?_eq_some_iff.1 front
  · intro split
    exact ⟨t.reverse, dropFront?_eq_some_iff.2 split, List.reverse_reverse t⟩

/-- The English singular of a table's name: `categories` gives `category`, `users` gives `user`,
`address` stays. -/
def singular (table : List Char) : List Char :=
  match dropBack? "ies" table with
  | some stem => stem ++ ['y']
  | none =>
    if (dropBack? "ss" table).isSome then table
    else (dropBack? "s" table).getD table

end Gateway.Sql
