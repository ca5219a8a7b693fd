import Gateway.Sql.Order
import Gateway.Sql.Select
import Gateway.Sql.Statement
import Gateway.Text.Numeral

/-!
# Table requests

A request on a table and its query parameters. Six parameters have a meaning of their own, `select`,
`order`, `limit`, `offset`, `on_conflict` and `columns`, and the last of several of one name counts;
every other parameter is a filter, and all filters count, in order. The first parameter that cannot be
read decides the refusal.

`Query.selectStatement` reads the page of rows that is asked for; `Query.countStatement` counts the
rows under the same filters, whatever the page.
-/

namespace Gateway.Sql

open Gateway.Text
open Template (listed paren)

/-- A table request. -/
structure Query where
  table : Identifier
  select : List SelectItem := [.all]
  filters : List Filter := []
  order : List OrderTerm := []
  limit : Option Nat := none
  offset : Option Nat := none
  /-- The conflict target of an insert. -/
  onConflict : List Identifier := []
  /-- The columns that an insert may write; all of them when nothing is said. -/
  columns : Option (List Identifier) := none
deriving Repr

namespace Query

/-- Read the value of a paging parameter. -/
def readCount (parameter : PageParameter) (value : String) : Except Rejection Nat :=
  match readNumeral maxUnsigned64 (trim value.toList) with
  | .ok n => .ok n
  | .error _ => .error (.invalidLimit parameter value)

/-- The names of a comma-separated list; empty ones are left out. -/
def splitNames (value : String) : List (List Char) :=
  ((fields ',' value.toList).map trim).filter (!·.isEmpty)

/-- Read a list of names. -/
def readNames (value : String) : Except Rejection (List Identifier) :=
  (splitNames value).mapM Identifier.read

/-- Take up one query parameter. -/
def addParameter (q : Query) : String × String → Except Rejection Query
  | ("select", value) => (SelectItem.readList value).map fun items => { q with select := items }
  | ("order", value) => .ok { q with order := OrderTerm.readList value }
  | ("limit", value) => (readCount .limit value).map fun n => { q with limit := some n }
  | ("offset", value) => (readCount .offset value).map fun n => { q with offset := some n }
  | ("on_conflict", value) =>
    match readNames value with
    | .ok names => .ok { q with onConflict := names }
    | .error _ => .error (.invalidConflictTarget value)
  | ("columns", value) => (readNames value).map fun names => { q with columns := some names }
  -- Whatever has no meaning of its own is a filter.
  | (key, value) => (Filter.read key value).map fun f => { q with filters := q.filters ++ [f] }

/-- Read a table request. -/
def read (table : String) (parameters : List (String × String)) : Except Rejection Query := do
  let table ← Identifier.read table.toList
  parameters.foldlM addParameter { table }

/-- Cap the number of rows at `maxRows`, which also holds where no limit was asked for. -/
def withMaxRows (q : Query) (maxRows : Option Nat) : Query :=
  match maxRows with
  | none => q
  | some cap => { q with limit := some (q.limit.elim cap fun asked => min asked cap) }

/-- The embeds of the select list. -/
def embeds (q : Query) : List Embed :=
  q.select.filterMap fun
    | .embed e => some e
    | _ => none

/-! ## Statements -/

/-- The `ORDER BY` clause with the blank before it; nothing when no order is asked for. -/
def orderClause (q : Query) : Template :=
  match q.order with
  | [] => []
  | terms =>
    [.space, .word .order, .space, .word .byWord, .space] ++ listed (terms.map OrderTerm.template)

/-- A paging clause with the blank before it; nothing when no number is asked for. -/
def pageClause (word : Word) : Option Nat → Template
  | none => []
  | some n => [.space, .word word, .space, .numeral n]

/-- The statement that reads the rows. -/
def selectStatement (q : Query) (r : EmbedResolver) : Statement where
  kind := .select
  template :=
    [.word .select, .space] ++ selectList q.table r q.select
      ++ [.space, .word .fromWord, .space, .name q.table]
      ++ whereClause q.filters ++ q.orderClause
      ++ pageClause .limit q.limit ++ pageClause .offset q.offset

/-- The statement that counts the rows. -/
def countStatement (q : Query) : Statement where
  kind := .count
  template :=
    [.word .select, .space, .word .count] ++ paren [.symbol .star]
      ++ [.space, .word .fromWord, .space, .name q.table]
      ++ whereClause q.filters

end Query

end Gateway.Sql
