import Gateway.Sql.Relationship

/-!
# Select lists

What a read returns: every column, single columns under a name of their own, and *embeds*, rows of a
related table as JSON. An embed is written `label:table!column(columns)`; label and column hint may be
missing, and inside it there may be no further embed.

An embed becomes a correlated subquery on the column that refers to the related table. Which column
that is, `EmbedResolver.resolve` decides; an embed without one yields `NULL` under its key.
-/

namespace Gateway.Sql

open Gateway.Text
open Template (paren listed words)

/-! ## Items -/

/-- A column, possibly under another name. -/
structure OutputColumn where
  column : Identifier
  /-- The other name. -/
  label : Option Identifier
deriving DecidableEq, Repr

/-- The name a column has in the answer. -/
def OutputColumn.key (c : OutputColumn) : Identifier :=
  c.label.getD c.column

/-- The columns of a related row. -/
inductive EmbedColumns where
  | all
  | listed (columns : List OutputColumn)
deriving DecidableEq, Repr

/-- A row of a related table. -/
structure Embed where
  /-- The key in the answer, where it is not the name of the table. -/
  label : Option Identifier
  table : Identifier
  /-- The referring column, where the client names it. -/
  hint : Option Identifier
  columns : EmbedColumns
deriving DecidableEq, Repr

/-- The key of the related row in the answer. -/
def Embed.key (e : Embed) : Identifier :=
  e.label.getD e.table

/-- One item of a select list. -/
inductive SelectItem where
  | all
  | column (c : OutputColumn)
  | embed (e : Embed)
deriving DecidableEq, Repr

/-! ## Reading -/

/-- Read `[label:]column`. -/
def OutputColumn.read (raw : List Char) : Except Rejection OutputColumn := do
  match cut ':' raw with
  | some (label, column) => return ⟨← Identifier.read column, some (← Identifier.read label)⟩
  | none => return ⟨← Identifier.read raw, none⟩

/-- Read one column of an embed; nothing stands for all of them. -/
def readEmbedColumn (raw : List Char) : Except Rejection (Option OutputColumn) :=
  if raw.isEmpty || raw == ['*'] then .ok none else (OutputColumn.read raw).map some

/-- Read the bracketed columns of an embed; one `*` among them stands for all. -/
def EmbedColumns.read (inner : List Char) : Except Rejection EmbedColumns := do
  let columns ← ((fields ',' inner).map trim).mapM readEmbedColumn
  if columns.any Option.isNone then return .all else return .listed (columns.filterMap fun c => c)

namespace SelectItem

/-- Read an embed from the text in front of its bracket and the columns in it. -/
def readEmbed (head inner : List Char) : Except Rejection Embed := do
  let (label, target) ←
    match cut ':' head with
    | some (label, target) => pure (some (← Identifier.read label), target)
    | none => pure (none, head)
  let (table, hint) ←
    match cut '!' target with
    | some (table, hint) => pure (← Identifier.read table, some (← Identifier.read hint))
    | none => pure (← Identifier.read target, none)
  let columns ← EmbedColumns.read inner
  return ⟨label, table, hint, columns⟩

/-- Read one item. -/
def read (item : List Char) : Except Rejection SelectItem :=
  if item = ['*'] then .ok .all
  else
    match cut '(' item with
    | none => (OutputColumn.read item).map .column
    | some (head, rest) =>
      match dropLast? ')' rest with
      | none => .error (.malformedSelect (String.ofList item))
      -- Inside the brackets stand plain columns only.
      | some inner =>
        if '(' ∈ inner then .error (.nestedEmbed (String.ofList item))
        else (readEmbed head inner).map .embed

/-- Read a whole `select` parameter; an empty one selects every column. -/
def readList (raw : String) : Except Rejection (List SelectItem) := do
  if (trim raw.toList).isEmpty then return [.all]
  (← items raw.toList).mapM fun item => read (trim item)

end SelectItem

/-! ## The column that refers to a related table -/

/-- What is known about references. -/
structure EmbedResolver where
  /-- The declared relationships. -/
  relationships : Relationships := []
  /-- The columns of the outer table, where they have been looked up. -/
  knownColumns : Option (List String) := none
deriving Repr

namespace EmbedResolver

/-- The columns that may refer to the related table, the likeliest first: the client's hint, the
declared column, `<label>_id`, and `<singular table>_id`. -/
def candidates (r : EmbedResolver) (outer : Identifier) (e : Embed) : List Identifier :=
  e.hint.toList
    ++ (r.relationships.column? outer e.key).toList
    ++ (e.label.bind fun a => Identifier.withIdSuffix a.text.toList).toList
    ++ (Identifier.withIdSuffix (singular e.table.text.toList)).toList

/-- A candidate must be a column of the outer table, where those are known. -/
def admits (r : EmbedResolver) (candidate : Identifier) : Bool :=
  match r.knownColumns with
  | none => true
  | some columns => columns.contains candidate.text

/-- The first candidate that is admitted. -/
def resolve (r : EmbedResolver) (outer : Identifier) (e : Embed) : Option Identifier :=
  (r.candidates outer e).find? r.admits

end EmbedResolver

/-! ## The select list of a statement -/

/-- The blank, `AS` and a name. -/
def asName (name : Identifier) : Template :=
  [.space, .word .asWord, .space, .name name]

/-- The columns of the related row, as one JSON value. -/
def EmbedColumns.template (related : Identifier) : EmbedColumns → Template
  | all => .word .rowToJson :: paren [.name related]
  | listed columns =>
    .word .jsonBuildObject :: paren (Template.listed (columns.map fun c =>
      [.literal c.key, .symbol .comma, .space, .name related, .symbol .dot, .name c.column]))

/-- An embed as the statement writes it; `index` tells the related tables of a list apart. -/
def Embed.template (outer : Identifier) (r : EmbedResolver) (index : Nat) (e : Embed) : Template :=
  match r.resolve outer e with
  | none => .word .null :: asName e.key
  | some reference =>
    let related := Identifier.embedAlias index
    paren ([.word .select, .space] ++ e.columns.template related
      ++ [.space, .word .fromWord, .space, .name e.table] ++ asName related
      ++ [.space, .word .whereWord, .space, .name related, .symbol .dot, .name .id]
      ++ [.space, .symbol .equal, .space, .name outer, .symbol .dot, .name reference]
      ++ [.space, .word .limit, .space, .numeral 1])
    ++ asName e.key

/-- The items of a select list as the statement writes them; `embeds` related tables came before. -/
def SelectItem.templates (outer : Identifier) (r : EmbedResolver) (embeds : Nat) :
    List SelectItem → List Template
  | [] => []
  | .all :: rest => [.symbol .star] :: templates outer r embeds rest
  | .column c :: rest =>
    (.name c.column :: (c.label.map asName).getD []) :: templates outer r embeds rest
  | .embed e :: rest =>
    e.template outer r (embeds + 1) :: templates outer r (embeds + 1) rest

/-- A select list as the statement writes it. -/
def selectList (outer : Identifier) (r : EmbedResolver) (items : List SelectItem) : Template :=
  listed (SelectItem.templates outer r 0 items)

end Gateway.Sql
