import Gateway.Proofs.Except
import Gateway.Proofs.Sql.Dialect
import Gateway.Sql.Order
import Gateway.Sql.Select

/-!
# Select lists and sort orders written as parameters

`selectValue` and `orderValue` write a select list and a sort order as the values of their parameters. What
is written is read back as it was (`lists_round_trip`), and since every accepted text is read as a list that
can be written, writing what was read and reading it again changes nothing.

A select text with an embed inside an embed has two opening brackets without a closing one between them
(`Nests`). The brackets of an accepted text come in pairs, so it is no such text.
-/

namespace Gateway.Sql

open Gateway.Text

/-! ## §1 — writing -/

/-- The other name of a column or an embed, in front of it. -/
def labelMark (label : Option Identifier) : List Char :=
  label.elim [] fun l => l.text.toList ++ [':']

/-- The referring column that a client names, behind the table. -/
def hintMark (hint : Option Identifier) : List Char :=
  hint.elim [] fun h => '!' :: h.text.toList

/-- A column as an item of a list. -/
def OutputColumn.spelled (c : OutputColumn) : List Char :=
  labelMark c.label ++ c.column.text.toList

/-- The columns of an embed, one by one. -/
def EmbedColumns.parts : EmbedColumns → List (List Char)
  | all => [['*']]
  | listed columns => columns.map OutputColumn.spelled

/-- An embed in front of its bracket. -/
def Embed.head (e : Embed) : List Char :=
  labelMark e.label ++ (e.table.text.toList ++ hintMark e.hint)

/-- **An item of a select list.** -/
def SelectItem.spelled : SelectItem → List Char
  | all => ['*']
  | column c => c.spelled
  | embed e => e.head ++ bracketList e.columns.parts

/-- A select list as the value of its parameter. -/
def selectValue (items : List SelectItem) : String :=
  String.ofList ([','].intercalate (items.map SelectItem.spelled))

/-- The columns of an embed are all of them or some of them. -/
def EmbedColumns.Filled : EmbedColumns → Prop
  | all => True
  | listed columns => columns ≠ []

/-- An embed has columns. -/
def SelectItem.Filled : SelectItem → Prop
  | embed e => e.columns.Filled
  | all | column _ => True

/-- A direction as a modifier. -/
def Direction.word : Direction → List Char
  | asc => "asc".toList
  | desc => "desc".toList

/-- A place for the rows without a value, as a modifier. -/
def Nulls.word : Nulls → List Char
  | first => "nullsfirst".toList
  | last => "nullslast".toList

/-- The modifiers of a term: its direction, and where the rows without a value go if it says so. -/
def modifierWords (direction : Direction) (nulls : Option Nulls) : List (List Char) :=
  direction.word :: (nulls.map Nulls.word).toList

/-- **A term of a sort order.** -/
def OrderTerm.spelled (t : OrderTerm) : List Char :=
  ['.'].intercalate (t.column.text.toList :: modifierWords t.direction t.nulls)

/-- A sort order as the value of its parameter. -/
def orderValue (terms : List OrderTerm) : String :=
  String.ofList ([','].intercalate (terms.map OrderTerm.spelled))

/-! ## §2 — items of a select list -/

section
variable {c : Char} (odd : isNamePart c = false)
include odd

theorem notMem_labelMark (mark : c ≠ ':') (label : Option Identifier) : c ∉ labelMark label := by
  cases label with
  | none => exact List.not_mem_nil
  | some l => simpa [labelMark, mark] using l.notMem_of_odd odd

theorem notMem_hintMark (mark : c ≠ '!') (hint : Option Identifier) : c ∉ hintMark hint := by
  cases hint with
  | none => exact List.not_mem_nil
  | some h => simpa [hintMark, mark] using h.notMem_of_odd odd

theorem OutputColumn.notMem_spelled (mark : c ≠ ':') (column : OutputColumn) : c ∉ column.spelled := by
  rw [spelled, List.mem_append, not_or]
  exact ⟨notMem_labelMark odd mark _, column.column.notMem_of_odd odd⟩

theorem Embed.notMem_head (colon : c ≠ ':') (mark : c ≠ '!') (e : Embed) : c ∉ e.head := by
  rw [head, List.mem_append, List.mem_append, not_or, not_or]
  exact ⟨notMem_labelMark odd colon _, e.table.notMem_of_odd odd, notMem_hintMark odd mark _⟩

end

theorem Verbatim.hintMark (hint : Option Identifier) : Verbatim (hintMark hint) := by
  cases hint with
  | none => exact of_plain rfl
  | some h => exact (of_plain (by decide) : Verbatim ['!']).append (name h)

/-- A name may have another one in front of it. -/
theorem IsItem.labelled (label : Option Identifier) (name : Identifier) :
    IsItem (Gateway.Sql.labelMark label ++ name.text.toList) := by
  cases label with
  | none => exact .name name
  | some l => exact ((IsItem.name l).append (.of_plain (by decide))).append (.name name)

theorem cut_labelMark (label : Option Identifier) {rest : List Char} (plain : ':' ∉ rest) :
    cut ':' (labelMark label ++ rest) = label.map fun l => (l.text.toList, rest) := by
  cases label with
  | none => exact cut_eq_none_iff.2 plain
  | some l => exact cut_eq_some_iff.2 ⟨List.append_assoc _ _ _, l.notMem_of_odd rfl⟩

theorem cut_hintMark (table : Identifier) (hint : Option Identifier) :
    cut '!' (table.text.toList ++ hintMark hint) =
      hint.map fun h => (table.text.toList, h.text.toList) := by
  have plain : '!' ∉ table.text.toList := table.notMem_of_odd rfl
  cases hint with
  | none => exact cut_eq_none_iff.2 (by simpa [hintMark] using plain)
  | some h => exact cut_eq_some_iff.2 ⟨rfl, plain⟩

/-- **A column is read back.** -/
theorem OutputColumn.reads_back (c : OutputColumn) : OutputColumn.read c.spelled = .ok c := by
  obtain ⟨column, label⟩ := c
  rw [OutputColumn.read, spelled, cut_labelMark label (column.notMem_of_odd rfl)]
  cases label with
  | none => exact bind_eq_ok_iff.2 ⟨column, column.read_text, rfl⟩
  | some l => exact bind_eq_ok_iff.2 ⟨column, column.read_text, bind_eq_ok_iff.2 ⟨l, l.read_text, rfl⟩⟩

/-! ### embeds -/

theorem isItem_star : IsItem ['*'] :=
  ⟨.of_plain (by decide), '*', [], rfl, by decide⟩

theorem EmbedColumns.isItem_parts (columns : EmbedColumns) : ∀ part ∈ columns.parts, IsItem part := by
  intro part mem
  cases columns with
  | all =>
    obtain rfl := List.mem_singleton.1 mem
    exact isItem_star
  | listed columns =>
    obtain ⟨c, -, rfl⟩ := List.mem_map.1 mem
    exact .labelled c.label c.column

theorem EmbedColumns.notMem_parts {c : Char} (odd : isNamePart c = false) (colon : c ≠ ':')
    (star : c ≠ '*') (columns : EmbedColumns) : ∀ part ∈ columns.parts, c ∉ part := by
  intro part mem
  cases columns with
  | all =>
    obtain rfl := List.mem_singleton.1 mem
    exact fun mem => star (List.mem_singleton.1 mem)
  | listed columns =>
    obtain ⟨column, -, rfl⟩ := List.mem_map.1 mem
    exact column.notMem_spelled odd colon

theorem readEmbedColumn_spelled (c : OutputColumn) : readEmbedColumn c.spelled = .ok (some c) := by
  have star : '*' ∉ c.spelled := c.notMem_spelled rfl (by decide)
  have filled : c.spelled.isEmpty = false := (IsItem.labelled c.label c.column).isEmpty_eq_false
  have other : (c.spelled == ['*']) = false := by
    rw [beq_eq_false_iff_ne]
    exact fun same => star (same ▸ List.mem_singleton_self '*')
  rw [readEmbedColumn, filled, other, c.reads_back]
  rfl

/-- **The columns of an embed are read back.** -/
theorem EmbedColumns.read_parts {columns : EmbedColumns} (filled : columns.Filled) :
    EmbedColumns.read ([','].intercalate columns.parts) = .ok columns := by
  have some : columns.parts ≠ [] := by
    cases columns with
    | all => exact List.cons_ne_nil _ _
    | listed columns => exact fun none => filled (List.map_eq_nil_iff.1 none)
  have trimmed : columns.parts.map trim = columns.parts :=
    (List.map_congr_left fun part mem => (columns.isItem_parts part mem).trim_eq).trans (List.map_id' _)
  rw [EmbedColumns.read, fields_intercalate some (columns.notMem_parts rfl (by decide) (by decide)), trimmed]
  cases columns with
  | all => rfl
  | listed columns =>
    have each : (columns.map OutputColumn.spelled).mapM readEmbedColumn = .ok (columns.map Option.some) := by
      rw [mapM_eq_ok_iff, List.forall₂_map_left_iff, List.forall₂_map_right_iff, List.forall₂_same]
      exact fun c _ => readEmbedColumn_spelled c
    have named : (columns.map Option.some).any Option.isNone = false := by simp
    have kept : (columns.map Option.some).filterMap (fun c => c) = columns := by
      simp [List.filterMap_map]
    refine bind_eq_ok_iff.2 ⟨_, each, ?_⟩
    rw [named, kept]
    rfl

/-- The label of an embed, and what is behind it. -/
def readLabel (head : List Char) : Except Rejection (Option Identifier × List Char) :=
  match cut ':' head with
  | some (label, target) => (Identifier.read label).map fun l => (some l, target)
  | none => .ok (none, head)

/-- The table of an embed and the column that the client names. -/
def readTarget (target : List Char) : Except Rejection (Identifier × Option Identifier) :=
  match cut '!' target with
  | some (table, hint) => do return (← Identifier.read table, some (← Identifier.read hint))
  | none => (Identifier.read target).map fun t => (t, none)

/-- Behind its label, an embed is a target and its columns. -/
theorem readTarget_bind (target inner : List Char) (label : Option Identifier) :
    (do
      let (table, hint) ← readTarget target
      return (⟨label, table, hint, ← EmbedColumns.read inner⟩ : Embed)) =
    match cut '!' target with
    | some (table, hint) => do
      let table ← Identifier.read table
      let hint ← Identifier.read hint
      return ⟨label, table, some hint, ← EmbedColumns.read inner⟩
    | none => do return ⟨label, ← Identifier.read target, none, ← EmbedColumns.read inner⟩ := by
  rw [readTarget]
  cases cut '!' target with
  | none => cases Identifier.read target <;> rfl
  | some halves =>
    obtain ⟨table, hint⟩ := halves
    dsimp only
    cases Identifier.read table with
    | error e => rfl
    | ok table => cases Identifier.read hint <;> rfl

/-- **An embed is read in three parts.** -/
theorem SelectItem.readEmbed_eq (head inner : List Char) : readEmbed head inner = do
    let (label, target) ← readLabel head
    let (table, hint) ← readTarget target
    return ⟨label, table, hint, ← EmbedColumns.read inner⟩ := by
  rw [readEmbed, readLabel]
  cases cut ':' head with
  | none => exact (readTarget_bind head inner none).symm
  | some halves =>
    obtain ⟨label, target⟩ := halves
    dsimp only
    cases Identifier.read label with
    | error e => rfl
    | ok label => exact (readTarget_bind target inner (some label)).symm

theorem SelectItem.readEmbed_eq_ok_iff {head inner : List Char} {e : Embed} :
    readEmbed head inner = .ok e ↔ ∃ target, readLabel head = .ok (e.label, target) ∧
      readTarget target = .ok (e.table, e.hint) ∧ EmbedColumns.read inner = .ok e.columns := by
  rw [readEmbed_eq, bind_eq_ok_iff]
  constructor
  · rintro ⟨⟨label, target⟩, first, rest⟩
    obtain ⟨⟨table, hint⟩, second, rest⟩ := bind_eq_ok_iff.1 rest
    obtain ⟨columns, third, same⟩ := bind_eq_ok_iff.1 rest
    obtain rfl := Except.ok.inj same
    exact ⟨target, first, second, third⟩
  · rintro ⟨target, first, second, third⟩
    exact ⟨_, first, bind_eq_ok_iff.2 ⟨_, second, bind_eq_ok_iff.2 ⟨_, third, rfl⟩⟩⟩

/-- **An embed is read back from what is in front of its bracket and what is in it.** -/
theorem SelectItem.readEmbed_head {e : Embed} (filled : e.columns.Filled) :
    readEmbed e.head ([','].intercalate e.columns.parts) = .ok e := by
  refine readEmbed_eq_ok_iff.2 ⟨e.table.text.toList ++ hintMark e.hint, ?_, ?_,
    EmbedColumns.read_parts filled⟩
  · have plain : ':' ∉ e.table.text.toList ++ hintMark e.hint := by
      rw [List.mem_append, not_or]
      exact ⟨e.table.notMem_of_odd rfl, notMem_hintMark rfl (by decide) e.hint⟩
    rw [readLabel, Embed.head, cut_labelMark e.label plain]
    cases e.label with
    | none => rfl
    | some l => exact map_eq_ok_iff.2 ⟨l, l.read_text, rfl⟩
  · rw [readTarget, cut_hintMark]
    cases e.hint with
    | none =>
      rw [hintMark, Option.elim_none, List.append_nil]
      exact map_eq_ok_iff.2 ⟨e.table, e.table.read_text, rfl⟩
    | some h =>
      exact bind_eq_ok_iff.2 ⟨e.table, e.table.read_text, bind_eq_ok_iff.2 ⟨h, h.read_text, rfl⟩⟩

theorem Embed.isItem_head (e : Embed) : IsItem e.head := by
  rw [head, ← List.append_assoc]
  exact (IsItem.labelled e.label e.table).append (.hintMark e.hint)

namespace SelectItem

theorem isItem_spelled (item : SelectItem) : IsItem item.spelled := by
  cases item with
  | all => exact isItem_star
  | column c => exact .labelled c.label c.column
  | embed e =>
    exact e.isItem_head.append (.bracketList fun part mem => (e.columns.isItem_parts part mem).onePiece)

/-- **An item of a select list is read back.** -/
theorem reads_back {item : SelectItem} (filled : item.Filled) : read item.spelled = .ok item := by
  cases item with
  | all => rfl
  | column c =>
    have bracket : '(' ∉ c.spelled := c.notMem_spelled rfl (by decide)
    have star : c.spelled ≠ ['*'] := by
      intro same
      exact c.notMem_spelled rfl (by decide) (same ▸ List.mem_singleton_self '*')
    rw [spelled, read, if_neg star, cut_eq_none_iff.2 bracket]
    exact map_eq_ok_iff.2 ⟨c, c.reads_back, rfl⟩
  | embed e =>
    have bracket : '(' ∉ e.head := e.notMem_head rfl (by decide) (by decide)
    have plain : '(' ∉ [','].intercalate e.columns.parts :=
      notMem_intercalate (by decide) (e.columns.notMem_parts rfl (by decide) (by decide))
    have star : e.head ++ bracketList e.columns.parts ≠ ['*'] := by
      intro same
      have inside : '(' ∈ e.head ++ bracketList e.columns.parts :=
        List.mem_append_right _ List.mem_cons_self
      exact absurd (same ▸ inside) (by decide)
    have opened : cut '(' (e.head ++ bracketList e.columns.parts) =
        some (e.head, [','].intercalate e.columns.parts ++ [')']) := cut_eq_some_iff.2 ⟨rfl, bracket⟩
    rw [spelled, read, if_neg star, opened]
    dsimp only
    rw [dropLast?_eq_some_iff.2 rfl]
    dsimp only
    rw [if_neg plain]
    exact map_eq_ok_iff.2 ⟨e, readEmbed_head filled, rfl⟩

/-- **A select list is read back.** -/
theorem readList_selectValue {items : List SelectItem} (some : items ≠ [])
    (filled : ∀ item ∈ items, item.Filled) : readList (selectValue items) = .ok items := by
  have each : ∀ part ∈ items.map spelled, IsItem part := by
    intro part mem
    obtain ⟨item, -, rfl⟩ := List.mem_map.1 mem
    exact item.isItem_spelled
  obtain ⟨solid, split, -⟩ := items_intercalate (mt List.map_eq_nil_iff.1 some) each
  have text : (selectValue items).toList = [','].intercalate (items.map spelled) := String.toList_ofList
  rw [readList, text, solid]
  refine bind_eq_ok_iff.2 ⟨_, split, ?_⟩
  rw [mapM_eq_ok_iff, List.forall₂_map_left_iff, List.forall₂_same]
  intro item mem
  rw [item.isItem_spelled.trim_eq]
  exact reads_back (filled item mem)

end SelectItem

/-! ## §3 — terms of a sort order -/

/-- The modifiers are words: they have no point, and may stand anywhere in an item. -/
theorem modifierWords_plain (direction : Direction) (nulls : Option Nulls) :
    (∀ word ∈ modifierWords direction nulls, '.' ∉ word) ∧
      (['.'].intercalate (modifierWords direction nulls)).all isPlainChar = true := by
  cases direction <;> rcases nulls with _ | _ | _ <;> decide

/-- Applied to a term, the modifiers make it what they were written for. -/
theorem foldl_modifierWords (column : Identifier) (direction : Direction) (nulls : Option Nulls) :
    (modifierWords direction nulls).foldl OrderTerm.modify ⟨column, .asc, none⟩ =
      ⟨column, direction, nulls⟩ := by
  cases direction <;> rcases nulls with _ | _ | _ <;> rfl

namespace OrderTerm

/-- **A term is read back.** -/
theorem read?_spelled (t : OrderTerm) : read? t.spelled = some t := by
  have parts : fields '.' t.spelled = t.column.text.toList :: modifierWords t.direction t.nulls := by
    refine fields_intercalate (List.cons_ne_nil _ _) (List.forall_mem_cons.2 ⟨?_, ?_⟩)
    · exact t.column.notMem_of_odd rfl
    · exact (modifierWords_plain t.direction t.nulls).1
  rw [read?, parts]
  dsimp only
  rw [Identifier.read?_text, Option.map_some, foldl_modifierWords]

theorem isItem_spelled (t : OrderTerm) : IsItem t.spelled := by
  have modifiers := Verbatim.of_plain (modifierWords_plain t.direction t.nulls).2
  exact (IsItem.name t.column).append (.append .point modifiers)

theorem comma_notMem_spelled (t : OrderTerm) : ',' ∉ t.spelled := by
  have modifiers := List.all_eq_true.1 (modifierWords_plain t.direction t.nulls).2
  have shape : t.spelled = t.column.text.toList ++
      '.' :: ['.'].intercalate (modifierWords t.direction t.nulls) := rfl
  rw [shape, List.mem_append, List.mem_cons, not_or, not_or]
  refine ⟨t.column.notMem_of_odd rfl, by decide, fun mem => ?_⟩
  exact absurd (modifiers ',' mem) (by decide)

/-- **A sort order is read back.** -/
theorem readList_orderValue (terms : List OrderTerm) : readList (orderValue terms) = terms := by
  have text : (orderValue terms).toList = [','].intercalate (terms.map spelled) := String.toList_ofList
  rw [readList, text]
  by_cases none : terms = []
  · subst none
    rfl
  · have split : fields ',' ([','].intercalate (terms.map spelled)) = terms.map spelled := by
      refine fields_intercalate (mt List.map_eq_nil_iff.1 none) ?_
      rw [List.forall_mem_map]
      exact fun t _ => t.comma_notMem_spelled
    have each (t : OrderTerm) :
        (if (trim t.spelled).isEmpty then Option.none else read? (trim t.spelled)) = some t := by
      rw [t.isItem_spelled.trim_eq, t.isItem_spelled.isEmpty_eq_false]
      exact t.read?_spelled
    rw [split, List.map_map, List.filterMap_map]
    exact (List.filterMap_congr fun t _ => each t).trans List.filterMap_some

end OrderTerm

/-! ## §4 — accepted texts -/

/-- An embed that is read has columns. -/
theorem EmbedColumns.filled_of_read {inner : List Char} {columns : EmbedColumns}
    (h : EmbedColumns.read inner = .ok columns) : columns.Filled := by
  obtain ⟨found, each, same⟩ := bind_eq_ok_iff.1 h
  have some : found ≠ [] := by
    rintro rfl
    have none := List.forall₂_nil_right_iff.1 (mapM_eq_ok_iff.1 each)
    exact fieldsBy_ne_nil _ inner (List.map_eq_nil_iff.1 none)
  split at same
  · obtain rfl := Except.ok.inj same
    trivial
  next named =>
    obtain rfl := Except.ok.inj same
    intro none
    cases found with
    | nil => exact some rfl
    | cons first rest =>
      rw [List.filterMap_eq_nil_iff] at none
      simp [none first List.mem_cons_self] at named

namespace SelectItem

/-- **What an accepted item is**: a star, a column, or an embed with its columns between brackets. -/
theorem read_cases {text : List Char} {item : SelectItem} (h : read text = .ok item) :
    (text = ['*'] ∧ item = .all) ∨
      (∃ c, OutputColumn.read text = .ok c ∧ item = .column c) ∨
      ∃ head inner e, text = head ++ '(' :: (inner ++ [')']) ∧ readEmbed head inner = .ok e ∧
        item = .embed e := by
  rw [read] at h
  split at h
  next star => exact .inl ⟨star, (Except.ok.inj h).symm⟩
  split at h
  next =>
    obtain ⟨c, column, same⟩ := map_eq_ok_iff.1 h
    exact .inr (.inl ⟨c, column, same.symm⟩)
  next head rest opened =>
    split at h
    next => cases h
    next inner closed =>
      obtain ⟨-, h⟩ := refuse_eq_ok_iff.1 h
      obtain ⟨e, embed, same⟩ := map_eq_ok_iff.1 h
      refine .inr (.inr ⟨head, inner, e, ?_, embed, same.symm⟩)
      rw [(cut_eq_some_iff.1 opened).1, dropLast?_eq_some_iff.1 closed]

/-- **What an accepted text is**: blank, or items that are accepted one by one. -/
theorem readList_cases {raw : String} {items : List SelectItem} (h : readList raw = .ok items) :
    (trim raw.toList = [] ∧ items = [.all]) ∨
      ∃ parts, splitTopLevel raw.toList = some parts ∧
        parts.mapM (fun part => read (trim part)) = .ok items := by
  rw [readList] at h
  split at h
  next blank => exact .inl ⟨List.isEmpty_iff.1 blank, (Except.ok.inj h).symm⟩
  next =>
    obtain ⟨parts, split, each⟩ := bind_eq_ok_iff.1 h
    exact .inr ⟨parts, items_eq_ok_iff.1 split, each⟩

theorem filled_of_read {text : List Char} {item : SelectItem} (h : read text = .ok item) :
    item.Filled := by
  rcases read_cases h with ⟨-, rfl⟩ | ⟨c, -, rfl⟩ | ⟨head, inner, e, -, embed, rfl⟩
  · trivial
  · trivial
  · obtain ⟨-, -, -, columns⟩ := readEmbed_eq_ok_iff.1 embed
    exact EmbedColumns.filled_of_read columns

/-- **What is read can be written.** -/
theorem filled_of_readList {raw : String} {items : List SelectItem} (h : readList raw = .ok items) :
    items ≠ [] ∧ ∀ item ∈ items, item.Filled := by
  rcases readList_cases h with ⟨-, rfl⟩ | ⟨parts, split, each⟩
  · exact ⟨List.cons_ne_nil _ _, List.forall_mem_singleton.2 trivial⟩
  · refine ⟨?_, fun item mem => ?_⟩
    · rintro rfl
      exact splitFrom_ne_nil split (List.forall₂_nil_right_iff.1 (mapM_eq_ok_iff.1 each))
    · obtain ⟨part, -, read⟩ := exists_of_mem_mapM each mem
      exact filled_of_read read

end SelectItem

/-! ## §5 — brackets -/

/-- The brackets of a text, one after the other. -/
def brackets (text : List Char) : List Char :=
  text.filter fun c => c == '(' || c == ')'

/-- **A bracket is opened inside another one**, which is not closed in front of it. -/
def Nests (text : List Char) : Prop :=
  ∃ before inside after, text = before ++ '(' :: (inside ++ '(' :: after) ∧
    ∀ front, front <+: inside → front.count ')' ≤ front.count '('

theorem brackets_append (a b : List Char) : brackets (a ++ b) = brackets a ++ brackets b :=
  List.filter_append ..

theorem brackets_intercalate (parts : List (List Char)) :
    brackets ([','].intercalate parts) = parts.flatMap brackets :=
  filter_intercalate (by decide) parts

theorem brackets_trim (text : List Char) : brackets (trim text) = brackets text := by
  refine filter_trim (fun c bracket => ?_) text
  rw [Bool.or_eq_true, beq_iff_eq, beq_iff_eq] at bracket
  rcases bracket with rfl | rfl <;> decide

theorem brackets_eq_nil_iff {text : List Char} : brackets text = [] ↔ '(' ∉ text ∧ ')' ∉ text := by
  rw [brackets, List.filter_eq_nil_iff]
  constructor
  · intro none
    exact ⟨fun mem => none _ mem (by decide), fun mem => none _ mem (by decide)⟩
  · rintro ⟨opening, closing⟩ c mem bracket
    rw [Bool.or_eq_true, beq_iff_eq, beq_iff_eq] at bracket
    rcases bracket with rfl | rfl
    · exact opening mem
    · exact closing mem

/-- Where a bracket is opened inside another one, there are two without a closing one between them. -/
theorem Nests.infix_brackets {text : List Char} (h : Nests text) : ['(', '('] <:+: brackets text := by
  obtain ⟨before, inside, after, rfl, opens⟩ := h
  have whole : brackets (before ++ '(' :: (inside ++ '(' :: after)) =
      brackets before ++ '(' :: (brackets inside ++ '(' :: brackets after) := by
    simp [brackets]
  rw [whole]
  cases found : brackets inside with
  | nil => exact ⟨brackets before, brackets after, by simp⟩
  | cons c rest =>
    obtain ⟨front, back, split, none, bracket, -⟩ := List.filter_eq_cons_iff.1 found
    rw [Bool.or_eq_true, beq_iff_eq, beq_iff_eq] at bracket
    rcases bracket with rfl | rfl
    · exact ⟨brackets before, rest ++ '(' :: brackets after, by simp⟩
    · -- The first bracket inside would close the outer one.
      have closed := opens (front ++ [')']) ⟨back, by simp [split]⟩
      have opening : '(' ∉ front := fun mem => none _ mem (by decide)
      have counted : front.count '(' = 0 := List.count_eq_zero.2 opening
      simp [counted] at closed

theorem Identifier.brackets_of_read {text : List Char} {name : Identifier}
    (h : Identifier.read text = .ok name) : brackets text = [] := by
  have spelled := Identifier.isSpelling_of_read? (Identifier.read_eq_ok_iff.1 h)
  exact brackets_eq_nil_iff.2
    ⟨notMem_of_isSpelling spelled (by decide), notMem_of_isSpelling spelled (by decide)⟩

/-- Two texts without brackets have none when they are put together around a mark. -/
theorem brackets_cut {sep : Char} {text before after : List Char} (split : cut sep text = some (before, after))
    (mark : brackets [sep] = []) (first : brackets before = []) (second : brackets after = []) :
    brackets text = [] := by
  rw [(cut_eq_some_iff.1 split).1, brackets_append, first, ← List.singleton_append, brackets_append, mark,
    second]
  rfl

theorem OutputColumn.brackets_of_read {text : List Char} {c : OutputColumn}
    (h : OutputColumn.read text = .ok c) : brackets text = [] := by
  rw [OutputColumn.read] at h
  split at h
  next label column split =>
    obtain ⟨name, first, h⟩ := bind_eq_ok_iff.1 h
    obtain ⟨other, second, -⟩ := bind_eq_ok_iff.1 h
    exact brackets_cut split rfl (Identifier.brackets_of_read second) (Identifier.brackets_of_read first)
  next =>
    obtain ⟨name, first, -⟩ := bind_eq_ok_iff.1 h
    exact Identifier.brackets_of_read first

theorem brackets_of_readLabel {head target : List Char} {label : Option Identifier}
    (h : readLabel head = .ok (label, target)) (behind : brackets target = []) : brackets head = [] := by
  rw [readLabel] at h
  split at h
  next text rest split =>
    obtain ⟨name, first, same⟩ := map_eq_ok_iff.1 h
    obtain ⟨-, rfl⟩ := Prod.mk.inj same
    exact brackets_cut split rfl (Identifier.brackets_of_read first) behind
  next =>
    obtain ⟨-, rfl⟩ := Prod.mk.inj (Except.ok.inj h)
    exact behind

theorem brackets_of_readTarget {target : List Char} {reference : Identifier × Option Identifier}
    (h : readTarget target = .ok reference) : brackets target = [] := by
  rw [readTarget] at h
  split at h
  next table hint split =>
    obtain ⟨name, first, h⟩ := bind_eq_ok_iff.1 h
    obtain ⟨other, second, -⟩ := bind_eq_ok_iff.1 h
    exact brackets_cut split rfl (Identifier.brackets_of_read first) (Identifier.brackets_of_read second)
  next =>
    obtain ⟨name, first, -⟩ := map_eq_ok_iff.1 h
    exact Identifier.brackets_of_read first

theorem brackets_of_readEmbedColumn {text : List Char} {c : Option OutputColumn}
    (h : readEmbedColumn text = .ok c) : brackets text = [] := by
  rw [readEmbedColumn] at h
  split at h
  next bare =>
    rw [Bool.or_eq_true, List.isEmpty_iff, beq_iff_eq] at bare
    rcases bare with rfl | rfl <;> rfl
  next =>
    obtain ⟨c, column, -⟩ := map_eq_ok_iff.1 h
    exact OutputColumn.brackets_of_read column

theorem EmbedColumns.brackets_of_read {inner : List Char} {columns : EmbedColumns}
    (h : EmbedColumns.read inner = .ok columns) : brackets inner = [] := by
  obtain ⟨found, each, -⟩ := bind_eq_ok_iff.1 h
  have whole : [','].intercalate (fields ',' inner) = inner := by
    rw [fields_eq_splitOn, List.intercalate_splitOn]
  rw [← whole, brackets_intercalate, List.flatMap_eq_nil_iff]
  intro part mem
  obtain ⟨column, read⟩ := exists_ok_of_mem each (List.mem_map_of_mem mem)
  rw [← brackets_trim]
  exact brackets_of_readEmbedColumn read

/-- **The brackets of an accepted item are none or one pair.** -/
theorem SelectItem.brackets_of_read {text : List Char} {item : SelectItem} (h : read text = .ok item) :
    brackets text = [] ∨ brackets text = ['(', ')'] := by
  rcases read_cases h with ⟨rfl, -⟩ | ⟨c, column, -⟩ | ⟨head, inner, e, rfl, embed, -⟩
  · exact .inl rfl
  · exact .inl (OutputColumn.brackets_of_read column)
  · obtain ⟨target, first, second, third⟩ := readEmbed_eq_ok_iff.1 embed
    have front := brackets_of_readLabel first (brackets_of_readTarget second)
    have inside := EmbedColumns.brackets_of_read third
    refine .inr ?_
    rw [← List.singleton_append, brackets_append, brackets_append, brackets_append, front, inside]
    rfl

/-- Pairs one after the other have no bracket inside another one. -/
theorem not_infix_pairs {parts : List (List Char)} (pairs : ∀ part ∈ parts, part = [] ∨ part = ['(', ')']) :
    ¬ ['(', '('] <:+: parts.flatten := by
  induction parts with
  | nil => simp
  | cons part rest ih =>
    obtain ⟨first, others⟩ := List.forall_mem_cons.1 pairs
    rw [List.flatten_cons]
    rcases first with rfl | rfl
    · exact ih others
    · intro nests
      rw [List.cons_append, List.infix_cons_iff, List.cons_append, List.infix_cons_iff] at nests
      rcases nests with front | front | later
      · simp at front
      · simp at front
      · exact ih others later

/-- **An accepted select text has no bracket inside another one.** -/
theorem SelectItem.not_nests_of_readList {raw : String} {items : List SelectItem}
    (h : readList raw = .ok items) : ¬ Nests raw.toList := by
  refine fun nests => absurd nests.infix_brackets ?_
  rcases readList_cases h with ⟨blank, -⟩ | ⟨parts, split, each⟩
  · rw [← brackets_trim, blank]
    decide
  · rw [← intercalate_of_splitFrom split, brackets_intercalate, List.flatMap_def]
    refine not_infix_pairs (List.forall_mem_map.2 fun part mem => ?_)
    obtain ⟨item, read⟩ := exists_ok_of_mem each mem
    rw [← brackets_trim]
    exact brackets_of_read read

/-! ## §6 — both ways -/

/-- **Select lists and sort orders survive being written and read.** Every list is read back from what is
written for it; what was read from any text may be written and read again; and a select text with an embed
inside an embed is refused. -/
theorem lists_round_trip :
    (∀ items : List SelectItem, items ≠ [] → (∀ item ∈ items, item.Filled) →
        SelectItem.readList (selectValue items) = .ok items) ∧
      (∀ terms : List OrderTerm, OrderTerm.readList (orderValue terms) = terms) ∧
      (∀ raw items, SelectItem.readList raw = .ok items →
        SelectItem.readList (selectValue items) = .ok items) ∧
      (∀ raw, OrderTerm.readList (orderValue (OrderTerm.readList raw)) = OrderTerm.readList raw) ∧
      ∀ raw : String, Nests raw.toList → ∃ e, SelectItem.readList raw = .error e := by
  refine ⟨fun items => SelectItem.readList_selectValue, OrderTerm.readList_orderValue,
    fun raw items read => ?_, fun raw => OrderTerm.readList_orderValue _, fun raw nests => ?_⟩
  · obtain ⟨some, filled⟩ := SelectItem.filled_of_readList read
    exact SelectItem.readList_selectValue some filled
  · exact exists_error_iff.2 fun items read => SelectItem.not_nests_of_readList read nests

/-- A list with every kind of item, a text with blanks and capitals, and an embed that is refused. -/
theorem lists_round_trip_mixed :
    let name (text : String) (h : isCanonical text.toList = true) : Identifier := ⟨text, h⟩
    let id := name "id" (by decide)
    let author := name "author" (by decide)
    let users := name "users" (by decide)
    let writer := name "written_by" (by decide)
    let whole : SelectItem := .embed ⟨none, users, none, .all⟩
    let columns : EmbedColumns := .listed [⟨id, some writer⟩, ⟨id, none⟩]
    let related : SelectItem := .embed ⟨some author, users, some writer, columns⟩
    let items : List SelectItem := [.all, .column ⟨writer, some author⟩, related, whole]
    selectValue items = "*,author:written_by,author:users!written_by(written_by:id,id),users(*)" ∧
      SelectItem.readList (selectValue items) = .ok items ∧
      SelectItem.readList " Users( ) ,id" = .ok [whole, .column ⟨id, none⟩] ∧
      SelectItem.readList (selectValue [whole, .column ⟨id, none⟩]) =
        .ok [whole, .column ⟨id, none⟩] ∧
      ∃ e, SelectItem.readList "users(id,author(id))" = .error e := by
  intro name id author users writer whole columns related items
  obtain ⟨readBack, -, again, -, refused⟩ := lists_round_trip
  have read : SelectItem.readList " Users( ) ,id" = .ok [whole, .column ⟨id, none⟩] := by decide +kernel
  refine ⟨by decide +kernel, readBack items (List.cons_ne_nil _ _) ?_, read, again _ _ read,
    refused _ ⟨"users".toList, "id,author".toList, "id))".toList, rfl, ?_⟩⟩
  · simp [items, related, columns, whole, SelectItem.Filled, EmbedColumns.Filled]
  · intro front within
    have none : ')' ∉ front := fun mem => absurd (within.subset mem) (by decide)
    rw [List.count_eq_zero.2 none]
    exact Nat.zero_le _

end Gateway.Sql
