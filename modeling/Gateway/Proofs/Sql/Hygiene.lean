import Gateway.Proofs.Sql.Alignment
import Gateway.Proofs.Sql.Scope
import Gateway.Proofs.Sql.Where

/-!
# The names that are chosen for a read

A read brings in names of its own: `_e1`, `_e2`, … for the tables of its embeds, and `_r` for the rows
that are gathered. Client names may look the same, so a table `_e1` or a column `_r` can capture what was
meant for another. `Query.Hygienic` says that this does not happen, as the scopes of the text have it:
every lookup of a related row reaches the row of the outer table, and `json_agg` gathers whole rows.

`Query.readReferences_select` and `Query.readGathering_select` say what each name of a read belongs to,
and from them `Query.hygienic_iff` says exactly which reads are hygienic.
-/

namespace Gateway.Sql

open Template (Passes Yields joined listed paren tokens tokens_append tokens_paren)

/-! ## §1 — conditions, orders and pages -/

namespace Query

/-- What stands behind the range of a read. -/
def selection (q : Query) : Template :=
  whereClause q.filters ++ q.pageTail

theorem nested_selection (q : Query) : Nested Token.isQuiet q.selection.tokens := by
  have condition : Nested Token.isQuiet (whereClause q.filters).tokens := by
    cases q.filters with
    | nil => exact .nil
    | cons f rest =>
      refine Nested.template (s := [.space, .word .whereWord, .space]) (.of_check rfl)
        (Filter.nested_separator .and fun t ht => ?_)
      obtain ⟨g, -, rfl⟩ := List.mem_map.1 ht
      exact g.nested_template
  have order : Nested Token.isQuiet q.orderClause.tokens := by
    unfold orderClause
    split
    · exact .nil
    · refine Nested.template (s := [.space, .word .order, .space, .word .byWord, .space])
        (.of_check rfl) (.listed rfl fun t ht => ?_)
      obtain ⟨⟨column, direction, nulls⟩, -, rfl⟩ := List.mem_map.1 ht
      cases direction <;> cases nulls with
      | none => exact .of_check rfl
      | some place => cases place <;> exact .of_check rfl
  have page (word : Word) (n : Option Nat) : Nested Token.isQuiet (pageClause word n).tokens := by
    cases n <;> exact .of_check rfl
  exact condition.template (order.template ((page _ _).template (page _ _)))

/-- The range of a read is known by the name of its table. -/
theorem rangeName_selection (q : Query) :
    rangeName (.name q.table.text :: q.selection.tokens) = some q.table.text := by
  unfold selection pageTail orderClause
  cases q.filters with
  | cons f rest => rfl
  | nil =>
    cases q.order with
    | cons term rest => rfl
    | nil => cases q.limit <;> cases q.offset <;> rfl

end Query

/-! ## §2 — embeds -/

/-- The references to the columns of a related row, which belong to the subquery. -/
def columnReferences (related : Identifier) : EmbedColumns → List Reference
  | .all => []
  | .listed columns => columns.map fun c => ⟨related.text, c.column.text, some 0⟩

/-- An embed for which there is a referring column. -/
structure Correlation where
  /-- The place of the embed among those of its list, from `1`. -/
  index : Nat
  embed : Embed
  /-- The column of the outer table that refers to the related one. -/
  column : Identifier

namespace Correlation

/-- The alias of the related table. -/
def related (c : Correlation) : Identifier :=
  .embedAlias c.index

/-- **The references of the subquery**, when the outer row is looked up `level` blocks out. -/
def expected (outer : Identifier) (level : Nat) (c : Correlation) : List Reference :=
  columnReferences c.related c.embed.columns
    ++ [⟨c.related.text, "id", some 0⟩, ⟨outer.text, c.column.text, some level⟩]

/-- The block that a reference to the outer table belongs to: the subquery itself where the alias of
the related table is the name of the outer one. -/
def reached (outer : Identifier) (c : Correlation) : Nat :=
  if outer = c.related then 0 else 1

/-- The subquery behind the columns that it selects. -/
def lookup (outer : Identifier) (c : Correlation) : Template :=
  [.space, .word .fromWord, .space, .name c.embed.table] ++ asName c.related
    ++ [.space, .word .whereWord, .space, .name c.related, .symbol .dot, .name .id]
    ++ [.space, .symbol .equal, .space, .name outer, .symbol .dot, .name c.column]
    ++ [.space, .word .limit, .space, .numeral 1]

/-- The subquery behind its `SELECT`. -/
def body (outer : Identifier) (c : Correlation) : Template :=
  c.embed.columns.template c.related ++ c.lookup outer

end Correlation

/-- **The aliases of related tables are different.** -/
theorem Identifier.embedAlias_injective : Function.Injective Identifier.embedAlias := by
  intro i j same
  have texts : ("_e" ++ toString i).toList = ("_e" ++ toString j).toList :=
    congrArg (fun n : Identifier => n.text.toList) same
  rw [String.toList_append, String.toList_append] at texts
  exact Text.repr_injective (String.toList_inj.1 (List.append_cancel_left texts))

namespace EmbedColumns

/-- A column of the related row as an argument, behind its key. -/
def argument (related : Identifier) (c : OutputColumn) : Template :=
  [.literal c.key, .symbol .comma, .space, .name related, .symbol .dot, .name c.column]

theorem nested_template (columns : EmbedColumns) (related : Identifier) :
    Nested Token.isAny (columns.template related).tokens := by
  cases columns with
  | all => exact Nested.template (s := [.word .rowToJson]) (.of_check rfl) (.paren (.of_check rfl))
  | listed columns =>
    refine Nested.template (s := [.word .jsonBuildObject]) (.of_check rfl)
      (.paren (.listed rfl fun t ht => ?_))
    obtain ⟨c, -, rfl⟩ := List.mem_map.1 ht
    exact .of_check rfl

theorem passes_template (columns : EmbedColumns) (related : Identifier) :
    Passes ["FROM"] 0 (columns.template related) := by
  have arguments (t : Template) (nested : Nested Token.isAny t.tokens) :
      Passes ["FROM"] 0 (paren t) := .paren (nested.passes _)
  cases columns with
  | all =>
    exact Passes.append (s := [.word .rowToJson]) (Template.passes_of_check rfl)
      (arguments [.name related] (.of_check rfl))
  | listed columns =>
    refine Passes.append (s := [.word .jsonBuildObject]) (Template.passes_of_check rfl)
      (arguments _ (.listed rfl fun t ht => ?_))
    obtain ⟨c, -, rfl⟩ := List.mem_map.1 ht
    exact .of_check rfl

/-- The columns of the related row belong to the subquery. -/
theorem references_template (columns : EmbedColumns) {related : Identifier} {brackets : List Bracket}
    (here : Bracket.level brackets related.text = some 0) :
    Yields (references brackets) EndsReference (columns.template related)
      (columnReferences related columns) := by
  intro rest ends
  cases columns with
  | all =>
    have quiet : Nested Token.isQuiet (all.template related).tokens :=
      Nested.template (s := [.word .rowToJson]) (.of_check rfl) (.paren (.of_check rfl))
    exact quiet.references_append brackets ends
  | listed columns =>
    let list : Template := Template.listed (columns.map (argument related))
    have shape : ((EmbedColumns.listed columns).template related).tokens ++ rest =
        .word "json_build_object" :: .symbol "(" :: (list.tokens ++ .symbol ")" :: rest) := by
      show tokens ([.word .jsonBuildObject] ++ paren list) ++ rest = _
      rw [tokens_append, tokens_paren, List.append_assoc, List.cons_append, List.append_assoc]
      rfl
    have plain : Bracket.opened (list.tokens ++ .symbol ")" :: rest) = .plain := by
      cases columns with
      | nil => rfl
      | cons c more =>
        simp only [list, List.map_cons, Template.listed, Template.joined_cons, tokens_append,
          List.append_assoc]
        rfl
    have opens : references brackets
        (.word "json_build_object" :: .symbol "(" :: (list.tokens ++ .symbol ")" :: rest)) =
        references (.plain :: brackets) (list.tokens ++ .symbol ")" :: rest) :=
      congrArg (fun b => references (b :: brackets) _) plain
    have each : List.Forall₂ (Yields (references (.plain :: brackets)) EndsReference)
        (columns.map (argument related))
        (columns.map fun c => [⟨related.text, c.column.text, some 0⟩]) := by
      rw [List.forall₂_map_left_iff, List.forall₂_map_right_iff, List.forall₂_same]
      intro c _ rest ends
      have level : Bracket.level (.plain :: brackets) related.text = some 0 := here
      show references (.plain :: brackets)
        (.name related.text :: .symbol "." :: .name c.column.text :: rest) = _
      rw [references_column _ _ _ ends, level]
      rfl
    have closes : references (.plain :: brackets) (.symbol ")" :: rest) = references brackets rest :=
      rfl
    have read := Yields.listed (endsReference_cons (by decide)) (fun _ => rfl) each
      (.symbol ")" :: rest) (endsReference_cons (by decide) rest)
    rw [shape, opens, read, closes, ← List.flatMap_def, ← List.map_eq_flatMap]
    rfl

end EmbedColumns

namespace Correlation

variable (outer : Identifier) (c : Correlation)

theorem nested_body : Nested Token.isAny (c.body outer).tokens :=
  (c.embed.columns.nested_template c.related).template (.of_check rfl)

/-- **The subquery has the related table for its range**, under its alias. -/
theorem blockRange_body (rest : List (Token Param)) :
    blockRange ((c.body outer).tokens ++ .symbol ")" :: rest) = some c.related.text := by
  rw [blockRange, (c.nested_body outer).splitClosing_closed, body, tokens_append,
    c.embed.columns.passes_template c.related 0 (Nat.le_refl 0)]
  rfl

/-- A name is looked up in the subquery before the block around it. -/
theorem level_name (name : Identifier) :
    Bracket.level [.block (some c.related.text), .block (some outer.text)] name.text =
      if name = c.related then some 0 else if name = outer then some 1 else none := by
  simp only [Bracket.level, List.filterMap_cons, List.filterMap_nil, Bracket.range?, List.idxOf?_cons,
    List.idxOf?_nil, beq_iff_eq, Option.some.injEq, Identifier.text_inj, eq_comm (b := name)]
  split
  · rfl
  · split <;> rfl

/-- **What the subquery refers to.** -/
theorem references_body (rest : List (Token Param)) :
    references [.block (some c.related.text), .block (some outer.text)]
      ((c.body outer).tokens ++ .symbol ")" :: rest) =
        c.expected outer (c.reached outer) ++ references [.block (some outer.text)] rest := by
  let inside : List Bracket := [.block (some c.related.text), .block (some outer.text)]
  have own : Bracket.level inside c.related.text = some 0 := (c.level_name outer _).trans (if_pos rfl)
  have looked : Bracket.level inside outer.text = some (c.reached outer) := by
    rw [level_name, reached]
    split
    · rfl
    · exact if_pos rfl
  have ends : EndsReference ((c.lookup outer).tokens ++ .symbol ")" :: rest) := nofun
  rw [body, tokens_append, List.append_assoc, c.embed.columns.references_template own _ ends, expected,
    List.append_assoc]
  refine congrArg (columnReferences _ _ ++ ·) ?_
  show references inside (.name c.related.text :: .symbol "." :: .name "id" :: .symbol "="
    :: .name outer.text :: .symbol "." :: .name c.column.text :: .word "LIMIT" :: .numeral 1
    :: .symbol ")" :: rest) = _
  rw [references_column _ _ _ (endsReference_cons (by decide) _), own]
  refine congrArg (_ :: ·) ?_
  show references inside (.name outer.text :: .symbol "." :: .name c.column.text :: .word "LIMIT"
    :: .numeral 1 :: .symbol ")" :: rest) = _
  rw [references_column _ _ _ (endsReference_cons (by decide) _), looked]
  rfl

end Correlation

namespace Embed

variable {outer : Identifier} {r : EmbedResolver} {index : Nat} {e : Embed}

/-- The embed with its referring column, when there is one. -/
def correlation? (outer : Identifier) (r : EmbedResolver) (index : Nat) (e : Embed) :
    Option Correlation :=
  (r.resolve outer e).map (⟨index, e, ·⟩)

/-- An embed with a referring column is a subquery under its key. -/
theorem template_of_some {c : Correlation} (found : e.correlation? outer r index = some c) :
    e.template outer r index = paren ([.word .select, .space] ++ c.body outer) ++ asName e.key := by
  obtain ⟨reference, resolved, rfl⟩ := Option.map_eq_some_iff.1 found
  simp only [template, resolved, Correlation.body, Correlation.lookup, List.append_assoc]
  rfl

/-- An embed without one is nothing under its key. -/
theorem template_of_none (none : e.correlation? outer r index = none) :
    e.template outer r index = .word .null :: asName e.key := by
  rw [template, Option.map_eq_none_iff.1 none]

theorem tokens_template {c : Correlation} (found : e.correlation? outer r index = some c)
    (rest : List (Token Param)) : (e.template outer r index).tokens ++ rest =
      .symbol "(" :: .word "SELECT" :: ((c.body outer).tokens
        ++ .symbol ")" :: .word "AS" :: .name e.key.text :: rest) := by
  rw [template_of_some found, tokens_append, tokens_paren, tokens_append]
  simp only [List.cons_append, List.append_assoc]
  rfl

theorem nested_template (outer : Identifier) (r : EmbedResolver) (index : Nat) (e : Embed) :
    Nested Token.isAny (e.template outer r index).tokens := by
  cases found : e.correlation? outer r index with
  | none =>
    rw [template_of_none found]
    exact .of_check rfl
  | some c =>
    rw [template_of_some found]
    exact (Nested.template (s := [.word .select, .space]) (.of_check rfl)
      (c.nested_body outer)).paren.template (.of_check rfl)

/-- The range of a subquery is not that of the statement. -/
theorem passes_from (outer : Identifier) (r : EmbedResolver) (index : Nat) (e : Embed) :
    Passes ["FROM"] 0 (e.template outer r index) := by
  cases found : e.correlation? outer r index with
  | none =>
    rw [template_of_none found]
    exact Template.passes_of_check rfl
  | some c =>
    have inner := Nested.template (s := [.word .select, .space]) (.of_check rfl)
      (c.nested_body outer)
    rw [template_of_some found]
    exact Passes.append (.paren (inner.passes _)) (Template.passes_of_check rfl)

/-- **An embed refers to what its subquery refers to.** -/
theorem references_template (e : Embed) :
    Yields (references [.block (some outer.text)]) EndsReference (e.template outer r index)
      ((e.correlation? outer r index).toList.flatMap fun c => c.expected outer (c.reached outer)) := by
  intro rest ends
  cases found : e.correlation? outer r index with
  | none =>
    rw [template_of_none found]
    have quiet : Nested Token.isQuiet (tokens (.word .null :: asName e.key)) := .of_check rfl
    exact quiet.references_append _ ends
  | some c =>
    let key : List (Token Param) := .word "AS" :: .name e.key.text :: rest
    have quiet : Nested Token.isQuiet [.word "AS", .name e.key.text] := .of_check rfl
    have skips : references [.block (some outer.text)] key =
        references [.block (some outer.text)] rest := quiet.references_append _ ends
    have opens : Bracket.opened (.word "SELECT" :: ((c.body outer).tokens ++ .symbol ")" :: key)) =
        .block (some c.related.text) := congrArg Bracket.block (c.blockRange_body outer key)
    rw [tokens_template found]
    show references (Bracket.opened (.word "SELECT" :: ((c.body outer).tokens ++ .symbol ")" :: key))
      :: [.block (some outer.text)]) ((c.body outer).tokens ++ .symbol ")" :: key) = _
    rw [opens, c.references_body outer, skips, Option.toList_some, List.flatMap_singleton]

/-- An embed gives its key to its column. -/
theorem outputNames_template (e : Embed) :
    Yields (outputNames 0) EndsItem (e.template outer r index) [e.key.text] := by
  intro rest ends
  have key : outputNames 0 (.word "AS" :: .name e.key.text :: rest) =
      e.key.text :: outputNames 0 rest := by
    show (outputName? (.name e.key.text :: rest)).toList ++ outputNames 0 rest = _
    rw [ends]
    rfl
  cases found : e.correlation? outer r index with
  | none =>
    rw [template_of_none found]
    exact key
  | some c =>
    rw [tokens_template found]
    exact ((c.nested_body outer).outputNames_append 0 _).trans key

end Embed

/-! ## §3 — select lists -/

namespace SelectItem

variable (outer : Identifier) (r : EmbedResolver)

/-- The embeds of a list for which there is a referring column; `embeds` related tables came before. -/
def correlations (embeds : Nat) : List SelectItem → List Correlation
  | [] => []
  | .embed e :: rest =>
    (e.correlation? outer r (embeds + 1)).toList ++ correlations (embeds + 1) rest
  | .all :: rest | .column _ :: rest => correlations embeds rest

/-- The key of an item that is one column. -/
def key? : SelectItem → Option Identifier
  | all => none
  | column c => some c.key
  | embed e => some e.key

/-- Related tables are numbered upwards. -/
theorem lt_of_mem_correlations {embeds : Nat} {items : List SelectItem} {c : Correlation}
    (mem : c ∈ correlations outer r embeds items) : embeds < c.index := by
  induction items generalizing embeds with
  | nil => cases mem
  | cons item rest ih =>
    cases item with
    | all => exact ih mem
    | column => exact ih mem
    | embed e =>
      rcases List.mem_append.1 mem with here | later
      · obtain ⟨reference, -, rfl⟩ := Option.map_eq_some_iff.1 (Option.mem_toList.1 here)
        exact Nat.lt_succ_self embeds
      · exact Nat.lt_of_succ_lt (ih later)

/-- **No two embeds of a list have one alias.** -/
theorem nodup_correlations (embeds : Nat) (items : List SelectItem) :
    ((correlations outer r embeds items).map Correlation.related).Nodup := by
  induction items generalizing embeds with
  | nil => exact List.nodup_nil
  | cons item rest ih =>
    cases item with
    | all => exact ih embeds
    | column => exact ih embeds
    | embed e =>
      rw [correlations, List.map_append, List.nodup_append]
      refine ⟨?_, ih (embeds + 1), ?_⟩
      · cases e.correlation? outer r (embeds + 1) <;> simp
      · rintro _ first _ second rfl
        obtain ⟨c, here, rfl⟩ := List.mem_map.1 first
        obtain ⟨d, later, same⟩ := List.mem_map.1 second
        obtain ⟨reference, -, rfl⟩ := Option.map_eq_some_iff.1 (Option.mem_toList.1 here)
        have above := lt_of_mem_correlations outer r later
        rw [Identifier.embedAlias_injective same] at above
        exact Nat.lt_irrefl _ above

/-- A property of templates that every item has. -/
theorem forall_templates {holds : Template → Prop} (star : holds [.symbol .star])
    (column : ∀ c : OutputColumn, holds (.name c.column :: (c.label.map asName).getD []))
    (embed : ∀ index (e : Embed), holds (e.template outer r index)) (embeds : Nat)
    (items : List SelectItem) :
    ∀ t ∈ templates outer r embeds items, holds t := by
  induction items generalizing embeds with
  | nil => simp [templates]
  | cons item rest ih =>
    intro t ht
    cases item with
    | all =>
      rcases List.mem_cons.1 ht with rfl | ht
      · exact star
      · exact ih embeds t ht
    | column c =>
      rcases List.mem_cons.1 ht with rfl | ht
      · exact column c
      · exact ih embeds t ht
    | embed e =>
      rcases List.mem_cons.1 ht with rfl | ht
      · exact embed _ e
      · exact ih (embeds + 1) t ht

/-- **What a list refers to**: the outer row for each embed with a referring column. -/
theorem references_templates (embeds : Nat) (items : List SelectItem) :
    ∃ found, List.Forall₂ (Yields (references [.block (some outer.text)]) EndsReference)
        (templates outer r embeds items) found ∧
      found.flatten = (correlations outer r embeds items).flatMap fun c =>
        c.expected outer (c.reached outer) := by
  induction items generalizing embeds with
  | nil => exact ⟨[], .nil, rfl⟩
  | cons item rest ih =>
    cases item with
    | all =>
      obtain ⟨found, each, same⟩ := ih embeds
      have star : Nested Token.isQuiet (tokens [.symbol .star]) := .of_check rfl
      exact ⟨[] :: found, .cons (fun rest ends => star.references_append _ ends) each, same⟩
    | column c =>
      obtain ⟨found, each, same⟩ := ih embeds
      refine ⟨[] :: found, .cons (fun rest ends => ?_) each, same⟩
      refine Nested.references_append ?_ _ ends
      cases c.label <;> exact .of_check rfl
    | embed e =>
      obtain ⟨found, each, same⟩ := ih (embeds + 1)
      refine ⟨_, .cons e.references_template each, ?_⟩
      rw [List.flatten_cons, same, correlations, List.flatMap_append]

/-- **The keys that a list gives to its columns.** -/
theorem outputNames_templates (embeds : Nat) (items : List SelectItem) :
    ∃ found, List.Forall₂ (Yields (outputNames 0) EndsItem) (templates outer r embeds items) found ∧
      found.flatten = (items.filterMap key?).map (·.text) := by
  induction items generalizing embeds with
  | nil => exact ⟨[], .nil, rfl⟩
  | cons item rest ih =>
    cases item with
    | all =>
      obtain ⟨found, each, same⟩ := ih embeds
      exact ⟨[] :: found, .cons (fun _ _ => rfl) each, same⟩
    | column c =>
      obtain ⟨found, each, same⟩ := ih embeds
      refine ⟨[c.key.text] :: found, .cons (fun rest ends => ?_) each, ?_⟩
      · obtain ⟨column, label⟩ := c
        cases label with
        | none =>
          show (outputName? (.name column.text :: rest)).toList ++ outputNames 0 rest = _
          rw [ends]
          rfl
        | some label =>
          show (outputName? (.name label.text :: rest)).toList ++ outputNames 0 rest = _
          rw [ends]
          rfl
      · exact congrArg (c.key.text :: ·) same
    | embed e =>
      obtain ⟨found, each, same⟩ := ih (embeds + 1)
      refine ⟨[e.key.text] :: found, .cons e.outputNames_template each, ?_⟩
      exact congrArg (e.key.text :: ·) same

end SelectItem

/-! ## §4 — reads -/

namespace Query

variable (q : Query) (r : EmbedResolver)

/-- The embeds of a read for which there is a referring column. -/
def correlations : List Correlation :=
  SelectItem.correlations q.table r 0 q.select

/-- The keys of the columns that the client lists. -/
def keys : List Identifier :=
  q.select.filterMap SelectItem.key?

theorem template_select : (q.selectStatement r).template =
    [.word .select, .space] ++ (selectList q.table r q.select
      ++ ([.space, .word .fromWord, .space, .name q.table] ++ q.selection)) := by
  simp only [selectStatement, selection, pageTail, List.append_assoc]

/-- The tokens of a read behind its `SELECT`. -/
def bodyTokens : List (Token Param) :=
  (selectList q.table r q.select).tokens
    ++ .word "FROM" :: .name q.table.text :: q.selection.tokens

theorem tokens_select : (q.selectStatement r).template.tokens =
    .word "SELECT" :: q.bodyTokens r := by
  rw [template_select, tokens_append, tokens_append, tokens_append]
  rfl

theorem nested_bodyTokens : Nested Token.isAny (q.bodyTokens r) := by
  have list : Nested Token.isAny (selectList q.table r q.select).tokens := by
    refine .listed rfl (SelectItem.forall_templates q.table r (.of_check rfl) (fun c => ?_)
      (fun index e => e.nested_template q.table r index) 0 q.select)
    cases c.label <;> exact .of_check rfl
  exact list.append (.cons rfl rfl (.cons rfl rfl q.nested_selection.any))

/-- The list of a read goes up to its `FROM`. -/
theorem splitWord_bodyTokens : splitWord ["FROM"] 0 (q.bodyTokens r) =
    ((selectList q.table r q.select).tokens,
      .word "FROM" :: .name q.table.text :: q.selection.tokens) := by
  have passes : Passes ["FROM"] 0 (selectList q.table r q.select) := by
    refine Template.passes_listed (SelectItem.forall_templates q.table r
      (Template.passes_of_check rfl) (fun c => ?_) (fun index e => e.passes_from q.table r index) 0
      q.select)
    cases c.label <;> exact Template.passes_of_check rfl
  rw [bodyTokens, passes 0 (Nat.le_refl 0)]
  exact congrArg (·, _) (List.append_nil _)

/-- **The references of a read**: those of its subqueries, each of which reaches the row of the outer
table unless its own alias is the name of that table. -/
theorem readReferences_select :
    readReferences (q.selectStatement r).sql (q.selectStatement r).params =
      some ((q.correlations r).flatMap fun c => c.expected q.table (c.reached q.table)) := by
  let tail : List (Token Param) := .word "FROM" :: .name q.table.text :: q.selection.tokens
  have range : Bracket.opened (.word "SELECT" :: q.bodyTokens r) = .block (some q.table.text) := by
    show Bracket.block (blockRange (q.bodyTokens r)) = _
    rw [blockRange, (q.nested_bodyTokens r).splitClosing_all, splitWord_bodyTokens]
    exact congrArg Bracket.block q.rangeName_selection
  have none : references [.block (some q.table.text)] tail = [] := by
    have quiet : Nested Token.isQuiet tail := .cons rfl rfl (.cons rfl rfl q.nested_selection)
    have ends : EndsReference [] := (Option.some_ne_none _).symm
    rw [← List.append_nil tail, quiet.references_append _ ends, references]
  have ends : EndsReference tail := by
    intro point
    cases point
  obtain ⟨found, each, same⟩ := SelectItem.references_templates q.table r 0 q.select
  have list := Yields.listed (endsReference_cons (by decide)) (fun _ => rfl) each tail ends
  rw [readReferences, Statement.sql, Statement.params,
    Template.read_sql (q.legible_selectStatement r), Option.map_some, tokens_select, range]
  show some (references [.block (some q.table.text)] (q.bodyTokens r)) = _
  rw [bodyTokens, selectList, list, none, same, List.append_nil]
  rfl

theorem outputNames_select :
    outputNames 0 (selectList q.table r q.select).tokens = q.keys.map (·.text) := by
  obtain ⟨found, each, same⟩ := SelectItem.outputNames_templates q.table r 0 q.select
  have ends : EndsItem [] := fun _ => rfl
  have list := Yields.listed (fun _ _ => rfl) (fun _ => rfl) each [] ends
  rw [List.append_nil, same] at list
  exact list.trans (List.append_nil _)

/-- **The rows of a read are gathered** from columns with the keys that the client lists, under the row
alias. -/
theorem readGathering_select : ∃ wrapped, (q.selectStatement r).jsonRows = some wrapped ∧
    readGathering (Template.sql wrapped) (q.selectStatement r).params =
      some ⟨Identifier.rowAlias.text, q.keys.map (·.text), some Identifier.rowAlias.text⟩ := by
  let behind : List (Token Param) := [.word "AS", .name Identifier.rowAlias.text]
  have closed := (q.nested_bodyTokens r).splitClosing_closed behind
  have shape : (Statement.gathered ++ paren (q.selectStatement r).template
      ++ [.space, .word .asWord, .space, .name .rowAlias] : Template).tokens =
      .word "SELECT" :: .word "coalesce" :: .symbol "(" :: .word "json_agg" :: .symbol "("
        :: .name Identifier.rowAlias.text :: .symbol ")" :: .symbol "," :: .literal "[]" :: .symbol "::"
        :: .word "json" :: .symbol ")" :: .word "FROM" :: .symbol "(" :: .word "SELECT"
        :: (q.bodyTokens r ++ .symbol ")" :: behind) := by
    rw [tokens_append, tokens_append, tokens_paren, tokens_select, List.append_assoc, List.cons_append,
      List.append_assoc]
    rfl
  refine ⟨_, rfl, ?_⟩
  rw [← Statement.params_jsonRows rfl, readGathering,
    Template.readTokens_sql (Statement.spaced_jsonRows rfl (q.legible_selectStatement r)),
    Option.bind_some, shape]
  show Gathering.over? Identifier.rowAlias.text (q.bodyTokens r ++ .symbol ")" :: behind) = _
  rw [Gathering.over?, closed]
  show some (Gathering.mk Identifier.rowAlias.text
    (outputNames 0 (splitWord ["FROM"] 0 (q.bodyTokens r)).1) (some Identifier.rowAlias.text)) = _
  rw [splitWord_bodyTokens, outputNames_select]

/-- **No name of a read is captured**, as its text has it. -/
structure Hygienic : Prop where
  /-- The related tables have different aliases. -/
  aliases : ((q.correlations r).map Correlation.related).Nodup
  /-- Every subquery looks up the row of the outer table, one block out. -/
  lookups : readReferences (q.selectStatement r).sql (q.selectStatement r).params =
    some ((q.correlations r).flatMap (·.expected q.table 1))
  /-- Whole rows are gathered. -/
  rows : ∃ wrapped g, (q.selectStatement r).jsonRows = some wrapped ∧
    readGathering (Template.sql wrapped) (q.selectStatement r).params = some g ∧ g.Whole

/-- The outer row is looked up one block out when no alias is the name of the outer table. -/
theorem flatMap_expected_iff (outer : Identifier) (cs : List Correlation) :
    (cs.flatMap fun c => c.expected outer (c.reached outer)) = cs.flatMap (·.expected outer 1) ↔
      ∀ c ∈ cs, outer ≠ c.related := by
  induction cs with
  | nil => simp
  | cons c rest ih =>
    have first : c.expected outer (c.reached outer) = c.expected outer 1 ↔ outer ≠ c.related := by
      simp [Correlation.expected, Correlation.reached]
    have sizes : (c.expected outer (c.reached outer)).length = (c.expected outer 1).length := by
      simp [Correlation.expected]
    rw [List.forall_mem_cons, ← first, ← ih, List.flatMap_cons, List.flatMap_cons]
    constructor
    · intro same
      exact List.append_inj same sizes
    · rintro ⟨one, others⟩
      rw [one, others]

/-- Whole rows are gathered when no column has the row alias for its key. -/
theorem whole_iff : Gathering.Whole
    ⟨Identifier.rowAlias.text, q.keys.map (·.text), some Identifier.rowAlias.text⟩ ↔
      Identifier.rowAlias ∉ q.keys := by
  simp [Gathering.Whole, Identifier.text_inj]

namespace Hygienic

variable {q : Query} {r : EmbedResolver}

theorem table_ne (h : q.Hygienic r) : ∀ c ∈ q.correlations r, q.table ≠ c.related := by
  have same := (q.readReferences_select r).symm.trans h.lookups
  exact (flatMap_expected_iff q.table _).1 (Option.some.inj same)

theorem rowAlias_notMem (h : q.Hygienic r) : Identifier.rowAlias ∉ q.keys := by
  obtain ⟨wrapped, g, made, gathered, whole⟩ := h.rows
  obtain ⟨wrapped', made', gathered'⟩ := q.readGathering_select r
  obtain rfl := Option.some.inj (made.symm.trans made')
  obtain rfl := Option.some.inj (gathered.symm.trans gathered')
  exact q.whole_iff.1 whole

end Hygienic

/-- **A read is hygienic** exactly when the table has none of the aliases of its own related tables for a
name, and no column that the client lists has the row alias for its key. -/
theorem hygienic_iff : q.Hygienic r ↔
    (∀ c ∈ q.correlations r, q.table ≠ c.related) ∧ Identifier.rowAlias ∉ q.keys := by
  constructor
  · intro h
    exact ⟨h.table_ne, h.rowAlias_notMem⟩
  · rintro ⟨free, listed⟩
    obtain ⟨wrapped, made, gathered⟩ := q.readGathering_select r
    refine ⟨SelectItem.nodup_correlations q.table r 0 q.select, ?_, ?_⟩
    · rw [q.readReferences_select r, (flatMap_expected_iff q.table _).2 free]
    · exact ⟨wrapped, _, made, gathered, q.whole_iff.2 listed⟩

/-- A table `_e1` that refers to itself, and a column `_r`. -/
theorem hygienic_captured :
    let name (text : String) (h : isCanonical text.toList = true) : Identifier := ⟨text, h⟩
    let parent : Embed := ⟨some (name "parent" (by decide)), name "nodes" (by decide),
      some (name "parent_id" (by decide)), .listed [⟨.id, none⟩]⟩
    let nodes : Query := { table := name "_e1" (by decide), select := [.embed parent] }
    let column : Query := { table := name "posts" (by decide), select := [.column ⟨.rowAlias, none⟩] }
    Query.read "_e1" [("select", "parent:nodes!parent_id(id)")] = .ok nodes ∧ ¬ nodes.Hygienic {} ∧
      Query.read "posts" [("select", "_r")] = .ok column ∧ ¬ column.Hygienic {} := by
  intro name parent nodes column
  refine ⟨by with_unfolding_all rfl, ?_, by with_unfolding_all rfl, ?_⟩
  · intro h
    have mem : ⟨1, parent, name "parent_id" (by decide)⟩ ∈ nodes.correlations {} :=
      List.mem_singleton.2 rfl
    exact h.table_ne _ mem (Identifier.text_inj.1 (by decide))
  · intro h
    exact h.rowAlias_notMem (List.mem_singleton.2 rfl)

end Query

end Gateway.Sql
