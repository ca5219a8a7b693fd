import Gateway.Proofs.Sql.Clause
import Gateway.Proofs.Sql.Independence
import Gateway.Proofs.Sql.Legibility
import Gateway.Proofs.Text.TopLevel

/-!
# Statements select the rows that were asked for

Every query parameter without a meaning of its own is one filter, and the filters of a query keep the
order of its parameters. Reading a group never yields one without members, so the condition of every
statement can be read: `where_means_filters` says that in reads, counts, updates and deletes it means what
the filters mean, and that a delete without a filter is refused.
-/

namespace Gateway.Sql

open Gateway.Text
open Template (Passes passes_of_check passes_listed listed paren)

/-! ## §1 — the filters that are read have members -/

/-- A group has an item. -/
theorem groupItems_ne_nil {text : List Char} {parts : List (List Char)}
    (h : groupItems text = .ok parts) : parts ≠ [] := by
  unfold groupItems at h
  split at h
  · simp at h
  · split at h
    · simp at h
    · obtain ⟨pieces, found, rfl⟩ := map_eq_ok_iff.1 h
      unfold items at found
      split at found
      next pieces' split =>
        obtain rfl := Except.ok.inj found
        simpa using splitFrom_ne_nil split
      · simp at found

theorem filled_readItemCondition {item : List Char} {f : Filter}
    (h : readItemCondition item = .ok f) : f.Filled := by
  unfold readItemCondition at h
  split at h
  · simp at h
  · obtain ⟨c, -, rfl⟩ := map_eq_ok_iff.1 h
    trivial

/-- **Every group that is read has a member**, at every depth. -/
theorem filled_readGroup {joint : Connective} {negated : Bool} {text : List Char} {f : Filter}
    (h : readGroup joint negated text = .ok f) : f.Filled := by
  -- By strong induction on the length of the text: the items of a group are shorter.
  induction size : text.length using Nat.strong_induction_on generalizing joint negated text f with
  | _ n ih =>
    subst size
    rw [readGroup_eq] at h
    obtain ⟨parts, split, h⟩ := bind_eq_ok_iff.1 h
    obtain ⟨members, read, rfl⟩ := map_eq_ok_iff.1 h
    refine ⟨?_, Filter.allFilled_iff.2 fun g hg => ?_⟩
    · have sizes := (mapM_eq_ok_iff.1 read).length_eq
      intro none
      rw [none, List.length_nil, List.length_eq_zero_iff] at sizes
      exact groupItems_ne_nil split sizes
    · obtain ⟨item, mem, readItem⟩ := exists_of_mem_mapM read hg
      have shorter := length_lt_of_mem_groupItems split mem
      unfold Sql.readItem at readItem
      cases start : groupStart (readNot item).2 with
      | none =>
        rw [start] at readItem
        exact filled_readItemCondition readItem
      | some opened =>
        rw [start] at readItem
        have inner := Nat.le_trans (length_le_of_groupStart start) (length_readNot_le item)
        exact ih _ (Nat.lt_of_le_of_lt inner shorter) readItem rfl

theorem Filter.filled_read {key value : String} {f : Filter} (h : Filter.read key value = .ok f) :
    f.Filled := by
  unfold Filter.read at h
  split at h
  · exact filled_readGroup h
  · exact filled_readGroup h
  · exact filled_readGroup h
  · exact filled_readGroup h
  · split at h
    · obtain ⟨c, -, rfl⟩ := map_eq_ok_iff.1 h
      trivial
    · split at h
      · simp at h
      · obtain ⟨c, -, rfl⟩ := map_eq_ok_iff.1 h
        trivial

/-! ## §2 — parameters -/

namespace Query

/-- The parameters that have a meaning of their own. -/
def reserved : List String :=
  ["select", "order", "limit", "offset", "on_conflict", "columns"]

/-- The filter that a parameter is. -/
def readFilter (parameter : String × String) : Except Rejection Filter :=
  Filter.read parameter.1 parameter.2

/-- **What a parameter does to a query**: one with a meaning of its own sets its part, and any other one
is a further filter. -/
inductive Adds (q : Query) : String × String → Query → Prop
  | select {value : String} {items : List SelectItem} (read : SelectItem.readList value = .ok items) :
      Adds q ("select", value) { q with select := items }
  | order (value : String) : Adds q ("order", value) { q with order := OrderTerm.readList value }
  | limit {value : String} {n : Nat} (read : readCount .limit value = .ok n) :
      Adds q ("limit", value) { q with limit := some n }
  | offset {value : String} {n : Nat} (read : readCount .offset value = .ok n) :
      Adds q ("offset", value) { q with offset := some n }
  | onConflict {value : String} {names : List Identifier} (read : readNames value = .ok names) :
      Adds q ("on_conflict", value) { q with onConflict := names }
  | columns {value : String} {names : List Identifier} (read : readNames value = .ok names) :
      Adds q ("columns", value) { q with columns := some names }
  | filter {key value : String} {f : Filter} (other : key ∉ reserved)
      (read : Filter.read key value = .ok f) :
      Adds q (key, value) { q with filters := q.filters ++ [f] }

theorem adds_of_addParameter {q q' : Query} {parameter : String × String}
    (ok : q.addParameter parameter = .ok q') : q.Adds parameter q' := by
  unfold addParameter at ok
  split at ok
  · obtain ⟨items, read, rfl⟩ := map_eq_ok_iff.1 ok
    exact .select read
  · obtain rfl := Except.ok.inj ok
    exact .order _
  · obtain ⟨n, read, rfl⟩ := map_eq_ok_iff.1 ok
    exact .limit read
  · obtain ⟨n, read, rfl⟩ := map_eq_ok_iff.1 ok
    exact .offset read
  · split at ok
    next read =>
      obtain rfl := Except.ok.inj ok
      exact .onConflict read
    · cases ok
  · obtain ⟨names, read, rfl⟩ := map_eq_ok_iff.1 ok
    exact .columns read
  · obtain ⟨f, read, rfl⟩ := map_eq_ok_iff.1 ok
    exact .filter (by simp_all [reserved]) read

/-- A parameter with a meaning of its own leaves the filters as they are. -/
theorem filters_addParameter {q q' : Query} {parameter : String × String}
    (own : parameter.1 ∈ reserved) (ok : q.addParameter parameter = .ok q') :
    q'.filters = q.filters := by
  cases adds_of_addParameter ok with
  | filter other => exact absurd own other
  | _ => rfl

/-- Any other parameter is a filter behind those before it. -/
theorem addParameter_filter {parameter : String × String} (other : parameter.1 ∉ reserved)
    (q : Query) : q.addParameter parameter =
      (readFilter parameter).map fun f => { q with filters := q.filters ++ [f] } := by
  obtain ⟨key, value⟩ := parameter
  simp only [reserved, List.mem_cons, List.not_mem_nil, or_false, not_or] at other
  unfold addParameter
  split <;> simp_all [readFilter]

/-- **The filters of a query** are its parameters without a meaning of their own, in order. -/
theorem filters_foldlM {q q' : Query} {parameters : List (String × String)}
    (ok : parameters.foldlM addParameter q = .ok q') :
    ∃ fs, (parameters.filter fun p => !reserved.contains p.1).mapM readFilter = .ok fs ∧
      q'.filters = q.filters ++ fs := by
  induction parameters generalizing q with
  | nil =>
    obtain rfl := Except.ok.inj ok
    exact ⟨[], rfl, (List.append_nil _).symm⟩
  | cons p rest ih =>
    rw [List.foldlM_cons] at ok
    obtain ⟨q₁, first, later⟩ := bind_eq_ok_iff.1 ok
    obtain ⟨fs, read, same⟩ := ih later
    by_cases own : p.1 ∈ reserved
    · have kept := filters_addParameter own first
      refine ⟨fs, ?_, kept ▸ same⟩
      rw [List.filter_cons_of_neg (by simpa using own), read]
    · rw [addParameter_filter own] at first
      obtain ⟨f, here, rfl⟩ := map_eq_ok_iff.1 first
      refine ⟨f :: fs, ?_, ?_⟩
      · rw [List.filter_cons_of_pos (by simpa using own), List.mapM_cons, here, read]
        rfl
      · rw [same, List.append_assoc]
        rfl

theorem filters_read {table : String} {parameters : List (String × String)} {q : Query}
    (accepted : Query.read table parameters = .ok q) :
    (parameters.filter fun p => !reserved.contains p.1).mapM readFilter = .ok q.filters := by
  obtain ⟨name, -, ok⟩ := bind_eq_ok_iff.1 accepted
  obtain ⟨fs, read, same⟩ := filters_foldlM ok
  rw [read, same]
  rfl

theorem allFilled_read {table : String} {parameters : List (String × String)} {q : Query}
    (accepted : Query.read table parameters = .ok q) : Filter.AllFilled q.filters := by
  apply Filter.allFilled_iff.2
  intro f hf
  obtain ⟨p, -, read⟩ := exists_of_mem_mapM (filters_read accepted) hf
  exact Filter.filled_read read

end Query

/-! ## §3 — heads and tails of statements -/

/-- The condition of a related table stands in parentheses. -/
theorem Embed.passes_template (outer : Identifier) (r : EmbedResolver) (index : Nat) (e : Embed) :
    Passes ["WHERE"] 0 (e.template outer r index) := by
  unfold template
  split
  · exact passes_of_check rfl
  next reference found =>
    have columns : Passes ["WHERE"] 1 (e.columns.template (.embedAlias index)) := by
      cases e.columns with
      | all => exact (passes_of_check (t := [.word .rowToJson]) rfl).append (.paren (passes_of_check rfl))
      | listed columns =>
        refine (passes_of_check (t := [.word .jsonBuildObject]) rfl).append
          (.paren (passes_listed fun t ht => ?_))
        obtain ⟨c, -, rfl⟩ := List.mem_map.1 ht
        exact passes_of_check rfl
    refine Passes.append (.paren ?_) (passes_of_check rfl)
    have row := (passes_of_check (t := [.word .select, .space]) rfl).append columns
    have table := row.append (passes_of_check (t := [.space, .word .fromWord, .space, .name e.table]) rfl)
    have named := table.append (passes_of_check (t := asName (.embedAlias index)) rfl)
    refine ((named.append ?_).append ?_).append ?_ <;> exact passes_of_check rfl

theorem SelectItem.passes_templates (outer : Identifier) (r : EmbedResolver) (embeds : Nat)
    (items : List SelectItem) : ∀ t ∈ templates outer r embeds items, Passes ["WHERE"] 0 t := by
  induction items generalizing embeds with
  | nil => simp [templates]
  | cons item rest ih =>
    intro t ht
    cases item with
    | all =>
      rcases List.mem_cons.1 ht with rfl | ht
      · exact passes_of_check rfl
      · exact ih embeds t ht
    | column c =>
      rcases List.mem_cons.1 ht with rfl | ht
      · cases c.label <;> exact passes_of_check rfl
      · exact ih embeds t ht
    | embed e =>
      rcases List.mem_cons.1 ht with rfl | ht
      · exact e.passes_template outer r _
      · exact ih (embeds + 1) t ht

namespace Query

/-- What stands behind the condition of a read. -/
def pageTail (q : Query) : Template :=
  q.orderClause ++ (pageClause .limit q.limit ++ pageClause .offset q.offset)

theorem passes_pageTail (q : Query) : Passes ["WHERE"] 0 q.pageTail := by
  refine Passes.append ?_ (Passes.append ?_ ?_)
  · unfold orderClause
    split
    · exact Template.passes_nil
    · refine (passes_of_check (t := [.space, .word .order, .space, .word .byWord, .space]) rfl).append
        (passes_listed fun t ht => ?_)
      obtain ⟨⟨column, direction, nulls⟩, -, rfl⟩ := List.mem_map.1 ht
      cases direction <;> cases nulls with
      | none => exact passes_of_check rfl
      | some place => cases place <;> exact passes_of_check rfl
  · cases q.limit <;> exact passes_of_check rfl
  · cases q.offset <;> exact passes_of_check rfl

/-- The condition of a read ends where its tail begins. -/
theorem pageTail_ends (q : Query) : (splitWord conditionEnds 0 q.pageTail.tokens).1 = [] := by
  unfold pageTail orderClause
  cases q.order with
  | nil => cases q.limit <;> cases q.offset <;> rfl
  | cons term rest => rfl

theorem whereMeans_select {q : Query} (filled : Filter.AllFilled q.filters) (r : EmbedResolver) :
    WhereMeans (q.selectStatement r).sql (q.selectStatement r).params q.filters := by
  let head : Template := [.word .select, .space] ++ selectList q.table r q.select
    ++ [.space, .word .fromWord, .space, .name q.table]
  have shape : (q.selectStatement r).template = head ++ whereClause q.filters ++ q.pageTail := by
    simp only [selectStatement, head, pageTail, List.append_assoc]
  have front : Passes ["WHERE"] 0 head :=
    ((passes_of_check (t := [.word .select, .space]) rfl).append
      (passes_listed (SelectItem.passes_templates q.table r 0 q.select))).append (passes_of_check rfl)
  have legible := q.legible_selectStatement r
  rw [Statement.sql, Statement.params, shape]
  rw [shape] at legible
  exact readWhere_template legible front q.passes_pageTail q.pageTail_ends filled

theorem whereMeans_count {q : Query} (filled : Filter.AllFilled q.filters) :
    WhereMeans q.countStatement.sql q.countStatement.params q.filters := by
  let head : Template := [.word .select, .space, .word .count] ++ paren [.symbol .star]
    ++ [.space, .word .fromWord, .space, .name q.table]
  have shape : q.countStatement.template = head ++ whereClause q.filters ++ [] := by
    rw [List.append_nil]
    rfl
  have front : Passes ["WHERE"] 0 head :=
    ((passes_of_check (t := [.word .select, .space, .word .count]) rfl).append
      (.paren (passes_of_check rfl))).append (passes_of_check rfl)
  have legible := q.legible_countStatement
  rw [Statement.sql, Statement.params, shape]
  rw [shape] at legible
  exact readWhere_template legible front Template.passes_nil rfl filled

end Query

/-- The condition of a statement that writes, with or without `RETURNING` behind it. -/
theorem whereMeans_writing {kind : StatementKind} {head : Template} {filters : List Filter}
    {returning : Bool} (front : Passes ["WHERE"] 0 head) (filled : Filter.AllFilled filters)
    (legible : (Statement.writing kind (head ++ whereClause filters) returning).template.Legible) :
    WhereMeans (Statement.writing kind (head ++ whereClause filters) returning).sql
      (Statement.writing kind (head ++ whereClause filters) returning).params filters := by
  cases returning with
  | false =>
    have shape : (Statement.writing kind (head ++ whereClause filters) false).template =
        head ++ whereClause filters ++ [] := (List.append_nil _).symm
    rw [Statement.sql, Statement.params, shape]
    rw [shape] at legible
    exact readWhere_template legible front Template.passes_nil rfl filled
  | true => exact readWhere_template legible front (passes_of_check rfl) rfl filled

theorem passes_ofColumnValue (value : Json) :
    Passes ["WHERE"] 0 (Binding.ofColumnValue value).template := by
  cases value <;> exact passes_of_check rfl

/-- What a row assigns is bound as a value for a column. -/
theorem exists_binding_eq {allowed : Option (List Identifier)} {row : List (String × Json)}
    {assignments : List Assignment} (read : rowAssignments allowed row = .ok assignments)
    {a : Assignment} (mem : a ∈ assignments) : ∃ value, a.binding = .ofColumnValue value := by
  rw [rowAssignments_eq] at read
  obtain ⟨all, each, rfl⟩ := map_eq_ok_iff.1 read
  obtain ⟨member, -, made⟩ := exists_of_mem_mapM each (List.mem_of_mem_filter mem)
  obtain ⟨c, -, rfl⟩ := map_eq_ok_iff.1 made
  exact ⟨member.2, rfl⟩

theorem whereMeans_update {table : Identifier} {body : Json} {filters : List Filter}
    {returning : Bool} {s : Statement} (filled : Filter.AllFilled filters)
    (ok : update table body filters returning = .ok s) : WhereMeans s.sql s.params filters := by
  have legible := legible_update ok
  unfold update at ok
  split at ok
  · simp at ok
  next row _ =>
    obtain ⟨assignments, read, written⟩ := bind_eq_ok_iff.1 ok
    obtain rfl := Except.ok.inj written
    refine whereMeans_writing ?_ filled legible
    refine (passes_of_check (t := [.word .update, .space, .name table, .space, .word .set, .space])
      rfl).append (passes_listed fun t ht => ?_)
    obtain ⟨a, ha, rfl⟩ := List.mem_map.1 ht
    refine (passes_of_check (t := [.name a.column, .space, .symbol .equal, .space]) rfl).append ?_
    obtain ⟨value, bound⟩ := exists_binding_eq read ha
    rw [bound]
    exact passes_ofColumnValue value
  · simp at ok

theorem whereMeans_delete {table : Identifier} {filters : List Filter} {returning : Bool}
    {s : Statement} (filled : Filter.AllFilled filters)
    (ok : delete table filters returning = .ok s) : WhereMeans s.sql s.params filters := by
  have legible := legible_delete ok
  cases filters with
  | nil => simp [delete] at ok
  | cons f rest =>
    obtain rfl := Except.ok.inj ok
    exact whereMeans_writing (passes_of_check rfl) filled legible

/-! ## §4 — the condition of a request -/

/-- The statements that are made of a query with its filters. -/
inductive Query.Makes (q : Query) : Statement → Prop where
  /-- The read, with a cap on the number of rows. -/
  | select (maxRows : Option Nat) (r : EmbedResolver) :
      q.Makes ((q.withMaxRows maxRows).selectStatement r)
  | count : q.Makes q.countStatement
  | update {table : Identifier} {body : Json} {returning : Bool} {s : Statement}
      (ok : Sql.update table body q.filters returning = .ok s) : q.Makes s
  | delete {table : Identifier} {returning : Bool} {s : Statement}
      (ok : Sql.delete table q.filters returning = .ok s) : q.Makes s

/-- **The condition of a statement means what its filters mean.** Of the parameters of a query each one
without a meaning of its own is one filter, in order. The condition of every statement that is made of
the query can be read, with `NOT` before `AND` before `OR`, and has the value of the conjunction of the
filters, whatever its atoms are worth; there is no condition exactly when there is no filter, and then a
delete is refused. -/
theorem where_means_filters {table : String} {parameters : List (String × String)} {q : Query}
    (accepted : Query.read table parameters = .ok q) :
    (parameters.filter fun p => !Query.reserved.contains p.1).mapM Query.readFilter = .ok q.filters ∧
    (∀ s, q.Makes s → WhereMeans s.sql s.params q.filters) ∧
    ∀ t returning, (∃ s, delete t q.filters returning = .ok s) ∧ q.filters ≠ [] ∨
      delete t q.filters returning = .error .unfilteredDelete ∧ q.filters = [] := by
  have filled := Query.allFilled_read accepted
  refine ⟨Query.filters_read accepted, ?_, ?_⟩
  · intro s made
    cases made with
    | select maxRows r =>
      have same : (q.withMaxRows maxRows).filters = q.filters := by cases maxRows <;> rfl
      have meaning := Query.whereMeans_select (q := q.withMaxRows maxRows) (same.symm ▸ filled) r
      rwa [same] at meaning
    | count => exact Query.whereMeans_count filled
    | update ok => exact whereMeans_update filled ok
    | delete ok => exact whereMeans_delete filled ok
  · intro t returning
    cases q.filters with
    | nil => exact .inr ⟨rfl, rfl⟩
    | cons f rest => exact .inl ⟨⟨_, rfl⟩, List.cons_ne_nil f rest⟩

/-- A condition and a negated group. -/
theorem where_means_filters_group :
    let name (text : String) (h : isCanonical text.toList = true) : Identifier := ⟨text, h⟩
    let q : Query := {
      table := name "users" (by decide)
      filters := [.condition ⟨name "age" (by decide), false, .compare .gte "18"⟩,
        .group .or true [.condition ⟨name "a" (by decide), false, .is .null⟩,
          .condition ⟨name "b" (by decide), true, .compare .eq "1"⟩]] }
    Query.read "users" [("age", "gte.18"), ("not.or", "(a.is.null,b.not.eq.1)")] = .ok q ∧
      WhereMeans (q.selectStatement {}).sql (q.selectStatement {}).params q.filters := by
  intro name q
  have accepted : Query.read "users" [("age", "gte.18"), ("not.or", "(a.is.null,b.not.eq.1)")] =
      .ok q := by with_unfolding_all rfl
  exact ⟨accepted, (where_means_filters accepted).2.1 _ (.select none {})⟩

end Gateway.Sql
