import Gateway.Proofs.Except
import Gateway.Proofs.Sql.Reading
import Gateway.Sql.Call
import Gateway.Sql.Change
import Gateway.Sql.Query

/-!
# Every statement is legible

Whatever a request asks for, the template of its statement is legible: filters of any shape, select
lists with related tables, inserts with conflict clauses, updates, deletes and calls. Each building block
has its lemma, and a statement is the sum of its blocks.
-/

namespace Gateway.Sql

open Template

/-! ## §1 — filters -/

theorem Predicate.legible_template (p : Predicate) (column : Identifier) :
    Legible (p.template column) := by
  cases p with
  | compare op value => cases op <;> exact legible_of_check rfl
  | is value => exact legible_of_check rfl
  | oneOf items =>
    cases items with
    | nil => exact legible_of_check rfl
    | cons item items =>
      refine Legible.append (legible_of_check rfl) (Legible.paren (legible_listed fun t ht => ?_)) rfl
      obtain ⟨i, -, rfl⟩ := List.mem_map.1 ht
      exact legible_of_check rfl
  | search mode language query =>
    refine Legible.append (legible_of_check rfl) (Legible.paren (legible_listed fun t ht => ?_)) rfl
    rcases List.mem_append.1 ht with ht | ht
    · obtain ⟨l, -, rfl⟩ := List.mem_map.1 ht
      exact legible_of_check rfl
    · rw [List.mem_singleton.1 ht]
      exact legible_of_check rfl

theorem Condition.legible_template (c : Condition) : Legible c.template := by
  have clause := c.predicate.legible_template c.column
  unfold template
  split
  · exact Legible.append_left (s := [.word .notWord, .space]) (legible_of_check rfl) clause.paren rfl
  · exact clause

namespace Filter

theorem legible_separator (joint : Connective) {parts : List Template}
    (all : ∀ t ∈ parts, Legible t) : Legible (joined joint.separator parts) := by
  cases joint with
  | and => exact legible_joined (m := [.word .andWord]) (legible_of_check rfl) rfl rfl all
  | or => exact legible_joined (m := [.word .orWord]) (legible_of_check rfl) rfl rfl all

theorem legible_groupTemplate (joint : Connective) (negated : Bool) {members : List Template}
    (all : ∀ t ∈ members, Legible t) : Legible (groupTemplate joint negated members) := by
  have inner := (legible_separator joint all).paren
  unfold groupTemplate
  cases negated with
  | false => exact inner
  | true => exact Legible.append_left (s := [.word .notWord, .space]) (legible_of_check rfl) inner rfl

mutual

theorem legible_template : ∀ f : Filter, Legible f.template
  | condition c => c.legible_template
  | group joint negated members =>
    legible_groupTemplate joint negated (legible_memberTemplates members)

theorem legible_memberTemplates : ∀ members : List Filter, ∀ t ∈ memberTemplates members, Legible t
  | [], t, ht => absurd ht (List.not_mem_nil)
  | condition c :: rest, t, ht => by
    rcases List.mem_cons.1 ht with rfl | ht
    · exact c.legible_template.paren
    · exact legible_memberTemplates rest t ht
  | group joint negated members :: rest, t, ht => by
    rcases List.mem_cons.1 ht with rfl | ht
    · exact legible_template (group joint negated members)
    · exact legible_memberTemplates rest t ht

end

end Filter

theorem startsLoose_whereClause (filters : List Filter) : (whereClause filters).startsLoose = true := by
  cases filters <;> rfl

theorem legible_whereClause (filters : List Filter) : Legible (whereClause filters) := by
  cases filters with
  | nil => exact legible_nil
  | cons f rest =>
    refine Legible.append_left (legible_of_check rfl) (Filter.legible_separator .and ?_) rfl
    intro t ht
    obtain ⟨g, -, rfl⟩ := List.mem_map.1 ht
    exact g.legible_template

/-! ## §2 — select lists -/

theorem EmbedColumns.legible_template (columns : EmbedColumns) (related : Identifier) :
    Legible (columns.template related) := by
  cases columns with
  | all => exact legible_of_check rfl
  | listed columns =>
    refine Legible.append (s := [.word .jsonBuildObject]) (legible_of_check rfl)
      (Legible.paren (legible_listed fun t ht => ?_)) rfl
    obtain ⟨c, -, rfl⟩ := List.mem_map.1 ht
    exact legible_of_check rfl

theorem Embed.legible_template (outer : Identifier) (r : EmbedResolver) (index : Nat) (e : Embed) :
    Legible (e.template outer r index) := by
  unfold template
  split
  · exact legible_of_check rfl
  next reference found =>
    have columns := e.columns.legible_template (.embedAlias index)
    have row : Legible ([.word .select, .space] ++ e.columns.template (.embedAlias index)) :=
      Legible.append_left (legible_of_check rfl) columns rfl
    refine Legible.append (Legible.paren ?_) (legible_of_check rfl) rfl
    refine Legible.append (Legible.append (Legible.append (Legible.append ?_
      (legible_of_check rfl) rfl) (legible_of_check rfl) rfl) (legible_of_check rfl) rfl)
      (legible_of_check rfl) rfl
    exact row.append (legible_of_check rfl) rfl

theorem SelectItem.legible_templates (outer : Identifier) (r : EmbedResolver) (embeds : Nat)
    (items : List SelectItem) : ∀ t ∈ templates outer r embeds items, Legible t := by
  induction items generalizing embeds with
  | nil => simp [templates]
  | cons item rest ih =>
    intro t ht
    cases item with
    | all =>
      rcases List.mem_cons.1 ht with rfl | ht
      · exact legible_of_check rfl
      · exact ih embeds t ht
    | column c =>
      rcases List.mem_cons.1 ht with rfl | ht
      · cases c.label <;> exact legible_of_check rfl
      · exact ih embeds t ht
    | embed e =>
      rcases List.mem_cons.1 ht with rfl | ht
      · exact e.legible_template outer r _
      · exact ih (embeds + 1) t ht

theorem legible_selectList (outer : Identifier) (r : EmbedResolver) (items : List SelectItem) :
    Legible (selectList outer r items) :=
  legible_listed (SelectItem.legible_templates outer r 0 items)

/-! ## §3 — statements -/

theorem OrderTerm.legible_template (term : OrderTerm) : Legible term.template := by
  unfold template
  cases term.nulls with
  | none => exact legible_of_check rfl
  | some nulls => cases nulls <;> exact legible_of_check rfl

namespace Query

theorem legible_orderClause (q : Query) : Legible q.orderClause := by
  unfold orderClause
  split
  · exact legible_nil
  · refine Legible.append_left (legible_of_check rfl) (legible_listed fun t ht => ?_) rfl
    obtain ⟨term, -, rfl⟩ := List.mem_map.1 ht
    exact term.legible_template

theorem startsLoose_orderClause (q : Query) : q.orderClause.startsLoose = true := by
  unfold orderClause
  split <;> rfl

theorem legible_pageClause (word : Word) (n : Option Nat) : Legible (pageClause word n) := by
  cases n with
  | none => exact legible_nil
  | some n => exact legible_of_check rfl

theorem startsLoose_pageClause (word : Word) (n : Option Nat) :
    (pageClause word n).startsLoose = true := by
  cases n <;> rfl

theorem legible_selectStatement (q : Query) (r : EmbedResolver) :
    Legible (q.selectStatement r).template := by
  have list : Legible ([.word .select, .space] ++ selectList q.table r q.select) :=
    Legible.append_left (legible_of_check rfl) (legible_selectList q.table r q.select) rfl
  have rows := (list.append (t := [.space, .word .fromWord, .space, .name q.table])
    (legible_of_check rfl) rfl).append (legible_whereClause q.filters) (startsLoose_whereClause _)
  have sorted := rows.append q.legible_orderClause q.startsLoose_orderClause
  exact (sorted.append (legible_pageClause .limit q.limit) (startsLoose_pageClause _ _)).append
    (legible_pageClause .offset q.offset) (startsLoose_pageClause _ _)

theorem legible_countStatement (q : Query) : Legible q.countStatement.template :=
  Legible.append (legible_of_check rfl) (legible_whereClause q.filters) (startsLoose_whereClause _)

end Query

/-- A statement that writes is legible when what it writes is. -/
theorem Statement.legible_writing (kind : StatementKind) {t : Template} (ht : Legible t)
    (returning : Bool) : Legible (Statement.writing kind t returning).template := by
  cases returning with
  | false => exact ht
  | true => exact ht.append (legible_of_check rfl) rfl

theorem Binding.legible_template (b : Binding) : Legible b.template := by
  unfold template
  cases b.cast <;> exact legible_of_check rfl

theorem Upsert.legible_template (u : Upsert) (columns : List Identifier) :
    Legible (u.template columns) := by
  have target : Legible ([.space, .word .on, .space, .word .conflict, .space] ++ paren (names u.target)) :=
    Legible.append (legible_of_check rfl) (legible_names u.target).paren rfl
  unfold template
  simp only
  split
  · rw [List.append_assoc]
    exact target.append (legible_of_check rfl) rfl
  · have updates : Legible (listed ((u.merged columns).map fun c =>
        [.name c, .space, .symbol .equal, .space, .word .excluded, .symbol .dot, .name c])) := by
      apply legible_listed
      intro t ht
      obtain ⟨c, -, rfl⟩ := List.mem_map.1 ht
      exact legible_of_check rfl
    have setting := Legible.append_left (s := [.word .update, .space, .word .set, .space])
      (legible_of_check rfl) updates rfl
    rw [List.append_assoc, List.append_assoc]
    refine target.append ?_ rfl
    exact Legible.append_left (s := [.space, .word .doWord, .space]) (legible_of_check rfl) setting rfl

theorem Upsert.startsLoose_template (u : Upsert) (columns : List Identifier) :
    (u.template columns).startsLoose = true := by
  unfold template
  simp only
  split <;> rfl

theorem legible_insertRow (table : Identifier) (returning : Bool) (upsert : Option Upsert)
    (row : List Assignment) : Legible (insertRow table returning upsert row).template := by
  have bound : Legible (listed (row.map fun a => a.binding.template)) := by
    apply legible_listed
    intro t ht
    obtain ⟨a, -, rfl⟩ := List.mem_map.1 ht
    exact a.binding.legible_template
  have head : Legible [.word .insert, .space, .word .into, .space, .name table, .space] :=
    legible_of_check rfl
  unfold insertRow
  refine Statement.legible_writing _ ?_ _
  have conflict : ∀ u : Option Upsert,
      Legible ((u.map fun u => u.template (row.map (·.column))).getD []) ∧
        startsLoose ((u.map fun u => u.template (row.map (·.column))).getD []) = true := by
    rintro (- | u)
    · exact ⟨legible_nil, rfl⟩
    · exact ⟨u.legible_template _, u.startsLoose_template _⟩
  refine Legible.append ?_ (conflict upsert).1 (conflict upsert).2
  split
  · exact Legible.append_left head (legible_of_check rfl) rfl
  · have columns : Legible (paren (names (row.map (·.column))) ++ [.space, .word .values, .space]) :=
      (legible_names _).paren.append (legible_of_check rfl) rfl
    exact Legible.append_left head (columns.append bound.paren rfl) rfl

/-- **Every insert of a body is legible.** -/
theorem legible_insert {table : Identifier} {body : Json} {returning : Bool} {upsert : Option Upsert}
    {allowed : Option (List Identifier)} {statements : List Statement}
    (ok : insert table body returning upsert allowed = .ok statements) :
    ∀ s ∈ statements, Legible s.template := by
  intro s hs
  obtain ⟨rows, -, read⟩ := bind_eq_ok_iff.1 ok
  obtain ⟨row, -, written⟩ := exists_of_mem_mapM read hs
  obtain ⟨assignments, -, rfl⟩ := map_eq_ok_iff.1 written
  exact legible_insertRow table returning upsert assignments

theorem legible_update {table : Identifier} {body : Json} {filters : List Filter} {returning : Bool}
    {s : Statement} (ok : update table body filters returning = .ok s) : Legible s.template := by
  unfold update at ok
  split at ok
  · simp at ok
  · obtain ⟨assignments, -, written⟩ := bind_eq_ok_iff.1 ok
    obtain rfl := Except.ok.inj written
    refine Statement.legible_writing _ (Legible.append (Legible.append_left (legible_of_check rfl)
      (legible_listed fun t ht => ?_) rfl) (legible_whereClause _) (startsLoose_whereClause _)) _
    obtain ⟨a, -, rfl⟩ := List.mem_map.1 ht
    exact Legible.append_left (legible_of_check rfl) a.binding.legible_template rfl
  · simp at ok

theorem legible_delete {table : Identifier} {filters : List Filter} {returning : Bool}
    {s : Statement} (ok : delete table filters returning = .ok s) : Legible s.template := by
  cases filters with
  | nil => simp [delete] at ok
  | cons f rest =>
    obtain rfl := Except.ok.inj ok
    exact Statement.legible_writing _
      (Legible.append (legible_of_check rfl) (legible_whereClause _) (startsLoose_whereClause _)) _

theorem legible_call {function : String} {arguments : List (String × Json)} {s : Statement}
    (ok : call function arguments = .ok s) : Legible s.template := by
  obtain ⟨name, -, ok⟩ := bind_eq_ok_iff.1 ok
  obtain ⟨passed, read, ok⟩ := bind_eq_ok_iff.1 ok
  obtain rfl := Except.ok.inj ok
  refine Legible.append (legible_of_check rfl) (Legible.paren (legible_listed fun t ht => ?_)) rfl
  obtain ⟨argument, -, written⟩ := exists_of_mem_mapM read ht
  obtain ⟨n, -, written⟩ := bind_eq_ok_iff.1 written
  obtain rfl := Except.ok.inj written
  exact Legible.append_left (legible_of_check rfl) (Binding.legible_template _) rfl

end Gateway.Sql
