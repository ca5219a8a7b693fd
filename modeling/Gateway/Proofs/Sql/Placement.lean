import Gateway.Proofs.Sql.Slots

/-!
# The places of the statements

One lemma for each statement: which places its text has, in order. A row of an insert has one for each of
its columns (`binds_insertRow`); an update has those of its assignments and then those of its filters
(`binds_updateOf`); a call has one for each argument (`binds_callOf`); reads, counts and deletes have those
of their filters. Select lists, orders, pages and conflict clauses have none.
-/

namespace Gateway.Sql

open Template (Binds Inert binds_joined binds_of_inert inert_of_check inert_listed inert_names
  paren listed names tokens tokens_append tokens_paren joined_cons)

/-! ## §1 — values of a body -/

namespace Binding

/-- **A value is for the column that waits for it**, or else for the last name. -/
theorem run_template (b : Binding) (r : SlotReader) : ∃ behind, behind ≠ .cast ∧
    r.run b.template.tokens = { r with
      waiting := r.waiting.tail, behind := behind,
      found := r.found ++ [⟨r.waiting.headD r.owner, r.operator, b.value, b.cast.map Word.text⟩] } := by
  obtain ⟨value, cast⟩ := b
  cases cast with
  | none => exact ⟨.placeholder, Behind.placeholder_ne_cast, rfl⟩
  | some type =>
    let placed : SlotReader := (r.step (.placeholder value)).step (.symbol "::")
    refine ⟨.other, Behind.other_ne_cast, ?_⟩
    show placed.step (.word type.text) = _
    have casts : placed.behind = .cast := rfl
    rw [SlotReader.step, if_pos casts]
    exact congrArg (fun found => { placed with behind := .other, found })
      (SlotReader.castLast_concat type.text r.found _)

/-- A value behind a name and an operator is for that name. -/
theorem binds_operand (b : Binding) (name : Identifier) {s : Symbol} (h : s = .equal ∨ s = .assign) :
    Binds (([.name name, .space, .symbol s, .space] : Template) ++ b.template)
      [b.slot s.text name] := by
  intro r _
  obtain ⟨behind, free, run⟩ := b.run_template (r.run (tokens [.name name, .space, .symbol s, .space]))
  rw [tokens_append, SlotReader.run_append, run]
  rcases h with rfl | rfl <;> exact ⟨free, rfl⟩

end Binding

/-- **What a row assigns is what its members are for.** -/
theorem memberSlots_of_rowAssignments (operator : String) {allowed : Option (List Identifier)}
    {row : List (String × Json)} {assignments : List Assignment}
    (h : rowAssignments allowed row = .ok assignments) :
    memberSlots operator allowed .ofColumnValue row =
      assignments.map fun a => a.binding.slot operator a.column := by
  rw [rowAssignments_eq] at h
  obtain ⟨all, read, rfl⟩ := map_eq_ok_iff.1 h
  have pairs := mapM_eq_ok_iff.1 read
  clear h read
  induction pairs with
  | nil => rfl
  | @cons member a row all first _ ih =>
    obtain ⟨name, found, rfl⟩ := map_eq_ok_iff.1 first
    have place : memberSlot operator allowed .ofColumnValue member =
        if allowed.all (·.contains name) then
          some ((Binding.ofColumnValue member.2).slot operator name) else none := by
      rw [memberSlot, Identifier.read_eq_ok_iff.1 found, Option.bind_some]
    rw [memberSlots, List.filterMap_cons, place, List.filter_cons]
    cases allowed.all (·.contains name) with
    | true => exact congrArg (_ :: ·) ih
    | false => exact ih

/-- The passed arguments add the places of the arguments. -/
theorem binds_readArgument {arguments : List (String × Json)} {passed : List Template}
    (h : arguments.mapM readArgument = .ok passed) :
    Binds (listed passed) (memberSlots ":=" none .ofArgument arguments) := by
  have pairs := mapM_eq_ok_iff.1 h
  clear h
  obtain ⟨places, each, same⟩ : ∃ places, List.Forall₂ Binds passed places ∧
      places.flatten = memberSlots ":=" none .ofArgument arguments := by
    induction pairs with
    | nil => exact ⟨[], .nil, rfl⟩
    | @cons argument t arguments passed first _ ih =>
      obtain ⟨places, each, same⟩ := ih
      obtain ⟨name, found, rfl⟩ := map_eq_ok_iff.1 first
      refine ⟨_ :: places, .cons (Binding.binds_operand _ name (.inr rfl)) each, ?_⟩
      have place : memberSlot ":=" none .ofArgument argument =
          some ((Binding.ofArgument argument.2).slot ":=" name) := by
        rw [memberSlot, Identifier.read_eq_ok_iff.1 found]
        rfl
      rw [List.flatten_cons, same, memberSlots, memberSlots, List.filterMap_cons, place]
      rfl
  exact same ▸ binds_joined (inert_of_check rfl) each

/-! ## §2 — inserted rows -/

/-- The columns of an insert are put down in order. -/
theorem names_run_columns (columns : List Identifier) (r : SlotReader) :
    (r.run (names columns).tokens).names = r.names ++ columns.map (·.text) := by
  have further : ∀ (columns : List Identifier) (r : SlotReader),
      (r.run (tokens ((columns.map fun c => [.name c]).flatMap
        (Template.commaBlank ++ ·)))).names = r.names ++ columns.map (·.text) := by
    intro columns
    induction columns with
    | nil => exact fun r => (List.append_nil _).symm
    | cons c rest ih =>
      intro r
      exact (ih ((r.step (.symbol ",")).step (.name c.text))).trans (List.append_assoc ..)
  cases columns with
  | nil => exact (List.append_nil _).symm
  | cons column rest =>
    rw [names, List.map_cons, listed, joined_cons, tokens_append, SlotReader.run_append]
    exact (further rest (r.step (.name column.text))).trans (List.append_assoc ..)

/-- A value is for the first of the columns that wait. -/
theorem Assignment.run_value (a : Assignment) {r : SlotReader} {columns : List String}
    (waits : r.waiting = a.column.text :: columns) :
    let last := r.run a.binding.template.tokens
    last.waiting = columns ∧ last.operator = r.operator ∧ last.behind ≠ .cast ∧
      last.found = r.found ++ [a.binding.slot r.operator a.column] := by
  obtain ⟨behind, free, run⟩ := a.binding.run_template r
  rw [run, waits]
  exact ⟨rfl, rfl, free, rfl⟩

/-- The further values of a row are for the columns that wait for them. -/
theorem run_furtherValues (row : List Assignment) {r : SlotReader}
    (waits : r.waiting = row.map (·.column.text)) (free : r.behind ≠ .cast) :
    let last := r.run (tokens ((row.map (·.binding.template)).flatMap (Template.commaBlank ++ ·)))
    last.behind ≠ .cast ∧
      last.found = r.found ++ row.map fun a => a.binding.slot r.operator a.column := by
  induction row generalizing r with
  | nil => exact ⟨free, (List.append_nil _).symm⟩
  | cons a rest ih =>
    let next := (r.step (.symbol ",")).run a.binding.template.tokens
    obtain ⟨waiting, said, free, added⟩ := a.run_value (r := r.step (.symbol ",")) waits
    obtain ⟨free, found⟩ := ih (r := next) waiting free
    have split : r.run (tokens (((a :: rest).map (·.binding.template)).flatMap
        (Template.commaBlank ++ ·))) =
        next.run (tokens ((rest.map (·.binding.template)).flatMap (Template.commaBlank ++ ·))) := by
      rw [List.map_cons, List.flatMap_cons, tokens_append, SlotReader.run_append, tokens_append,
        SlotReader.run_append]
      rfl
    rw [split]
    refine ⟨free, found.trans ?_⟩
    rw [said, added, List.append_assoc]
    rfl

/-- **The values of a row are for the columns that wait**, one after the other. -/
theorem run_values (a : Assignment) (rest : List Assignment) {r : SlotReader}
    (waits : r.waiting = (a :: rest).map (·.column.text)) :
    let last := r.run (paren (listed ((a :: rest).map (·.binding.template)))).tokens
    last.behind ≠ .cast ∧
      last.found = r.found ++ (a :: rest).map fun a => a.binding.slot r.operator a.column := by
  let first := (r.step (.symbol "(")).run a.binding.template.tokens
  obtain ⟨waiting, said, free, added⟩ := a.run_value (r := r.step (.symbol "(")) waits
  obtain ⟨-, found⟩ := run_furtherValues rest (r := first) waiting free
  have closed : r.run (paren (listed ((a :: rest).map (·.binding.template)))).tokens =
      (first.run (tokens ((rest.map (·.binding.template)).flatMap
        (Template.commaBlank ++ ·)))).step (.symbol ")") := by
    rw [tokens_paren, List.map_cons, listed, joined_cons, tokens_append, ← SlotReader.run_append]
    exact SlotReader.run_append (r.step (.symbol "(")) _ [.symbol ")"]
  rw [closed]
  refine ⟨Behind.other_ne_cast, found.trans ?_⟩
  rw [said, added, List.append_assoc]
  rfl

/-- Behind its table an insert has named nothing else. -/
theorem run_insertHead (table : Identifier) {r : SlotReader} (free : r.behind ≠ .cast) :
    let opened := r.run (tokens [.word .insert, .space, .word .into, .space, .name table, .space])
    opened.names = [table.text] ∧ opened.behind ≠ .cast ∧ opened.found = r.found := by
  show ((r.step (.word "INSERT")).run _).names = _ ∧ ((r.step (.word "INSERT")).run _).behind ≠ _ ∧
    ((r.step (.word "INSERT")).run _).found = _
  rw [SlotReader.step_word free (by decide) (by decide)]
  exact ⟨rfl, Behind.other_ne_cast, rfl⟩

/-- **The columns of an insert wait for its values.** -/
theorem run_columnList (columns : List Identifier) {r : SlotReader} (free : r.behind ≠ .cast) :
    let listing := r.run (paren (names columns)).tokens
    (listing.step (.word "VALUES")).waiting = (r.names ++ columns.map (·.text)).tail ∧
      (listing.step (.word "VALUES")).operator = "VALUES" ∧
      (listing.step (.word "VALUES")).found = r.found := by
  intro listing
  obtain ⟨free, found⟩ := binds_of_inert (inert_names columns).paren r free
  have closed : listing = ((r.step (.symbol "(")).run (names columns).tokens).step (.symbol ")") := by
    show r.run (paren (names columns)).tokens = _
    rw [tokens_paren]
    exact SlotReader.run_append (r.step (.symbol "(")) _ [.symbol ")"]
  have named : listing.names = r.names ++ columns.map (·.text) := by
    rw [closed]
    exact names_run_columns columns (r.step (.symbol "("))
  have values : listing.step (.word "VALUES") =
      { listing with waiting := listing.names.tail, operator := "VALUES", behind := .other } := by
    rw [SlotReader.step, if_neg free]
    rfl
  rw [values]
  exact ⟨congrArg List.tail named, rfl, found.trans (List.append_nil _)⟩

/-- **The values of an insert are for its columns.** -/
theorem binds_insertedRow (table : Identifier) (a : Assignment) (rest : List Assignment) :
    Binds (([.word .insert, .space, .word .into, .space, .name table, .space] : Template) ++
        (paren (names ((a :: rest).map (·.column))) ++ ([.space, .word .values, .space] : Template) ++
          paren (listed ((a :: rest).map (·.binding.template)))))
      ((a :: rest).map fun a => a.binding.slot "VALUES" a.column) := by
  intro r free
  obtain ⟨named, free, kept⟩ := run_insertHead table free
  obtain ⟨waiting, said, listed⟩ := run_columnList ((a :: rest).map (·.column)) free
  rw [named, List.singleton_append, List.tail_cons, List.map_map] at waiting
  obtain ⟨free, added⟩ := run_values a rest waiting
  rw [said, listed, kept] at added
  rw [tokens_append, tokens_append, tokens_append, SlotReader.run_append, SlotReader.run_append,
    SlotReader.run_append]
  exact ⟨free, added⟩

/-! ## §3 — parts without values -/

theorem EmbedColumns.inert_template (columns : EmbedColumns) (related : Identifier) :
    Inert (columns.template related) := by
  cases columns with
  | all => exact inert_of_check rfl
  | listed columns =>
    have each : Inert (Template.listed (columns.map fun c =>
        [.literal c.key, .symbol .comma, .space, .name related, .symbol .dot, .name c.column])) := by
      refine inert_listed fun part mem => ?_
      obtain ⟨c, -, rfl⟩ := List.mem_map.1 mem
      exact inert_of_check rfl
    exact (inert_of_check rfl : Inert [.word .jsonBuildObject]).append each.paren

theorem Embed.inert_template (outer : Identifier) (r : EmbedResolver) (index : Nat) (e : Embed) :
    Inert (e.template outer r index) := by
  unfold template
  split
  · exact inert_of_check rfl
  next reference found =>
    have head : Inert [.word .select, .space] := inert_of_check rfl
    have row := head.append (e.columns.inert_template (.embedAlias index))
    exact ((((row.append (inert_of_check rfl)).append (inert_of_check rfl)).append
      (inert_of_check rfl)).append (inert_of_check rfl)).append (inert_of_check rfl) |>.paren.append
        (inert_of_check rfl)

theorem SelectItem.inert_templates (outer : Identifier) (r : EmbedResolver) (embeds : Nat)
    (items : List SelectItem) : ∀ part ∈ templates outer r embeds items, Inert part := by
  induction items generalizing embeds with
  | nil => exact fun part mem => absurd mem List.not_mem_nil
  | cons item rest ih =>
    intro part mem
    cases item with
    | all =>
      rcases List.mem_cons.1 mem with rfl | mem
      · exact inert_of_check rfl
      · exact ih embeds part mem
    | column c =>
      rcases List.mem_cons.1 mem with rfl | mem
      · cases c.label <;> exact inert_of_check rfl
      · exact ih embeds part mem
    | embed e =>
      rcases List.mem_cons.1 mem with rfl | mem
      · exact e.inert_template outer r _
      · exact ih (embeds + 1) part mem

theorem OrderTerm.inert_template (term : OrderTerm) : Inert term.template := by
  unfold template
  cases term.nulls with
  | none => exact inert_of_check rfl
  | some nulls => cases nulls <;> exact inert_of_check rfl

theorem Query.inert_orderClause (q : Query) : Inert q.orderClause := by
  unfold orderClause
  split
  · exact inert_of_check rfl
  next terms _ =>
    have head : Inert [.space, .word .order, .space, .word .byWord, .space] := inert_of_check rfl
    refine head.append (inert_listed fun part mem => ?_)
    obtain ⟨term, -, rfl⟩ := List.mem_map.1 mem
    exact term.inert_template

theorem Query.inert_pageClause (word : Word) (n : Option Nat) : Inert (pageClause word n) := by
  cases n <;> exact inert_of_check rfl

theorem Upsert.inert_template (u : Upsert) (columns : List Identifier) :
    Inert (u.template columns) := by
  have conflict : Inert [.space, .word .on, .space, .word .conflict, .space] := inert_of_check rfl
  have does : Inert [.space, .word .doWord, .space] := inert_of_check rfl
  have head := (conflict.append (inert_names u.target).paren).append does
  have updates : Inert (listed ((u.merged columns).map fun c =>
      [.name c, .space, .symbol .equal, .space, .word .excluded, .symbol .dot, .name c])) := by
    refine inert_listed fun part mem => ?_
    obtain ⟨c, -, rfl⟩ := List.mem_map.1 mem
    exact inert_of_check rfl
  unfold template
  simp only
  split
  · exact head.append (inert_of_check rfl)
  · exact (head.append (inert_of_check rfl)).append updates

/-! ## §4 — statements -/

theorem Statement.binds_writing (kind : StatementKind) {t : Template} {slots : List Slot}
    (h : Binds t slots) (returning : Bool) : Binds (Statement.writing kind t returning).template slots := by
  cases returning with
  | false => exact h
  | true => exact h.before (inert_of_check rfl)

namespace Query

theorem binds_selectStatement (q : Query) (r : EmbedResolver) :
    Binds (q.selectStatement r).template (q.filters.flatMap Filter.slots) := by
  have head : Inert [.word .select, .space] := inert_of_check rfl
  have source : Inert [.space, .word .fromWord, .space, .name q.table] := inert_of_check rfl
  have list := inert_listed (SelectItem.inert_templates q.table r 0 q.select)
  have rows := (binds_whereClause q.filters).after ((head.append list).append source)
  exact ((rows.before q.inert_orderClause).before (inert_pageClause .limit q.limit)).before
    (inert_pageClause .offset q.offset)

theorem binds_countStatement (q : Query) :
    Binds q.countStatement.template (q.filters.flatMap Filter.slots) :=
  (binds_whereClause q.filters).after (inert_of_check rfl)

end Query

theorem binds_insertRow (table : Identifier) (returning : Bool) (upsert : Option Upsert)
    (row : List Assignment) : Binds (insertRow table returning upsert row).template
      (row.map fun a => a.binding.slot "VALUES" a.column) := by
  have conflict : Inert ((upsert.map fun u => u.template (row.map (·.column))).getD []) := by
    cases upsert with
    | none => exact inert_of_check rfl
    | some u => exact u.inert_template _
  refine Statement.binds_writing .insert (Binds.before ?_ conflict) returning
  cases row with
  | nil => exact binds_of_inert (inert_of_check rfl)
  | cons a rest => exact binds_insertedRow table a rest

theorem binds_updateOf (table : Identifier) (filters : List Filter) (returning : Bool)
    (row : List Assignment) : Binds (updateOf table filters returning row).template
      ((row.map fun a => a.binding.slot "=" a.column) ++ filters.flatMap Filter.slots) := by
  have each : List.Forall₂ Binds
      (row.map fun a => ([.name a.column, .space, .symbol .equal, .space] : Template) ++ a.binding.template)
      (row.map fun a => [a.binding.slot "=" a.column]) :=
    List.forall₂_map_left_iff.2 (List.forall₂_map_right_iff.2
      (List.forall₂_same.2 fun a _ => a.binding.binds_operand a.column (.inl rfl)))
  have set := binds_joined (inert_of_check rfl : Inert Template.commaBlank) each
  rw [← List.flatMap_def, ← List.map_eq_flatMap] at set
  refine Statement.binds_writing .update (Binds.append (set.after ?_) (binds_whereClause filters)) returning
  exact inert_of_check rfl

theorem binds_callOf (function : Identifier) {arguments : List (String × Json)}
    {passed : List Template} (h : arguments.mapM readArgument = .ok passed) :
    Binds (callOf function passed).template (memberSlots ":=" none .ofArgument arguments) :=
  (binds_readArgument h).paren.after (inert_of_check rfl)

end Gateway.Sql
