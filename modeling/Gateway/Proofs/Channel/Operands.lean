import Gateway.Channel.ChangeFilter
import Gateway.Proofs.Sql.RoundTrip
import Gateway.Proofs.Sql.Slots

/-!
# Operands of change filters

A client writes `column=operator.value` for the rows of a query and for the changes that it wants to hear
of. A query binds the values of its filters; a change filter compares with its operands. Both have a
reader of their own. The change filter drops blanks behind the value, and it cuts a list at every comma
and takes double quotes off both ends of an item, while a query keeps commas in brackets and quotes
together, undoes escapes and knows the empty list.

`ColumnOperator.operands_eq_iff` says for which values the two read the same.
-/

namespace Gateway.Channel

open Gateway.Text
open Gateway.Sql (Condition Filter Identifier IsItem IsWord Operator Param Predicate Spelling unquote
  readList)

/-! ## §1 — one filter in two places -/

namespace ColumnOperator

/-- The operator of a query that asks the same. -/
def asked : ColumnOperator → Operator
  | eq => .compare .eq
  | neq => .compare .neq
  | lt => .compare .lt
  | lte => .compare .lte
  | gt => .compare .gt
  | gte => .compare .gte
  | oneOf => .oneOf

/-- The name of an operator. -/
def token (op : ColumnOperator) : List Char :=
  (Spelling.usual.name op.asked).toList

/-- What is asked of a column, `operator.value`. -/
def operation (op : ColumnOperator) (value : String) : List Char :=
  op.token ++ '.' :: value.toList

/-- The filter of a change, `column=operator.value`. -/
def changeText (column : Identifier) (op : ColumnOperator) (value : String) : String :=
  String.ofList (column.text.toList ++ '=' :: op.operation value)

variable (op : ColumnOperator)

theorem read?_token : read? op.token = some op := by
  cases op <;> decide

theorem isWord_token : IsWord op.token :=
  Spelling.usual.isWord op.asked

theorem token_ne_not : op.token ≠ "not".toList := by
  have reserved := Spelling.usual.reserved op.asked
  intro same
  rw [token] at same
  rw [same] at reserved
  exact absurd reserved (by decide)

end ColumnOperator

/-- Blanks behind a filter of a change are not part of its value. -/
theorem trim_changeText (column : Identifier) (op : ColumnOperator) (value : List Char) :
    trim (column.text.toList ++ '=' :: (op.token ++ '.' :: value)) =
      column.text.toList ++ '=' :: (op.token ++ '.' :: trimEnd value) := by
  obtain ⟨c, rest, shape, solid⟩ := (IsItem.name column).opens
  have point := trimEnd_append_cons (c := '.') (by decide)
    (column.text.toList ++ '=' :: op.token) value
  simp only [List.append_assoc, List.cons_append] at point
  rw [trim, shape, List.cons_append, trimStart_cons solid, ← List.cons_append, ← shape, point]

/-- **What a column filter is read as**, for a column whose name has no blanks around it and is not ended
too early: what its operator makes of the value. -/
theorem ColumnFilter.read_spelled_column {column : String} (filled : column ≠ "")
    (trimmed : trim column.toList = column.toList) (unended : '=' ∉ column.toList) (op : ColumnOperator)
    (value : List Char) :
    let text := String.ofList (column.toList ++ '=' :: (op.token ++ '.' :: value))
    ColumnFilter.read text = match operands? op value with
      | some operands => .ok ⟨text, column, op, operands.map String.ofList⟩
      | none => .error (.invalidFilter text) := by
  intro text
  have first : cut '=' (column.toList ++ '=' :: (op.token ++ '.' :: value)) =
      some (column.toList, op.token ++ '.' :: value) :=
    cut_eq_some_iff.2 ⟨rfl, unended⟩
  have second : cut '.' (op.token ++ '.' :: value) = some (op.token, value) :=
    cut_eq_some_iff.2 ⟨rfl, fun mem => (op.isWord_token _ mem).1 rfl⟩
  have solid : column.toList.isEmpty = false := by simpa using filled
  rw [read, String.toList_ofList]
  simp only [first, second, trimmed, solid, op.read?_token, bind, Option.bind, Bool.false_eq_true, if_false,
    String.ofList_toList]
  cases operands? op value <;> rfl

theorem ColumnFilter.of_read {column : Identifier} {op : ColumnOperator} {value : List Char}
    {f : ColumnFilter} (h : ColumnFilter.read
      (String.ofList (column.text.toList ++ '=' :: (op.token ++ '.' :: value))) = .ok f) :
    f.column = column.text ∧ f.operator = op ∧
      ∃ operands, operands? op value = some operands ∧ f.operands = operands.map String.ofList := by
  have filled : column.text ≠ "" := by
    obtain ⟨c, rest, shape, -⟩ := column.exists_cons
    intro none
    rw [none] at shape
    cases shape
  rw [read_spelled_column filled (IsItem.name column).trim_eq (column.quote_notMem (by decide))] at h
  cases found : operands? op value with
  | none =>
    rw [found] at h
    cases h
  | some operands =>
    rw [found] at h
    obtain rfl := Except.ok.inj h
    exact ⟨rfl, rfl, operands, rfl, rfl⟩

/-- **What the column filter of a change is read as**: blanks behind the value are dropped first. -/
theorem ChangeFilter.of_ofRequest {column : Identifier} {op : ColumnOperator} {value : String}
    {id : Nat} {r : ChangeRequest} {f : ChangeFilter}
    (asks : r.filter = some (op.changeText column value)) (accepted : ChangeFilter.ofRequest id r = .ok f) :
    ∃ read, f.column = some read ∧ read.column = column.text ∧ read.operator = op ∧
      ∃ operands, ColumnFilter.operands? op (trimEnd value.toList) = some operands ∧
        read.operands = operands.map String.ofList := by
  obtain ⟨operation, -, accepted⟩ := bind_eq_ok_iff.1 accepted
  obtain ⟨columnFilter, found, accepted⟩ := bind_eq_ok_iff.1 accepted
  obtain rfl := Except.ok.inj accepted
  let text := column.text.toList ++ '=' :: (op.token ++ '.' :: trimEnd value.toList)
  have trimmed : String.ofList (trim (op.changeText column value).toList) = String.ofList text := by
    rw [ColumnOperator.changeText, String.toList_ofList, ColumnOperator.operation, trim_changeText]
  have filled : (String.ofList text).isEmpty = false := by
    rw [Bool.eq_false_iff, ne_eq, String.isEmpty_iff, String.ofList_eq_empty_iff]
    simp [text]
  rw [readColumn, asks, Option.map_some, trimmed, Option.filter_some, filled] at found
  obtain ⟨read, readable, rfl⟩ := map_eq_ok_iff.1 found
  exact ⟨read, rfl, ColumnFilter.of_read readable⟩

/-! ## §2 — what a query binds -/

/-- The values that a predicate binds. -/
def boundValues : Predicate → List Param
  | .compare op value => [some (op.operand value)]
  | .is _ => []
  | .oneOf items => items.map some
  | .search _ _ query => [some query]

theorem params_condition (c : Condition) :
    Sql.Template.params (Filter.template (.condition c)) = boundValues c.predicate := by
  rw [(Filter.binds_template _).params_eq, Filter.slots, Filter.conditions, List.flatMap_singleton,
    Condition.slots]
  cases c.predicate with
  | oneOf items => simp [Predicate.slots, boundValues]
  | compare | is | search => rfl

/-- **A query reads the same spelling by the same operator.** -/
theorem read_query {column : Identifier} (op : ColumnOperator) (value : String)
    (other : column.text ≠ "and" ∧ column.text ≠ "or") :
    Filter.read column.text (String.ofList (op.operation value)) =
      (op.asked.predicate column none value.toList).map fun p => .condition ⟨column, false, p⟩ := by
  have spelled := (Sql.Identifier.isSpelling_of_isCanonical column.canonical).1
  have noPoint : '.' ∉ column.text.toList := fun mem => (column.isWord _ mem).1 rfl
  have positive : Sql.readNot (op.operation value) = (false, op.operation value) :=
    Sql.readNot_notMark false op.isWord_token (.inl rfl) (.inl op.token_ne_not) value.toList
  have parts : cut '.' (op.operation value) = some (op.token, value.toList) :=
    cut_eq_some_iff.2 ⟨rfl, fun mem => (op.isWord_token _ mem).1 rfl⟩
  have plain : Sql.readLanguage column op.token = .ok (op.token, none) := by
    rw [Sql.readLanguage, cut_eq_none_iff.2 fun mem => (op.isWord_token _ mem).2 rfl]
  have named : Operator.read op.token = .ok op.asked := Spelling.usual.read op.asked
  rw [Filter.read]
  · rw [if_pos spelled, String.toList_ofList, Condition.read, Sql.Identifier.read,
      Sql.Identifier.read?_text, positive]
    show ((Sql.readLanguage column _ >>= _ : Except _ Condition)).map _ = _
    simp only [parts, plain, named, bind, Except.bind]
    show ((op.asked.predicate column none value.toList).bind _).map _ = _
    cases op.asked.predicate column none value.toList <;> rfl
  · exact other.2
  · exact other.1
  · intro same
    exact noPoint (same ▸ by decide)
  · intro same
    exact noPoint (same ▸ by decide)

/-! ## §3 — values that are read alike -/

/-- **A list that both readers take apart in the same way.** -/
structure PlainList (list : List Char) : Prop where
  /-- It is not blank: a query reads a blank list as empty, a change filter as one empty item. -/
  filled : trim list ≠ []
  /-- No comma stands in brackets or quotes. -/
  separated : splitTopLevel list = some (fields ',' list)
  /-- Taking off double quotes leaves what undoing the quotation leaves. -/
  unquoted : ∀ item ∈ fields ',' list, unquote (trim item) = strip '"' (trim item)

/-- **A value that both readers read alike.** -/
def ColumnOperator.Agrees (value : List Char) : ColumnOperator → Prop
  | oneOf => ∀ list, trimEnd value = '(' :: (list ++ [')']) → PlainList list
  | _ => trimEnd value = value

/-- A list in brackets is trimmed at its end alone. -/
theorem trim_of_trimEnd {value list : List Char} (bracketed : trimEnd value = '(' :: (list ++ [')'])) :
    trim value = '(' :: (list ++ [')']) := by
  have whole : value = trimEnd value ++ (value.reverse.takeWhile isBlank).reverse := by
    rw [trimEnd, ← List.reverse_append, List.takeWhile_append_dropWhile, List.reverse_reverse]
  have start : trimStart value = value := by
    rw [whole, bracketed]
    exact trimStart_cons (by decide) _
  rw [trim, start, bracketed]

/-- **Two lists of items are the same** when the list is plain, and only then. -/
theorem items_eq_iff {column : Identifier} {value list : List Char} {items : List String}
    (bracketed : trimEnd value = '(' :: (list ++ [')'])) (read : readList column value = .ok items) :
    ((fields ',' list).map fun item => String.ofList (strip '"' (trim item))) = items ↔
      PlainList list := by
  have between : between? '(' ')' (trim value) = some list :=
    between?_eq_some_iff.2 (trim_of_trimEnd bracketed)
  have some : fields ',' list ≠ [] := fieldsBy_ne_nil _ list
  rw [readList, between] at read
  simp only at read
  by_cases blank : trim list = []
  · rw [blank, List.isEmpty_nil, if_pos rfl] at read
    obtain rfl := Except.ok.inj read
    rw [List.map_eq_nil_iff]
    exact ⟨fun none => absurd none some, fun plain => absurd blank plain.filled⟩
  · rw [if_neg (by simpa using blank)] at read
    obtain ⟨parts, split, rfl⟩ := map_eq_ok_iff.1 read
    have found : splitTopLevel list = Option.some parts := by
      unfold Sql.items at split
      split at split
      next found => rw [found, Except.ok.inj split]
      · cases split
    have unquotes : (∀ item ∈ fields ',' list, String.ofList (strip '"' (trim item)) =
        String.ofList (unquote (trim item))) ↔
        ∀ item ∈ fields ',' list, unquote (trim item) = strip '"' (trim item) := by
      simp only [String.ofList_inj, eq_comm]
    constructor
    · intro same
      have sizes := congrArg List.length same
      rw [List.length_map, List.length_map] at sizes
      obtain rfl := (fields_of_splitFrom found).2 sizes.symm
      exact ⟨blank, found, unquotes.1 (List.map_inj_left.1 same)⟩
    · intro plain
      obtain rfl : parts = fields ',' list := Option.some.inj (found.symm.trans plain.separated)
      exact List.map_congr_left (unquotes.2 plain.unquoted)

/-- A list without brackets and quotes is plain. -/
theorem plainList_of_unmarked {list : List Char} (filled : trim list ≠ [])
    (unmarked : ∀ c ∈ list, c ∉ ['"', '(', ')']) : PlainList list where
  filled := filled
  separated := splitTopLevel_unmarked unmarked
  unquoted item mem := by
    have quote : '"' ∉ trim item := by
      intro inside
      exact unmarked _ (mem_of_mem_fields mem (mem_of_mem_trim inside)) (by decide)
    have bare : between? '"' '"' (trim item) = none := by
      rw [Option.eq_none_iff_forall_ne_some]
      intro inner quoted
      exact quote (between?_eq_some_iff.1 quoted ▸ List.mem_cons_self)
    rw [unquote, bare, strip_of_notMem quote]

/-- The items of a list may stand in double quotes. -/
example : PlainList "open,\"in review\"".toList :=
  ⟨by decide, by decide, by decide⟩

namespace ColumnOperator

/-- **Change filters and queries read the same values**, exactly where the value is one that both read
alike. When both accept `column=operator.value`, the change filter looks at the same column with the
same operator; its operands are the values that the query binds, in order, exactly when no blank is
behind the value or, for a list, when the list is plain. -/
theorem operands_eq_iff {column : Identifier} (other : column.text ≠ "and" ∧ column.text ≠ "or")
    {op : ColumnOperator} {value : String} {id : Nat} {r : ChangeRequest} {change : ChangeFilter}
    {query : Filter} (asks : r.filter = some (op.changeText column value))
    (accepted : ChangeFilter.ofRequest id r = .ok change)
    (read : Filter.read column.text (String.ofList (op.operation value)) = .ok query) :
    ∃ f, change.column = some f ∧ f.column = column.text ∧ f.operator = op ∧
      (f.operands.map some = Sql.Template.params query.template ↔ op.Agrees value.toList) := by
  obtain ⟨f, given, named, operated, operands, found, same⟩ := ChangeFilter.of_ofRequest asks accepted
  rw [read_query op value other] at read
  obtain ⟨p, asked, rfl⟩ := map_eq_ok_iff.1 read
  refine ⟨f, given, named, operated, ?_⟩
  rw [params_condition]
  cases op with
  | oneOf =>
    obtain ⟨items, listed, rfl⟩ := map_eq_ok_iff.1 asked
    obtain ⟨list, between, rfl⟩ := Option.map_eq_some_iff.1 found
    have bracketed := between?_eq_some_iff.1 between
    have plain : Agrees value.toList oneOf ↔ PlainList list := by
      constructor
      · intro agrees
        exact agrees list bracketed
      · rintro plain other same
        have tails := (List.cons.inj (same.symm.trans bracketed)).2
        obtain rfl : other = list := List.append_cancel_right tails
        exact plain
    rw [plain, ← items_eq_iff bracketed listed, boundValues,
      List.map_inj_right fun _ _ => Option.some.inj, same, List.map_map]
    rfl
  | eq | neq | lt | lte | gt | gte =>
    obtain rfl := Except.ok.inj asked
    obtain rfl := Option.some.inj found
    have texts : String.ofList (trimEnd value.toList) = value ↔
        trimEnd value.toList = value.toList := by
      rw [← String.toList_inj, String.toList_ofList]
    simpa [same, boundValues, Agrees, Sql.Comparison.operand] using texts

/-- A list with an item in double quotes. -/
theorem operands_eq_iff_quoted :
    let column : Identifier := ⟨"a", by decide⟩
    let value : String := "(x,\"y\")"
    let f : ColumnFilter := ⟨"a=in.(x,\"y\")", "a", oneOf, ["x", "y"]⟩
    let query : Filter := .condition ⟨column, false, .oneOf ["x", "y"]⟩
    ChangeFilter.ofRequest 1 { filter := some "a=in.(x,\"y\")" } =
        .ok ⟨1, none, none, none, some f⟩ ∧
      Filter.read "a" "in.(x,\"y\")" = .ok query ∧
      f.operands.map some = Sql.Template.params query.template ∧ oneOf.Agrees value.toList := by
  intro column value f query
  have spelled : oneOf.changeText column value = "a=in.(x,\"y\")" := by decide
  have asked : String.ofList (oneOf.operation value) = "in.(x,\"y\")" := by decide
  have accepted : ChangeFilter.ofRequest 1 { filter := some "a=in.(x,\"y\")" } =
      .ok ⟨1, none, none, none, some f⟩ := by rfl
  have read : Filter.read "a" "in.(x,\"y\")" = .ok query := by rfl
  have other : column.text ≠ "and" ∧ column.text ≠ "or" := ⟨by decide, by decide⟩
  have asks := congrArg some spelled.symm
  obtain ⟨f', same, -, -, iff⟩ := operands_eq_iff other asks accepted (asked ▸ read)
  obtain rfl := Option.some.inj same
  have values : f.operands.map some = Sql.Template.params query.template := rfl
  exact ⟨accepted, read, values, iff.1 values⟩

/-- A comma in double quotes, and an empty list. -/
theorem operands_differ :
    let column : Identifier := ⟨"a", by decide⟩
    let request (text : String) : ChangeRequest := { filter := some text }
    let condition (items : List String) : Filter := .condition ⟨column, false, .oneOf items⟩
    ChangeFilter.ofRequest 1 (request "a=in.(\"x,y\")") =
        .ok ⟨1, none, none, none, some ⟨"a=in.(\"x,y\")", "a", oneOf, ["x", "y"]⟩⟩ ∧
      Filter.read "a" "in.(\"x,y\")" = .ok (condition ["x,y"]) ∧
      ChangeFilter.ofRequest 1 (request "a=in.()") =
        .ok ⟨1, none, none, none, some ⟨"a=in.()", "a", oneOf, [""]⟩⟩ ∧
      Filter.read "a" "in.()" = .ok (condition []) := by
  refine ⟨?_, ?_, ?_, ?_⟩
  · rfl
  · rfl
  · rfl
  · rfl

end ColumnOperator

end Gateway.Channel
