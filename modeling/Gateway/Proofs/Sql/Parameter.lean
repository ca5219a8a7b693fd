import Gateway.Proofs.Sql.RoundTrip

/-!
# Conditions as parameters

A condition on one column is asked for as `column=operator.value`, as `column.operator=value` or as the
bare key `column.operator.value`. The text is put together and taken apart in another place for each of
the three, so that they agree is a matter of where the points stand: `Filter.read_spread` says that the
three are read as one, whatever the value is, and that what is wrong is refused for the same reason.
-/

namespace Gateway.Sql

open Gateway.Text

/-! ## §1 — an operation and its value -/

/-- What is asked of a column, without a value: an operator, or `not.` and an operator. -/
def IsOperation (operation : List Char) : Prop :=
  ('.' ∉ operation ∧ operation ≠ "not".toList) ∨
    ∃ token, operation = "not.".toList ++ token ∧ '.' ∉ token

/-- **The operator of an operation is found with a value behind it and without one.** -/
theorem IsOperation.exists_token {operation : List Char} (h : IsOperation operation) :
    ∃ negated token, '.' ∉ token ∧ readNot operation = (negated, token) ∧
      ∀ value, readNot (operation ++ '.' :: value) = (negated, token ++ '.' :: value) := by
  rcases h with ⟨plain, other⟩ | ⟨token, rfl, plain⟩
  · refine ⟨false, operation, plain, ?_, fun value => ?_⟩
    · have front : dropFront? "not.".toList operation = none := by
        rw [Option.eq_none_iff_forall_ne_some]
        intro rest found
        rw [dropFront?_eq_some_iff.1 found] at plain
        exact plain (List.mem_append_left rest (by decide))
      rw [readNot, front]
    · have front : dropFront? "not.".toList (operation ++ '.' :: value) = none := by
        rw [Option.eq_none_iff_forall_ne_some]
        intro rest found
        have same : operation ++ '.' :: value = "not".toList ++ '.' :: rest :=
          (dropFront?_eq_some_iff.1 found).trans rfl
        exact other (cut_unique plain (by decide) same).1
      rw [readNot, front]
  · refine ⟨true, token, plain, ?_, fun value => ?_⟩
    · rw [readNot, dropFront?_eq_some_iff.2 rfl]
    · rw [readNot, dropFront?_eq_some_iff.2 (List.append_assoc _ _ _)]

/-- **An operation without a value has the empty one.** -/
theorem Condition.read_point {operation : List Char} (h : IsOperation operation)
    (column : List Char) : Condition.read column (operation ++ ['.']) = Condition.read column operation := by
  obtain ⟨negated, token, plain, bare, behind⟩ := h.exists_token
  have alone : (cut '.' token).getD (token, []) = (token, []) := by
    rw [cut_eq_none_iff.2 plain, Option.getD_none]
  have followed : (cut '.' (token ++ ['.'])).getD (token ++ ['.'], []) = (token, []) := by
    rw [cut_eq_some_iff.2 ⟨rfl, plain⟩, Option.getD_some]
  simp only [Condition.read, bare, behind, alone, followed]

/-! ## §2 — keys -/

/-- The keys of the parameters that hold a group. -/
def groupKeys : List String :=
  ["or", "and", "not.or", "not.and"]

/-- Every other key is a column, or a column and something behind a point. -/
theorem Filter.read_of_notMem {key : String} (other : key ∉ groupKeys) (value : String) :
    Filter.read key value =
      if isSpelling key.toList then (Condition.read key.toList value.toList).map .condition
      else
        match cut '.' key.toList with
        | none => .error (.invalidIdentifier key)
        | some (column, rest) =>
          let operation := if value.isEmpty then rest else rest ++ '.' :: value.toList
          (Condition.read column operation).map .condition := by
  simp only [groupKeys, List.mem_cons, List.not_mem_nil, or_false, not_or] at other
  obtain ⟨any, all, notAny, notAll⟩ := other
  unfold Filter.read
  split
  · exact absurd rfl any
  · exact absurd rfl all
  · exact absurd rfl notAny
  · exact absurd rfl notAll
  · rfl

/-- A condition on what cannot be a name is refused for that reason. -/
theorem Condition.read_of_not_isSpelling {column : List Char} (h : ¬ isSpelling column = true)
    (operation : List Char) :
    Condition.read column operation = .error (.invalidIdentifier (String.ofList column)) := by
  have unread : Identifier.read column = .error (.invalidIdentifier (String.ofList column)) := by
    rw [Identifier.read, Identifier.read?, dif_neg h]
  rw [Condition.read, unread]
  rfl

/-- A key without a point is the column. -/
theorem Filter.read_bare {key : String} (other : key ∉ groupKeys) (plain : '.' ∉ key.toList)
    (value : String) :
    Filter.read key value = (Condition.read key.toList value.toList).map .condition := by
  rw [read_of_notMem other]
  split
  next => rfl
  next odd =>
    rw [cut_eq_none_iff.2 plain, Condition.read_of_not_isSpelling odd, String.ofList_toList]
    rfl

/-- A key with a point holds the column and the start of the operation. -/
theorem Filter.read_dotted {key : String} (other : key ∉ groupKeys) {column rest : List Char}
    (shape : key.toList = column ++ '.' :: rest) (plain : '.' ∉ column) (value : String) :
    Filter.read key value =
      (Condition.read column (if value.isEmpty then rest else rest ++ '.' :: value.toList)).map
        .condition := by
  have pointed : '.' ∈ key.toList := by simp [shape]
  have odd : ¬ isSpelling key.toList = true := fun spelled =>
    notMem_of_isSpelling spelled (by decide) pointed
  rw [read_of_notMem other, if_neg odd, cut_eq_some_iff.2 ⟨shape, plain⟩]

/-! ## §3 — three ways to ask -/

/-- A key with two points holds no group. -/
theorem notMem_groupKeys_of_points {key : String} {first second third : List Char}
    (shape : key.toList = first ++ '.' :: (second ++ '.' :: third)) : key ∉ groupKeys := by
  have points : 2 ≤ key.toList.count '.' := by
    simp [shape]
    omega
  have few : ∀ k ∈ groupKeys, k.toList.count '.' ≤ 1 := by decide
  exact fun mem => absurd (few key mem) (by omega)

namespace Filter

section
variable {column : String} (plain : '.' ∉ column.toList)
include plain

/-- The whole operation stands in the value. -/
theorem read_operation_in_value (single : column ≠ "and" ∧ column ≠ "or") (value : String) :
    Filter.read column value = (Condition.read column.toList value.toList).map .condition := by
  refine read_bare ?_ plain value
  simp only [groupKeys, List.mem_cons, List.not_mem_nil, or_false, not_or]
  refine ⟨single.2, single.1, ?_, ?_⟩
  · rintro rfl
    exact plain (by decide)
  · rintro rfl
    exact plain (by decide)

/-- The operator stands in the key. -/
theorem read_operator_in_key {operation : String} (asked : IsOperation operation.toList)
    (apart : column ++ "." ++ operation ≠ "not.or" ∧ column ++ "." ++ operation ≠ "not.and")
    (value : String) :
    Filter.read (column ++ "." ++ operation) value =
      (Condition.read column.toList (operation ++ "." ++ value).toList).map .condition := by
  have shape : (column ++ "." ++ operation).toList = column.toList ++ '.' :: operation.toList := by simp
  have pointed : ∀ word : String, '.' ∉ word.toList → column ++ "." ++ operation ≠ word := by
    rintro word none rfl
    exact none (by simp)
  have other : column ++ "." ++ operation ∉ groupKeys := by
    simp only [groupKeys, List.mem_cons, List.not_mem_nil, or_false, not_or]
    exact ⟨pointed "or" (by decide), pointed "and" (by decide), apart⟩
  rw [read_dotted other shape plain]
  split
  next none =>
    obtain rfl := String.isEmpty_iff.1 none
    have followed : (operation ++ "." ++ "").toList = operation.toList ++ ['.'] := by simp
    rw [followed, Condition.read_point asked]
  next => simp

/-- The key holds everything. -/
theorem read_value_in_key (operation value : String) :
    Filter.read (column ++ "." ++ operation ++ "." ++ value) "" =
      (Condition.read column.toList (operation ++ "." ++ value).toList).map .condition := by
  have shape : (column ++ "." ++ operation ++ "." ++ value).toList =
      column.toList ++ '.' :: (operation.toList ++ '.' :: value.toList) := by simp
  rw [read_dotted (notMem_groupKeys_of_points shape) shape plain]
  simp

end

/-- **The three spellings of a condition are read as one**, as the condition that the column and the whole
operation make, or as what is wrong with it. The column may be any text without a point that does not open
a group, and the value any text at all. -/
theorem read_spread {column operation : String} (value : String) (plain : '.' ∉ column.toList)
    (single : column ≠ "and" ∧ column ≠ "or") (asked : IsOperation operation.toList)
    (apart : column ++ "." ++ operation ≠ "not.or" ∧ column ++ "." ++ operation ≠ "not.and") :
    Filter.read column (operation ++ "." ++ value) = Filter.read (column ++ "." ++ operation) value ∧
      Filter.read (column ++ "." ++ operation) value =
        Filter.read (column ++ "." ++ operation ++ "." ++ value) "" ∧
      Filter.read column (operation ++ "." ++ value) =
        (Condition.read column.toList (operation ++ "." ++ value).toList).map .condition := by
  have first := read_operation_in_value plain single (operation ++ "." ++ value)
  have second := read_operator_in_key plain asked apart value
  have third := read_value_in_key plain operation value
  exact ⟨first.trans second.symm, second.trans third.symm, first⟩

/-- A negated list with points, brackets and quotes in its value. -/
theorem read_spread_list :
    let column : Identifier := ⟨"id", by decide⟩
    let condition : Filter := .condition ⟨column, true, .oneOf ["1.5", "a,(b"]⟩
    '.' ∉ "id".toList ∧ IsOperation "not.in".toList ∧
      Filter.read "id" "not.in.(1.5,\"a,(b\")" = .ok condition ∧
      Filter.read "id.not.in" "(1.5,\"a,(b\")" = .ok condition ∧
      Filter.read "id.not.in.(1.5,\"a,(b\")" "" = .ok condition := by
  intro column condition
  have plain : '.' ∉ "id".toList := by decide
  have asked : IsOperation "not.in".toList := .inr ⟨"in".toList, rfl, by decide⟩
  have read : Filter.read "id" "not.in.(1.5,\"a,(b\")" = .ok condition := by rfl
  obtain ⟨second, third, -⟩ := read_spread "(1.5,\"a,(b\")" plain ⟨by decide, by decide⟩ asked
    ⟨by decide, by decide⟩
  exact ⟨plain, asked, read, second.symm.trans read, (second.trans third).symm.trans read⟩

/-- The bare word `not` is no operation: a point behind it makes it a negation. -/
example : Filter.read "id" "not." = .error (.unknownOperator "") ∧
    Filter.read "id.not" "" = .error (.unknownOperator "not") :=
  ⟨rfl, rfl⟩

end Filter

/-- What is written for an operator is none of the words of the dialect. -/
theorem Predicate.token_notMem (s : Spelling) (p : Predicate) :
    p.token s ∉ ["not".toList, "and".toList, "or".toList] := by
  intro mem
  have words : ∀ word ∈ ["not".toList, "and".toList, "or".toList], IsWord word := by
    simp only [List.forall_mem_cons]
    exact ⟨isWord_not, Connective.and.isWord, Connective.or.isWord, List.forall_mem_nil _⟩
  obtain ⟨mark, more, shape, marks⟩ := p.exists_token_eq s []
  obtain ⟨same, -⟩ := (words _ mem).unique (s.isWord _) (.inl rfl) marks shape
  exact s.reserved _ (same ▸ mem)

/-- **A condition is read back from each of its three spellings**, whatever names the operators are given
and whatever value it asks for. -/
theorem Filter.read_condition (s : Spelling) (c : Condition)
    (single : c.column.text ≠ "and" ∧ c.column.text ≠ "or") :
    let operation := String.ofList (notMark c.negated ++ c.predicate.token s)
    let value := String.ofList c.predicate.valueText
    Filter.read c.column.text (operation ++ "." ++ value) = .ok (.condition c) ∧
      Filter.read (c.column.text ++ "." ++ operation) value = .ok (.condition c) ∧
      Filter.read (c.column.text ++ "." ++ operation ++ "." ++ value) "" = .ok (.condition c) := by
  intro operation value
  have plain : '.' ∉ c.column.text.toList := fun mem => (c.column.isWord _ mem).1 rfl
  have bare := c.predicate.point_notMem_token s
  have reserved := c.predicate.token_notMem s
  have text : operation.toList = notMark c.negated ++ c.predicate.token s := String.toList_ofList
  have whole : (operation ++ "." ++ value).toList = c.operation s := by
    simp [operation, value, Condition.operation]
  have read : (Condition.read c.column.text.toList (operation ++ "." ++ value).toList).map
      Filter.condition = .ok (.condition c) := by
    rw [whole, c.read_operation s]
    rfl
  have asked : IsOperation operation.toList := by
    rw [text]
    cases c.negated with
    | true => exact .inr ⟨_, rfl, bare⟩
    | false => exact .inl ⟨bare, fun same => reserved (by rw [← same]; exact List.mem_cons_self)⟩
  have apart (word : String) (mem : word.toList ∈ ["and".toList, "or".toList]) :
      c.column.text ++ "." ++ operation ≠ "not." ++ word := by
    intro same
    have texts : c.column.text.toList ++ '.' :: operation.toList = "not".toList ++ '.' :: word.toList := by
      simpa using congrArg String.toList same
    have behind := (cut_unique plain (by decide) texts).2
    rw [text] at behind
    cases negated : c.negated with
    | true =>
      rw [negated] at behind
      have pointed : '.' ∈ word.toList := behind ▸ List.mem_append_left _ (by decide)
      rcases List.mem_cons.1 mem with same | mem
      · exact absurd (same ▸ pointed) (by decide)
      · exact absurd (List.mem_singleton.1 mem ▸ pointed) (by decide)
    | false =>
      rw [negated] at behind
      have token : c.predicate.token s = word.toList := behind
      exact reserved (List.mem_cons_of_mem _ (token ▸ mem))
  exact ⟨(read_operation_in_value plain single _).trans read,
    (read_operator_in_key plain asked ⟨apart "or" (by decide), apart "and" (by decide)⟩ value).trans read,
    (read_value_in_key plain operation value).trans read⟩

end Gateway.Sql
