import Gateway.Proofs.Binary64.Whole
import Gateway.Proofs.Channel.Operands

/-!
# Comparing whole numbers in change filters

A change filter on a column of whole numbers is written with a decimal, `column=operator.number`, or with
a list of them, `column=in.(number,number)`. Both sides become binary numbers before they are compared,
so the filter answers for what is kept of the two. It never takes a lesser number for a greater one, but
beyond `2 ^ 53` it may take two numbers for one (`selects_whole`).
-/

namespace Gateway.Channel

open Gateway.Text
open Gateway.Binary64 (Fits64 kept kept_le_kept order?_ofInt read?_printInt)

/-! ## §1 — filters with numbers -/

/-- What an operator asks of two whole numbers. -/
def ColumnOperator.Relates : ColumnOperator → Int → Int → Prop
  | eq, n, m | oneOf, n, m => n = m
  | neq, n, m => n ≠ m
  | lt, n, m => n < m
  | lte, n, m => n ≤ m
  | gt, n, m => m < n
  | gte, n, m => m ≤ n

/-- An operator holds of the order of two numbers when it asks this of them. -/
theorem ColumnOperator.holds_compare (op : ColumnOperator) (n m : Int) :
    op.holds (compare n m) = true ↔ op.Relates n m := by
  rcases Int.lt_trichotomy n m with less | rfl | more
  · have order : compare n m = .lt := compare_lt_iff_lt.2 less
    cases op <;> simp [holds, Relates, order] <;> omega
  · have order : compare n n = .eq := compare_eq_iff_eq.2 rfl
    cases op <;> simp [holds, Relates]
  · have order : compare n m = .gt := compare_gt_iff_gt.2 more
    cases op <;> simp [holds, Relates, order] <;> omega

/-- A name that a filter can give a column: it is not empty, has no blanks around it, and no `=` ends it
too early. -/
structure IsColumnName (column : String) : Prop where
  filled : column ≠ ""
  trimmed : trim column.toList = column.toList
  unended : '=' ∉ column.toList

instance (column : String) : Decidable (IsColumnName column) :=
  decidable_of_iff (column ≠ "" ∧ trim column.toList = column.toList ∧ '=' ∉ column.toList)
    ⟨fun ⟨filled, trimmed, unended⟩ => ⟨filled, trimmed, unended⟩,
      fun h => ⟨h.filled, h.trimmed, h.unended⟩⟩

/-- The filter `column=operator.value`. -/
def filterText (column : String) (op : ColumnOperator) (value : List Char) : String :=
  String.ofList (column.toList ++ '=' :: (op.token ++ '.' :: value))

/-- **A filter selects a row exactly when this holds.** -/
def Selects (filter : String) (row : Json) (condition : Prop) : Prop :=
  ∃ f, ColumnFilter.read filter = .ok f ∧ (f.selects (some row) = true ↔ condition)

variable {column : String} {op : ColumnOperator} {row : Json} {n : Int}

/-- **What a filter is read as**, whatever the column is called. -/
theorem ColumnFilter.read_filterText (named : IsColumnName column) {value : List Char}
    {operands : List (List Char)} (found : operands? op value = some operands) :
    ColumnFilter.read (filterText column op value) =
      .ok ⟨filterText column op value, column, op, operands.map String.ofList⟩ := by
  rw [filterText, read_spelled_column named.filled named.trimmed named.unended, found]

/-- A filter selects a row with a whole number when the number compares to one of the operands. -/
theorem selects_of_operands (named : IsColumnName column) (held : row.member? column = some (.int n))
    {value : List Char} {operands : List (List Char)}
    (found : ColumnFilter.operands? op value = some operands) {condition : Prop}
    (compares : (∃ operand ∈ operands,
      (ColumnFilter.compareValue (.int n) (String.ofList operand)).any op.holds = true) ↔ condition) :
    Selects (filterText column op value) row condition := by
  refine ⟨_, ColumnFilter.read_filterText named found, ?_⟩
  rw [← compares]
  simp [ColumnFilter.selects, ColumnFilter.admits, held]

/-! ## §2 — decimals as operands -/

theorem printInt_ne_nil (n : Int) : Json.printInt n ≠ [] := by
  unfold Json.printInt
  split
  · simp
  · exact Nat.toDigits_ne_nil

theorem isPlainChar_of_mem_printInt {n : Int} {c : Char} (mem : c ∈ Json.printInt n) :
    Sql.isPlainChar c = true := by
  have digit {d : Char} (h : d ∈ Nat.toDigits 10 n.natAbs) : Sql.isPlainChar d = true := by
    refine Sql.isPlainChar_of_isNamePart ?_
    simp [Sql.isNamePart, Nat.isDigit_of_mem_toDigits (by decide) (by decide) h]
  unfold Json.printInt at mem
  split at mem
  · rcases List.mem_cons.1 mem with rfl | mem
    · decide
    · exact digit mem
  · exact digit mem

/-- A decimal is an item of a list. -/
theorem isItem_printInt (n : Int) : Sql.IsItem (Json.printInt n) := by
  have plain : (Json.printInt n).all Sql.isPlainChar = true :=
    List.all_eq_true.2 fun _ mem => isPlainChar_of_mem_printInt mem
  refine ⟨Sql.Verbatim.of_plain plain, ?_⟩
  cases shape : Json.printInt n with
  | nil => exact absurd shape (printInt_ne_nil n)
  | cons c rest =>
    have solid := isPlainChar_of_mem_printInt (shape ▸ List.mem_cons_self : c ∈ Json.printInt n)
    rw [Sql.isPlainChar, Bool.and_eq_true, Bool.not_eq_true'] at solid
    exact ⟨c, rest, rfl, solid.1⟩

/-- **A list of decimals has these as its operands**; without a decimal it has one empty operand. -/
theorem operands?_decimals (numbers : List Int) :
    ColumnFilter.operands? .oneOf (bracketList (numbers.map Json.printInt)) =
      some (if numbers = [] then [[]] else numbers.map Json.printInt) := by
  have clear (mark : Char) (reserved : mark ∈ itemMarks) (m : Int) : mark ∉ Json.printInt m := by
    intro mem
    have plain := isPlainChar_of_mem_printInt mem
    rw [Sql.isPlainChar, Bool.and_eq_true, Bool.not_eq_true', List.contains_iff_mem.2 reserved] at plain
    exact Bool.noConfusion plain.2
  have bracketed := between?_eq_some_iff.2 (rfl : bracketList (numbers.map Json.printInt) = _)
  rw [ColumnFilter.operands?, if_pos rfl, bracketed, Option.map_some]
  split
  next none =>
    rw [none]
    rfl
  next some =>
    have items : fields ',' ([','].intercalate (numbers.map Json.printInt)) =
        numbers.map Json.printInt := by
      refine fields_intercalate (by simpa using some) fun item mem => ?_
      obtain ⟨m, -, rfl⟩ := List.mem_map.1 mem
      exact clear ',' (by decide) m
    have bare (m : Int) : strip '"' (trim (Json.printInt m)) = Json.printInt m := by
      rw [(isItem_printInt m).trim_eq, strip_of_notMem (clear '"' (by decide) m)]
    rw [items, List.map_map]
    exact congrArg Option.some (List.map_congr_left fun m _ => bare m)

/-- **A whole number compares to a decimal as what is kept of the two.** -/
theorem compareValue_printInt {n m : Int} (first : Fits64 n) (second : Fits64 m) :
    ColumnFilter.compareValue (.int n) (String.ofList (Json.printInt m)) =
      some (compare (kept n) (kept m)) := by
  simp only [ColumnFilter.compareValue, String.toList_ofList, read?_printInt second,
    order?_ofInt first second]

/-- The empty operand of an empty list is no number, and no number is an empty text. -/
theorem compareValue_empty (n : Int) :
    (ColumnFilter.compareValue (.int n) (String.ofList [])).any ColumnOperator.oneOf.holds = false := by
  have unread : Binary64.read? [] = none := by decide
  have differs : ColumnFilter.compareText (Json.int n).text (String.ofList []) ≠ .eq := fun same =>
    printInt_ne_nil n (String.ofList_inj.1 (Std.LawfulEqOrd.eq_of_compare same))
  simp only [ColumnFilter.compareValue, String.toList_ofList, unread, Option.any_some]
  exact beq_eq_false_iff_ne.2 differs

/-! ## §3 — what the filters select -/

/-- A filter with one number answers for what is kept of it. -/
theorem selects_scalar (named : IsColumnName column) (held : row.member? column = some (.int n))
    (fits : Fits64 n) (scalar : op ≠ .oneOf) {m : Int} (fits' : Fits64 m) :
    Selects (filterText column op (Json.printInt m)) row (op.Relates (kept n) (kept m)) := by
  refine selects_of_operands named held (if_neg scalar) ?_
  simp [compareValue_printInt fits fits', op.holds_compare]

/-- A filter with a list answers for what is kept of the numbers in it. -/
theorem selects_list (named : IsColumnName column) (held : row.member? column = some (.int n))
    (fits : Fits64 n) {numbers : List Int} (fits' : ∀ m ∈ numbers, Fits64 m) :
    Selects (filterText column .oneOf (bracketList (numbers.map Json.printInt))) row
      (∃ m ∈ numbers, kept n = kept m) := by
  refine selects_of_operands named held (operands?_decimals numbers) ?_
  split
  next none =>
    simp only [none, List.mem_singleton, exists_eq_left, compareValue_empty, List.not_mem_nil, false_and,
      exists_false, Bool.false_eq_true]
  next =>
    simp only [List.mem_map, exists_exists_and_eq_and]
    refine exists_congr fun m => and_congr_right fun mem => ?_
    rw [compareValue_printInt fits (fits' m mem), Option.any_some, ColumnOperator.holds_compare]
    rfl

/-- Two answers of one filter for one row are the same. -/
theorem Selects.unique {filter : String} {condition other : Prop} (h : Selects filter row condition) :
    Selects filter row other ↔ (condition ↔ other) := by
  obtain ⟨f, read, answer⟩ := h
  constructor
  · rintro ⟨f', read', answer'⟩
    obtain rfl := Except.ok.inj (read.symm.trans read')
    exact answer.symm.trans answer'
  · intro same
    exact ⟨f, read, answer.trans same⟩

/-- What is asked of two numbers is asked of what is kept of them, unless they are different and the
same is kept of both. -/
theorem ColumnOperator.relates_kept_iff {n m : Int} :
    (∀ op : ColumnOperator, op ≠ .oneOf → (op.Relates (kept n) (kept m) ↔ op.Relates n m)) ↔
      (kept n = kept m → n = m) := by
  constructor
  · intro faithful
    exact (faithful .eq (by decide)).1
  · intro told op _
    have up := kept_le_kept (n := n) (m := m)
    have down := kept_le_kept (n := m) (m := n)
    cases op <;> simp only [Relates] <;> constructor <;> intro h <;> omega

/-- **Change filters compare what is kept of whole numbers.** On a column with a whole number of 64
bits, a filter with one number or a list of them is read, and it answers for what is kept of the two
numbers. So it answers for the numbers themselves exactly where different numbers are kept apart, as they
are up to `2 ^ 53`. -/
theorem selects_whole (named : IsColumnName column) (held : row.member? column = some (.int n))
    (fits : Fits64 n) :
    (∀ op : ColumnOperator, op ≠ .oneOf → ∀ m, Fits64 m →
      Selects (filterText column op (Json.printInt m)) row (op.Relates (kept n) (kept m))) ∧
    (∀ numbers : List Int, (∀ m ∈ numbers, Fits64 m) →
      Selects (filterText column .oneOf (bracketList (numbers.map Json.printInt))) row
        (∃ m ∈ numbers, kept n = kept m)) ∧
    (∀ m, Fits64 m →
      ((∀ op : ColumnOperator, op ≠ .oneOf →
        Selects (filterText column op (Json.printInt m)) row (op.Relates n m)) ↔
          (kept n = kept m → n = m))) ∧
    (∀ numbers : List Int, (∀ m ∈ numbers, Fits64 m) →
      (Selects (filterText column .oneOf (bracketList (numbers.map Json.printInt))) row (n ∈ numbers) ↔
        ((∃ m ∈ numbers, kept n = kept m) → n ∈ numbers))) ∧
    (∀ k : Int, k.natAbs ≤ 2 ^ 53 → kept k = k) := by
  refine ⟨fun op scalar m => selects_scalar named held fits scalar,
    fun numbers => selects_list named held fits, fun m fits' => ?_, fun numbers fits' => ?_,
    fun k => Binary64.kept_of_natAbs_le⟩
  · rw [← ColumnOperator.relates_kept_iff]
    exact forall₂_congr fun op scalar => (selects_scalar named held fits scalar fits').unique
  · rw [(selects_list named held fits fits').unique]
    exact ⟨fun same => same.1, fun told => ⟨told, fun mem => ⟨n, mem, rfl⟩⟩⟩

/-- A small number, and filters on it. -/
theorem selects_whole_seven :
    let row : Json := .obj [("id", .int 7)]
    IsColumnName "id" ∧ row.member? "id" = some (.int 7) ∧ Fits64 7 ∧
      Selects "id=lt.12" row (kept 7 < kept 12) ∧ Selects "id=in.(3,7)" row ((7 : Int) ∈ [3, 7]) := by
  intro row
  have named : IsColumnName "id" := by decide
  have held : row.member? "id" = some (.int 7) := rfl
  have fits : Fits64 7 := by decide
  have below : filterText "id" .lt (Json.printInt 12) = "id=lt.12" := by decide
  have listed : filterText "id" .oneOf (bracketList ([3, 7].map Json.printInt)) = "id=in.(3,7)" := by decide
  obtain ⟨scalar, -, -, list, -⟩ := selects_whole named held fits
  exact ⟨named, held, fits, below ▸ scalar .lt (by decide) 12 (by decide),
    listed ▸ (list [3, 7] (by decide)).2 fun _ => by decide⟩

/-- Two neighbours beyond `2 ^ 53` are taken for one number. -/
theorem selects_neighbour :
    let row : Json := .obj [("id", .int 9007199254740993)]
    Selects "id=eq.9007199254740992" row True ∧
      ¬Selects "id=eq.9007199254740992" row ((9007199254740993 : Int) = 9007199254740992) := by
  intro row
  have spelled : filterText "id" .eq (Json.printInt 9007199254740992) = "id=eq.9007199254740992" := by
    decide +kernel
  have same : kept 9007199254740993 = kept 9007199254740992 := by decide +kernel
  have selected : Selects "id=eq.9007199254740992" row True := by
    have answer : Selects (filterText "id" .eq (Json.printInt 9007199254740992)) row
        (kept 9007199254740993 = kept 9007199254740992) :=
      selects_scalar (by decide) rfl (by decide) (by decide) (by decide)
    exact spelled ▸ answer.unique.2 ⟨fun _ => trivial, fun _ => same⟩
  exact ⟨selected, fun other => absurd (selected.unique.1 other) (by decide)⟩

end Gateway.Channel
