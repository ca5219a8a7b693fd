import Gateway.Sql.Filter
import Gateway.Sql.Rejection
import Gateway.Text.Blank
import Gateway.Text.Cut
import Gateway.Text.TopLevel

/-!
# Reading filters

A filter arrives as a query parameter in one of three spellings, `column=op.value`,
`column.op=value` and the bare key `column.op.value`. The parameters `and` and `or` hold a bracketed
list of items `column.op.value`, which may nest further groups. A `not.` in front of an operator or a
group negates it, and a full-text operator may name a language in brackets.

`Filter.read` is the whole reading. It descends into a group's items, each of which is shorter than
the group's own text.
-/

namespace Gateway.Sql

open Gateway.Text

/-- A name, or the refusal of what cannot be one. -/
def Identifier.read (raw : List Char) : Except Rejection Identifier :=
  match Identifier.read? raw with
  | some name => .ok name
  | none => .error (.invalidIdentifier (String.ofList raw))

theorem Identifier.read_eq_ok_iff {raw : List Char} {name : Identifier} :
    Identifier.read raw = .ok name ↔ Identifier.read? raw = some name := by
  unfold Identifier.read
  cases Identifier.read? raw <;> simp

theorem Identifier.read_text (name : Identifier) : Identifier.read name.text.toList = .ok name :=
  Identifier.read_eq_ok_iff.2 name.read?_text

/-! ## Operators -/

/-- A filter operator as a parameter names it. -/
inductive Operator where
  | compare (op : Comparison)
  | is
  | oneOf
  | search (mode : SearchMode)
deriving DecidableEq, Repr

/-- The names of the operators; some have several. -/
def Operator.tokens : List (String × Operator) :=
  [("eq", .compare .eq), ("neq", .compare .neq), ("gt", .compare .gt), ("gte", .compare .gte),
    ("lt", .compare .lt), ("lte", .compare .lte), ("like", .compare .like),
    ("ilike", .compare .ilike), ("is", .is), ("in", .oneOf),
    ("cs", .compare .contains), ("contains", .compare .contains),
    ("cd", .compare .containedBy), ("contained-by", .compare .containedBy),
    ("containedby", .compare .containedBy),
    ("ov", .compare .overlaps), ("overlaps", .compare .overlaps),
    ("fts", .search .query), ("plfts", .search .plain), ("phfts", .search .phrase),
    ("wfts", .search .websearch)]

/-- The operator of a name. -/
def Operator.read (token : List Char) : Except Rejection Operator :=
  match tokens.lookup (String.ofList token) with
  | some op => .ok op
  | none => .error (.unknownOperator (String.ofList token))

/-- Only the full-text operators take a language. -/
def Operator.takesLanguage : Operator → Bool
  | search _ => true
  | _ => false

/-- The value of `is`, in any case. -/
def IsValue.read (raw : List Char) : Except Rejection IsValue :=
  match String.ofList (lower raw) with
  | "null" => .ok .null
  | "true" => .ok .true
  | "false" => .ok .false
  | "unknown" => .ok .unknown
  | _ => .error (.invalidIsValue (String.ofList raw))

/-! ## Lists of values -/

/-- Undo the backslash escapes of a quoted item; a backslash at the end stands for nothing. -/
def unescape : List Char → List Char
  | [] => []
  | ['\\'] => []
  | '\\' :: c :: rest => c :: unescape rest
  | c :: rest => c :: unescape rest

/-- The value of an item: what is between its double quotes without the escapes, or the item as it
stands when it is not quoted. -/
def unquote (item : List Char) : List Char :=
  match between? '"' '"' item with
  | some inner => unescape inner
  | none => item

/-- Split at the top-level commas, or refuse a text whose brackets or quotes do not pair up. -/
def items (text : List Char) : Except Rejection (List (List Char)) :=
  match splitTopLevel text with
  | some parts => .ok parts
  | none => .error (.unbalancedParentheses (String.ofList text))

/-- Read the bracketed list that `in` takes. -/
def readList (column : Identifier) (value : List Char) : Except Rejection (List String) :=
  match between? '(' ')' (trim value) with
  | none => .error (.malformedFilter column.text .bareList)
  | some inner =>
    if (trim inner).isEmpty then .ok []
    else (items inner).map fun parts => parts.map fun part => String.ofList (unquote (trim part))

/-! ## Conditions -/

/-- Take `not.` off the front of an operation or a group. -/
def readNot (text : List Char) : Bool × List Char :=
  match dropFront? "not.".toList text with
  | some rest => (true, rest)
  | none => (false, text)

/-- The operator's name and its language, which stands in brackets behind it. -/
def readLanguage (column : Identifier) (token : List Char) :
    Except Rejection (List Char × Option Identifier) :=
  match cut '(' token with
  | none => .ok (token, none)
  | some (name, rest) =>
    match dropLast? ')' rest with
    | none => .error (.malformedFilter column.text .openLanguage)
    | some language => (Identifier.read language).map fun l => (name, some l)

/-- What an operator asks, given its value. -/
def Operator.predicate (column : Identifier) (language : Option Identifier) (value : List Char) :
    Operator → Except Rejection Predicate
  | compare op => .ok (.compare op (String.ofList value))
  | is => (IsValue.read value).map .is
  | oneOf => (readList column value).map .oneOf
  | search mode => .ok (.search mode language (String.ofList value))

/-- Read a condition from a column and what is asked of it, `[not.]operator[(language)][.value]`. -/
def Condition.read (column operation : List Char) : Except Rejection Condition := do
  let column ← Identifier.read column
  let (negated, operation) := readNot operation
  -- An operator without a point behind it has the empty value.
  let (token, value) := (cut '.' operation).getD (operation, [])
  let (token, language) ← readLanguage column token
  let operator ← Operator.read token
  if language.isSome && !operator.takesLanguage then
    throw (.malformedFilter column.text .strayLanguage)
  let predicate ← operator.predicate column language value
  return ⟨column, negated, predicate⟩

/-! ## Groups -/

/-- The bracketed text behind a leading word. -/
def bracketAfter? (word : String) (item : List Char) : Option (List Char) :=
  match dropFront? word.toList item with
  | some ('(' :: rest) => some ('(' :: rest)
  | _ => none

/-- The group that an item opens, if it opens one: its connective and its bracketed text. -/
def groupStart (item : List Char) : Option (Connective × List Char) :=
  match bracketAfter? "and" item with
  | some group => some (.and, group)
  | none => (bracketAfter? "or" item).map fun group => (.or, group)

/-- The bracketed items of a group. -/
def groupItems (text : List Char) : Except Rejection (List (List Char)) :=
  match between? '(' ')' (trim text) with
  | none => .error (.malformedFilter (String.ofList text) .bareGroup)
  | some inner =>
    if (trim inner).isEmpty then .error (.malformedFilter (String.ofList text) .emptyGroup)
    else (items inner).map fun parts => parts.map trim

/-- A condition as an item of a group, `column.operation`. -/
def readItemCondition (item : List Char) : Except Rejection Filter :=
  match cut '.' item with
  | none => .error (.malformedFilter (String.ofList item) .missingOperator)
  | some (column, operation) => (Condition.read column operation).map .condition

/-- An item of a group is shorter than the group's text. -/
theorem length_lt_of_mem_groupItems {text item : List Char} {parts : List (List Char)}
    (h : groupItems text = .ok parts) (mem : item ∈ parts) : item.length < text.length := by
  unfold groupItems at h
  split at h
  · simp at h
  next inner found =>
    split at h
    · simp at h
    unfold items at h
    split at h
    next pieces split =>
      obtain rfl : pieces.map trim = parts := by simpa [Except.map] using h
      obtain ⟨piece, hp, rfl⟩ := List.mem_map.1 mem
      have bracketed := congrArg List.length (between?_eq_some_iff.1 found)
      simp only [List.length_cons, List.length_append, List.length_nil] at bracketed
      have := length_trim_le text
      have := length_trim_le piece
      have := length_le_of_mem_splitTopLevel split hp
      omega
    · simp [Except.map] at h

theorem length_le_of_bracketAfter? {word : String} {item text : List Char}
    (h : bracketAfter? word item = some text) : text.length ≤ item.length := by
  unfold bracketAfter? at h
  split at h
  next rest found =>
    obtain rfl := Option.some.inj h
    rw [dropFront?_eq_some_iff.1 found]
    simp
  · simp at h

/-- The group that an item opens is no longer than the item. -/
theorem length_le_of_groupStart {item text : List Char} {joint : Connective}
    (h : groupStart item = some (joint, text)) : text.length ≤ item.length := by
  unfold groupStart at h
  split at h
  next group found =>
    obtain ⟨-, rfl⟩ := Prod.mk.inj (Option.some.inj h)
    exact length_le_of_bracketAfter? found
  · obtain ⟨group, found, same⟩ := Option.map_eq_some_iff.1 h
    obtain ⟨-, rfl⟩ := Prod.mk.inj same
    exact length_le_of_bracketAfter? found

theorem length_readNot_le (text : List Char) : (readNot text).2.length ≤ text.length := by
  unfold readNot
  split
  next rest found =>
    have := congrArg List.length (dropFront?_eq_some_iff.1 found)
    simp only [List.length_append] at this
    simp only
    omega
  · exact Nat.le_refl _

/-- Read a group from its bracketed text. -/
def readGroup (joint : Connective) (negated : Bool) (text : List Char) : Except Rejection Filter :=
  match h : groupItems text with
  | .error e => .error e
  | .ok parts =>
    let member (item : { x // x ∈ parts }) : Except Rejection Filter :=
      match start : groupStart (readNot item.1).2 with
      | some (inner, group) =>
        have : group.length < text.length :=
          Nat.lt_of_le_of_lt
            (Nat.le_trans (length_le_of_groupStart start) (length_readNot_le item.1))
            (length_lt_of_mem_groupItems h item.2)
        readGroup inner (readNot item.1).1 group
      | none => readItemCondition item.1
    (parts.attach.mapM member).map (.group joint negated)
termination_by text.length

/-- An item of a group: a further group, or a condition. -/
def readItem (item : List Char) : Except Rejection Filter :=
  match groupStart (readNot item).2 with
  | some (inner, group) => readGroup inner (readNot item).1 group
  | none => readItemCondition item

/-- A group is read by reading its items in order. -/
theorem readGroup_eq (joint : Connective) (negated : Bool) (text : List Char) :
    readGroup joint negated text =
      (groupItems text >>= fun parts => (parts.mapM readItem).map (.group joint negated)) := by
  rw [readGroup]
  split
  next e h => rw [h]; rfl
  next parts h =>
    have items : (groupItems text >>= fun parts =>
        (parts.mapM readItem).map (Filter.group joint negated)) =
        (parts.mapM readItem).map (Filter.group joint negated) := by rw [h]; rfl
    have each : (parts.attach.mapM fun x => readItem x.1) = parts.mapM readItem := by
      change parts.attach.mapM (readItem ∘ Subtype.val) = _
      rw [← List.mapM_map, List.attach_map_subtype_val]
    rw [items, ← each]
    refine congrArg (fun read : { x // x ∈ parts } → Except Rejection Filter =>
      Except.map (Filter.group joint negated) (parts.attach.mapM read)) ?_
    funext ⟨item, mem⟩
    simp only [readItem]
    split <;> simp_all

/-- **Read one filter parameter.** -/
def Filter.read (key value : String) : Except Rejection Filter :=
  match key with
  | "or" => readGroup .or false value.toList
  | "and" => readGroup .and false value.toList
  | "not.or" => readGroup .or true value.toList
  | "not.and" => readGroup .and true value.toList
  | _ =>
    if isSpelling key.toList then (Condition.read key.toList value.toList).map .condition
    else
      match cut '.' key.toList with
      | none => .error (.invalidIdentifier key)
      | some (column, rest) =>
        -- Without a value the key holds the whole condition.
        let operation := if value.isEmpty then rest else rest ++ '.' :: value.toList
        (Condition.read column operation).map .condition

end Gateway.Sql
