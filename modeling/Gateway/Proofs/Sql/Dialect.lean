import Gateway.Proofs.Sql.Meaning
import Gateway.Proofs.Text.TopLevel
import Gateway.Sql.Filter.Reader

/-!
# Filters written as parameters

`Filter.spelled` writes a filter as an item of a group: a condition as `column.operation`, a group as its
connective and its bracketed items, `not.` in front of what is negated. The items of an `in` list stand
in double quotes, so they may hold anything; the value of a comparison and the text of a search are
written as they are, so they have to be in one piece and must not end with a blank (`Verbatim`).

Lists are read back here: `groupItems_bracketList` for the items of a group, and `readList_quoteItems` for
quoted values.
-/

namespace Gateway.Sql

open Gateway.Text

/-! ## §1 — writing -/

/-- A choice among the names of each operator. -/
structure Spelling where
  name : Operator → String
  named : ∀ op, (name op, op) ∈ Operator.tokens

/-- The first of the names of each operator. -/
def Spelling.usual : Spelling where
  name
    | .compare .eq => "eq"
    | .compare .neq => "neq"
    | .compare .gt => "gt"
    | .compare .gte => "gte"
    | .compare .lt => "lt"
    | .compare .lte => "lte"
    | .compare .like => "like"
    | .compare .ilike => "ilike"
    | .compare .contains => "cs"
    | .compare .containedBy => "cd"
    | .compare .overlaps => "ov"
    | .is => "is"
    | .oneOf => "in"
    | .search .query => "fts"
    | .search .plain => "plfts"
    | .search .phrase => "phfts"
    | .search .websearch => "wfts"
  named
    | .compare op => by cases op <;> decide
    | .is => by decide
    | .oneOf => by decide
    | .search mode => by cases mode <;> decide

/-- What stands in front of a negated operation or group. -/
def notMark (negated : Bool) : List Char :=
  if negated then "not.".toList else []

/-- The word that opens a group. -/
def Connective.word : Connective → List Char
  | and => "and".toList
  | or => "or".toList

/-- A tested value as a parameter names it. -/
def IsValue.spelled : IsValue → List Char
  | null => "null".toList
  | true => "true".toList
  | false => "false".toList
  | unknown => "unknown".toList

/-- A backslash in front of every quote and backslash. -/
def escape (text : List Char) : List Char :=
  text.flatMap fun c => if c = '"' ∨ c = '\\' then ['\\', c] else [c]

/-- An item of a list in double quotes. -/
def quoteItem (item : String) : List Char :=
  '"' :: (escape item.toList ++ ['"'])

/-- **A text that stands at the end of an item as it is**: it is in one piece, and a trim leaves its
end alone. -/
structure Verbatim (text : List Char) : Prop where
  onePiece : OnePiece text
  closed : trimEnd text = text

namespace Predicate

/-- The operator that asks for a predicate. -/
def operator : Predicate → Operator
  | compare op _ => .compare op
  | is _ => .is
  | oneOf _ => .oneOf
  | search mode _ _ => .search mode

/-- The language of a search, if it names one. -/
def language? : Predicate → Option Identifier
  | search _ language _ => language
  | _ => none

/-- The value behind the operator. -/
def valueText : Predicate → List Char
  | compare _ value => value.toList
  | is value => value.spelled
  | oneOf items => bracketList (items.map quoteItem)
  | search _ _ query => query.toList

/-- The operator's name, and behind it the language in brackets. -/
def token (s : Spelling) (p : Predicate) : List Char :=
  (s.name p.operator).toList ++ (p.language?.elim [] fun l => bracketList [l.text.toList])

/-- A value that is not quoted can stand at the end of an item. -/
def Writable : Predicate → Prop
  | compare _ value => Verbatim value.toList
  | search _ _ query => Verbatim query.toList
  | is _ | oneOf _ => True

end Predicate

/-- What is asked of the column of a condition. -/
def Condition.operation (s : Spelling) (c : Condition) : List Char :=
  notMark c.negated ++ (c.predicate.token s ++ '.' :: c.predicate.valueText)

namespace Filter

mutual

/-- **A filter as an item of a group.** -/
def spelled (s : Spelling) : Filter → List Char
  | condition c => c.column.text.toList ++ '.' :: c.operation s
  | group joint negated members =>
    notMark negated ++ (joint.word ++ bracketList (spelledAll s members))

/-- The items of a group. -/
def spelledAll (s : Spelling) : List Filter → List (List Char)
  | [] => []
  | f :: rest => f.spelled s :: spelledAll s rest

end

theorem spelledAll_eq_map (s : Spelling) (members : List Filter) :
    spelledAll s members = members.map (spelled s) := by
  induction members with
  | nil => rfl
  | cons f rest ih => rw [spelledAll, ih, List.map_cons]

end Filter

/-! ## §2 — texts that keep together -/

/-- No visible character of ASCII is blank. -/
theorem isBlank_of_visible {c : Char} (low : 33 ≤ c.toNat) (high : c.toNat ≤ 126) :
    isBlank c = false := by
  rw [isBlank, List.any_eq_false]
  intro range mem
  simp only [blankRanges, List.mem_cons, List.not_mem_nil, or_false] at mem
  simp only [Bool.and_eq_true, decide_eq_true_eq, not_and]
  rcases mem with rfl | rfl | rfl | rfl | rfl | rfl | rfl | rfl | rfl | rfl <;> omega

theorem isBlank_of_isNamePart {c : Char} (h : isNamePart c = true) : isBlank c = false := by
  rw [isNamePart, isNameStart, Bool.or_eq_true, Bool.or_eq_true, isLower_iff, isDigit_iff,
    Char.toNat_val, beq_iff_eq] at h
  rcases h with (lower | rfl) | digit
  · exact isBlank_of_visible (by omega) (by omega)
  · decide
  · exact isBlank_of_visible (by omega) (by omega)

/-- A character that may stand anywhere in an item. -/
def isPlainChar (c : Char) : Bool :=
  !isBlank c && !itemMarks.contains c

theorem isPlainChar_of_isNamePart {c : Char} (h : isNamePart c = true) : isPlainChar c = true := by
  have others : (itemMarks.all fun d => !isNamePart d) = true := by decide
  rw [isPlainChar, isBlank_of_isNamePart h, Bool.not_false, Bool.true_and, Bool.not_eq_true',
    Bool.eq_false_iff]
  intro mark
  have other := List.all_eq_true.1 others c (List.contains_iff_mem.1 mark)
  rw [h] at other
  exact Bool.noConfusion other

namespace Verbatim

variable {a b : List Char}

theorem append (first : Verbatim a) (second : Verbatim b) : Verbatim (a ++ b) :=
  ⟨first.onePiece.append second.onePiece, trimEnd_append first.closed second.closed⟩

theorem of_plain (plain : a.all isPlainChar = true) : Verbatim a := by
  have each : ∀ c ∈ a, isBlank c = false ∧ c ∉ itemMarks := by
    intro c mem
    have here := List.all_eq_true.1 plain c mem
    rw [isPlainChar, Bool.and_eq_true, Bool.not_eq_true', Bool.not_eq_true'] at here
    refine ⟨here.1, fun mark => ?_⟩
    rw [List.contains_iff_mem.2 mark] at here
    exact Bool.noConfusion here.2
  refine ⟨OnePiece.of_plain fun c mem => (each c mem).2, ?_⟩
  rcases List.eq_nil_or_concat a with rfl | ⟨front, c, rfl⟩
  · rfl
  · rw [List.concat_eq_append] at each ⊢
    exact trimEnd_concat (each c (by simp)).1 front

theorem bracketList {parts : List (List Char)} (whole : ∀ part ∈ parts, OnePiece part) :
    Verbatim (bracketList parts) :=
  ⟨OnePiece.bracketList whole, trimEnd_concat (by decide) ('(' :: [','].intercalate parts)⟩

theorem point : Verbatim ['.'] :=
  of_plain (by decide)

theorem notMark (negated : Bool) : Verbatim (notMark negated) := by
  cases negated <;> exact of_plain (by decide)

theorem name (n : Identifier) : Verbatim n.text.toList :=
  of_plain (List.all_eq_true.2 fun _ mem =>
    isPlainChar_of_isNamePart (Identifier.isNamePart_of_mem mem))

end Verbatim

/-- A text that a group can have as an item. -/
structure IsItem (text : List Char) : Prop extends Verbatim text where
  opens : ∃ c rest, text = c :: rest ∧ isBlank c = false

namespace IsItem

variable {a b : List Char}

theorem append (first : IsItem a) (second : Verbatim b) : IsItem (a ++ b) := by
  obtain ⟨c, rest, rfl, solid⟩ := first.opens
  exact ⟨first.toVerbatim.append second, c, rest ++ b, rfl, solid⟩

theorem trim_eq (h : IsItem a) : trim a = a := by
  obtain ⟨c, rest, rfl, solid⟩ := h.opens
  exact trim_cons solid h.closed

theorem isEmpty_eq_false (h : IsItem a) : a.isEmpty = false := by
  obtain ⟨c, rest, rfl, -⟩ := h.opens
  rfl

theorem name (n : Identifier) : IsItem n.text.toList := by
  obtain ⟨c, rest, shape, -⟩ := n.exists_cons
  have part : isNamePart c = true := Identifier.isNamePart_of_mem (shape ▸ List.mem_cons_self)
  exact ⟨Verbatim.name n, c, rest, shape, isBlank_of_isNamePart part⟩

theorem bracketList {parts : List (List Char)} (whole : ∀ part ∈ parts, OnePiece part) :
    IsItem (bracketList parts) :=
  ⟨Verbatim.bracketList whole, '(', _, rfl, by decide⟩

end IsItem

/-! ## §3 — lists of items -/

theorem items_eq_ok_iff {text : List Char} {parts : List (List Char)} :
    items text = .ok parts ↔ splitTopLevel text = some parts := by
  rw [items]
  cases splitTopLevel text <;> simp

/-- The items of a bracketed list are the parts it was written from. -/
theorem items_intercalate {parts : List (List Char)} (filled : parts ≠ [])
    (each : ∀ part ∈ parts, IsItem part) :
    (trim ([','].intercalate parts)).isEmpty = false ∧
      items ([','].intercalate parts) = .ok parts ∧ parts.map trim = parts := by
  refine ⟨?_, ?_, ?_⟩
  · cases parts with
    | nil => exact absurd rfl filled
    | cons part rest =>
      obtain ⟨c, more, rfl, solid⟩ := (each part List.mem_cons_self).opens
      cases rest with
      | nil => simpa using trim_cons_ne_nil solid more
      | cons next others => simpa using trim_cons_ne_nil solid _
  · rw [items, splitTopLevel_intercalate filled fun part mem => (each part mem).onePiece]
  · exact (List.map_congr_left fun part mem => (each part mem).trim_eq).trans (List.map_id' parts)

/-- What is between the brackets of a list. -/
theorem between?_bracketList {parts : List (List Char)} (whole : ∀ part ∈ parts, OnePiece part) :
    between? '(' ')' (trim (bracketList parts)) = some ([','].intercalate parts) := by
  rw [(IsItem.bracketList whole).trim_eq]
  exact between?_eq_some_iff.2 rfl

theorem groupItems_bracketList {parts : List (List Char)} (filled : parts ≠ [])
    (each : ∀ part ∈ parts, IsItem part) : groupItems (bracketList parts) = .ok parts := by
  obtain ⟨some, split, trimmed⟩ := items_intercalate filled each
  rw [groupItems, between?_bracketList fun part mem => (each part mem).onePiece]
  simp only [some, split, Bool.false_eq_true, if_false, Except.map, trimmed]

/-! ### quoted items -/

theorem escape_cons (c : Char) (rest : List Char) :
    escape (c :: rest) = (if c = '"' ∨ c = '\\' then ['\\', c] else [c]) ++ escape rest :=
  List.flatMap_cons

/-- **Escaping is undone.** -/
theorem unescape_escape (text : List Char) : unescape (escape text) = text := by
  induction text with
  | nil => rfl
  | cons c rest ih =>
    rw [escape_cons]
    split
    next => exact congrArg (c :: ·) ih
    next plain =>
      have slash : c ≠ '\\' := fun same => plain (.inr same)
      rw [List.singleton_append, unescape, ih]
      · rintro rfl
        exact absurd rfl slash
      · rintro d more rfl
        exact absurd rfl slash

/-- An escaped text stays inside its quotes. -/
theorem inQuote_escape (text : List Char) :
    Scan.inQuote.run (escape text) = some .inQuote ∧ Scan.inQuote.Guards (escape text) := by
  induction text with
  | nil => exact ⟨rfl, Scan.guards_nil _⟩
  | cons c rest ih =>
    obtain ⟨runs, guarded⟩ := ih
    rw [escape_cons]
    split
    next =>
      refine ⟨runs, Scan.guards_cons.2 ⟨fun _ => rfl, fun s next => ?_⟩⟩
      obtain rfl := Option.some.inj next
      refine Scan.guards_cons.2 ⟨fun _ => rfl, fun t next => ?_⟩
      obtain rfl := Option.some.inj next
      exact guarded
    next plain =>
      obtain ⟨quote, slash⟩ := not_or.1 plain
      have stays := Scan.inQuote_step slash quote
      refine ⟨?_, Scan.guards_cons.2 ⟨fun _ => rfl, fun s next => ?_⟩⟩
      · rw [List.singleton_append, Scan.run, stays]
        exact runs
      · rw [stays] at next
        exact Option.some.inj next ▸ guarded

theorem onePiece_quoteItem (item : String) : OnePiece (quoteItem item) := by
  obtain ⟨runs, guarded⟩ := inQuote_escape item.toList
  refine OnePiece.of_run ?_ (Scan.guards_cons.2 ⟨by decide, fun s next => ?_⟩)
  · show Scan.inQuote.run (escape item.toList ++ ['"']) = _
    rw [Scan.run_append, runs]
    rfl
  · obtain rfl : Scan.inQuote = s := Option.some.inj next
    exact guarded.append runs (Scan.guards_cons.2 ⟨by decide, fun _ _ => Scan.guards_nil _⟩)

theorem isItem_quoteItem (item : String) : IsItem (quoteItem item) :=
  ⟨⟨onePiece_quoteItem item, trimEnd_concat (by decide) ('"' :: escape item.toList)⟩,
    '"', _, rfl, by decide⟩

theorem unquote_quoteItem (item : String) : String.ofList (unquote (quoteItem item)) = item := by
  have inner : between? '"' '"' (quoteItem item) = some (escape item.toList) :=
    between?_eq_some_iff.2 rfl
  rw [unquote, inner]
  exact (congrArg String.ofList (unescape_escape _)).trans String.ofList_toList

/-- **A list of any items is read back.** -/
theorem readList_quoteItems (column : Identifier) (items : List String) :
    readList column (bracketList (items.map quoteItem)) = .ok items := by
  have each : ∀ part ∈ items.map quoteItem, IsItem part := by
    intro part mem
    obtain ⟨item, -, rfl⟩ := List.mem_map.1 mem
    exact isItem_quoteItem item
  rw [readList, between?_bracketList fun part mem => (each part mem).onePiece]
  cases items with
  | nil => rfl
  | cons item rest =>
    obtain ⟨some, split, -⟩ := items_intercalate (by simp) each
    have read : ∀ item : String, String.ofList (unquote (trim (quoteItem item))) = item := by
      intro item
      rw [(isItem_quoteItem item).trim_eq, unquote_quoteItem]
    simp only [some, split, Bool.false_eq_true, if_false, Except.map, List.map_map]
    exact congrArg Except.ok ((List.map_congr_left fun item _ => read item).trans (List.map_id' _))

end Gateway.Sql
