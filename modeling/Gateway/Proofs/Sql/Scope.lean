import Gateway.Proofs.Sql.Clause

/-!
# The scopes of a statement

A query block is a `SELECT` up to the bracket that closes it. Its `FROM` names a *range*, whose row is
known by the alias that the range is given, or else by the name of the table. A column that is written
with a range, `range.column`, is looked up from the inside out: it belongs to the nearest block around it
whose range has that name. A name that stands alone is a column of the block's own range first, and only
when there is no such column the row as a whole.

`readReferences` reads the columns with a range off the text of a statement, each with the number of
blocks between it and the block that it belongs to; `readGathering` reads what the rows of a statement are
gathered from.

Main statements: `Nested.references_append` and `Nested.outputNames_append`, what stands in brackets that
are closed again is of no account behind them, and `Template.Yields.listed`, a list is read item by item.
-/

namespace Gateway.Sql

open Template (Passes joined joined_cons listed paren tokens tokens_append tokens_paren)

/-! ## §1 — reading scopes -/

/-- The tokens up to the bracket that closes the one they stand in, and the tokens behind it. -/
def splitClosing (depth : Nat) : List (Token Param) → List (Token Param) × List (Token Param)
  | [] => ([], [])
  | token :: rest =>
    if depth = 0 ∧ token = .symbol ")" then ([], rest)
    else
      let (inner, behind) := splitClosing (token.depth depth) rest
      (token :: inner, behind)

/-- The name by which the row of a range is known, read from behind the `FROM`. -/
def rangeName : List (Token Param) → Option String
  | .name _ :: .word "AS" :: .name given :: _ => some given
  | .name table :: _ => some table
  | _ => none

/-- The name of the range of a block, read from behind its `SELECT`. -/
def blockRange (tokens : List (Token Param)) : Option String :=
  rangeName (splitWord ["FROM"] 0 (splitClosing 0 tokens).1).2.tail

/-- An open bracket. -/
inductive Bracket where
  /-- Around a query block. -/
  | block (range : Option String)
  /-- Around arguments or operands. -/
  | plain
deriving DecidableEq, Repr

namespace Bracket

/-- The bracket that is opened in front of these tokens. -/
def opened : List (Token Param) → Bracket
  | .word "SELECT" :: rest => block (blockRange rest)
  | _ => plain

/-- The brackets that are open behind a token. -/
def behind (token : Token Param) (rest : List (Token Param)) (brackets : List Bracket) :
    List Bracket :=
  match token with
  | .symbol "(" => opened rest :: brackets
  | .symbol ")" => brackets.tail
  | _ => brackets

/-- The range of the block that a bracket is around. -/
def range? : Bracket → Option (Option String)
  | block range => some range
  | plain => none

/-- **How many blocks out a range is found**, from inside of these brackets. -/
def level (brackets : List Bracket) (range : String) : Option Nat :=
  (brackets.filterMap range?).idxOf? (some range)

end Bracket

/-- A column written with its range. -/
structure Reference where
  range : String
  column : String
  /-- How many blocks out the range is found: `0` is the block that the reference stands in. -/
  level : Option Nat
deriving DecidableEq, Repr

/-- The reference that starts here. -/
def reference? (brackets : List Bracket) : List (Token Param) → Option Reference
  | .name range :: .symbol "." :: .name column :: _ =>
    some ⟨range, column, Bracket.level brackets range⟩
  | _ => none

/-- The references among tokens that stand in these brackets. -/
def references (brackets : List Bracket) : List (Token Param) → List Reference
  | [] => []
  | token :: rest =>
    (reference? brackets (token :: rest)).toList
      ++ references (Bracket.behind token rest brackets) rest

/-- **The references of a statement**, read from its text and its parameters. -/
def readReferences (sql : String) (params : List Param) : Option (List Reference) :=
  (readTokens sql params).map fun tokens => references [.opened tokens] tokens

/-- The column that a name is the name of, where an item of a select list ends with it. -/
def outputName? : List (Token Param) → Option String
  | [.name column] => some column
  | .name column :: .symbol "," :: _ => some column
  | _ => none

/-- The names that a select list gives to its columns. -/
def outputNames (depth : Nat) : List (Token Param) → List String
  | [] => []
  | token :: rest =>
    (if depth = 0 then outputName? (token :: rest) else none).toList
      ++ outputNames (token.depth depth) rest

/-- A `json_agg` over the rows of a statement. -/
structure Gathering where
  /-- The name that stands between the brackets of `json_agg`. -/
  gathered : String
  /-- The columns that the statement gives a name. -/
  outputs : List String
  /-- The name by which the row is known. -/
  range : Option String
deriving DecidableEq, Repr

/-- **Whole rows are gathered**: the name in `json_agg` is that of the row, and no column has it. -/
def Gathering.Whole (g : Gathering) : Prop :=
  g.range = some g.gathered ∧ g.gathered ∉ g.outputs

/-- Read what is gathered from a block in brackets, from behind its `SELECT`. -/
def Gathering.over? (gathered : String) (block : List (Token Param)) : Option Gathering :=
  match splitClosing 0 block with
  | (inner, [.word "AS", .name range]) =>
    some ⟨gathered, outputNames 0 (splitWord ["FROM"] 0 inner).1, some range⟩
  | _ => none

/-- Read a gathering of the rows of a select. -/
def gathering? : List (Token Param) → Option Gathering
  | .word "SELECT" :: .word "coalesce" :: .symbol "(" :: .word "json_agg" :: .symbol "("
      :: .name gathered :: .symbol ")" :: rest =>
    -- The bracket of `coalesce` is still open.
    match (splitWord ["FROM"] 1 rest).2 with
    | .word _ :: .symbol "(" :: .word "SELECT" :: block => Gathering.over? gathered block
    | _ => none
  | _ => none

/-- **What the rows of a statement are gathered from**, read from its text and its parameters. -/
def readGathering (sql : String) (params : List Param) : Option Gathering :=
  (readTokens sql params).bind gathering?

/-! ## §2 — brackets that are closed again -/

/-- The token is a bracket. -/
def Token.isBracket {α : Type} : Token α → Bool
  | symbol "(" | symbol ")" => true
  | _ => false

/-- The token is no point between a range and a column. -/
def Token.isQuiet {α : Type} : Token α → Bool
  | symbol "." => false
  | _ => true

/-- No point comes behind a name. -/
def EndsReference (rest : List (Token Param)) : Prop :=
  rest.head? ≠ some (.symbol ".")

theorem endsReference_cons {token : Token Param} (other : token ≠ .symbol ".")
    (rest : List (Token Param)) : EndsReference (token :: rest) := by
  intro point
  exact other (Option.some.inj point)

/-- A reference does not start in front of anything but a point. -/
theorem reference?_eq_none {brackets : List Bracket} (token : Token Param)
    {rest : List (Token Param)} (ends : EndsReference rest) :
    reference? brackets (token :: rest) = none := by
  unfold reference?
  split
  next same =>
    obtain ⟨-, rfl⟩ := List.cons.inj same
    exact absurd rfl ends
  · rfl

/-- A name in front of this is that of a column. -/
def EndsItem (rest : List (Token Param)) : Prop :=
  ∀ name, outputName? (.name name :: rest) = some name

/-- **Every bracket among the tokens is closed**, and all other tokens are of one kind. -/
inductive Nested (kind : Token Param → Bool) : List (Token Param) → Prop
  | nil : Nested kind []
  | cons {token : Token Param} {rest : List (Token Param)} (other : token.isBracket = false)
      (of : kind token = true) (behind : Nested kind rest) : Nested kind (token :: rest)
  | bracket {inner rest : List (Token Param)} (closed : Nested kind inner)
      (behind : Nested kind rest) : Nested kind (.symbol "(" :: (inner ++ .symbol ")" :: rest))

/-- Outside of brackets the depth stays what it is. -/
theorem Token.depth_of_not_isBracket {α : Type} {token : Token α} (h : token.isBracket = false)
    (depth : Nat) : token.depth depth = depth := by
  unfold Token.depth
  split <;> first | rfl | cases h

theorem Bracket.behind_of_not_isBracket {token : Token Param} (h : token.isBracket = false)
    (rest : List (Token Param)) (brackets : List Bracket) :
    Bracket.behind token rest brackets = brackets := by
  unfold Bracket.behind
  split <;> first | rfl | cases h

/-- Any token is of this kind. -/
def Token.isAny {α : Type} (_ : Token α) : Bool :=
  true

namespace Nested

variable {kind : Token Param → Bool} {s t : Template}

theorem of_check {ts : List (Token Param)}
    (h : (ts.all fun token => !token.isBracket && kind token) = true) : Nested kind ts := by
  induction ts with
  | nil => exact .nil
  | cons token rest ih =>
    rw [List.all_cons, Bool.and_eq_true, Bool.and_eq_true, Bool.not_eq_true'] at h
    exact .cons h.1.1 h.1.2 (ih h.2)

theorem append {xs ys : List (Token Param)} (hx : Nested kind xs) (hy : Nested kind ys) :
    Nested kind (xs ++ ys) := by
  induction hx with
  | nil => exact hy
  | cons other of _ ih => exact .cons other of ih
  | bracket closed _ _ ih =>
    rw [List.cons_append, List.append_assoc, List.cons_append]
    exact .bracket closed ih

theorem mono {kind' : Token Param → Bool} {xs : List (Token Param)} (h : Nested kind xs)
    (le : ∀ token, kind token = true → kind' token = true) : Nested kind' xs := by
  induction h with
  | nil => exact .nil
  | cons other of _ ih => exact .cons other (le _ of) ih
  | bracket _ _ inner ih => exact .bracket inner ih

theorem any {xs : List (Token Param)} (h : Nested kind xs) : Nested Token.isAny xs :=
  h.mono fun _ _ => rfl

theorem template (hs : Nested kind s.tokens) (ht : Nested kind t.tokens) :
    Nested kind (s ++ t).tokens := by
  rw [tokens_append]
  exact hs.append ht

theorem paren (ht : Nested kind t.tokens) : Nested kind (paren t).tokens := by
  rw [tokens_paren]
  exact .bracket ht .nil

theorem joined {separator : Template} (hs : Nested kind separator.tokens) {parts : List Template}
    (all : ∀ t ∈ parts, Nested kind t.tokens) : Nested kind (joined separator parts).tokens := by
  cases parts with
  | nil => exact .nil
  | cons part rest =>
    rw [joined_cons]
    refine (all part List.mem_cons_self).template ?_
    have others : ∀ t ∈ rest, Nested kind t.tokens := fun t ht => all t (List.mem_cons_of_mem _ ht)
    clear all
    induction rest with
    | nil => exact .nil
    | cons next more ih =>
      rw [List.flatMap_cons]
      exact (hs.template (others next List.mem_cons_self)).template
        (ih fun t ht => others t (List.mem_cons_of_mem _ ht))

theorem listed (comma : kind (.symbol ",") = true) {parts : List Template}
    (all : ∀ t ∈ parts, Nested kind t.tokens) : Nested kind (listed parts).tokens :=
  joined (.cons rfl comma .nil) all

/-! ### what goes past them -/

variable {ts rest : List (Token Param)}

theorem splitClosing_cons {token : Token Param} {depth : Nat}
    (stays : ¬ (depth = 0 ∧ token = .symbol ")")) (rest : List (Token Param)) :
    splitClosing depth (token :: rest) =
      (token :: (splitClosing (token.depth depth) rest).1,
        (splitClosing (token.depth depth) rest).2) := by
  rw [splitClosing, if_neg stays]

/-- The bracket around them is not closed by any of theirs. -/
theorem splitClosing_append (h : Nested kind ts) (depth : Nat) (rest : List (Token Param)) :
    splitClosing depth (ts ++ rest) =
      (ts ++ (splitClosing depth rest).1, (splitClosing depth rest).2) := by
  induction h generalizing depth rest with
  | nil => rfl
  | @cons token more other _ _ ih =>
    have stays : ¬ (depth = 0 ∧ token = .symbol ")") := by
      rintro ⟨-, rfl⟩
      cases other
    rw [List.cons_append, splitClosing_cons stays, token.depth_of_not_isBracket other, ih]
    rfl
  | @bracket inner more _ _ closed ih =>
    have opens : splitClosing depth (.symbol "(" :: (inner ++ .symbol ")" :: (more ++ rest))) =
        (.symbol "(" :: (splitClosing (depth + 1) (inner ++ .symbol ")" :: (more ++ rest))).1,
          (splitClosing (depth + 1) (inner ++ .symbol ")" :: (more ++ rest))).2) :=
      splitClosing_cons (fun stops => absurd stops.2 (by decide)) _
    have closes : splitClosing (depth + 1) (.symbol ")" :: (more ++ rest)) =
        (.symbol ")" :: (splitClosing depth (more ++ rest)).1,
          (splitClosing depth (more ++ rest)).2) :=
      splitClosing_cons (fun stops => absurd stops.1 (Nat.succ_ne_zero depth)) _
    rw [List.cons_append, List.append_assoc, List.cons_append, opens, closed, closes, ih]
    simp only [List.cons_append, List.append_assoc]

/-- A block is read up to the bracket that closes it. -/
theorem splitClosing_closed (h : Nested kind ts) (rest : List (Token Param)) :
    splitClosing 0 (ts ++ .symbol ")" :: rest) = (ts, rest) := by
  rw [h.splitClosing_append, splitClosing, if_pos ⟨rfl, rfl⟩, List.append_nil]

/-- What is not in brackets is read to its end. -/
theorem splitClosing_all (h : Nested kind ts) : splitClosing 0 ts = (ts, []) := by
  have whole := h.splitClosing_append 0 []
  rwa [List.append_nil, splitClosing, List.append_nil] at whole

/-- Inside of brackets no word is looked for. -/
theorem passes (h : Nested kind t.tokens) (ends : List String) : Passes ends 1 t := by
  intro depth deep rest
  generalize t.tokens = ts at h
  induction h generalizing depth rest with
  | nil => rfl
  | @cons token more other _ _ ih =>
    have goes : token.stops ends depth = false := by
      unfold Token.stops
      split
      · rw [Bool.and_eq_false_iff]
        exact .inl (beq_eq_false_iff_ne.2 (by omega))
      · rfl
    rw [List.cons_append, splitWord_cons goes, token.depth_of_not_isBracket other, ih depth deep]
    rfl
  | @bracket inner more _ _ closed ih =>
    have opens : splitWord ends depth (.symbol "(" :: (inner ++ .symbol ")" :: (more ++ rest))) =
        (.symbol "(" :: (splitWord ends (depth + 1) (inner ++ .symbol ")" :: (more ++ rest))).1,
          (splitWord ends (depth + 1) (inner ++ .symbol ")" :: (more ++ rest))).2) :=
      splitWord_cons rfl _
    have closes : splitWord ends (depth + 1) (.symbol ")" :: (more ++ rest)) =
        (.symbol ")" :: (splitWord ends depth (more ++ rest)).1,
          (splitWord ends depth (more ++ rest)).2) := splitWord_cons rfl _
    rw [List.cons_append, List.append_assoc, List.cons_append, opens,
      closed (depth + 1) (Nat.le_add_left 1 depth), closes, ih depth deep]
    simp only [List.cons_append, List.append_assoc]

/-- Inside of brackets no column is given a name. -/
theorem outputNames_append (h : Nested kind ts) (depth : Nat) (rest : List (Token Param)) :
    outputNames (depth + 1) (ts ++ rest) = outputNames (depth + 1) rest := by
  induction h generalizing depth rest with
  | nil => rfl
  | @cons token more other _ _ ih =>
    rw [List.cons_append, outputNames, if_neg (Nat.succ_ne_zero depth),
      token.depth_of_not_isBracket other, ih]
    rfl
  | @bracket inner more _ _ closed ih =>
    have opens : outputNames (depth + 1) (.symbol "(" :: (inner ++ .symbol ")" :: (more ++ rest))) =
        outputNames (depth + 2) (inner ++ .symbol ")" :: (more ++ rest)) := rfl
    have closes : outputNames (depth + 2) (.symbol ")" :: (more ++ rest)) =
        outputNames (depth + 1) (more ++ rest) := rfl
    rw [List.cons_append, List.append_assoc, List.cons_append, opens, closed (depth + 1), closes, ih]

/-- Tokens without a point do not start with one. -/
theorem endsReference_append (h : Nested Token.isQuiet ts) (ends : EndsReference rest) :
    EndsReference (ts ++ rest) := by
  cases h with
  | nil => exact ends
  | cons _ of _ =>
    refine endsReference_cons ?_ _
    rintro rfl
    cases of
  | bracket _ _ => exact endsReference_cons (by decide) _

/-- **Without a point there is no reference.** -/
theorem references_append (h : Nested Token.isQuiet ts) (brackets : List Bracket)
    (ends : EndsReference rest) :
    references brackets (ts ++ rest) = references brackets rest := by
  induction h generalizing brackets rest with
  | nil => rfl
  | @cons token more other _ behind ih =>
    rw [List.cons_append, references, reference?_eq_none token (behind.endsReference_append ends),
      Bracket.behind_of_not_isBracket other, ih brackets ends]
    rfl
  | @bracket inner more _ _ closed ih =>
    have opens : references brackets (.symbol "(" :: (inner ++ .symbol ")" :: (more ++ rest))) =
        references (.opened (inner ++ .symbol ")" :: (more ++ rest)) :: brackets)
          (inner ++ .symbol ")" :: (more ++ rest)) := rfl
    have closes (b : Bracket) : references (b :: brackets) (.symbol ")" :: (more ++ rest)) =
        references brackets (more ++ rest) := rfl
    have closing : EndsReference (.symbol ")" :: (more ++ rest)) := endsReference_cons (by decide) _
    rw [List.cons_append, List.append_assoc, List.cons_append, opens, closed _ closing, closes,
      ih brackets ends]

end Nested

/-- A column with its range is a reference. -/
theorem references_column (brackets : List Bracket) (range column : String)
    {rest : List (Token Param)} (ends : EndsReference rest) :
    references brackets (.name range :: .symbol "." :: .name column :: rest) =
      ⟨range, column, Bracket.level brackets range⟩ :: references brackets rest := by
  have last : Nested Token.isQuiet [.name column] := .of_check rfl
  rw [← last.references_append brackets ends]
  rfl

/-! ## §3 — lists -/

/-- **A reader takes this from a text**, whatever comes behind it that ends the text. -/
def Template.Yields {β : Type} (read : List (Token Param) → List β)
    (ends : List (Token Param) → Prop) (t : Template) (out : List β) : Prop :=
  ∀ rest, ends rest → read (t.tokens ++ rest) = out ++ read rest

/-- **A list is read item by item**, by any reader that takes nothing from a comma. -/
theorem Template.Yields.listed {β : Type} {read : List (Token Param) → List β}
    {ends : List (Token Param) → Prop} (comma : ∀ rest, ends (.symbol "," :: rest))
    (skips : ∀ rest, read (.symbol "," :: rest) = read rest) {parts : List Template}
    {found : List (List β)} (each : List.Forall₂ (Yields read ends) parts found) :
    Yields read ends (listed parts) found.flatten := by
  intro rest h
  cases each with
  | nil => rfl
  | @cons part out parts found here others =>
    -- Each further item has a comma in front of it.
    let further (parts : List Template) : Template := parts.flatMap (Template.commaBlank ++ ·)
    have behind : ends ((further parts).tokens ++ rest) ∧
        read ((further parts).tokens ++ rest) = found.flatten ++ read rest := by
      clear here
      induction others with
      | nil => exact ⟨h, rfl⟩
      | @cons next out more found first _ ih =>
        have shape : (further (next :: more)).tokens ++ rest =
            .symbol "," :: (next.tokens ++ ((further more).tokens ++ rest)) := by
          simp only [further]
          rw [List.flatMap_cons, tokens_append, tokens_append, List.append_assoc, List.append_assoc]
          rfl
        rw [shape]
        refine ⟨comma _, ?_⟩
        rw [skips, first _ ih.1, ih.2, List.flatten_cons, List.append_assoc]
    rw [Template.listed, joined_cons, tokens_append, List.append_assoc, here _ behind.1, behind.2,
      List.flatten_cons, List.append_assoc]

/-! ## §4 — filters -/

theorem Predicate.nested_template (p : Predicate) (column : Identifier) :
    Nested Token.isQuiet (p.template column).tokens := by
  cases p with
  | compare op value => cases op <;> exact .of_check rfl
  | is value => cases value <;> exact .of_check rfl
  | oneOf items =>
    cases items with
    | nil => exact .of_check rfl
    | cons item items =>
      refine Nested.template (.of_check rfl) (Nested.paren (.listed rfl fun t ht => ?_))
      obtain ⟨i, -, rfl⟩ := List.mem_map.1 ht
      exact .of_check rfl
  | search mode language query =>
    have front : Nested Token.isQuiet
        (tokens [.name column, .space, .symbol .search, .space, .word mode.function]) := by
      cases mode <;> exact .of_check rfl
    refine front.template (Nested.paren (.listed rfl fun t ht => ?_))
    rcases List.mem_append.1 ht with ht | ht
    · obtain ⟨l, -, rfl⟩ := List.mem_map.1 ht
      exact .of_check rfl
    · rw [List.mem_singleton.1 ht]
      exact .of_check rfl

theorem Condition.nested_template (c : Condition) : Nested Token.isQuiet c.template.tokens := by
  have clause := c.predicate.nested_template c.column
  unfold template
  cases c.negated with
  | false => exact clause
  | true => exact Nested.template (s := [.word .notWord, .space]) (.of_check rfl) clause.paren

namespace Filter

theorem nested_separator (joint : Connective) {parts : List Template}
    (all : ∀ t ∈ parts, Nested Token.isQuiet t.tokens) :
    Nested Token.isQuiet (joined joint.separator parts).tokens := by
  cases joint with
  | and => exact .joined (.of_check rfl) all
  | or => exact .joined (.of_check rfl) all

theorem nested_groupTemplate (joint : Connective) (negated : Bool) {parts : List Template}
    (all : ∀ t ∈ parts, Nested Token.isQuiet t.tokens) :
    Nested Token.isQuiet (groupTemplate joint negated parts).tokens := by
  have inner := (nested_separator joint all).paren
  cases negated with
  | false => exact inner
  | true => exact Nested.template (s := [.word .notWord, .space]) (.of_check rfl) inner

mutual

theorem nested_template : ∀ f : Filter, Nested Token.isQuiet f.template.tokens
  | condition c => c.nested_template
  | group joint negated members => nested_groupTemplate joint negated (nested_members members)

theorem nested_members : ∀ members : List Filter,
    ∀ t ∈ memberTemplates members, Nested Token.isQuiet t.tokens
  | [], t, ht => absurd ht List.not_mem_nil
  | condition c :: rest, t, ht => by
    rcases List.mem_cons.1 ht with rfl | ht
    · exact c.nested_template.paren
    · exact nested_members rest t ht
  | group joint negated members :: rest, t, ht => by
    rcases List.mem_cons.1 ht with rfl | ht
    · exact nested_template (group joint negated members)
    · exact nested_members rest t ht

end

end Filter

end Gateway.Sql
