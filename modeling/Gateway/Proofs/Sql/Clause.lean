import Gateway.Proofs.Sql.Meaning

/-!
# The WHERE clause of a statement

A clause of a statement goes from its word to the word of the next clause; what stands in parentheses
belongs to neither, so the condition of a related table is not that of the statement. `readWhere` reads
the condition of a statement from its text and its parameters.

`Template.Passes` says that a search for words outside parentheses goes past a template. With it
`readWhere_template` reads the condition of any statement that is made of a head, a clause of filters and
a tail.
-/

namespace Gateway.Sql

open Template (IsWhole joined paren listed tokens Legible)

/-! ## §1 — finding a clause -/

/-- How many parentheses are open behind a token. -/
def Token.depth {α : Type} (depth : Nat) : Token α → Nat
  | symbol "(" => depth + 1
  | symbol ")" => depth - 1
  | _ => depth

/-- The token is one of certain words, outside parentheses. -/
def Token.stops {α : Type} (ends : List String) (depth : Nat) : Token α → Bool
  | word w => depth == 0 && ends.contains w
  | _ => false

/-- The tokens up to the first of certain words outside parentheses, and those from it on. -/
def splitWord (ends : List String) (depth : Nat) :
    List (Token Param) → List (Token Param) × List (Token Param)
  | [] => ([], [])
  | token :: rest =>
    if token.stops ends depth then ([], token :: rest)
    else
      let (before, after) := splitWord ends (token.depth depth) rest
      (token :: before, after)

/-- The words that a condition ends at. -/
def conditionEnds : List String :=
  ["ORDER", "LIMIT", "OFFSET", "RETURNING"]

/-- The tokens of the condition of a statement, when it has a `WHERE` clause. -/
def conditionTokens? (tokens : List (Token Param)) : Option (List (Token Param)) :=
  match (splitWord ["WHERE"] 0 tokens).2 with
  | [] => none
  | _ :: rest => some (splitWord conditionEnds 0 rest).1

/-- **The condition of a statement**, read from its text and its parameters: nothing when it cannot be
read, and no expression when there is no `WHERE` clause. -/
def readWhere (sql : String) (params : List Param) : Option (Option Expr) :=
  (readTokens sql params).bind fun tokens =>
    match conditionTokens? tokens with
    | none => some none
    | some condition => (readExpr condition).map some

theorem splitWord_cons {ends : List String} {depth : Nat} {token : Token Param}
    (goes : token.stops ends depth = false) (rest : List (Token Param)) :
    splitWord ends depth (token :: rest) =
      (token :: (splitWord ends (token.depth depth) rest).1,
        (splitWord ends (token.depth depth) rest).2) := by
  rw [splitWord, goes]
  rfl

/-! ## §2 — templates that a search goes past -/

namespace Template

variable {ends : List String} {n m : Nat} {s t : Template}

/-- **A search for certain words goes past the template**, at this depth or deeper. -/
def Passes (ends : List String) (n : Nat) (t : Template) : Prop :=
  ∀ depth, n ≤ depth → ∀ rest, splitWord ends depth (t.tokens ++ rest) =
    (t.tokens ++ (splitWord ends depth rest).1, (splitWord ends depth rest).2)

theorem passes_nil : Passes ends n [] := fun _ _ _ => rfl

theorem Passes.append (hs : Passes ends n s) (ht : Passes ends n t) : Passes ends n (s ++ t) := by
  intro depth deep rest
  rw [tokens_append, List.append_assoc, hs depth deep, ht depth deep, List.append_assoc]

theorem Passes.mono (h : Passes ends n t) (le : n ≤ m) : Passes ends m t :=
  fun depth deep => h depth (Nat.le_trans le deep)

/-- Inside parentheses no word is looked for. -/
theorem Passes.paren (h : Passes ends 1 t) : Passes ends n (paren t) := by
  intro depth _ rest
  have closed : splitWord ends (depth + 1) (.symbol ")" :: rest) =
      (.symbol ")" :: (splitWord ends depth rest).1, (splitWord ends depth rest).2) :=
    splitWord_cons rfl rest
  have inner := h (depth + 1) (Nat.le_add_left 1 depth) (.symbol ")" :: rest)
  rw [closed] at inner
  have opened : splitWord ends depth (.symbol "(" :: (t.tokens ++ .symbol ")" :: rest)) =
      (.symbol "(" :: (splitWord ends (depth + 1) (t.tokens ++ .symbol ")" :: rest)).1,
        (splitWord ends (depth + 1) (t.tokens ++ .symbol ")" :: rest)).2) :=
    splitWord_cons rfl _
  rw [tokens_paren, List.cons_append, List.append_assoc, List.singleton_append, opened, inner]
  simp only [List.cons_append, List.append_assoc, List.nil_append]

/-- A search goes past this piece, which is no parenthesis. -/
def passesPiece (ends : List String) (n : Nat) : Piece → Bool
  | .symbol s => s ≠ .opening && s ≠ .closing
  | .word w => n ≠ 0 || !ends.contains w.text
  | _ => true

theorem passes_piece {p : Piece} (h : passesPiece ends n p = true) : Passes ends n [p] := by
  intro depth deep rest
  cases p with
  | space => rfl
  | name | literal | numeral | bound => exact splitWord_cons rfl rest
  | word w =>
    have goes : (Token.word w.text : Token Param).stops ends depth = false := by
      rw [passesPiece, Bool.or_eq_true, decide_eq_true_eq, Bool.not_eq_true'] at h
      rw [Token.stops, Bool.and_eq_false_iff]
      rcases h with inside | other
      · exact .inl (by rw [beq_eq_false_iff_ne]; omega)
      · exact .inr other
    exact splitWord_cons goes rest
  | symbol s =>
    cases s with
    | opening | closing => exact absurd h (by simp [passesPiece])
    | _ => exact splitWord_cons rfl rest

/-- A template of known pieces without parentheses is checked by going through it. -/
theorem passes_of_check (h : t.all (passesPiece ends n) = true) : Passes ends n t := by
  induction t with
  | nil => exact passes_nil
  | cons p rest ih =>
    rw [List.all_cons, Bool.and_eq_true] at h
    exact (passes_piece h.1).append (ih h.2)

theorem passes_flatMap {α : Type} {items : List α} {write : α → Template}
    (all : ∀ a ∈ items, Passes ends n (write a)) : Passes ends n (items.flatMap write) := by
  induction items with
  | nil => exact passes_nil
  | cons a rest ih =>
    rw [List.flatMap_cons]
    exact (all a (List.mem_cons_self ..)).append (ih fun b hb => all b (List.mem_cons_of_mem _ hb))

theorem passes_joined {separator : Template} (hs : Passes ends n separator) {parts : List Template}
    (all : ∀ t ∈ parts, Passes ends n t) : Passes ends n (joined separator parts) := by
  cases parts with
  | nil => exact passes_nil
  | cons part rest =>
    rw [joined_cons]
    refine (all part (List.mem_cons_self ..)).append (passes_flatMap fun t ht => ?_)
    exact hs.append (all t (List.mem_cons_of_mem _ ht))

theorem passes_listed {parts : List Template} (all : ∀ t ∈ parts, Passes ends n t) :
    Passes ends n (listed parts) :=
  passes_joined (passes_of_check rfl) all

end Template

/-! ## §3 — what the searches go past -/

open Template (Passes passes_of_check passes_joined passes_listed)

/-- The condition of a predicate does not end early. -/
theorem Predicate.passes_template (p : Predicate) (column : Identifier) :
    Passes conditionEnds 0 (p.template column) := by
  cases p with
  | compare op value => cases op <;> exact passes_of_check rfl
  | is value => cases value <;> exact passes_of_check rfl
  | oneOf items =>
    cases items with
    | nil => exact passes_of_check rfl
    | cons item items =>
      refine (passes_of_check rfl).append (Passes.paren (passes_listed fun t ht => ?_))
      obtain ⟨i, -, rfl⟩ := List.mem_map.1 ht
      exact passes_of_check rfl
  | search mode language query =>
    have front : Passes conditionEnds 0
        [.name column, .space, .symbol .search, .space, .word mode.function] := by
      cases mode <;> exact passes_of_check rfl
    refine front.append (Passes.paren (passes_listed fun t ht => ?_))
    rcases List.mem_append.1 ht with ht | ht
    · obtain ⟨l, -, rfl⟩ := List.mem_map.1 ht
      exact passes_of_check rfl
    · rw [List.mem_singleton.1 ht]
      exact passes_of_check rfl

theorem Condition.passes_template (c : Condition) : Passes conditionEnds 0 c.template := by
  have clause := c.predicate.passes_template c.column
  unfold template
  cases c.negated with
  | false => exact clause
  | true =>
    exact (passes_of_check (t := [.word .notWord, .space]) rfl).append
      (Passes.paren (clause.mono (Nat.zero_le 1)))

namespace Filter

theorem passes_separator (joint : Connective) {parts : List Template}
    (all : ∀ t ∈ parts, Passes conditionEnds 0 t) :
    Passes conditionEnds 0 (joined joint.separator parts) := by
  cases joint with
  | and => exact passes_joined (passes_of_check rfl) all
  | or => exact passes_joined (passes_of_check rfl) all

theorem passes_groupTemplate (joint : Connective) (negated : Bool) {parts : List Template}
    (all : ∀ t ∈ parts, Passes conditionEnds 0 t) :
    Passes conditionEnds 0 (groupTemplate joint negated parts) := by
  have inner : Passes conditionEnds 0 (paren (joined joint.separator parts)) :=
    Passes.paren ((passes_separator joint all).mono (Nat.zero_le 1))
  cases negated with
  | false => exact inner
  | true => exact (passes_of_check (t := [.word .notWord, .space]) rfl).append inner

mutual

theorem passes_template : ∀ f : Filter, Passes conditionEnds 0 f.template
  | condition c => c.passes_template
  | group joint negated members => passes_groupTemplate joint negated (passes_members members)

theorem passes_members : ∀ members : List Filter,
    ∀ t ∈ memberTemplates members, Passes conditionEnds 0 t
  | [], t, ht => absurd ht (List.not_mem_nil)
  | condition c :: rest, t, ht => by
    rcases List.mem_cons.1 ht with rfl | ht
    · exact Passes.paren (c.passes_template.mono (Nat.zero_le 1))
    · exact passes_members rest t ht
  | group joint negated members :: rest, t, ht => by
    rcases List.mem_cons.1 ht with rfl | ht
    · exact passes_template (group joint negated members)
    · exact passes_members rest t ht

end

end Filter

/-! ## §4 — reading the condition -/

/-- **The condition of a text means what filters mean**: it can be read, there is a `WHERE` clause
exactly when there is a filter, and then the clause has the value of the conjunction of the filters,
whatever its atoms are worth. -/
def WhereMeans (sql : String) (params : List Param) (filters : List Filter) : Prop :=
  ∃ clause, readWhere sql params = some clause ∧ (clause = none ↔ filters = []) ∧
    ∀ e ∈ clause, ∀ assigned, e.truth assigned = Truth.all (filters.map (Filter.truth assigned))

/-- The condition behind a head without `WHERE` is made of the filters, up to what ends it. -/
theorem conditionTokens?_whereClause {head tail : Template} {filters : List Filter}
    (front : Passes ["WHERE"] 0 head) (ends : (splitWord conditionEnds 0 tail.tokens).1 = [])
    (filled : filters ≠ []) : conditionTokens? (tokens (head ++ whereClause filters ++ tail)) =
      some (tokens (joined Connective.and.separator (filters.map Filter.template))) := by
  obtain ⟨f, rest, rfl⟩ := List.exists_cons_of_ne_nil filled
  let condition : Template := joined Connective.and.separator ((f :: rest).map Filter.template)
  have shape : tokens (head ++ whereClause (f :: rest) ++ tail) =
      head.tokens ++ .word "WHERE" :: (condition.tokens ++ tail.tokens) := by
    rw [List.append_assoc, Template.tokens_append, whereClause, List.append_assoc,
      Template.tokens_append, Template.tokens_append]
    rfl
  have passes : Passes conditionEnds 0 condition := by
    apply Filter.passes_separator .and
    intro t ht
    obtain ⟨g, -, rfl⟩ := List.mem_map.1 ht
    exact g.passes_template
  have stopped : splitWord ["WHERE"] 0 (.word "WHERE" :: (condition.tokens ++ tail.tokens)) =
      ([], .word "WHERE" :: (condition.tokens ++ tail.tokens)) := rfl
  rw [shape, conditionTokens?, front 0 (Nat.le_refl 0), stopped]
  simp only [passes 0 (Nat.le_refl 0), ends, List.append_nil]
  rfl

/-- **A statement made of a head, a clause of filters and a tail** has a condition that means what the
filters mean. -/
theorem readWhere_template {head tail : Template} {filters : List Filter}
    (legible : Legible (head ++ whereClause filters ++ tail))
    (front : Passes ["WHERE"] 0 head) (back : Passes ["WHERE"] 0 tail)
    (ends : (splitWord conditionEnds 0 tail.tokens).1 = []) (filled : Filter.AllFilled filters) :
    WhereMeans (Template.sql (head ++ whereClause filters ++ tail))
      (Template.params (head ++ whereClause filters ++ tail)) filters := by
  have read := Template.read_sql legible
  unfold WhereMeans readWhere
  rw [read, Option.bind_some]
  cases filters with
  | nil =>
    have passed := (front.append back) 0 (Nat.le_refl 0) []
    have absent : conditionTokens? (tokens (head ++ whereClause [] ++ tail)) = none := by
      rw [List.append_nil] at passed
      rw [whereClause, List.append_nil, conditionTokens?, passed]
      rfl
    refine ⟨none, ?_, by simp, by simp⟩
    rw [absent]
  | cons f rest =>
    obtain ⟨e, whole, value⟩ := exists_isWhole_filters filled (List.cons_ne_nil f rest)
    have found := conditionTokens?_whereClause front ends (List.cons_ne_nil f rest)
    refine ⟨some e, ?_, by simp, ?_⟩
    · rw [found]
      exact congrArg (Option.map some) whole.readExpr
    · rintro e' he assigned
      obtain rfl := Option.some.inj he
      exact value assigned

end Gateway.Sql
