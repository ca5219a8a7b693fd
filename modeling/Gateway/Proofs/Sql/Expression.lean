import Gateway.Proofs.Sql.Reading
import Gateway.Sql.Filter
import Mathlib.Data.List.Forall2

/-!
# Boolean expressions

How a database reads the tokens of a condition. Its atoms are comparisons, tests with `IS`, membership
with `IN` and searches with `@@`; `NOT` binds more tightly than `AND`, `AND` more tightly than `OR`, and
parentheses group. The reader takes one token after the other: `Level` is what it has gathered since the
last parenthesis that is still open, and `Level.operand` is where the precedence lies.

An expression has a truth value for every assignment of truth values to its atoms, in the three-valued
logic of SQL.
-/

namespace Gateway.Sql

/-! ## §1 — truth values and expressions -/

/-- A truth value of SQL. -/
inductive Truth where
  | false | unknown | true
deriving DecidableEq, Repr

namespace Truth

/-- Negation; what is unknown stays unknown. -/
def not : Truth → Truth
  | false => true
  | unknown => unknown
  | true => false

/-- Conjunction. -/
def and : Truth → Truth → Truth
  | false, _ | _, false => false
  | true, true => true
  | _, _ => unknown

/-- Disjunction. -/
def or : Truth → Truth → Truth
  | true, _ | _, true => true
  | false, false => false
  | _, _ => unknown

/-- The conjunction of several values. -/
def all (values : List Truth) : Truth :=
  values.foldr and true

/-- The disjunction of several values. -/
def any (values : List Truth) : Truth :=
  values.foldr or false

theorem and_assoc (a b c : Truth) : and (and a b) c = and a (and b c) := by
  cases a <;> cases b <;> cases c <;> rfl

theorem and_true (a : Truth) : and a true = a := by
  cases a <;> rfl

theorem or_assoc (a b c : Truth) : or (or a b) c = or a (or b c) := by
  cases a <;> cases b <;> cases c <;> rfl

theorem or_false (a : Truth) : or a false = a := by
  cases a <;> rfl

end Truth

/-- What is asked of a row without any connective. -/
inductive Atom where
  /-- A column compares in this way with a value. -/
  | compare (column operator : String) (value : Param)
  /-- A column is null or has a truth value. -/
  | is (column value : String)
  /-- A column is one of the items. -/
  | oneOf (column : String) (items : List Param)
  /-- A column matches the search that a function reads. -/
  | search (column function : String) (language : Option String) (query : Param)
deriving DecidableEq, Repr

/-- A Boolean expression. -/
inductive Expr where
  | false
  | atom (a : Atom)
  | not (e : Expr)
  | and (e f : Expr)
  | or (e f : Expr)
deriving DecidableEq, Repr

/-- The value of an expression when each atom has the given value. -/
def Expr.truth (assigned : Atom → Truth) : Expr → Truth
  | false => .false
  | atom a => assigned a
  | not e => .not (e.truth assigned)
  | and e f => .and (e.truth assigned) (f.truth assigned)
  | or e f => .or (e.truth assigned) (f.truth assigned)

/-! ## §2 — the reader -/

/-- What has been gathered between two parentheses. -/
structure Level where
  /-- The disjunction of what stands in front of the last `OR`. -/
  disjuncts : Option Expr := none
  /-- The conjunction of what stands behind it. -/
  conjuncts : Option Expr := none
  /-- How many negations wait for the operand to come. -/
  negations : Nat := 0
deriving DecidableEq, Repr

namespace Level

/-- An expression behind a number of negations. -/
def negate : Nat → Expr → Expr
  | 0, e => e
  | n + 1, e => negate n (.not e)

/-- Take up an operand: the negations that wait apply to it, and then it is a conjunct. -/
def operand (l : Level) (e : Expr) : Level :=
  let e := negate l.negations e
  { l with conjuncts := some (l.conjuncts.elim e fun c => .and c e), negations := 0 }

/-- The whole of a level, once it has ended. -/
def value? (l : Level) : Option Expr :=
  l.conjuncts.map fun c => l.disjuncts.elim c fun d => .or d c

end Level

/-- Where the reader stands. -/
inductive Place where
  /-- An operand is to come. -/
  | operand
  /-- An operand has come. -/
  | connective
  | column (column : String)
  | compare (column operator : String)
  | is (column : String)
  | list (column : String)
  | item (column : String) (items : List Param)
  | itemEnd (column : String) (items : List Param)
  | search (column : String)
  | call (column function : String)
  | argument (column function : String) (language : Option String)
  | argumentEnd (column function language : String)
  | callEnd (column function : String) (language : Option String) (query : Param)
deriving DecidableEq, Repr

/-- The symbols that compare a column with a value; `LIKE` and `ILIKE` do so too. -/
def comparisonSymbols : List String :=
  ["=", "<>", ">", ">=", "<", "<=", "@>", "<@", "&&"]

/-- Inside an atom, where a token leads to, or the atom that it completes. -/
def Place.stepAtom : Place → Token Param → Option (Place ⊕ Expr)
  | column c, .word w =>
    if w = "IS" then some (.inl (is c))
    else if w = "IN" then some (.inl (list c))
    else if w = "LIKE" ∨ w = "ILIKE" then some (.inl (compare c w))
    else none
  | column c, .symbol s =>
    if s = "@@" then some (.inl (search c))
    else if s ∈ comparisonSymbols then some (.inl (compare c s))
    else none
  | compare c op, .placeholder v => some (.inr (.atom (.compare c op v)))
  | is c, .word w =>
    if w ∈ ["NULL", "TRUE", "FALSE", "UNKNOWN"] then some (.inr (.atom (.is c w))) else none
  | list c, .symbol "(" => some (.inl (item c []))
  | item c items, .placeholder v => some (.inl (itemEnd c (items ++ [v])))
  | itemEnd c items, .symbol s =>
    if s = "," then some (.inl (item c items))
    else if s = ")" then some (.inr (.atom (.oneOf c items)))
    else none
  | search c, .word f => some (.inl (call c f))
  | call c f, .symbol "(" => some (.inl (argument c f none))
  | argument c f none, .literal l => some (.inl (argumentEnd c f l))
  | argumentEnd c f l, .symbol "," => some (.inl (argument c f (some l)))
  | argument c f l, .placeholder v => some (.inl (callEnd c f l v))
  | callEnd c f l v, .symbol ")" => some (.inr (.atom (.search c f l v)))
  | _, _ => none

/-- The state of the reader: where it stands, and the levels that are open, the innermost first. -/
structure Reader where
  place : Place := .operand
  level : Level := {}
  outer : List Level := []
deriving DecidableEq, Repr

namespace Reader

/-- Take one token. -/
def step (r : Reader) (token : Token Param) : Option Reader :=
  match r.place, token with
  | .operand, .word w =>
    if w = "NOT" then some { r with level.negations := r.level.negations + 1 }
    else if w = "FALSE" then some { r with place := .connective, level := r.level.operand .false }
    else none
  | .operand, .symbol "(" => some ⟨.operand, {}, r.level :: r.outer⟩
  | .operand, .name c => some { r with place := .column c }
  | .operand, _ => none
  | .connective, .word w =>
    if w = "AND" then some { r with place := .operand }
    else if w = "OR" then
      -- What has been gathered so far is a disjunct.
      r.level.value?.map fun d => { r with place := .operand, level := { disjuncts := some d } }
    else none
  | .connective, .symbol ")" =>
    match r.outer, r.level.value? with
    | level :: outer, some e => some ⟨.connective, level.operand e, outer⟩
    | _, _ => none
  | .connective, _ => none
  | place, token =>
    (place.stepAtom token).map fun
      | .inl place => { r with place }
      | .inr e => { r with place := .connective, level := r.level.operand e }

/-- The expression that has been read. -/
def result? (r : Reader) : Option Expr :=
  if r.place = .connective ∧ r.outer = [] then r.level.value? else none

end Reader

/-- **Read an expression.** -/
def readExpr (tokens : List (Token Param)) : Option Expr :=
  (tokens.foldlM Reader.step {}).bind Reader.result?

/-- `NOT` before `AND` before `OR`. -/
example : readExpr [.word "NOT", .name "a", .word "IS", .word "NULL", .word "AND", .word "FALSE",
    .word "OR", .name "b", .symbol "=", .placeholder none] =
    some (.or (.and (.not (.atom (.is "a" "NULL"))) .false) (.atom (.compare "b" "=" none))) := by
  decide

/-! ## §3 — templates that are read as expressions -/

namespace Template

open Reader (step)

variable {t : Template} {e : Expr}

@[simp] theorem tokens_append (s t : Template) : (s ++ t).tokens = s.tokens ++ t.tokens :=
  List.filterMap_append

theorem tokens_paren (t : Template) :
    (paren t).tokens = .symbol "(" :: (t.tokens ++ [.symbol ")"]) := by
  simp [paren, tokens, Piece.token?, Symbol.text]

/-- **The template is read as an operand**, wherever one is to come. -/
def IsOperand (t : Template) (e : Expr) : Prop :=
  ∀ level outer, t.tokens.foldlM step ⟨.operand, level, outer⟩ =
    some ⟨.connective, level.operand e, outer⟩

/-- **The template is read as an expression** that fills a level. -/
def IsWhole (t : Template) (e : Expr) : Prop :=
  ∃ level : Level, level.value? = some e ∧
    ∀ outer, t.tokens.foldlM step ⟨.operand, {}, outer⟩ = some ⟨.connective, level, outer⟩

theorem IsOperand.isWhole (h : IsOperand t e) : IsWhole t e :=
  ⟨({} : Level).operand e, rfl, h {}⟩

/-- Parentheses make an operand of any expression. -/
theorem IsWhole.paren (h : IsWhole t e) : IsOperand (paren t) e := by
  obtain ⟨inner, value, run⟩ := h
  intro level outer
  have close : step ⟨.connective, inner, level :: outer⟩ (.symbol ")") =
      some ⟨.connective, level.operand e, outer⟩ := by
    simp only [step, value]
  rw [tokens_paren]
  show (t.tokens ++ [Token.symbol ")"]).foldlM step ⟨.operand, {}, level :: outer⟩ = _
  rw [List.foldlM_append, run]
  show List.foldlM step _ [_] = _
  rw [List.foldlM_cons, close]
  rfl

/-- `NOT` applies to the operand behind it. -/
theorem IsOperand.not (h : IsOperand t e) : IsOperand (.word .notWord :: .space :: t) (.not e) :=
  fun level outer => h { level with negations := level.negations + 1 } outer

/-- An expression that fills the whole text is read as that. -/
theorem IsWhole.readExpr (h : IsWhole t e) : readExpr t.tokens = some e := by
  obtain ⟨level, value, run⟩ := h
  rw [Sql.readExpr, run, Option.bind_some, Reader.result?, if_pos ⟨rfl, rfl⟩, value]

theorem joined_cons (separator part : Template) (parts : List Template) :
    joined separator (part :: parts) = part ++ parts.flatMap (separator ++ ·) := by
  induction parts generalizing part with
  | nil => simp [joined]
  | cons next rest ih =>
    have shape : joined separator (part :: next :: rest) =
        part ++ separator ++ joined separator (next :: rest) := by
      simp [joined, List.intercalate_cons_cons]
    rw [shape, ih, List.flatMap_cons, List.append_assoc, List.append_assoc]

/-- Operands behind `AND` become conjuncts one after the other. -/
theorem run_conjuncts {parts : List Template} {es : List Expr} (h : List.Forall₂ IsOperand parts es)
    (disjuncts : Option Expr) (c : Expr) (outer : List Level) :
    (tokens (parts.flatMap (Connective.and.separator ++ ·))).foldlM step
        ⟨.connective, ⟨disjuncts, some c, 0⟩, outer⟩ =
      some ⟨.connective, ⟨disjuncts, some (es.foldl .and c), 0⟩, outer⟩ := by
  induction h generalizing c with
  | nil => rfl
  | @cons part e rest es first _ ih =>
    have joint : Template.tokens Connective.and.separator = [.word "AND"] := rfl
    have start : step ⟨.connective, ⟨disjuncts, some c, 0⟩, outer⟩ (.word "AND") =
        some ⟨.operand, ⟨disjuncts, some c, 0⟩, outer⟩ := rfl
    rw [List.flatMap_cons, tokens_append, tokens_append, joint, List.append_assoc,
      List.singleton_append, List.foldlM_cons, start]
    show List.foldlM step _ (part.tokens ++ _) = _
    rw [List.foldlM_append, first]
    exact ih (.and c e)

/-- Operands behind `OR` become disjuncts one after the other. -/
theorem run_disjuncts {parts : List Template} {es : List Expr} (h : List.Forall₂ IsOperand parts es)
    {level : Level} {v : Expr} (value : level.value? = some v) :
    ∃ last : Level, last.value? = some (es.foldl .or v) ∧ ∀ outer,
      (tokens (parts.flatMap (Connective.or.separator ++ ·))).foldlM step
        ⟨.connective, level, outer⟩ = some ⟨.connective, last, outer⟩ := by
  induction h generalizing level v with
  | nil => exact ⟨level, value, fun _ => rfl⟩
  | @cons part e rest es first _ ih =>
    have closed : (({ disjuncts := some v } : Level).operand e).value? = some (.or v e) := rfl
    obtain ⟨last, filled, run⟩ := ih closed
    refine ⟨last, filled, ?_⟩
    intro outer
    have joint : Template.tokens Connective.or.separator = [.word "OR"] := rfl
    have start : step ⟨.connective, level, outer⟩ (.word "OR") =
        some ⟨.operand, { disjuncts := some v }, outer⟩ := by
      simp [step, value]
    rw [List.flatMap_cons, tokens_append, tokens_append, joint, List.append_assoc,
      List.singleton_append, List.foldlM_cons, start]
    show List.foldlM step _ (part.tokens ++ _) = _
    rw [List.foldlM_append, first]
    exact run outer

/-- **Operands joined by `AND`** are read as their conjunction. -/
theorem isWhole_conjunction {part : Template} {parts : List Template} {es : List Expr}
    (first : IsOperand part e) (rest : List.Forall₂ IsOperand parts es) :
    IsWhole (joined Connective.and.separator (part :: parts)) (es.foldl .and e) := by
  refine ⟨⟨none, some (es.foldl .and e), 0⟩, rfl, ?_⟩
  intro outer
  rw [joined_cons, tokens_append, List.foldlM_append, first]
  exact run_conjuncts rest none e outer

/-- **Operands joined by `OR`** are read as their disjunction. -/
theorem isWhole_disjunction {part : Template} {parts : List Template} {es : List Expr}
    (first : IsOperand part e) (rest : List.Forall₂ IsOperand parts es) :
    IsWhole (joined Connective.or.separator (part :: parts)) (es.foldl .or e) := by
  have start : (({} : Level).operand e).value? = some e := rfl
  obtain ⟨last, value, run⟩ := run_disjuncts rest start
  refine ⟨last, value, ?_⟩
  intro outer
  rw [joined_cons, tokens_append, List.foldlM_append, first]
  exact run outer

end Template

end Gateway.Sql
