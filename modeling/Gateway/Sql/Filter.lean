import Gateway.Sql.Template

/-!
# Row filters

A filter says which rows a request is about. It is a condition on one column, or a conjunction or
disjunction of filters; conditions and groups may be negated. `Filter.template` writes it as a
statement's Boolean expression: the members of a group stand in parentheses, so no operator of SQL can
reach across them, and a negation is always written before a parenthesis.

`whereClause` joins the filters of a request by `AND` at the top of the statement.
-/

namespace Gateway.Sql

open Template (paren listed joined)

/-! ## Conditions -/

/-- The operators that compare a column with one value. -/
inductive Comparison where
  | eq | neq | gt | gte | lt | lte
  | like | ilike
  | contains | containedBy | overlaps
deriving DecidableEq, Repr

namespace Comparison

/-- The operator as the statement writes it. -/
def piece : Comparison → Piece
  | eq => .symbol .equal
  | neq => .symbol .notEqual
  | gt => .symbol .greater
  | gte => .symbol .greaterEqual
  | lt => .symbol .less
  | lte => .symbol .lessEqual
  | like => .word .like
  | ilike => .word .ilike
  | contains => .symbol .contains
  | containedBy => .symbol .containedBy
  | overlaps => .symbol .overlaps

/-- The value that is bound for a client's value: the pattern operators take `*` for their wildcard,
which the statement spells `%`. -/
def boundText (op : Comparison) (value : String) : String :=
  match op with
  | like | ilike => String.ofList (value.toList.map fun c => if c = '*' then '%' else c)
  | _ => value

end Comparison

/-- What a column may be tested to be. -/
inductive IsValue where
  | null | true | false | unknown
deriving DecidableEq, Repr

/-- The word for a tested value. -/
def IsValue.word : IsValue → Word
  | null => .null
  | true => .trueWord
  | false => .falseWord
  | unknown => .unknown

/-- How the text of a full-text search is read. -/
inductive SearchMode where
  /-- As a query with operators. -/
  | query
  /-- As words that must all occur. -/
  | plain
  /-- As a phrase. -/
  | phrase
  /-- As web search engines read it. -/
  | websearch
deriving DecidableEq, Repr

/-- The function that reads a search text. -/
def SearchMode.function : SearchMode → Word
  | query => .toTsquery
  | plain => .plaintoTsquery
  | phrase => .phrasetoTsquery
  | websearch => .websearchToTsquery

/-- What is asked of a column. -/
inductive Predicate where
  /-- It compares in this way with a value. -/
  | compare (op : Comparison) (value : String)
  /-- It is null or has a truth value. -/
  | is (value : IsValue)
  /-- It is one of the items. -/
  | oneOf (items : List String)
  /-- Its text matches a search, in a language if one is named. -/
  | search (mode : SearchMode) (language : Option Identifier) (query : String)
deriving DecidableEq, Repr

/-- A predicate on a column, or its negation. -/
structure Condition where
  column : Identifier
  negated : Bool
  predicate : Predicate
deriving DecidableEq, Repr

namespace Predicate

/-- How many values a predicate binds. -/
def paramCount : Predicate → Nat
  | compare _ _ => 1
  | is _ => 0
  | oneOf items => items.length
  | search _ _ _ => 1

/-- A predicate on a column, as the statement writes it. No row is one of no items. -/
def template (column : Identifier) : Predicate → Template
  | compare op value =>
    [.name column, .space, op.piece, .space, .bound (some (op.boundText value))]
  | is value => [.name column, .space, .word .isWord, .space, .word value.word]
  | oneOf [] => [.word .falseWord]
  | oneOf (item :: items) =>
    [.name column, .space, .word .inWord, .space]
      ++ paren (listed ((item :: items).map fun i => [.bound (some i)]))
  | search mode language query =>
    let arguments : List Template :=
      (language.toList.map fun l => [.literal l]) ++ [[.bound (some query)]]
    [.name column, .space, .symbol .search, .space, .word mode.function]
      ++ paren (listed arguments)

end Predicate

/-- A condition as the statement writes it. -/
def Condition.template (c : Condition) : Template :=
  let clause := c.predicate.template c.column
  if c.negated then .word .notWord :: .space :: paren clause else clause

/-! ## Filters -/

/-- How the members of a group are joined. -/
inductive Connective where
  | and | or
deriving DecidableEq, Repr

/-- What stands between two members of a group. -/
def Connective.separator : Connective → Template
  | and => [.space, .word .andWord, .space]
  | or => [.space, .word .orWord, .space]

/-- A condition or a group of filters. -/
inductive Filter where
  | condition (c : Condition)
  | group (joint : Connective) (negated : Bool) (members : List Filter)
deriving Repr

namespace Filter

mutual

/-- How many values a filter binds. -/
def paramCount : Filter → Nat
  | condition c => c.predicate.paramCount
  | group _ _ members => paramCounts members

/-- How many values the members of a group bind together. -/
def paramCounts : List Filter → Nat
  | [] => 0
  | f :: rest => f.paramCount + paramCounts rest

end

/-- A group from its written members. -/
def groupTemplate (joint : Connective) (negated : Bool) (members : List Template) : Template :=
  let inner := paren (joined joint.separator members)
  if negated then .word .notWord :: .space :: inner else inner

mutual

/-- A filter as the statement writes it. -/
def template : Filter → Template
  | condition c => c.template
  | group joint negated members => groupTemplate joint negated (memberTemplates members)

/-- The members of a group as the statement writes them, each in parentheses. -/
def memberTemplates : List Filter → List Template
  | [] => []
  | condition c :: rest => paren c.template :: memberTemplates rest
  | group joint negated members :: rest =>
    template (group joint negated members) :: memberTemplates rest

end

end Filter

/-- The filters of a request joined by `AND`, as a `WHERE` clause with the blank before it; nothing
when there is no filter. -/
def whereClause (filters : List Filter) : Template :=
  match filters with
  | [] => []
  | _ :: _ =>
    [.space, .word .whereWord, .space]
      ++ joined Connective.and.separator (filters.map Filter.template)

end Gateway.Sql
