import Gateway.Sql.Template

/-!
# Statements

A finished statement: its template and what it does. `jsonRows` wraps it so that all its rows come
back as one JSON array; it leaves the bound values and their order as they are (`params_jsonRows`).
-/

namespace Gateway.Sql

open Template (paren)

/-- What a statement does. -/
inductive StatementKind where
  | select | count | insert | update | delete | call
deriving DecidableEq, Repr

/-- Reads change nothing in the database. -/
def StatementKind.isRead : StatementKind → Bool
  | select | count => true
  | _ => false

/-- A statement. -/
structure Statement where
  kind : StatementKind
  template : Template
  /-- The statement ends in `RETURNING *`. -/
  returning : Bool := false
deriving DecidableEq, Repr

namespace Statement

/-- A statement that writes, with `RETURNING *` where the written rows are wanted. -/
def writing (kind : StatementKind) (template : Template) (returning : Bool) : Statement where
  kind := kind
  template :=
    if returning then template ++ [.space, .word .returning, .space, .symbol .star] else template
  returning := returning

/-- The text of a statement. -/
def sql (s : Statement) : String :=
  Template.sql s.template

/-- The values bound to the placeholders of a statement, in order. -/
def params (s : Statement) : List Param :=
  Template.params s.template

/-- Whether a statement yields rows, and not only the number of rows that it wrote. -/
def producesRows (s : Statement) : Bool :=
  match s.kind with
  | .select | .call => true
  | .count => false
  | .insert | .update | .delete => s.returning

/-- `SELECT coalesce(json_agg("_r"), '[]'::json) FROM`, with the blank behind it. -/
def gathered : Template :=
  [.word .select, .space, .word .coalesce]
    ++ paren (.word .jsonAgg :: paren [.name .rowAlias]
      ++ [.symbol .comma, .space, .symbol .emptyArray, .symbol .cast, .word .json])
    ++ [.space, .word .fromWord, .space]

/-- The statement that yields the rows of this one as a single JSON array; none when this one yields
no rows. A statement that writes cannot stand in a `FROM`, so it goes in front of the reading. -/
def jsonRows (s : Statement) : Option Template :=
  match s.kind with
  | .select | .call =>
    some (gathered ++ paren s.template ++ [.space, .word .asWord, .space, .name .rowAlias])
  | _ =>
    if s.producesRows then
      some ([.word .withWord, .space, .name .rowAlias, .space, .word .asWord, .space]
        ++ paren s.template ++ [.space] ++ gathered ++ [.name .rowAlias])
    else none

/-- **Wrapping a statement binds the same values in the same order.** -/
theorem params_jsonRows {s : Statement} {wrapped : Template} (h : s.jsonRows = some wrapped) :
    Template.params wrapped = s.params := by
  have inert : Template.params gathered = [] := by decide
  unfold jsonRows at h
  split at h
  · obtain rfl := Option.some.inj h
    simp [params, inert, Template.params]
  · obtain rfl := Option.some.inj h
    simp [params, inert, Template.params]
  · split at h
    · obtain rfl := Option.some.inj h
      simp [params, inert, Template.params]
    · simp at h

end Statement

end Gateway.Sql
