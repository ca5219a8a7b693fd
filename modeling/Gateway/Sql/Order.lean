import Gateway.Sql.Template
import Gateway.Text.Blank
import Gateway.Text.Cut

/-!
# Sort orders

The `order` parameter lists terms `column[.modifier]*` separated by commas. Reading it never fails: a
term whose column is no name is left out, and a modifier that is not known changes nothing. Of several
modifiers of one sort the last one counts.
-/

namespace Gateway.Sql

open Gateway.Text

/-- The direction of a sort. -/
inductive Direction where
  | asc | desc
deriving DecidableEq, Repr

/-- Where the rows without a value go. -/
inductive Nulls where
  | first | last
deriving DecidableEq, Repr

/-- One column to sort by. -/
structure OrderTerm where
  column : Identifier
  direction : Direction := .asc
  nulls : Option Nulls := none
deriving DecidableEq, Repr

namespace OrderTerm

/-- Apply one modifier, in any case. -/
def modify (term : OrderTerm) (modifier : List Char) : OrderTerm :=
  match String.ofList (lower modifier) with
  | "asc" => { term with direction := .asc }
  | "desc" => { term with direction := .desc }
  | "nullsfirst" => { term with nulls := some .first }
  | "nullslast" => { term with nulls := some .last }
  | _ => term

/-- Read one term; there is none when its column is no name. -/
def read? (text : List Char) : Option OrderTerm :=
  match fields '.' text with
  | [] => none
  | column :: modifiers =>
    (Identifier.read? column).map fun c => modifiers.foldl modify ⟨c, .asc, none⟩

/-- Read a whole `order` parameter. -/
def readList (raw : String) : List OrderTerm :=
  ((fields ',' raw.toList).map trim).filterMap fun term =>
    if term.isEmpty then none else read? term

/-- A term as the statement writes it. -/
def template (term : OrderTerm) : Template :=
  let direction : Word :=
    match term.direction with
    | .asc => .asc
    | .desc => .desc
  let nulls : Template :=
    match term.nulls with
    | none => []
    | some .first => [.space, .word .nulls, .space, .word .first]
    | some .last => [.space, .word .nulls, .space, .word .last]
  [.name term.column, .space, .word direction] ++ nulls

end OrderTerm

end Gateway.Sql
