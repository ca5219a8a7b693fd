import Gateway.Sql.Identifier

/-!
# Statement templates

A statement is built as a `Template`: a list of pieces in which every bound value stands at its own
place. Two readings are taken of it. `Template.sql` writes the text, in which the `k`-th bound value
appears as the placeholder `$k`; `Template.params` lists the bound values in that order. The text
never holds a bound value, and placeholders and values cannot fall out of step, because both are read
off the same list.

All other pieces come from a fixed vocabulary of words and symbols, or are numerals, or are canonical
names between quotes.

Main statements: `params_append`, the values of a template are the values of its parts in order, and
`write_congr`, templates that differ only in their bound values have the same text.
-/

namespace Gateway.Sql

/-- A value bound to a placeholder: a text, or nothing for `NULL`. -/
abbrev Param := Option String

/-! ## Vocabulary -/

/-- The words that statements are written with: key words, functions and types. -/
inductive Word where
  | select | fromWord | whereWord | order | byWord | limit | offset | asWord
  | null | trueWord | falseWord | unknown | andWord | orWord | notWord | inWord | isWord
  | like | ilike
  | asc | desc | nulls | first | last
  | insert | into | values | default | update | set | delete | returning
  | on | conflict | doWord | nothing | excluded | withWord
  | count | coalesce | jsonAgg | rowToJson | jsonBuildObject
  | toTsquery | plaintoTsquery | phrasetoTsquery | websearchToTsquery
  | json | jsonb | integer | bigint | boolean | uuid
deriving DecidableEq, Repr

/-- How a word is written. -/
def Word.text : Word → String
  | select => "SELECT" | fromWord => "FROM" | whereWord => "WHERE" | order => "ORDER" | byWord => "BY"
  | limit => "LIMIT" | offset => "OFFSET" | asWord => "AS"
  | null => "NULL" | trueWord => "TRUE" | falseWord => "FALSE" | unknown => "UNKNOWN"
  | andWord => "AND" | orWord => "OR" | notWord => "NOT" | inWord => "IN" | isWord => "IS"
  | like => "LIKE" | ilike => "ILIKE"
  | asc => "ASC" | desc => "DESC" | nulls => "NULLS" | first => "FIRST" | last => "LAST"
  | insert => "INSERT" | into => "INTO" | values => "VALUES" | default => "DEFAULT"
  | update => "UPDATE" | set => "SET" | delete => "DELETE" | returning => "RETURNING"
  | on => "ON" | conflict => "CONFLICT" | doWord => "DO" | nothing => "NOTHING"
  | excluded => "EXCLUDED" | withWord => "WITH"
  | count => "count" | coalesce => "coalesce" | jsonAgg => "json_agg"
  | rowToJson => "row_to_json" | jsonBuildObject => "json_build_object"
  | toTsquery => "to_tsquery" | plaintoTsquery => "plainto_tsquery"
  | phrasetoTsquery => "phraseto_tsquery" | websearchToTsquery => "websearch_to_tsquery"
  | json => "json" | jsonb => "jsonb" | integer => "integer" | bigint => "bigint"
  | boolean => "boolean" | uuid => "uuid"

/-- The operators and punctuation that statements are written with. -/
inductive Symbol where
  | opening | closing | comma | dot | star
  | equal | notEqual | greater | greaterEqual | less | lessEqual
  | contains | containedBy | overlaps | search
  | assign | cast | emptyArray
deriving DecidableEq, Repr

/-- How a symbol is written. -/
def Symbol.text : Symbol → String
  | opening => "(" | closing => ")" | comma => "," | dot => "." | star => "*"
  | equal => "=" | notEqual => "<>" | greater => ">" | greaterEqual => ">=" | less => "<"
  | lessEqual => "<=" | contains => "@>" | containedBy => "<@" | overlaps => "&&" | search => "@@"
  | assign => ":=" | cast => "::" | emptyArray => "'[]'"

/-! ## Templates -/

/-- One piece of a template. -/
inductive Piece where
  /-- A blank between two pieces. -/
  | space
  /-- A word of the vocabulary. -/
  | word (w : Word)
  /-- A symbol of the vocabulary. -/
  | symbol (s : Symbol)
  /-- A name between double quotes. -/
  | name (name : Identifier)
  /-- A name between single quotes. -/
  | literal (name : Identifier)
  /-- A decimal numeral. -/
  | numeral (n : Nat)
  /-- A bound value, which the text shows as a placeholder. -/
  | bound (value : Param)
deriving DecidableEq, Repr

/-- A statement, or a part of one. -/
abbrev Template := List Piece

namespace Template

/-- The values bound in a template, from left to right. -/
def params : Template → List Param
  | [] => []
  | .bound value :: rest => value :: params rest
  | _ :: rest => params rest

/-- The text of a template whose first bound value is the `next`-th of the statement. -/
def write (next : Nat) : Template → String
  | [] => ""
  | .space :: rest => " " ++ write next rest
  | .word w :: rest => w.text ++ write next rest
  | .symbol s :: rest => s.text ++ write next rest
  | .name n :: rest => n.quoted ++ write next rest
  | .literal n :: rest => n.literal ++ write next rest
  | .numeral n :: rest => toString n ++ write next rest
  | .bound _ :: rest => "$" ++ toString next ++ write (next + 1) rest

/-- The text of a whole statement; its placeholders count from `$1`. -/
def sql (t : Template) : String :=
  t.write 1

/-- Templates one after the other, with `separator` between any two. -/
def joined (separator : Template) (parts : List Template) : Template :=
  separator.intercalate parts

/-- A template in parentheses. -/
def paren (t : Template) : Template :=
  .symbol .opening :: (t ++ [.symbol .closing])

/-- Words with a blank between any two. -/
def words (ws : List Word) : Template :=
  joined [.space] (ws.map fun w => [.word w])

/-- The separator of lists, a comma and a blank. -/
def commaBlank : Template :=
  [.symbol .comma, .space]

/-- Templates separated by commas. -/
def listed (parts : List Template) : Template :=
  joined commaBlank parts

/-- Names separated by commas. -/
def names (ns : List Identifier) : Template :=
  listed (ns.map fun n => [.name n])

/-! ## The two readings -/

@[simp] theorem params_nil : params [] = [] := rfl

/-- The values of two templates in a row are those of the first, then those of the second. -/
@[simp] theorem params_append (s t : Template) : params (s ++ t) = params s ++ params t := by
  induction s with
  | nil => rfl
  | cons piece rest ih => cases piece <;> simp [params, ih]

/-- A bracketed template binds what it binds without brackets. -/
@[simp] theorem params_paren (t : Template) : params (paren t) = params t := by
  simp [params, paren]

/-- The text of two templates in a row: the placeholders of the second go on where those of the first
end. -/
theorem write_append (s t : Template) (next : Nat) :
    write next (s ++ t) = write next s ++ write (next + (params s).length) t := by
  induction s generalizing next with
  | nil => simp [write]
  | cons piece rest ih =>
    cases piece <;>
      simp [write, params, ih, String.append_assoc, Nat.add_assoc, Nat.add_comm 1]

/-- The piece with its bound value, if it has one, taken out. -/
def blanked : Piece → Piece
  | .bound _ => .bound none
  | piece => piece

/-- **The text does not depend on the bound values.** -/
theorem write_congr {s t : Template} (same : s.map blanked = t.map blanked) (next : Nat) :
    write next s = write next t := by
  induction s generalizing t next with
  | nil =>
    obtain rfl : t = [] := by simpa using same.symm
    rfl
  | cons p rest ih =>
    cases t with
    | nil => simp at same
    | cons q more =>
      simp only [List.map_cons, List.cons.injEq] at same
      obtain ⟨head, tail⟩ := same
      cases p <;> cases q <;> simp [blanked] at head <;> simp [write, ih tail, head]

end Template

end Gateway.Sql
