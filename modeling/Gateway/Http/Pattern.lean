import Gateway.Text.Percent
import Gateway.Text.Utf8

/-!
# Patterns of paths

A pattern is a path in which a name between braces stands for any text up to the next slash or the end.
A doubled brace is the brace itself. Matching a path yields what each name stands for, in order; at the
end of a path a name stands for at least one character.
-/

namespace Gateway.Http

open Gateway.Text

/-- A piece of a pattern. -/
inductive Piece where
  | literal (c : Char)
  | parameter (name : String)
deriving DecidableEq, Repr

/-- A parameter of a path: its name, and the text for which it stands. -/
structure Parameter where
  name : String
  segment : List Char
deriving DecidableEq, Repr

/-- The text that a parameter spells with escapes, when its bytes are a text. -/
def Parameter.value? (p : Parameter) : Option String :=
  (Utf8.decode? (Percent.decode p.segment)).map String.ofList

/-- A pattern of paths. -/
abbrev Pattern := List Piece

namespace Pattern

/-- Read a pattern; `name` holds what has been read of the name behind an open brace, backwards. -/
def readFrom (name : Option (List Char)) : List Char → Pattern
  | [] =>
    -- A brace that is not closed stands for itself.
    (name.elim [] fun name => '\x7b' :: name.reverse).map .literal
  | c :: rest =>
    match name with
    | some name =>
      if c = '\x7d' then .parameter (String.ofList name.reverse) :: readFrom none rest
      else readFrom (some (c :: name)) rest
    | none =>
      match c, rest with
      | '\x7b', '\x7b' :: rest => .literal '\x7b' :: readFrom none rest
      | '\x7d', '\x7d' :: rest => .literal '\x7d' :: readFrom none rest
      | '\x7b', rest => readFrom (some []) rest
      | c, rest => .literal c :: readFrom none rest

/-- Read a pattern. -/
def read (s : String) : Pattern :=
  readFrom none s.toList

/-- **Match a path**, and yield its parameters. -/
def match? : Pattern → List Char → Option (List Parameter)
  | [], [] => some []
  | [], _ :: _ => none
  | _ :: _, [] => none
  | .literal c :: pattern, d :: path => if c = d then match? pattern path else none
  | .parameter name :: pattern, path =>
    (match? pattern (path.dropWhile (· != '/'))).map
      (⟨name, path.takeWhile (· != '/')⟩ :: ·)

end Pattern

end Gateway.Http
