import Gateway.Sql.Binding
import Gateway.Sql.Filter.Reader
import Gateway.Sql.Statement

/-!
# Function calls

A call passes every argument by name, with a type guessed from its value.
-/

namespace Gateway.Sql

open Template (paren listed)

/-- The call of a function with named arguments. -/
def call (function : String) (arguments : List (String × Json)) : Except Rejection Statement := do
  let function ← Identifier.read function.toList
  let passed ← arguments.mapM fun (name, value) => do
    let name ← Identifier.read name.toList
    return [.name name, .space, .symbol .assign, .space] ++ (Binding.ofArgument value).template
  return {
    kind := .call
    template :=
      [.word .select, .space, .symbol .star, .space, .word .fromWord, .space, .name function]
        ++ paren (listed passed) }

end Gateway.Sql
