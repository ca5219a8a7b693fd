import Gateway.Json.Basic

/-!
# The value of a function call

A function call returns rows. A single row with a single column stands for the value in it, any other
rows for themselves.
-/

namespace Gateway.Database

/-- The value that the rows of a function call stand for. -/
def unwrapScalar : List Json → Json
  | [.obj [(_, value)]] => value
  | rows => .arr rows

end Gateway.Database
