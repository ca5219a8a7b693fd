import Gateway.Http.Message
import Gateway.Http.Pattern

/-!
# Routes

What a path leads to: the health of the gateway, a table, or a function. Tables and functions lie under
a prefix, which is a pattern itself; their names are single segments of the path.
-/

namespace Gateway.Http

/-- What a path leads to. -/
inductive Route where
  | health
  | table
  | function
deriving DecidableEq, Repr

namespace Route

/-- The routes in the order in which they are tried. With nothing behind it, `rpc` is the name of a
table. -/
def all : List Route := [health, function, table]

/-- The pattern of the paths that lead to a route. -/
def pattern (restPrefix : String) : Route → Pattern
  | health => .read "/health"
  | table => .read (restPrefix ++ "/\x7btable\x7d")
  | function => .read (restPrefix ++ "/rpc/\x7bfunction\x7d")

/-- **The route of a path**, and the parameters of the path. -/
def ofPath? (restPrefix : String) (path : List Char) : Option (Route × List Parameter) :=
  all.findSome? fun route => ((route.pattern restPrefix).match? path).map fun ps => (route, ps)

/-- The methods that a route serves. -/
def methods : Route → List Method
  | health => [.get, .head]
  | table => [.get, .head, .post, .patch, .delete]
  | function => [.get, .head, .post]

end Route

end Gateway.Http
