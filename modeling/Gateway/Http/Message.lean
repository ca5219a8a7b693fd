import Gateway.Http.Header
import Gateway.Http.Uri
import Gateway.Json.Basic

/-!
# Requests and answers

What comes in over HTTP and what goes out. Of the header fields of an answer only those are kept that
say something about its content: the range of a page, the type of the body, and the methods that would
have been allowed.
-/

namespace Gateway.Http

/-- The method of a request. -/
inductive Method where
  | get | head | post | patch | delete | options
  /-- Any other method, which no route serves. -/
  | other (name : String)
deriving DecidableEq, Repr

namespace Method

/-- The method of a name, when the name is a token. -/
def read? (name : String) : Option Method :=
  match name with
  | "GET" => some get
  | "HEAD" => some head
  | "POST" => some post
  | "PATCH" => some patch
  | "DELETE" => some delete
  | "OPTIONS" => some options
  | _ => if !name.isEmpty && name.toList.all isTokenChar then some (other name) else none

/-- The name of a method. -/
def name : Method → String
  | get => "GET"
  | head => "HEAD"
  | post => "POST"
  | patch => "PATCH"
  | delete => "DELETE"
  | options => "OPTIONS"
  | other name => name

end Method

/-- A request. -/
structure Request where
  method : Method
  uri : Uri
  headers : Headers := []
  /-- The bytes that came behind the header. -/
  body : List UInt8 := []
deriving Repr

/-- The body of an answer. -/
inductive Body where
  | empty
  | json (value : Json)
  | text (s : String)
deriving Repr, BEq

/-- The type of a body. -/
def Body.contentType? : Body → Option String
  | empty => none
  | json _ => some "application/json"
  | text _ => some "text/plain; charset=utf-8"

/-- An answer. -/
structure Response where
  status : Nat
  contentRange : Option String := none
  contentType : Option String := none
  /-- The methods that are allowed. -/
  allow : Option String := none
  body : Body := .empty
deriving Repr, BEq

namespace Response

/-- An answer with a body and its type. -/
def withBody (status : Nat) (body : Body) (contentRange : Option String := none) : Response where
  status := status
  contentRange := contentRange
  contentType := body.contentType?
  body := body

/-- The answer as it is sent: to `HEAD` without its body. -/
def sentTo (r : Response) (m : Method) : Response :=
  if m = .head then { r with body := .empty } else r

end Response

end Gateway.Http
