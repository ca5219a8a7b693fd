import Gateway.Auth.Verifier
import Gateway.Http.Header
import Gateway.Http.Uri
import Gateway.Text.Percent

/-!
# The credential of a socket

Where a request to open a socket may carry a credential: as a bearer token in its header, in the query
as `access_token` or `apikey`, or in the `apikey` header. The first of these places that is there
decides; when the credential in it is empty, there is none.
-/

namespace Gateway.Socket

open Gateway.Http (Headers Uri)

/-- The first value of a query parameter. -/
def parameter? (uri : Uri) (name : String) : Option String :=
  (Text.Percent.readQuery (uri.query.getD [])).lookup name

/-- **The credential of a request to open a socket.** -/
def credential? (uri : Uri) (hs : Headers) : Option String :=
  match (hs.text? "authorization").bind Auth.bearerToken with
  | some token => some token
  | none =>
    -- An empty credential in one place hides those in the places behind it.
    (parameter? uri "access_token" <|> parameter? uri "apikey" <|> hs.text? "apikey").filter
      (!·.isEmpty)

end Gateway.Socket
