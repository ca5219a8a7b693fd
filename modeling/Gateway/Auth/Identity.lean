import Gateway.Json.Basic

/-!
# Identities

Who is calling: a subject, a role, an e-mail address, and the full set of claims that the database
session gets to see. A caller without an accepted credential is anonymous.
-/

namespace Gateway.Auth

/-- The role of a caller of whom nothing is known. -/
def anonRole : String := "anon"

/-- The role of a caller of whom the subject is known. -/
def authenticatedRole : String := "authenticated"

/-- The role of the privileged internal caller. -/
def serviceRole : String := "service_role"

/-- A caller. -/
structure Identity where
  subject : Option String
  role : String
  email : Option String
  /-- The claims that the database session gets to see. -/
  claims : Json
deriving Repr, BEq, Inhabited

namespace Identity

/-- A caller of whom only the role is known. -/
def ofRole (role : String) : Identity :=
  ⟨none, role, none, .obj [("role", .str role)]⟩

/-- The caller without an accepted credential. -/
def anonymous : Identity := ofRole anonRole

/-- The privileged internal caller. -/
def service : Identity := ofRole serviceRole

def isAnonymous (i : Identity) : Bool :=
  i.role == anonRole && i.subject.isNone

def isService (i : Identity) : Bool :=
  i.role == serviceRole

/-- The role, and the subject behind it where there is one. -/
def display (i : Identity) : String :=
  match i.subject with
  | some subject => i.role ++ ":" ++ subject
  | none => i.role

/-- The caller that accepted claims speak for. An empty subject or role counts as none; without a role
a caller with a subject is authenticated. The privileged role leaves out subject and e-mail. -/
def ofClaims (claims : Json) : Identity :=
  let text (key : String) : Option String := (claims.member? key).bind Json.str?
  let subject := (text "sub").filter (!·.isEmpty)
  let role :=
    match (text "role").filter (!·.isEmpty) with
    | some role => role
    | none => if subject.isSome then authenticatedRole else anonRole
  if role = serviceRole then { service with claims }
  else ⟨subject, role, text "email", claims⟩

end Identity

end Gateway.Auth
