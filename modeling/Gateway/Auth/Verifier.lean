import Gateway.Auth.Identity
import Gateway.Auth.Token
import Gateway.Diagnostic
import Gateway.Text.Blank

/-!
# Verifying credentials

A credential is the internal service key or a signed token. `Verifier.verify` says whose it is or why
it is refused; `Verifier.identify` never refuses, whoever has no accepted credential is anonymous.
-/

namespace Gateway.Auth

open Gateway.Text

/-- Why a credential is refused. -/
inductive AuthError where
  | expired
  | invalidSignature
  | malformed (flaw : TokenFlaw)
  /-- No secret is configured. -/
  | notConfigured
deriving DecidableEq, Repr

namespace AuthError

/-- The wording of a refusal. -/
def message : AuthError → String
  | expired => "authentication token has expired"
  | invalidSignature => "authentication token signature is invalid"
  | malformed flaw => "malformed authentication token: " ++ flaw.reason
  | notConfigured => "token verification is not configured"

/-- The stable code of a refusal. -/
def code : AuthError → String
  | expired => "AUTH_001"
  | invalidSignature => "AUTH_002"
  | malformed _ => "AUTH_003"
  | notConfigured => "AUTH_004"

/-- A refusal as a client sees it. -/
def diagnostic (e : AuthError) : Diagnostic where
  code := e.code
  kind := .authorization
  message := e.message
  hint := some "Provide a valid bearer token or continue as the anonymous role"

end AuthError

/-- What credentials are verified against. -/
structure Verifier where
  /-- The secret that tokens are signed with. -/
  secret : Option String := none
  /-- The internal service key. -/
  serviceKey : Option String := none
  /-- For how many seconds past its expiry a token is still accepted. -/
  leeway : Nat := 0
  /-- The present time in seconds. -/
  now : Nat := 0
deriving Repr

namespace Verifier

/-- The credential is the service key; an empty key is no key. -/
def isServiceKey (v : Verifier) (credential : String) : Bool :=
  match v.serviceKey with
  | some key => !key.isEmpty && key == credential
  | none => false

/-- Whose credential this is. -/
def verify (v : Verifier) (credential : String) : Except AuthError Identity :=
  if v.isServiceKey credential then .ok .service
  else
    match v.secret.filter (!·.isEmpty) with
    | none => .error .notConfigured
    | some secret =>
      match Token.read secret v.now v.leeway credential with
      | .ok claims => .ok (.ofClaims claims)
      | .error .expired => .error .expired
      | .error .invalidSignature => .error .invalidSignature
      | .error (.malformed flaw) => .error (.malformed flaw)

/-- Who presents this credential, if any. -/
def identify (v : Verifier) (credential : Option String) : Identity :=
  match credential with
  | none => .anonymous
  | some credential =>
    match v.verify credential with
    | .ok identity => identity
    | .error _ => .anonymous

end Verifier

/-- The token in an `Authorization` header, `Bearer` in any case and the token behind a blank. -/
def bearerToken (header : String) : Option String :=
  match cut ' ' (trim header.toList) with
  | none => none
  | some (scheme, token) =>
    let token := trim token
    if lower scheme = "bearer".toList && !token.isEmpty then some (String.ofList token) else none

end Gateway.Auth
