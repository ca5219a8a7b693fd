import Gateway.Auth.WebKey
import Gateway.Digest.Hmac
import Gateway.Json.Bytes
import Gateway.Text.Base64Url
import Gateway.Text.Cut
import Gateway.Text.Numeral
import Gateway.Text.Utf8

/-!
# Signed tokens

A token is three parts with points between them: a header and a set of claims, each JSON in base64, and
the keyed hash of the two. The header must name the algorithm `HS256`, and the claims must hold an
expiry that is not past.

`Token.read` checks all this in a fixed order, shape, header, algorithm, signature, claims, expiry, and
the first fault decides.
-/

namespace Gateway.Auth

open Gateway.Json (Field Presence choice?)
open Gateway.Text

/-- What keeps a token from being read. -/
inductive TokenFlaw where
  /-- There are fewer than three parts. -/
  | parts
  /-- A part is not base64. -/
  | base64
  /-- A part is not the JSON it should be. -/
  | json
  /-- The header names another algorithm. -/
  | algorithm
  /-- The claims hold no expiry. -/
  | missingExpiry
deriving DecidableEq, Repr

/-- The wording of a flaw. -/
def TokenFlaw.reason : TokenFlaw → String
  | .parts => "InvalidToken"
  | .base64 => "Base64 error"
  | .json => "JSON error"
  | .algorithm => "InvalidAlgorithm"
  | .missingExpiry => "Missing required claim: exp"

/-- Why a token is not accepted. -/
inductive TokenError where
  | malformed (flaw : TokenFlaw)
  | invalidSignature
  | expired
deriving DecidableEq, Repr

namespace Token

/-! ## Parts -/

/-- The three parts of a token. -/
structure Parts where
  header : List Char
  claims : List Char
  signature : List Char
deriving DecidableEq, Repr

/-- The parts of a token; points beyond the last two belong to the header. -/
def parts? (token : List Char) : Option Parts := do
  let (message, signature) ← cutLast '.' token
  let (header, claims) ← cutLast '.' message
  return ⟨header, claims, signature⟩

/-- The part of a token that is signed. -/
def Parts.message (p : Parts) : List Char :=
  p.header ++ '.' :: p.claims

/-- The signature of a message under a secret. -/
def sign (secret : String) (message : List Char) : List Char :=
  Base64Url.encode (Digest.hmacSha256 (Utf8.encode secret.toList) (Utf8.encode message))

/-- The JSON text in a part. -/
def partText (part : List Char) : Except TokenError String :=
  match Base64Url.decode? part with
  | none => .error (.malformed .base64)
  | some bytes => .ok (Json.textOfBytes bytes)

/-! ## Header -/

/-- The algorithm that a value names. -/
def algorithmOf? : Json → Option String :=
  choice? WebKey.signatureAlgorithms Json.isNull

/-- The fields of a header. -/
def headerFields : List Field :=
  let text (name : String) : Field := .optionalString [name] .listed
  [text "typ", ⟨["alg"], .required, fun v => (algorithmOf? v).isSome⟩, text "cty", text "jku",
    ⟨["jwk"], .listed, fun v => v.isNull || WebKey.isKey v⟩,
    text "kid", text "x5u",
    ⟨["x5c"], .listed, fun v => v.isNull || WebKey.isStrings v⟩,
    text "x5t", text "x5t#S256"]

/-- The algorithm of a header. -/
def readHeader (part : List Char) : Except TokenError String := do
  let text ← partText part
  match Json.Record.ofText headerFields text with
  | some (_ :: some algorithm :: _) =>
    match algorithmOf? algorithm with
    | some name => return name
    | none => throw (.malformed .json)
  | _ => throw (.malformed .json)

/-! ## Claims -/

/-- A point in time as a claim gives it: a whole number of seconds, or a number that is rounded to
one. What is negative or no number is none. -/
def seconds? : Json → Option Nat
  | .int n => if n < 0 then none else some n.toNat
  | .float x =>
    if x.isNaN || x.isInfinite || x.position < 0
        || (Binary64.ofInt wordSize).position ≤ x.position then none
    else
      let (num, den) := Binary64.ratio x.magnitude
      -- To the nearest second, a half upwards.
      some ((2 * num + den) / (2 * den))
  | _ => none

/-- The fields of the claims that are looked at. A time may have any value but a list or an object
with content, and a subject any value but a list or an object. -/
def claimFields : List Field :=
  let time (name : String) : Field := ⟨[name], .optional, fun
    | .arr (_ :: _) | .obj (_ :: _) => false
    | _ => true⟩
  [time "exp", time "nbf",
    ⟨["sub"], .listed, fun
      | .arr _ | .obj _ => false
      | _ => true⟩,
    .any ["iss"] .listed, .any ["aud"] .listed]

/-- The claims and their expiry. -/
def readClaims (part : List Char) : Except TokenError (Json × Nat) := do
  let text ← partText part
  let some claims := Json.read? text | throw (.malformed .json)
  match Json.Record.ofText claimFields text with
  | some (expiry :: _) =>
    match expiry.bind seconds? with
    | some seconds => return (claims, seconds)
    | none => throw (.malformed .missingExpiry)
  | _ => throw (.malformed .json)

/-! ## The whole token -/

/-- The least expiry that is accepted. Times are unsigned 64-bit numbers of seconds, and a leeway that
reaches back beyond their start wraps around. -/
def earliest (now leeway : Nat) : Nat :=
  (now + wordSize - leeway % wordSize) % wordSize

/-- **The claims of a token that is accepted under a secret.** -/
def read (secret : String) (now leeway : Nat) (token : String) : Except TokenError Json := do
  let some parts := parts? token.toList | throw (.malformed .parts)
  let algorithm ← readHeader parts.header
  if algorithm ≠ "HS256" then throw (.malformed .algorithm)
  -- No claim is looked at before the signature has been found valid.
  if parts.signature ≠ sign secret parts.message then throw .invalidSignature
  let (claims, expiry) ← readClaims parts.claims
  if expiry < earliest now leeway then throw .expired
  return claims

end Token

end Gateway.Auth
