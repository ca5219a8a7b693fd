import Gateway.Json.Record

/-!
# Keys in headers

The header of a token may carry a key. It is not used, since tokens are verified under a secret of
their own, but a header with something else in its place is no header. A key is an object that says of
which kind it is and gives the parts which that kind has, all as strings; what else it may say, about
its use and its origin, has to have the right type. Nothing of this may be given twice.
-/

namespace Gateway.Auth.WebKey

open Gateway.Json (Field Presence choice?)

/-- The algorithms that sign a token. -/
def signatureAlgorithms : List String :=
  ["HS256", "HS384", "HS512", "ES256", "ES384", "RS256", "RS384", "RS512", "PS256", "PS384",
    "PS512", "EdDSA"]

/-- The algorithms that a key may be meant for. -/
def algorithms : List String :=
  signatureAlgorithms ++ ["RSA1_5", "RSA-OAEP", "RSA-OAEP-256"]

/-- The curves on which a key may lie. -/
def curves : List String := ["P-256", "P-384", "P-521", "Ed25519"]

/-- The value is `null` or an object without members. -/
def isNothing : Json → Bool
  | .null | .obj [] => true
  | _ => false

/-- The value is a list of strings. -/
def isStrings : Json → Bool
  | .arr items => items.all fun i => i.str?.isSome
  | _ => false

/-- What every key may say. -/
def commonFields : List Field :=
  let text (name : String) : Field := .optionalString [name]
  let texts (name : String) : Field := ⟨[name], .optional, fun v => v.isNull || isStrings v⟩
  [text "use", texts "key_ops",
    ⟨["alg"], .optional, fun v => v.isNull || (choice? algorithms isNothing v).isSome⟩,
    text "kid", text "x5u", texts "x5c", text "x5t", text "x5t#S256"]

/-- What a key of a kind has to say: its kind and some parts, of which `crv` names a curve. -/
def kindFields (kind : String) (parts : List String) : List Field :=
  let oneOf (name : String) (choices : List String) : Field :=
    ⟨[name], .required, fun v => (choice? choices Json.isNull v).isSome⟩
  oneOf "kty" [kind] :: parts.map fun part =>
    if part = "crv" then oneOf part curves else .string [part] .required

/-- The kinds of keys. -/
def kinds : List (List Field) :=
  [kindFields "EC" ["crv", "x", "y"], kindFields "RSA" ["n", "e"], kindFields "oct" ["k"],
    kindFields "OKP" ["crv", "x"]]

/-- **The value is a key**, seen as it is written. -/
def isKey : Json → Bool
  | .obj members =>
    let has (fields : List Field) : Bool := (Json.Record.ofValue fields (.obj members)).isSome
    has commonFields && kinds.any has
  | _ => false

end Gateway.Auth.WebKey
