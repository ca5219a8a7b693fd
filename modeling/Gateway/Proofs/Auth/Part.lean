import Gateway.Auth.Token
import Gateway.Proofs.Except
import Gateway.Proofs.Json.Field

/-!
# What the parts of a token say

The header and the claims of a token are read as records. As values they say the same: the algorithm is
the `alg` of the header (`named_of_readHeader`), and the expiry the `exp` of the claims
(`dated_of_readClaims`). A record may also be an array, which gives its fields in their order.
-/

namespace Gateway.Auth.Token

open Gateway.Text

/-- The JSON in a part. -/
def partJson? (part : List Char) : Option Json :=
  (Base64Url.decode? part).bind Json.readBytes?

/-- **A value names an algorithm**: as its text, or as a key with nothing behind it. -/
inductive Names (algorithm : String) : Json → Prop
  | plain : Names algorithm (.str algorithm)
  | tagged : Names algorithm (.obj [(algorithm, .null)])

/-- The value in a part is read from the text in it. -/
theorem read?_partText {part : List Char} {text : String} (found : partText part = .ok text) :
    partJson? part = Json.read? text := by
  unfold partText at found
  unfold partJson?
  split at found
  next => cases found
  next bytes decoded =>
    obtain rfl := Except.ok.inj found
    rw [decoded]
    rfl

theorem names_of_algorithmOf? {value : Json} {algorithm : String}
    (known : algorithmOf? value = some algorithm) : Names algorithm value := by
  unfold algorithmOf? Json.choice? at known
  split at known
  next =>
    split at known
    next =>
      obtain rfl := Option.some.inj known
      exact .plain
    next => cases known
  next name inner =>
    split at known
    next listed =>
      obtain rfl := Option.some.inj known
      cases inner with
      | null => exact .tagged
      | bool | int | float | str | arr | obj => simp [Json.isNull] at listed
    next => cases known
  next => cases known

theorem bears_alg : Json.Record.Bears headerFields 1 "alg" :=
  Json.Record.bears_append [.optionalString ["typ"] .listed] rfl (by simp [Json.Field.optionalString])

theorem bears_exp : Json.Record.Bears claimFields 0 "exp" :=
  Json.Record.bears_append [] rfl (List.forall_mem_nil _)

/-- **The algorithm of a header is the one that its `alg` names.** -/
theorem named_of_readHeader {part : List Char} {algorithm : String} {header : Json}
    (read : readHeader part = .ok algorithm) (whole : partJson? part = some header) :
    ∃ value, Json.fieldOf "alg" 1 header = some value ∧ Names algorithm value := by
  obtain ⟨text, found, read⟩ := bind_eq_ok_iff.1 read
  rw [read?_partText found] at whole
  split at read
  next value _ record =>
    split at read
    next known =>
      obtain rfl := Except.ok.inj read
      exact ⟨value, (Json.Record.slotAt_ofText bears_alg record whole).symm,
        names_of_algorithmOf? known⟩
    next => cases read
  next => cases read

/-- **The expiry of claims is the one that their `exp` gives.** -/
theorem dated_of_readClaims {part : List Char} {claims : Json} {expiry : Nat}
    (read : readClaims part = .ok (claims, expiry)) :
    partJson? part = some claims ∧
      ∃ value, Json.fieldOf "exp" 0 claims = some value ∧ seconds? value = some expiry := by
  obtain ⟨text, found, read⟩ := bind_eq_ok_iff.1 read
  rw [read?_partText found]
  split at read
  next whole =>
    split at read
    next given _ record =>
      split at read
      next inTime =>
        obtain ⟨rfl, rfl⟩ := Prod.mk.inj (Except.ok.inj read)
        obtain ⟨value, rfl, seconds⟩ := Option.bind_eq_some_iff.1 inTime
        exact ⟨whole, value, (Json.Record.slotAt_ofText bears_exp record whole).symm, seconds⟩
      next => cases read
    next => cases read
  next => cases read

end Gateway.Auth.Token
