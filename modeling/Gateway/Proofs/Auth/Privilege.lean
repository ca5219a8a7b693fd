import Gateway.Auth.Verifier
import Gateway.Proofs.Auth.Part

/-!
# No privilege without proof

There are two ways to be more than anonymous: to hold the service key, or to present a token that is
accepted under the secret (`Verifier.knows_identify`). `Token.Accepted` says what accepts a token, part
by part, down to the `alg` of its header and the `exp` of its claims, and `Token.read_eq_ok_iff` that
reading one is just that.

`Verifier.identify_proven` is the main statement: whoever is not anonymous has given one of the two
proofs, the privileged role comes from the service key or from a token that claims just this role, no
caller has an empty role or an empty subject, and a token without a role makes its caller authenticated
exactly when it names a subject.
-/

namespace Gateway.Auth

open Gateway.Text

namespace Token

/-! ## §1 — accepted tokens -/

/-- The text of a token of these parts. -/
def Parts.text (p : Parts) : List Char :=
  p.message ++ '.' :: p.signature

/-- A token is cut into its parts at its last two points. -/
theorem parts?_eq_some_iff {token : List Char} {p : Parts} :
    parts? token = some p ↔ token = p.text ∧ '.' ∉ p.claims ∧ '.' ∉ p.signature := by
  obtain ⟨header, claims, signature⟩ := p
  simp only [parts?, bind, Option.bind_eq_some_iff, pure, Option.some.injEq, Prod.exists,
    cutLast_eq_some_iff, Parts.text, Parts.message, Parts.mk.injEq]
  constructor
  · rintro ⟨message, _, ⟨rfl, last⟩, _, _, ⟨rfl, second⟩, rfl, rfl, rfl⟩
    exact ⟨rfl, second, last⟩
  · rintro ⟨rfl, second, last⟩
    exact ⟨_, signature, ⟨rfl, last⟩, header, claims, ⟨rfl, second⟩, rfl, rfl, rfl⟩

/-- **A token that is accepted under a secret**, with its parts, its claims and its expiry. -/
structure Certificate (secret : String) (now leeway : Nat) (token : String) (p : Parts) (claims : Json)
    (expiry : Nat) : Prop where
  /-- It is written with points between its three parts. -/
  written : token.toList = p.text
  /-- No other point could be meant. -/
  unambiguous : '.' ∉ p.claims ∧ '.' ∉ p.signature
  /-- Its header names the algorithm that the signature is made with. -/
  algorithm : readHeader p.header = .ok "HS256"
  /-- Where the whole header is a value, its `alg` is this name. -/
  named : ∀ header, partJson? p.header = some header →
    ∃ value, Json.fieldOf "alg" 1 header = some value ∧ Names "HS256" value
  /-- It is signed with the secret. -/
  signed : p.signature = sign secret p.message
  /-- It holds claims, among them an expiry. -/
  claimed : readClaims p.claims = .ok (claims, expiry)
  /-- The claims are the value in their part. -/
  stated : partJson? p.claims = some claims
  /-- The expiry is what their `exp` gives as a time. -/
  dated : ∃ value, Json.fieldOf "exp" 0 claims = some value ∧ seconds? value = some expiry
  /-- The expiry is not past. -/
  current : earliest now leeway ≤ expiry

/-- The token is accepted and makes these claims. -/
def Accepted (secret : String) (now leeway : Nat) (token : String) (claims : Json) : Prop :=
  ∃ p expiry, Certificate secret now leeway token p claims expiry

/-- The checks of a token in their order. -/
theorem read_eq (secret : String) (now leeway : Nat) (token : String) :
    read secret now leeway token =
      match parts? token.toList with
      | none => .error (.malformed .parts)
      | some p => readHeader p.header >>= fun algorithm =>
        if algorithm ≠ "HS256" then .error (.malformed .algorithm)
        else if p.signature ≠ sign secret p.message then .error .invalidSignature
        else readClaims p.claims >>= fun claimed =>
          if claimed.2 < earliest now leeway then .error .expired else .ok claimed.1 := by
  unfold read
  cases parts? token.toList with
  | none => rfl
  | some p => rfl

/-- **Reading a token yields its claims exactly when it is accepted.** -/
theorem read_eq_ok_iff {secret : String} {now leeway : Nat} {token : String} {claims : Json} :
    read secret now leeway token = .ok claims ↔ Accepted secret now leeway token claims := by
  rw [read_eq]
  constructor
  · intro h
    split at h
    · simp at h
    next p found =>
      obtain ⟨written, unambiguous⟩ := parts?_eq_some_iff.1 found
      obtain ⟨name, header, checked⟩ := bind_eq_ok_iff.1 h
      obtain ⟨algorithm, checked⟩ := refuse_eq_ok_iff.1 checked
      obtain ⟨signed, checked⟩ := refuse_eq_ok_iff.1 checked
      obtain ⟨⟨made, expiry⟩, claimed, checked⟩ := bind_eq_ok_iff.1 checked
      obtain ⟨current, same⟩ := refuse_eq_ok_iff.1 checked
      obtain rfl : made = claims := Except.ok.inj same
      obtain rfl : name = "HS256" := not_not.1 algorithm
      obtain ⟨stated, dated⟩ := dated_of_readClaims claimed
      exact ⟨p, expiry, written, unambiguous, header, fun _ => named_of_readHeader header,
        not_not.1 signed, claimed, stated, dated, Nat.not_lt.1 current⟩
  · rintro ⟨p, expiry, written, unambiguous, algorithm, -, signed, claimed, -, -, current⟩
    rw [parts?_eq_some_iff.2 ⟨written, unambiguous⟩]
    refine bind_eq_ok_iff.2 ⟨_, algorithm, refuse_eq_ok_iff.2 ⟨not_not.2 rfl, ?_⟩⟩
    refine refuse_eq_ok_iff.2 ⟨not_not.2 signed, bind_eq_ok_iff.2 ⟨_, claimed, ?_⟩⟩
    exact refuse_eq_ok_iff.2 ⟨Nat.not_lt.2 current, rfl⟩

/-- **An accepted token has not expired**, or not longer ago than the leeway. -/
theorem le_of_earliest_le {now leeway expiry : Nat} (clock : now < wordSize)
    (current : earliest now leeway ≤ expiry) : now ≤ expiry + leeway := by
  have wrapped : leeway % wordSize ≤ leeway := Nat.mod_le leeway wordSize
  have bound : leeway % wordSize < wordSize := Nat.mod_lt leeway (by decide)
  unfold earliest at current
  by_cases back : leeway % wordSize ≤ now
  · have inside : (now + wordSize - leeway % wordSize) % wordSize = now - leeway % wordSize := by
      rw [show now + wordSize - leeway % wordSize = now - leeway % wordSize + wordSize by omega,
        Nat.add_mod_right, Nat.mod_eq_of_lt (by omega)]
    omega
  · -- A leeway that reaches back beyond the start of time makes every expiry but the latest past.
    have inside : (now + wordSize - leeway % wordSize) % wordSize =
        now + wordSize - leeway % wordSize := Nat.mod_eq_of_lt (by omega)
    omega

end Token

/-! ## §2 — the caller that claims speak for -/

/-- The string that claims hold under a key, if it is not empty. -/
def filledClaim (claims : Json) (key : String) : Option String :=
  ((claims.member? key).bind Json.str?).filter (!·.isEmpty)

theorem filledClaim_eq_some_iff {claims : Json} {key text : String} :
    filledClaim claims key = some text ↔ claims.member? key = some (.str text) ∧ text ≠ "" := by
  have string : (claims.member? key).bind Json.str? = some text ↔
      claims.member? key = some (.str text) := by
    simp only [Option.bind_eq_some_iff, Json.str?_eq_some_iff, exists_eq_right]
  rw [filledClaim, Option.filter_eq_some_iff, string]
  simp

theorem filledClaim_ne_empty (claims : Json) (key : String) : filledClaim claims key ≠ some "" :=
  fun h => (filledClaim_eq_some_iff.1 h).2 rfl

/-- The role that claims give their caller: the one they name, or one that says whether they name a
subject. -/
def claimedRole (claims : Json) : String :=
  (filledClaim claims "role").getD
    (if (filledClaim claims "sub").isSome then authenticatedRole else anonRole)

/-- The privileged role is named; it never stands for a missing one. -/
theorem claimedRole_eq_service_iff {claims : Json} :
    claimedRole claims = serviceRole ↔ claims.member? "role" = some (.str serviceRole) := by
  have named : claims.member? "role" = some (.str serviceRole) ↔
      filledClaim claims "role" = some serviceRole := by
    rw [filledClaim_eq_some_iff]
    exact (and_iff_left (by decide)).symm
  rw [named, claimedRole]
  cases filledClaim claims "role" with
  | some role => simp
  | none =>
    rw [Option.getD_none]
    refine iff_of_false (fun h => ?_) (by simp)
    split at h <;> exact absurd h (by decide)

theorem claimedRole_ne_empty (claims : Json) : claimedRole claims ≠ "" := by
  rw [claimedRole]
  cases claimed : filledClaim claims "role" with
  | some role => exact (filledClaim_eq_some_iff.1 claimed).2
  | none =>
    rw [Option.getD_none]
    split <;> decide

namespace Identity

/-- **The caller that claims speak for**, with the role they give. -/
theorem ofClaims_eq (claims : Json) :
    ofClaims claims =
      if claimedRole claims = serviceRole then { service with claims }
      else ⟨filledClaim claims "sub", claimedRole claims, (claims.member? "email").bind Json.str?,
        claims⟩ := by
  unfold ofClaims claimedRole filledClaim
  simp only
  cases ((claims.member? "role").bind Json.str?).filter (!·.isEmpty) <;> rfl

theorem role_ofClaims (claims : Json) : (ofClaims claims).role = claimedRole claims := by
  rw [ofClaims_eq]
  split
  next privileged => exact privileged.symm
  next => rfl

/-- The privileged caller has neither subject nor e-mail address. -/
theorem ofClaims_of_service {claims : Json} (h : (ofClaims claims).role = serviceRole) :
    (ofClaims claims).subject = none ∧ (ofClaims claims).email = none := by
  rw [role_ofClaims] at h
  rw [ofClaims_eq, if_pos h]
  exact ⟨rfl, rfl⟩

theorem subject_ofClaims_ne_empty (claims : Json) : (ofClaims claims).subject ≠ some "" := by
  rw [ofClaims_eq]
  split
  · exact (Option.some_ne_none "").symm
  · exact filledClaim_ne_empty claims "sub"

end Identity

/-! ## §3 — the caller of a credential -/

namespace Verifier

/-- The credential is a service key that is configured and not empty. -/
def HoldsKey (v : Verifier) (credential : String) : Prop :=
  v.serviceKey = some credential ∧ credential ≠ ""

/-- A secret is configured and not empty, and under it the credential is an accepted token. -/
def Accepts (v : Verifier) (credential : String) (claims : Json) : Prop :=
  ∃ secret, v.secret = some secret ∧ secret ≠ "" ∧
    Token.Accepted secret v.now v.leeway credential claims

theorem isServiceKey_iff {v : Verifier} {credential : String} :
    v.isServiceKey credential = true ↔ v.HoldsKey credential := by
  unfold isServiceKey HoldsKey
  cases v.serviceKey with
  | none => simp
  | some key =>
    rw [Bool.and_eq_true, beq_iff_eq, Option.some.injEq, Bool.not_eq_true', String.isEmpty_eq_false_iff]
    constructor
    · rintro ⟨filled, rfl⟩
      exact ⟨rfl, filled⟩
    · rintro ⟨rfl, filled⟩
      exact ⟨filled, rfl⟩

/-- **A credential is verified** as the service key, or else as an accepted token. -/
theorem verify_eq_ok_iff {v : Verifier} {credential : String} {i : Identity} :
    v.verify credential = .ok i ↔ (v.HoldsKey credential ∧ i = .service) ∨
      (¬ v.HoldsKey credential ∧ ∃ claims, v.Accepts credential claims ∧ i = .ofClaims claims) := by
  have secret : ∀ s, v.secret.filter (!·.isEmpty) = some s ↔ v.secret = some s ∧ s ≠ "" := by
    intro s
    rw [Option.filter_eq_some_iff]
    simp
  unfold verify
  by_cases key : v.HoldsKey credential
  · rw [if_pos (isServiceKey_iff.2 key)]
    constructor
    · exact fun same => .inl ⟨key, (Except.ok.inj same).symm⟩
    · rintro (⟨-, rfl⟩ | ⟨other, -⟩)
      · rfl
      · exact absurd key other
  · rw [if_neg (mt isServiceKey_iff.1 key)]
    constructor
    · intro h
      refine .inr ⟨key, ?_⟩
      split at h
      · exact absurd h (by simp)
      next s configured =>
        split at h
        next claims read =>
          exact ⟨claims, ⟨s, ((secret s).1 configured).1, ((secret s).1 configured).2,
            Token.read_eq_ok_iff.1 read⟩, (Except.ok.inj h).symm⟩
        all_goals exact absurd h (by simp)
    · rintro (⟨other, -⟩ | ⟨-, claims, ⟨s, configured, filled, accepted⟩, rfl⟩)
      · exact absurd other key
      · rw [(secret s).2 ⟨configured, filled⟩]
        dsimp only
        rw [Token.read_eq_ok_iff.2 accepted]

/-- Who presents a credential, by the proof that is given. -/
inductive Knows (v : Verifier) : Option String → Identity → Prop
  /-- No proof is given, or none that counts. -/
  | nobody {credential : Option String} : Knows v credential .anonymous
  | key {text : String} (held : v.HoldsKey text) : Knows v (some text) .service
  | token {text : String} {claims : Json} (accepted : v.Accepts text claims) :
    Knows v (some text) (.ofClaims claims)

/-- **Whoever is not anonymous has given a proof**: the service key, or an accepted token. -/
theorem knows_identify (v : Verifier) (credential : Option String) :
    v.Knows credential (v.identify credential) := by
  cases credential with
  | none => exact .nobody
  | some text =>
    simp only [identify]
    cases verified : v.verify text with
    | error e => exact .nobody
    | ok i =>
      rcases verify_eq_ok_iff.1 verified with ⟨held, rfl⟩ | ⟨-, claims, accepted, rfl⟩
      · exact .key held
      · exact .token accepted

theorem identify_of_accepts {v : Verifier} {text : String} {claims : Json}
    (other : ¬ v.HoldsKey text) (accepted : v.Accepts text claims) :
    v.identify (some text) = .ofClaims claims := by
  have verified := verify_eq_ok_iff.2 (.inr ⟨other, claims, accepted, rfl⟩)
  simp only [identify, verified]

namespace Knows

variable {v : Verifier} {credential : Option String} {i : Identity}

/-- What it takes not to be anonymous. -/
theorem proof (h : v.Knows credential i) (other : i ≠ .anonymous) : ∃ text, credential = some text ∧
    (v.HoldsKey text ∨ ∃ claims, v.Accepts text claims) := by
  cases h with
  | nobody => exact absurd rfl other
  | key held => exact ⟨_, rfl, .inl held⟩
  | token accepted => exact ⟨_, rfl, .inr ⟨_, accepted⟩⟩

/-- What it takes to be privileged, and what the privileged caller is without. -/
theorem privileged (h : v.Knows credential i) (role : i.role = serviceRole) :
    (∃ text, credential = some text ∧ (v.HoldsKey text ∨
      ∃ claims, v.Accepts text claims ∧ claims.member? "role" = some (.str serviceRole))) ∧
    i.subject = none ∧ i.email = none := by
  cases h with
  | nobody => exact absurd role (by decide)
  | key held => exact ⟨⟨_, rfl, .inl held⟩, rfl, rfl⟩
  | token accepted =>
    have claimed := claimedRole_eq_service_iff.1 (Identity.role_ofClaims _ ▸ role)
    exact ⟨⟨_, rfl, .inr ⟨_, accepted, claimed⟩⟩, Identity.ofClaims_of_service role⟩

theorem role_ne_empty (h : v.Knows credential i) : i.role ≠ "" := by
  cases h with
  | nobody | key => decide
  | token =>
    rw [Identity.role_ofClaims]
    exact claimedRole_ne_empty _

theorem subject_ne_empty (h : v.Knows credential i) : i.subject ≠ some "" := by
  cases h with
  | nobody | key => exact (Option.some_ne_none "").symm
  | token => exact Identity.subject_ofClaims_ne_empty _

end Knows

/-- **No privilege without proof.** Whoever is not anonymous presents a service key that is configured
and not empty, or, under a secret that is configured and not empty, a token with a valid signature and an
expiry that is not past beyond the leeway. The privileged role takes the key, or a token that claims just
this role, and comes without subject and e-mail address. No role is empty, and no subject is the empty
text. A token that claims no role, and is not the service key itself, makes its caller authenticated if
it names a subject, else anonymous. -/
theorem identify_proven (v : Verifier) (clock : v.now < wordSize) (credential : Option String) :
    let i := v.identify credential
    (i ≠ .anonymous → ∃ text, credential = some text ∧
      (v.HoldsKey text ∨ ∃ secret p claims expiry, v.secret = some secret ∧ secret ≠ "" ∧
        Token.Certificate secret v.now v.leeway text p claims expiry ∧ v.now ≤ expiry + v.leeway)) ∧
      (i.role = serviceRole →
        (∃ text, credential = some text ∧ (v.HoldsKey text ∨
          ∃ claims, v.Accepts text claims ∧ claims.member? "role" = some (.str serviceRole))) ∧
        i.subject = none ∧ i.email = none) ∧
      i.role ≠ "" ∧ i.subject ≠ some "" ∧
      ∀ text claims, credential = some text → ¬ v.HoldsKey text → v.Accepts text claims →
        filledClaim claims "role" = none →
        (i.role = authenticatedRole ↔ ∃ subject, filledClaim claims "sub" = some subject) ∧
        (i.role = anonRole ↔ filledClaim claims "sub" = none) := by
  intro i
  have known : v.Knows credential i := v.knows_identify credential
  refine ⟨fun other => ?_, known.privileged, known.role_ne_empty, known.subject_ne_empty, ?_⟩
  · obtain ⟨text, given, held | ⟨claims, secret, configured, filled, p, expiry, certificate⟩⟩ :=
      known.proof other
    · exact ⟨text, given, .inl held⟩
    · have inTime := Token.le_of_earliest_le clock certificate.current
      exact ⟨text, given, .inr ⟨secret, p, claims, expiry, configured, filled, certificate, inTime⟩⟩
  · rintro text claims rfl other accepted unnamed
    have role : i.role = if (filledClaim claims "sub").isSome then authenticatedRole else anonRole := by
      show (v.identify (some text)).role = _
      rw [identify_of_accepts other accepted, Identity.role_ofClaims, claimedRole, unnamed,
        Option.getD_none]
    have distinct : authenticatedRole ≠ anonRole := by decide
    rw [role]
    cases filledClaim claims "sub" with
    | none => exact ⟨by simp [distinct.symm], by simp⟩
    | some subject => exact ⟨by simp, by simp [distinct]⟩

/-- A token that names a subject and no role, under a verifier whose service key is empty. -/
theorem identify_proven_subject :
    let v : Verifier := { secret := some "secret", serviceKey := some "", now := 5 }
    -- The header names `HS256`, and the claims are an expiry of 9 and the subject `u1`.
    let token := "eyJhbGciOiJIUzI1NiJ9.eyJleHAiOjksInN1YiI6InUxIn0" ++
      ".VCJO32Df_qrzsdxR5PwTHLWw2nTIPOCLxLht3E-LXRE"
    v.now < wordSize ∧ ¬ v.HoldsKey token ∧
      (∃ claims, v.Accepts token claims ∧ filledClaim claims "role" = none ∧
        filledClaim claims "sub" = some "u1") ∧
      (v.identify (some token)).role = authenticatedRole ∧
      (v.identify (some token)).subject ≠ some "" := by
  intro v token
  have clock : v.now < wordSize := by decide
  have other : ¬ v.HoldsKey token := fun held => absurd held.1 (by decide +kernel)
  have checked : (match Token.read "secret" 5 0 token with
      | .ok claims => filledClaim claims "role" == none && filledClaim claims "sub" == some "u1"
      | .error _ => false) = true := by decide +kernel
  obtain ⟨claims, read, unnamed, subject⟩ : ∃ claims, Token.read "secret" 5 0 token = .ok claims ∧
      filledClaim claims "role" = none ∧ filledClaim claims "sub" = some "u1" := by
    split at checked
    next claims read =>
      rw [Bool.and_eq_true, beq_iff_eq, beq_iff_eq] at checked
      exact ⟨claims, read, checked⟩
    · exact absurd checked Bool.false_ne_true
  have accepted : v.Accepts token claims := ⟨"secret", rfl, by decide, Token.read_eq_ok_iff.1 read⟩
  obtain ⟨-, -, -, named, roles⟩ := identify_proven v clock (some token)
  exact ⟨clock, other, ⟨claims, accepted, unnamed, subject⟩,
    (roles token claims rfl other accepted unnamed).1.2 ⟨"u1", subject⟩, named⟩

end Verifier

end Gateway.Auth
