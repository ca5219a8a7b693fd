import Gateway.Proofs.Auth.Privilege

/-!
# Who a credential makes its caller

`Verifier.Resolves` says whom the holder of a credential is taken for, case by case and member by member:
nobody in particular without a credential that counts, the privileged caller for the service key, and for
an accepted token the caller that its claims describe (`Describes`). `resolves_iff` says that this is the
caller that is found.
-/

namespace Gateway.Auth

/-! ## §1 — claims and the caller they describe -/

/-- **The claims describe this caller.** All claims go with it, in each case. -/
inductive Identity.Describes (claims : Json) : Identity → Prop
  /-- The privileged role leaves out subject and e-mail address. -/
  | service (named : claims.member? "role" = some (.str "service_role")) :
    Describes claims ⟨none, "service_role", none, claims⟩
  | named {role : String} (named : filledClaim claims "role" = some role)
      (other : role ≠ "service_role") :
    Describes claims ⟨filledClaim claims "sub", role, (claims.member? "email").bind Json.str?, claims⟩
  /-- Without a role, a caller with a subject is authenticated. -/
  | authenticated {subject : String} (unnamed : filledClaim claims "role" = none)
      (known : filledClaim claims "sub" = some subject) :
    Describes claims ⟨some subject, "authenticated", (claims.member? "email").bind Json.str?, claims⟩
  | unknown (unnamed : filledClaim claims "role" = none)
      (unknown : filledClaim claims "sub" = none) :
    Describes claims ⟨none, "anon", (claims.member? "email").bind Json.str?, claims⟩

/-- The caller that is made of claims is the one that they describe. -/
theorem Identity.describes_iff {claims : Json} {i : Identity} :
    Describes claims i ↔ ofClaims claims = i := by
  have privileged : claimedRole claims = serviceRole ↔
      claims.member? "role" = some (.str "service_role") := claimedRole_eq_service_iff
  have role : claimedRole claims = (filledClaim claims "role").getD
      (if (filledClaim claims "sub").isSome then "authenticated" else "anon") := rfl
  rw [ofClaims_eq]
  constructor
  · intro h
    cases h with
    | service named => rw [if_pos (privileged.2 named)]; rfl
    | named named other =>
      rw [named, Option.getD_some] at role
      rw [role]
      exact if_neg other
    | authenticated unnamed known =>
      rw [unnamed, known, Option.getD_none, Option.isSome_some, if_pos rfl] at role
      rw [role, known]
      exact if_neg (by decide)
    | unknown unnamed unknown =>
      rw [unnamed, unknown, Option.getD_none, Option.isSome_none, if_neg Bool.false_ne_true] at role
      rw [role, unknown]
      exact if_neg (by decide)
  · rintro rfl
    by_cases service : claimedRole claims = serviceRole
    · rw [if_pos service]
      exact .service (privileged.1 service)
    rw [if_neg service]
    cases named : filledClaim claims "role" with
    | some name =>
      rw [named, Option.getD_some] at role
      rw [role] at service ⊢
      exact .named named service
    | none =>
      rw [named, Option.getD_none] at role
      rw [role]
      cases known : filledClaim claims "sub" with
      | some subject => exact .authenticated named known
      | none => exact .unknown named known

/-! ## §2 — credentials and their holder -/

namespace Verifier

variable {v : Verifier} {credential : Option String} {i : Identity}

/-- **The holder of a credential is taken for this caller.** -/
inductive Resolves (v : Verifier) : Option String → Identity → Prop
  | nobody : Resolves v none ⟨none, "anon", none, .obj [("role", .str "anon")]⟩
  | key {text : String} (held : v.HoldsKey text) :
    Resolves v (some text) ⟨none, "service_role", none, .obj [("role", .str "service_role")]⟩
  | token {text : String} {claims : Json} {i : Identity} (other : ¬ v.HoldsKey text)
      (accepted : v.Accepts text claims) (described : Identity.Describes claims i) :
    Resolves v (some text) i
  /-- A credential that is not accepted counts for nothing. -/
  | refused {text : String} (other : ¬ v.HoldsKey text) (unproven : ∀ claims, ¬ v.Accepts text claims) :
    Resolves v (some text) ⟨none, "anon", none, .obj [("role", .str "anon")]⟩

theorem identify_of_holdsKey {text : String} (held : v.HoldsKey text) :
    v.identify (some text) = .service := by
  have verified := verify_eq_ok_iff.2 (.inl ⟨held, rfl⟩)
  simp only [identify, verified]

theorem identify_of_not_accepts {text : String} (other : ¬ v.HoldsKey text)
    (unproven : ∀ claims, ¬ v.Accepts text claims) : v.identify (some text) = .anonymous := by
  cases verified : v.verify text with
  | error e => simp only [identify, verified]
  | ok i =>
    rcases verify_eq_ok_iff.1 verified with ⟨held, -⟩ | ⟨-, claims, accepted, -⟩
    · exact absurd held other
    · exact absurd accepted (unproven claims)

/-- **The caller that is found is the one that the holder of the credential is taken for.** -/
theorem resolves_iff : v.Resolves credential i ↔ v.identify credential = i := by
  constructor
  · intro h
    cases h with
    | nobody => rfl
    | key held => exact identify_of_holdsKey held
    | token other accepted described =>
      rw [identify_of_accepts other accepted]
      exact Identity.describes_iff.1 described
    | refused other unproven => exact identify_of_not_accepts other unproven
  · rintro rfl
    cases credential with
    | none => exact .nobody
    | some text =>
      by_cases held : v.HoldsKey text
      · rw [identify_of_holdsKey held]
        exact .key held
      by_cases accepted : ∃ claims, v.Accepts text claims
      · obtain ⟨claims, accepted⟩ := accepted
        rw [identify_of_accepts held accepted]
        exact .token held accepted (Identity.describes_iff.2 rfl)
      · have unproven : ∀ claims, ¬ v.Accepts text claims := not_exists.1 accepted
        rw [identify_of_not_accepts held unproven]
        exact .refused held unproven

end Verifier

end Gateway.Auth
