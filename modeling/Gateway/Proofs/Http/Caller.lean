import Gateway.Http.Service
import Gateway.Proofs.Auth.Caller
import Gateway.Proofs.Http.Header

/-!
# Who sends a request

A request presents the token of its first `Authorization` field, and where that holds none, its first
`apikey` field (`Presents`). Its sender is whoever the holder of this credential is taken for, under the
secret, the service key and the leeway of the gateway and at its time (`Service.IsSender`).
-/

namespace Gateway.Http

open Gateway.Auth (Identity Verifier)

/-- **The credential that header fields present.** -/
inductive Presents (hs : Headers) : Option String → Prop
  | bearer {value token : String} (field : FieldValue hs "authorization" value)
      (bearer : IsBearer value token) : Presents hs (some token)
  | key {key : String}
      (noBearer : ∀ value, FieldValue hs "authorization" value → ∀ token, ¬ IsBearer value token)
      (field : FieldValue hs "apikey" key) : Presents hs (some key)
  | nothing
      (noBearer : ∀ value, FieldValue hs "authorization" value → ∀ token, ¬ IsBearer value token)
      (noKey : ∀ key, ¬ FieldValue hs "apikey" key) : Presents hs none

/-- The bearer token of header fields. -/
theorem bearer_eq_some_iff {hs : Headers} {token : String} :
    (hs.text? "authorization").bind Auth.bearerToken = some token ↔
      ∃ value, FieldValue hs "authorization" value ∧ IsBearer value token := by
  rw [Option.bind_eq_some_iff]
  exact exists_congr fun value => and_congr text?_eq_some_iff bearerToken_eq_some_iff

theorem bearer_eq_none_iff {hs : Headers} :
    (hs.text? "authorization").bind Auth.bearerToken = none ↔
      ∀ value, FieldValue hs "authorization" value → ∀ token, ¬ IsBearer value token := by
  simp only [Option.eq_none_iff_forall_ne_some, ne_eq, bearer_eq_some_iff, not_exists, not_and]
  exact forall_comm.trans (forall_congr' fun value => forall_comm)

namespace Service

variable {σ : Type}

/-- **The credential that is found is the one that the header fields present.** -/
theorem presents_iff {hs : Headers} {credential : Option String} :
    Presents hs credential ↔ credential? hs = credential := by
  rw [credential?]
  constructor
  · intro h
    cases h with
    | bearer field bearer =>
      rw [bearer_eq_some_iff.2 ⟨_, field, bearer⟩]
      rfl
    | key noBearer field =>
      rw [bearer_eq_none_iff.2 noBearer]
      exact text?_eq_some_iff.2 field
    | nothing noBearer noKey =>
      rw [bearer_eq_none_iff.2 noBearer]
      exact Option.eq_none_iff_forall_ne_some.2 fun key => mt text?_eq_some_iff.1 (noKey key)
  · rintro rfl
    cases bearer : (hs.text? "authorization").bind Auth.bearerToken with
    | some token =>
      obtain ⟨value, field, isBearer⟩ := bearer_eq_some_iff.1 bearer
      exact .bearer field isBearer
    | none =>
      have noBearer := bearer_eq_none_iff.1 bearer
      show Presents hs (hs.text? "apikey")
      cases key : hs.text? "apikey" with
      | some text => exact .key noBearer (text?_eq_some_iff.1 key)
      | none =>
        refine .nothing noBearer fun text field => ?_
        rw [text?_eq_some_iff.2 field] at key
        cases key

/-- **The request is sent by this caller.** -/
def IsSender (s : Service σ) (r : Request) (i : Identity) : Prop :=
  ∃ credential, Presents r.headers credential ∧
    Verifier.Resolves ⟨s.config.jwtSecret, s.config.serviceKey, s.config.leeway, s.now⟩ credential i

/-- **Requests are served for their sender.** -/
theorem isSender_iff {s : Service σ} {r : Request} {i : Identity} : s.IsSender r i ↔ s.caller r = i := by
  constructor
  · rintro ⟨credential, presents, resolves⟩
    rw [caller, presents_iff.1 presents]
    exact Verifier.resolves_iff.1 resolves
  · rintro rfl
    exact ⟨_, presents_iff.2 rfl, Verifier.resolves_iff.2 rfl⟩

end Service

end Gateway.Http
