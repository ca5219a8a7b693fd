import Gateway.Proofs.Http.Header
import Gateway.Socket.Credential

/-!
# Which credential a socket is opened with

A request has four places for a credential. `Offers` says what each of them offers, without any search: the
first field of a name, the first parameter of a name, the token behind `Bearer`.

The first place with a credential that is not empty ought to decide (`IsFirst`). `credential_first_iff`
says that it does, except where a place in front of it is there and empty: such a place `Hides` the ones
behind it, and the socket is opened without a credential.
-/

namespace Gateway.Socket

open Gateway.Http

/-! ## §1 — places and what they offer -/

/-- A place for a credential. -/
inductive Place where
  | bearer
  | accessToken
  | apikeyParameter
  | apikeyHeader
deriving DecidableEq, Repr

/-- The places, the ones that come first in front. -/
def Place.order : List Place :=
  [bearer, accessToken, apikeyParameter, apikeyHeader]

theorem Place.mem_order (place : Place) : place ∈ order := by
  cases place <;> decide

/-- The first parameter of this name has this value. -/
def ParameterValue (uri : Uri) (name value : String) : Prop :=
  First (·.1 = name) (Text.Percent.readQuery (uri.query.getD [])) (name, value)

/-- **What a place offers.** -/
def Offers (uri : Uri) (hs : Headers) : Place → String → Prop
  | .bearer, token => ∃ value, FieldValue hs "authorization" value ∧ IsBearer value token
  | .accessToken, token => ParameterValue uri "access_token" token
  | .apikeyParameter, token => ParameterValue uri "apikey" token
  | .apikeyHeader, token => FieldValue hs "apikey" token

/-! ## §2 — finding it -/

/-- What is found at a place. -/
def offer? (uri : Uri) (hs : Headers) : Place → Option String
  | .bearer => (hs.text? "authorization").bind Auth.bearerToken
  | .accessToken => parameter? uri "access_token"
  | .apikeyParameter => parameter? uri "apikey"
  | .apikeyHeader => hs.text? "apikey"

variable {uri : Uri} {hs : Headers} {name value token : String}

theorem parameter?_eq_some_iff : parameter? uri name = some value ↔ ParameterValue uri name value := by
  rw [parameter?, List.lookup_eq_some_iff]
  constructor
  · rintro ⟨before, after, split, others⟩
    exact ⟨before, after, split, rfl, fun b mem same => bne_iff_ne.1 (others b mem) same.symm⟩
  · rintro ⟨before, after, split, -, others⟩
    exact ⟨before, after, split, fun b mem => bne_iff_ne.2 fun same => others b mem same.symm⟩

theorem offer?_eq_some_iff {place : Place} :
    offer? uri hs place = some token ↔ Offers uri hs place token := by
  cases place with
  | bearer =>
    rw [offer?, Option.bind_eq_some_iff, Offers]
    exact exists_congr fun value => and_congr text?_eq_some_iff bearerToken_eq_some_iff
  | accessToken | apikeyParameter => exact parameter?_eq_some_iff
  | apikeyHeader => exact text?_eq_some_iff

/-- **The first place with something in it decides**, if that is not empty. -/
theorem credential?_eq (uri : Uri) (hs : Headers) :
    credential? uri hs = (Place.order.findSome? (offer? uri hs)).filter (!·.isEmpty) := by
  have first : offer? uri hs .bearer = (hs.text? "authorization").bind Auth.bearerToken := rfl
  rw [credential?, Place.order, List.findSome?_cons, first]
  cases found : (hs.text? "authorization").bind Auth.bearerToken with
  | some token =>
    obtain ⟨value, -, bearer⟩ := Option.bind_eq_some_iff.1 found
    exact (Option.filter_some_pos (by simp [(bearerToken_eq_some_iff.1 bearer).1])).symm
  | none =>
    refine congrArg (Option.filter _) ?_
    simp only [List.findSome?_cons, List.findSome?_nil, offer?]
    cases parameter? uri "access_token" <;> cases parameter? uri "apikey" <;>
      cases hs.text? "apikey" <;> rfl

/-! ## §3 — which one decides -/

/-- The credential in the first place that offers one that is not empty; none, when no place does. -/
def IsFirst (uri : Uri) (hs : Headers) : Option String → Prop
  | some token => token ≠ "" ∧ ∃ earlier place later, Place.order = earlier ++ place :: later ∧
      Offers uri hs place token ∧ ∀ p ∈ earlier, ∀ t, Offers uri hs p t → t = ""
  | none => ∀ place token, Offers uri hs place token → token = ""

/-- **The first place with something in it is empty, and hides a credential behind it.** -/
def Hides (uri : Uri) (hs : Headers) : Prop :=
  ∃ earlier place later, Place.order = earlier ++ place :: later ∧ Offers uri hs place "" ∧
    (∀ p ∈ earlier, ∀ t, ¬ Offers uri hs p t) ∧ ∃ p ∈ later, ∃ t, t ≠ "" ∧ Offers uri hs p t

theorem offer?_eq_none_iff {place : Place} :
    offer? uri hs place = none ↔ ∀ t, ¬ Offers uri hs place t := by
  rw [Option.eq_none_iff_forall_ne_some]
  exact forall_congr' fun t => not_congr offer?_eq_some_iff

/-- A hidden credential is not found. -/
theorem credential?_of_hides (hides : Hides uri hs) : credential? uri hs = none := by
  obtain ⟨earlier, place, later, order, empty, none, -⟩ := hides
  have found : Place.order.findSome? (offer? uri hs) = some "" :=
    List.findSome?_eq_some_iff.2 ⟨earlier, place, later, order, offer?_eq_some_iff.2 empty,
      fun p mem => offer?_eq_none_iff.2 (none p mem)⟩
  rw [credential?_eq, found]
  rfl

/-- Where nothing is hidden, the first credential is found. -/
theorem isFirst_of_not_hides (clear : ¬ Hides uri hs) : IsFirst uri hs (credential? uri hs) := by
  rw [credential?_eq]
  cases found : Place.order.findSome? (offer? uri hs) with
  | none =>
    intro place token offers
    have none := List.findSome?_eq_none_iff.1 found place place.mem_order
    exact absurd offers (offer?_eq_none_iff.1 none token)
  | some token =>
    obtain ⟨earlier, place, later, order, here, none⟩ := List.findSome?_eq_some_iff.1 found
    have before : ∀ p ∈ earlier, ∀ t, ¬ Offers uri hs p t :=
      fun p mem => offer?_eq_none_iff.1 (none p mem)
    by_cases empty : token = ""
    · subst empty
      intro p t offers
      have placed : p ∈ earlier ++ place :: later := order ▸ p.mem_order
      rcases List.mem_append.1 placed with mem | mem
      · exact absurd offers (before p mem t)
      · rcases List.mem_cons.1 mem with rfl | mem
        · exact Option.some.inj ((offer?_eq_some_iff.2 offers).symm.trans here)
        · refine Decidable.byContradiction fun filled => clear ?_
          exact ⟨earlier, place, later, order, offer?_eq_some_iff.1 here, before, p, mem, t, filled, offers⟩
    · rw [Option.filter_some_pos (by simp [empty])]
      exact ⟨empty, earlier, place, later, order, offer?_eq_some_iff.1 here,
        fun p mem t offers => absurd offers (before p mem t)⟩

/-- **The first credential that is not empty is taken, where no empty place hides it.** Where one does, the
socket is opened without a credential. -/
theorem credential_first_iff (uri : Uri) (hs : Headers) :
    (IsFirst uri hs (credential? uri hs) ↔ ¬ Hides uri hs) ∧
      (Hides uri hs → credential? uri hs = none) := by
  refine ⟨⟨fun first hides => ?_, isFirst_of_not_hides⟩, credential?_of_hides⟩
  rw [credential?_of_hides hides] at first
  obtain ⟨-, -, -, -, -, -, p, -, t, filled, offers⟩ := hides
  exact filled (first p t offers)

/-- **A parameter without a value hides the key behind it.** -/
theorem credential_hidden :
    let uri : Uri := ⟨"/socket".toList, some "access_token=&apikey=key".toList⟩
    Uri.read? "/socket?access_token=&apikey=key" = some uri ∧ credential? uri [] = none ∧
      Offers uri [] .apikeyParameter "key" ∧ ¬ IsFirst uri [] (credential? uri []) := by
  intro uri
  have nothing : credential? uri [] = none := by decide +kernel
  have offers : Offers uri [] .apikeyParameter "key" := offer?_eq_some_iff.1 (by decide +kernel)
  refine ⟨by decide +kernel, nothing, offers, fun first => ?_⟩
  rw [nothing] at first
  exact absurd (first _ _ offers) (by decide)

end Gateway.Socket
