import Gateway.Http.Service
import Gateway.Proofs.Http.Preference

/-!
# The range of a page

The range that goes with a page says which rows these are: `Describes` gives the two forms that it has. Its
numbers are unsigned 64-bit ones, and so is the number behind the last row, from which that of the last row
is computed. `contentRange?_eq_some_iff` says that a page has its range just when this sum can be
represented, which leaves out the pages that end at the very last number.

`paged_page` says what becomes of rows that are read: their page with its range, the refusal of several
rows where a single object is asked for, or no answer at all.
-/

namespace Gateway.Http

open Gateway.Text

/-! ## §1 — ranges -/

/-- The number of all rows as it is shown, when it is known. -/
def shownTotal : Option Nat → String
  | none => "*"
  | some n => toString n

/-- **A range describes a page**: `*` one without rows, and any other the numbers of its first and its last
row, of which the first is the offset, and which are as far apart as the page has rows. -/
inductive Describes (offset length : Nat) (total : Option Nat) : String → Prop
  | none (empty : length = 0) : Describes offset length total ("*/" ++ shownTotal total)
  | rows {first last : Nat} (filled : 1 ≤ length) (starts : first = offset)
      (counts : (last : Int) - first + 1 = length) :
      Describes offset length total
        (toString first ++ "-" ++ toString last ++ "/" ++ shownTotal total)

/-- The sum from which the number of the last row of a page is computed is an unsigned 64-bit number; a page
without rows needs no sum. -/
def Numbered (offset length : Nat) : Prop :=
  length = 0 ∨ offset + length < 18446744073709551616

variable {offset length last : Nat} {total : Option Nat} {range : String}

theorem totalText_eq (total : Option Nat) : totalText total = shownTotal total := by
  cases total <;> rfl

/-- For every page there is a range that describes it. -/
theorem exists_describes (offset length : Nat) (total : Option Nat) :
    ∃ range, Describes offset length total range := by
  rcases Nat.eq_zero_or_pos length with empty | filled
  · exact ⟨_, .none empty⟩
  · have counts : ((offset + length - 1 : Nat) : Int) - offset + 1 = length := by omega
    exact ⟨_, .rows filled rfl counts⟩

theorem lastRow?_eq_some_iff (filled : 1 ≤ length) :
    lastRow? offset length = some last ↔ Numbered offset length ∧ last + 1 = offset + length := by
  have word : wordSize = 18446744073709551616 := rfl
  unfold lastRow? checkedSum? Numbered
  split <;> simp <;> omega

/-- **A page has a range just when the sum can be represented**, and then its range describes it. -/
theorem contentRange?_eq_some_iff : contentRange? offset length total = some range ↔
    Numbered offset length ∧ Describes offset length total range := by
  unfold contentRange?
  rw [totalText_eq]
  rcases Nat.eq_zero_or_pos length with rfl | filled
  · rw [if_pos rfl, Option.some.injEq]
    constructor
    · rintro rfl
      exact ⟨.inl rfl, .none rfl⟩
    · rintro ⟨-, describes⟩
      cases describes with
      | none => rfl
      | rows filled => cases filled
  · rw [if_neg (Nat.ne_of_gt filled), Option.map_eq_some_iff]
    constructor
    · rintro ⟨last, found, rfl⟩
      obtain ⟨numbered, counts⟩ := (lastRow?_eq_some_iff filled).1 found
      exact ⟨numbered, .rows filled rfl (by omega)⟩
    · rintro ⟨numbered, describes⟩
      cases describes with
      | none empty => omega
      | @rows first last _ starts counts =>
        subst starts
        exact ⟨last, (lastRow?_eq_some_iff filled).2 ⟨numbered, by omega⟩, rfl⟩

/-! ## §2 — pages -/

/-- **What becomes of rows that are read**, from the row `offset` on. -/
inductive Paged (hs : Headers) (offset : Nat) (rows : List Json) (total : Option Nat) :
    Except Interruption Response → Prop
  /-- The sum in the range cannot be represented; whatever is asked for, there is no answer. -/
  | broken (beyond : ¬ Numbered offset rows.length) : Paged hs offset rows total (.error .overflow)
  /-- Several rows are no single object. -/
  | refused (numbered : Numbered offset rows.length) (single : AsksObject hs)
      (several : 2 ≤ rows.length) (message : String) :
      Paged hs offset rows total (.error (.failure (.notAcceptable message)))
  | told (numbered : Numbered offset rows.length) {body : Json} (shown : Shows hs rows body)
      {range : String} (describes : Describes offset rows.length total range) :
      Paged hs offset rows total (.ok
        { status := 200, contentRange := some range, contentType := some "application/json",
          body := .json body })

/-- Rows as the client asks for them, unless it asks for a single one and there are more. -/
theorem exists_shows (hs : Headers) (rows : List Json) :
    (∃ body, Shows hs rows body ∧
      (if wantsSingleObject hs then Service.singleObject rows else .ok (.arr rows)) = .ok body) ∨
    AsksObject hs ∧ 2 ≤ rows.length ∧ ∃ message,
      (if wantsSingleObject hs then Service.singleObject rows else .ok (.arr rows)) =
        .error (.notAcceptable message) := by
  by_cases single : wantsSingleObject hs = true
  · have asks := (wantsSingleObject_iff hs).1 single
    simp only [single, if_true]
    rcases rows with - | ⟨row, - | ⟨second, rest⟩⟩
    · exact .inl ⟨_, .none asks rfl, rfl⟩
    · exact .inl ⟨_, .one asks rfl, rfl⟩
    · exact .inr ⟨asks, by simp, _, rfl⟩
  · simp only [single]
    exact .inl ⟨_, .list (mt (wantsSingleObject_iff hs).2 single), rfl⟩

/-- **A page becomes of rows what the client asks for**, as long as there is a range for it. -/
theorem paged_page (hs : Headers) (offset : Nat) (outcome : Database.Outcome) :
    Paged hs offset outcome.rows outcome.total
      (Service.page (wantsSingleObject hs) offset outcome) := by
  unfold Service.page
  cases found : contentRange? offset outcome.rows.length outcome.total with
  | none =>
    refine .broken fun numbered => ?_
    obtain ⟨range, describes⟩ := exists_describes offset outcome.rows.length outcome.total
    rw [contentRange?_eq_some_iff.2 ⟨numbered, describes⟩] at found
    cases found
  | some range =>
    obtain ⟨numbered, describes⟩ := contentRange?_eq_some_iff.1 found
    rcases exists_shows hs outcome.rows with ⟨body, shown, same⟩ | ⟨single, several, message, same⟩
    · rw [same]
      exact .told numbered shown describes
    · rw [same]
      exact .refused numbered single several message

/-- A page is broken off only when the sum in its range cannot be represented. -/
theorem not_numbered_of_page {hs : Headers} {offset : Nat} {outcome : Database.Outcome}
    (broken : Service.page (wantsSingleObject hs) offset outcome = .error .overflow) :
    ¬ Numbered offset outcome.rows.length := by
  have paged := paged_page hs offset outcome
  rw [broken] at paged
  cases paged with
  | broken beyond => exact beyond

/-- A page without rows. -/
theorem page_empty {hs : Headers} {body : Json} (shown : Shows hs [] body) (offset : Nat)
    (total : Option Nat) : Service.page (wantsSingleObject hs) offset { total } = .ok
      { status := 200, contentRange := some ("*/" ++ shownTotal total),
        contentType := some "application/json", body := .json body } := by
  have paged := paged_page hs offset { total }
  generalize Service.page (wantsSingleObject hs) offset { total } = answer at paged
  cases paged with
  | broken beyond => exact absurd (.inl rfl) beyond
  | refused numbered single several => cases several
  | told numbered shown' describes =>
    cases describes with
    | none empty => rw [shown.unique shown']
    | rows filled => cases filled

end Gateway.Http
