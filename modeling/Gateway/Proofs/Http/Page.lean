import Gateway.Proofs.Database.Read
import Gateway.Proofs.Http.Discipline
import Gateway.Proofs.Sql.Where
import Gateway.Proofs.Text.Numeral

/-!
# The answer to a read

A read of a table is answered with the rows that the database gives, in their order, and with a range that
says which rows these are. A page starts from the row that the last of the parameters `offset` names, and
that may be any unsigned 64-bit number. So the sum from which the number of the last row is computed may be
beyond these numbers; then there is no answer, although a page that ends at the very last number has a range
that describes it.

`read_page` puts together what comes back from the database and what is sent to the client.
-/

namespace Gateway.Http

open Gateway.Database
open Gateway.Sql (Query)
open Gateway.Text

/-! ## §1 — what a request asks for -/

/-- The value of a parameter is this unsigned 64-bit number, in digits, perhaps behind a plus sign, with
blanks around them. -/
def IsNumeral (value : String) (n : Nat) : Prop :=
  ∃ digits, (trim value.toList = digits ∨ trim value.toList = '+' :: digits) ∧ digits ≠ [] ∧
    (∀ c ∈ digits, c.isDigit = true) ∧ Nat.ofDigitChars 10 digits 0 = n ∧ n ≤ 18446744073709551615

/-- **The row that a page is asked to start from**: what the last of the parameters `offset` says, if
there is one. -/
inductive AsksOffset (parameters : List (String × String)) : Option Nat → Prop
  | absent (none : ∀ p ∈ parameters, p.1 ≠ "offset") : AsksOffset parameters .none
  | given {value : String} {n : Nat} (last : Last (·.1 = "offset") parameters ("offset", value))
      (number : IsNumeral value n) : AsksOffset parameters (some n)

/-- A parameter of another name leaves the offset as it is. -/
theorem offset_of_adds {q q' : Query} {p : String × String} (other : p.1 ≠ "offset")
    (adds : q.Adds p q') : q'.offset = q.offset := by
  cases adds with
  | offset => exact absurd rfl other
  | _ => rfl

/-- The parameter `offset` sets the offset to the number that it says. -/
theorem exists_of_adds {q q' : Query} {p : String × String} (named : p.1 = "offset")
    (adds : q.Adds p q') :
    ∃ n, IsNumeral p.2 n ∧ q'.offset = some n := by
  cases adds with
  | @offset _ n read =>
    refine ⟨n, ?_, rfl⟩
    unfold Query.readCount at read
    split at read
    next number =>
      obtain rfl := Except.ok.inj read
      exact readNumeral_eq_ok_iff.1 number
    · cases read
  | filter other =>
    obtain rfl := named
    exact absurd (by decide) other
  | _ => simp at named

theorem offset_foldlM {q q' : Query} {parameters : List (String × String)}
    (ok : parameters.foldlM Query.addParameter q = .ok q') :
    ∃ asked, AsksOffset parameters asked ∧ q'.offset = asked.or q.offset := by
  induction parameters generalizing q with
  | nil =>
    obtain rfl := Except.ok.inj ok
    exact ⟨none, .absent (List.forall_mem_nil _), rfl⟩
  | cons p rest ih =>
    rw [List.foldlM_cons] at ok
    obtain ⟨q₁, first, later⟩ := bind_eq_ok_iff.1 ok
    have adds := Query.adds_of_addParameter first
    obtain ⟨asked, asks, found⟩ := ih later
    cases asks with
    | given last number =>
      rw [Option.some_or] at found
      exact ⟨_, .given (last.cons p) number, found⟩
    | absent none =>
      by_cases here : p.1 = "offset"
      · obtain ⟨n, number, given⟩ := exists_of_adds here adds
        have last : Last (·.1 = "offset") (p :: rest) ("offset", p.2) :=
          ⟨[], rest, by rw [← here]; rfl, rfl, none⟩
        exact ⟨some n, .given last number, found.trans given⟩
      · exact ⟨.none, .absent (List.forall_mem_cons.2 ⟨here, none⟩),
          found.trans (offset_of_adds here adds)⟩

/-- **The offset of a query is the one that is asked for.** -/
theorem asksOffset_of_read {table : String} {parameters : List (String × String)} {q : Query}
    (accepted : Query.read table parameters = .ok q) : AsksOffset parameters q.offset := by
  obtain ⟨name, -, ok⟩ := bind_eq_ok_iff.1 accepted
  obtain ⟨asked, asks, found⟩ := offset_foldlM ok
  rw [found, Option.or_none]
  exact asks

/-! ## §2 — the answer to a read -/

variable {σ : Type}

/-- **The answer to a read of these rows**, from the row `offset` on. -/
structure AnswersPage (hs : Headers) (offset : Nat) (rows : List Json) (total : Option Nat)
    (answer : Option Response) : Prop where
  /-- All rows are counted when the client asks for it. -/
  counted : total.isSome = true ↔ AsksTotal hs
  /-- There is no answer just when the sum in the range cannot be represented. -/
  broken : answer = none ↔ rows ≠ [] ∧ 18446744073709551616 ≤ offset + rows.length
  /-- Several rows are no single object. -/
  refused : AsksObject hs → 2 ≤ rows.length → ∀ response, answer = some response →
    response.status = 406
  /-- In any other case the rows are answered as the client asks for them, with their range. -/
  told : (AsksObject hs → rows.length ≤ 1) → ∀ response, answer = some response →
    ∃ body range, Shows hs rows body ∧ Describes offset rows.length total range ∧
      response = { status := 200, contentRange := some range,
                   contentType := some "application/json", body := .json body }

theorem not_numbered_iff {offset : Nat} {rows : List Json} : ¬ Numbered offset rows.length ↔
    rows ≠ [] ∧ 18446744073709551616 ≤ offset + rows.length := by
  rw [Numbered, not_or, List.length_eq_zero_iff, Nat.not_lt]

/-- **Where an operation ends well, its rows are answered as a page.** -/
theorem answersPage_of_page {r : Request} (get : r.method = .get) {offset : Nat} {outcome : Outcome}
    (counted : outcome.total.isSome = r.preferences.count) :
    AnswersPage r.headers offset outcome.rows outcome.total
      (r.answered (Service.page (wantsSingleObject r.headers) offset outcome)) := by
  have total : outcome.total.isSome = true ↔ AsksTotal r.headers := by
    rw [counted, Request.preferences, Preferences.count_ofHeaders_iff]
  have paged := paged_page r.headers offset outcome
  generalize Service.page (wantsSingleObject r.headers) offset outcome = answer at paged
  cases paged with
  | broken beyond =>
    refine ⟨total, iff_of_true rfl (not_numbered_iff.1 beyond), ?_, ?_⟩
    · rintro - - response ⟨⟩
    · rintro - response ⟨⟩
  | refused numbered single several message =>
    refine ⟨total, iff_of_false (Option.some_ne_none _) (mt not_numbered_iff.2 (not_not.2 numbered)), ?_, ?_⟩
    · rintro - - response told
      obtain rfl := Option.some.inj told
      rw [Request.refused, Response.status_sentTo]
      rfl
    · intro fits
      exact absurd (fits single) (Nat.not_le.2 several)
  | @told numbered body shown range describes =>
    refine ⟨total, iff_of_false (Option.some_ne_none _) (mt not_numbered_iff.2 (not_not.2 numbered)), ?_, ?_⟩
    · intro single several
      exact absurd several (Nat.not_le.2 (Nat.lt_succ_of_le (shown.length_le single)))
    · rintro - response told
      obtain rfl := Option.some.inj told
      refine ⟨body, range, shown, describes, ?_⟩
      rw [get]
      rfl

namespace Service

variable {s : Service σ} {r : Request} {p : Parameter} {name : String} {q : Query}

/-- A read of a table that is accepted has the plan to read a page. -/
theorem plan_of_read (get : r.method = .get)
    (table : Route.ofPath? s.config.restPrefix r.uri.path = some (.table, [p]))
    (named : p.value? = some name) (accepted : Query.read name (parameters r) = .ok q) :
    s.plan r = .table (.read q r.preferences.count)
      (page (wantsSingleObject r.headers) (q.offset.getD 0)) := by
  have query : r.query name = .ok q := by
    rw [Request.query, accepted]
    rfl
  have compiles : r.readPlan name = .ok (.table (.read q r.preferences.count)
      (page (wantsSingleObject r.headers) (q.offset.getD 0))) := by
    rw [Request.readPlan, query]
    rfl
  rw [plan, table]
  simp [Request.routePlan, get, Request.namedPlan, named, compiles, Plan.ofExcept]

/-- All rows are counted in a read just when that is wanted. -/
theorem isSome_total {c : Config} {i : Auth.Identity} {counted : Bool}
    {taken : Except Database.Failure Unit} {es : List Exchange} {ending : Ending} {outcome : Outcome}
    (way : Transaction c i (.read q counted) taken es ending)
    (well : ending.result (.read q counted) = .ok outcome) : outcome.total.isSome = counted := by
  rcases Ending.result_eq_ok well with rfl | ⟨f, rfl, recovered⟩
  · have read := way.readOf
    cases counted with
    | false =>
      rw [read.uncounted rfl]
      rfl
    | true =>
      obtain ⟨n, same, -⟩ := read.total rfl
      rw [same]
      rfl
  · rw [Operation.recover] at recovered
    split at recovered
    · obtain rfl := Except.ok.inj recovered
      cases counted <;> rfl
    · cases recovered

/-- **A page is answered with the rows that the database gives for it.** It starts from the row that is
asked for, all rows are counted just when that is asked for, and its range describes it. Where the number
behind its last row is none of 64 bits, there is no answer. -/
theorem read_page (get : r.method = .get)
    (table : Route.ofPath? s.config.restPrefix r.uri.path = some (.table, [p]))
    (named : p.value? = some name) (accepted : Query.read name (parameters r) = .ok q) (w : Wire σ) :
    AsksOffset (parameters r) q.offset ∧ ∃ es ending,
      Transaction s.config (s.caller r) (.read q r.preferences.count)
        (takeConnection s.database s.config w).1 es ending ∧
      Conversation s.database (takeConnection s.database s.config w).2 es (s.respond r w).2 ∧
      (∀ outcome, ending = .committed outcome → ReadOf s.config q r.preferences.count es outcome) ∧
      ∀ outcome, ending.result (.read q r.preferences.count) = .ok outcome →
        AnswersPage r.headers (q.offset.getD 0) outcome.rows outcome.total (s.respond r w).1 := by
  have planned := plan_of_read get table named accepted
  have operation : (s.plan r).operation? = some (.read q r.preferences.count) := by rw [planned]; rfl
  obtain ⟨es, ending, v, way, talk, served⟩ := serve_transaction s r operation w
  have answered := respond_apply s r w
  rw [served, planned, Plan.concluded] at answered
  refine ⟨asksOffset_of_read accepted, es, ending, way, ?_, ?_, ?_⟩
  · rw [answered]
    exact talk
  · rintro outcome rfl
    exact way.readOf
  · intro outcome well
    rw [answered, well]
    exact answersPage_of_page get (isSome_total way well)

/-- A page from row 10 on, with all rows counted. -/
theorem read_page_counted :
    let rows : List Json := [.obj [("id", .int 11)], .obj [("id", .int 12)]]
    let s : Service Unit := ⟨.ofRows rows 15, {}, 0⟩
    let r : Request := ⟨.get, ⟨"/rest/v1/orders".toList, some "offset=5&limit=2&offset=10".toList⟩,
      [⟨"prefer", "count=exact"⟩], []⟩
    (s.respond r ⟨(), []⟩).1.bind (·.contentRange) = some "10-11/15" ∧
    ∃ q es outcome, Query.read "orders" (parameters r) = .ok q ∧ q.offset = some 10 ∧
      ReadOf {} q true es outcome ∧ outcome.rows = rows ∧ outcome.total = some 15 ∧
      AnswersPage r.headers 10 rows (some 15) (s.respond r ⟨(), []⟩).1 := by
  intro rows s r
  have route : Route.ofPath? s.config.restPrefix r.uri.path =
      some (.table, [⟨"table", "orders".toList⟩]) := by decide +kernel
  have named : (⟨"table", "orders".toList⟩ : Parameter).value? = some "orders" := by decide +kernel
  have range : (s.respond r ⟨(), []⟩).1.bind (·.contentRange) = some "10-11/15" := by decide +kernel
  have wanted : r.preferences.count = true := by decide +kernel
  have offset : (Query.read "orders" (parameters r)).map (·.offset) = .ok (some 10) := by
    decide +kernel
  obtain ⟨q, accepted, start⟩ := map_eq_ok_iff.1 offset
  obtain ⟨-, es, ending, way, talk, read, answers⟩ := read_page rfl route named accepted ⟨(), []⟩
  obtain ⟨outcome, rfl⟩ := Transaction.committed_of_clean way fun e => talk.failure?_ofRows
  rw [wanted] at read answers
  have got := read outcome rfl
  -- What came back is what this database answers.
  obtain ⟨known, wrapped, -, paged⟩ := got.page
  obtain ⟨n, total, counted⟩ := got.total rfl
  obtain ⟨u, same⟩ := talk.answer_eq paged
  have sameRows : outcome.rows = rows := Json.arr.inj (Except.ok.inj same)
  obtain ⟨u, same⟩ := talk.answer_eq counted
  obtain rfl : n = 15 := Int.ofNat.inj (Except.ok.inj same)
  have page := answers outcome rfl
  rw [start, sameRows, total] at page
  exact ⟨range, q, es, outcome, accepted, start, got, sameRows, total, page⟩

/-- **A page that breaks its connection.** It has one row, and that has the greatest number of all. The read
is committed and there is a range that describes the page, but no answer comes. -/
theorem read_page_broken :
    let s : Service Unit := ⟨.ofRows [.obj [("id", .int 1)]] 1, {}, 0⟩
    let r : Request :=
      ⟨.get, ⟨"/rest/v1/orders".toList, some "offset=18446744073709551615".toList⟩, [], []⟩
    (Query.read "orders" (parameters r)).map (·.offset) = .ok (some 18446744073709551615) ∧
    (s.respond r ⟨(), []⟩).2.sent.getLast? = some .commit ∧
    (s.respond r ⟨(), []⟩).1 = none ∧
    Describes 18446744073709551615 1 none "18446744073709551615-18446744073709551615/*" := by
  intro s r
  have silent : (s.respond r ⟨(), []⟩).1.isNone = true := by decide +kernel
  have describes : Describes 18446744073709551615 1 none
      (toString 18446744073709551615 ++ "-" ++ toString 18446744073709551615 ++ "/" ++ shownTotal none) :=
    .rows (Nat.le_refl 1) rfl (by decide)
  exact ⟨by decide +kernel, by decide +kernel, Option.isNone_iff_eq_none.1 silent, describes⟩

end Service

end Gateway.Http
