import Gateway.Proofs.Database.Transaction

/-!
# What a read gets from the database

A read asks for the rows of one statement, and for one count when all rows are to be counted. Before that
there are only the settings of the caller and perhaps a look at the columns of the table, neither of which
yields a row. So the rows of what is committed are those of the one answer, in its order, and its total is
the number that the count was answered with (`Transaction.readOf`).
-/

namespace Gateway.Database

open Gateway.Auth (Identity)
open Gateway.Sql (Query Statement Template)

/-! ## §1 — answers -/

namespace Exchange

/-- Rows that do not fail to come back are an array. -/
theorem eq_of_rows {e : Exchange} {wrapped : Template} (asked : e.asked = ⟨_, .rows wrapped⟩)
    (success : e.failure? = none) : ∃ rows, e = ⟨.rows wrapped, .ok (.arr rows)⟩ := by
  obtain ⟨command, answer⟩ := e
  cases asked
  rcases answer with f | value
  · cases success
  · cases value with
    | arr rows => exact ⟨rows, rfl⟩
    | _ => cases success

/-- A count that does not fail is a natural number. -/
theorem eq_of_count {e : Exchange} {s : Statement} (asked : e.asked = ⟨_, .count s⟩)
    (success : e.failure? = none) : ∃ n : Nat, e = ⟨.count s, .ok (n : Int)⟩ := by
  obtain ⟨command, answer⟩ := e
  cases asked
  rcases answer with f | n
  · cases success
  · by_cases negative : n < 0
    · simp [Command.flaw?, negative] at success
    · rw [← Int.toNat_of_nonneg (Int.not_lt.1 negative)]
      exact ⟨n.toNat, rfl⟩

theorem rows_of_count {e : Exchange} {s : Statement} (asked : e.asked = ⟨_, .count s⟩) :
    e.rows = [] := by
  obtain ⟨command, answer⟩ := e
  cases asked
  rfl

/-- Neither rows nor a count are asked for. -/
def isBare (e : Exchange) : Bool :=
  match e.asked with
  | ⟨_, .rows _⟩ | ⟨_, .count _⟩ => false
  | _ => true

theorem of_isBare {e : Exchange} (h : e.isBare = true) : e.rows = [] ∧ e.counted? = none := by
  obtain ⟨command, answer⟩ := e
  cases command with
  | rows wrapped | count s => cases h
  | _ => exact ⟨rfl, rfl⟩

end Exchange

/-! ## §2 — a read -/

/-- **What a read gets**: the rows that its statement is answered with, and the number of all rows when
that is wanted. -/
structure ReadOf (c : Config) (q : Query) (counted : Bool) (es : List Exchange) (outcome : Outcome) :
    Prop where
  /-- The statement of the page is answered with the rows. -/
  page : ∃ known wrapped,
    ((q.withMaxRows c.maxRows).selectStatement ⟨c.relationships, known⟩).jsonRows = some wrapped ∧
      (⟨.rows wrapped, .ok (.arr outcome.rows)⟩ : Exchange) ∈ es
  /-- No other rows come back. -/
  rows : es.flatMap Exchange.rows = outcome.rows
  total : counted = true → ∃ n : Nat, outcome.total = some n ∧
    (⟨.count (q.withMaxRows c.maxRows).countStatement, .ok (n : Int)⟩ : Exchange) ∈ es
  uncounted : counted = false → outcome.total = none

/-- The exchanges of a page: what comes before it, the page, and the count. -/
theorem exists_of_script {c : Config} {i : Identity} {q : Query} {counted : Bool} {es : List Exchange}
    (asked : es.map Exchange.asked = innerScript c i (.read q counted) es) :
    ∃ setting known wrapped page counting, es = setting ++ page :: counting ∧
      (∀ e ∈ setting, e.isBare = true) ∧
      ((q.withMaxRows c.maxRows).selectStatement ⟨c.relationships, known⟩).jsonRows = some wrapped ∧
      page.asked = ⟨_, .rows wrapped⟩ ∧
      counting.map Exchange.asked =
        if counted then [⟨_, .count (q.withMaxRows c.maxRows).countStatement⟩] else [] := by
  simp only [innerScript, Operation.script, ← List.cons_append] at asked
  obtain ⟨front, counting, same, front_asked, count_asked⟩ := List.map_eq_append_iff.1 asked
  obtain ⟨setting, paging, rfl, setting_asked, page_asked⟩ := List.map_eq_append_iff.1 front_asked
  obtain ⟨page, rfl, command⟩ := List.map_eq_singleton_iff.1 page_asked
  refine ⟨setting, _, _, page, counting, by rw [same, List.append_assoc]; rfl, ?_, rfl, command,
    count_asked⟩
  intro e mem
  have known := setting_asked ▸ List.mem_map_of_mem (f := Exchange.asked) mem
  have settled : e.asked = ⟨_, .project (callerSettings c i)⟩ ∨
      e.asked = ⟨_, .columns (q.withMaxRows c.maxRows).table⟩ := by
    rcases List.mem_cons.1 known with same | mem
    · exact .inl same
    · split at mem
      · cases mem
      · exact .inr (List.mem_singleton.1 mem)
  rcases settled with same | same <;> rw [Exchange.isBare, same]

/-- **What is committed of a read is what the database answered.** -/
theorem Transaction.readOf {c : Config} {i : Identity} {q : Query} {counted : Bool}
    {taken : Except Failure Unit} {es : List Exchange} {outcome : Outcome}
    (way : Transaction c i (.read q counted) taken es (.committed outcome)) :
    ReadOf c q counted es outcome := by
  cases way with
  | @committed es performed clean =>
    have success : ∀ e ∈ es, e.failure? = none := List.findSome?_eq_none_iff.1 clean
    obtain ⟨setting, known, wrapped, page, counting, rfl, bare, json, fetched, counts⟩ :=
      exists_of_script (performed.complete clean)
    obtain ⟨rows, rfl⟩ := Exchange.eq_of_rows fetched (success page (by simp))
    have noCount : setting.findSome? Exchange.counted? = none :=
      List.findSome?_eq_none_iff.2 fun e mem => (Exchange.of_isBare (bare e mem)).2
    have gathered : (setting ++ ⟨.rows wrapped, .ok (.arr rows)⟩ :: counting).flatMap Exchange.rows =
        rows := by
      have before : setting.flatMap Exchange.rows = [] :=
        List.flatMap_eq_nil_iff.2 fun e mem => (Exchange.of_isBare (bare e mem)).1
      have behind : counting.flatMap Exchange.rows = [] := by
        refine List.flatMap_eq_nil_iff.2 fun e mem => ?_
        have asked := counts ▸ List.mem_map_of_mem (f := Exchange.asked) mem
        split at asked
        · exact Exchange.rows_of_count (List.mem_singleton.1 asked)
        · cases asked
      rw [List.flatMap_append, List.flatMap_cons, before, behind, List.append_nil]
      rfl
    refine ⟨⟨known, wrapped, json, ?_⟩, ?_, ?_, ?_⟩
    · simp [Operation.outcomeOf, gathered]
    · rw [List.flatMap_append]
      exact List.append_nil _
    · rintro rfl
      obtain ⟨count, rfl, asked⟩ := List.map_eq_singleton_iff.1 counts
      obtain ⟨n, rfl⟩ := Exchange.eq_of_count asked (success count (by simp))
      refine ⟨n, ?_, by simp⟩
      simp only [Operation.outcomeOf, List.findSome?_append, noCount]
      rfl
    · rintro rfl
      obtain rfl := List.map_eq_nil_iff.1 counts
      simp only [Operation.outcomeOf, List.findSome?_append, noCount]
      rfl

/-! ## §3 — transactions without a failure -/

/-- What passes over a connection is answered by the database. -/
theorem Conversation.answer_eq {σ : Type} {db : Backend σ} {w v : Wire σ} {es : List Exchange}
    (talk : Conversation db w es v) {e : Exchange} (mem : e ∈ es) :
    ∃ state, e.answer = (db.answer e.command state).1 := by
  induction talk with
  | nil w => cases mem
  | cons c rest ih =>
    rcases List.mem_cons.1 mem with rfl | mem
    · exact ⟨_, rfl⟩
    · exact ih mem

/-- **A transaction in which nothing fails is committed.** -/
theorem Transaction.committed_of_clean {c : Config} {i : Identity} {op : Operation}
    {es : List Exchange} {ending : Ending} (way : Transaction c i op (.ok ()) es ending)
    (clean : ∀ e ∈ es, e.failure? = none) : ∃ outcome, ending = .committed outcome := by
  cases way with
  | committed performed clean => exact ⟨_, rfl⟩
  | notBegun f => cases clean _ (List.mem_singleton_self _)
  | notCommitted performed inner f => cases clean ⟨.commit, .error f⟩ (by simp)
  | @rolledBack es performed f failed answer =>
    obtain ⟨e, mem, failure⟩ := List.exists_of_findSome?_eq_some failed
    have success := clean e (by simp [mem])
    rw [failure] at success
    cases success

/-- A database that answers every read with the same rows, and every count with the same number. -/
def Backend.ofRows (rows : List Json) (total : Nat) : Backend Unit where
  acquire u := (.ok (), u)
  answer c u :=
    match c with
    | .start _ | .project _ | .commit | .rollback => (.ok (), u)
    | .columns _ => (.ok [], u)
    | .count _ => (.ok total, u)
    | .rows _ => (.ok (.arr rows), u)
    | .execute _ => (.ok 0, u)

/-- Such a database fails nowhere. -/
theorem Conversation.failure?_ofRows {rows : List Json} {total : Nat} {w v : Wire Unit}
    {es : List Exchange} (talk : Conversation (.ofRows rows total) w es v) {e : Exchange}
    (mem : e ∈ es) : e.failure? = none := by
  obtain ⟨u, same⟩ := talk.answer_eq mem
  obtain ⟨command, answer⟩ := e
  obtain rfl : answer = ((Backend.ofRows rows total).answer command u).1 := same
  cases command with
  | count s =>
    have whole : ¬ (total : Int) < 0 := Int.not_lt.2 (Int.natCast_nonneg total)
    simp [Backend.ofRows, Command.flaw?, whole]
  | _ => rfl

end Gateway.Database
