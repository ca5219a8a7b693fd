import Gateway.Database.Executor
import Gateway.Proofs.Except

/-!
# What passes between a session and the database

A session is known by its exchanges: the commands that it sends and what they are answered with. An
exchange fails when the database reports a fault, and also when the answer has not the shape that the
gateway needs; `failure?` says which. A script is a list of commands, and `Performed` says that exchanges
are a script up to its first failure, with nothing behind it.

`Session.Performs` ties a session to a script, for every database and every state of it. A session that
sends one command is tied by `IsExchange`, and `Performs.bind` puts one behind the other.
-/

namespace Gateway.Database

open Gateway.Sql (Statement Template)

/-! ## §1 — exchanges -/

/-- A command, of whatever type its answer is. -/
abbrev AnyCommand := Σ α : Type, Command α

/-- A command and what it is answered with. -/
structure Exchange where
  {α : Type}
  command : Command α
  answer : Except Fault α

/-- The exchange that a command begins and an answer ends. -/
def AnyCommand.answered (q : AnyCommand) (answer : Except Fault q.1) : Exchange :=
  ⟨q.2, answer⟩

/-- The command that fetches the rows of a statement, or runs one that has none. -/
def commandOf (s : Statement) : AnyCommand :=
  match s.jsonRows with
  | some wrapped => ⟨_, .rows wrapped⟩
  | none => ⟨_, .execute s⟩

/-- What is wrong with an answer to a command. -/
def Command.flaw? {α : Type} : Command α → α → Option ShapeFlaw
  | .rows _, .arr _ => none
  | .rows _, value => some (.notArray value)
  | .count _, n => if n < 0 then some (.negativeCount n) else none
  | _, _ => none

namespace Exchange

/-- The command of an exchange. -/
def asked (e : Exchange) : AnyCommand :=
  ⟨e.α, e.command⟩

/-- **What an exchange lets reach the connection**: statements with their text and the values of their
placeholders, and the beginning and the end of the transaction as what they are. -/
def sent : Exchange → Sent
  | ⟨.start readOnly, _⟩ => .start readOnly
  | ⟨.project settings, _⟩ =>
    .statement (projectionSql settings) (settings.map fun s => some s.value)
  | ⟨.columns table, _⟩ =>
    .statement ("SELECT column_name::text FROM information_schema.columns "
      ++ "WHERE table_name = $1 AND table_schema = ANY (current_schemas(false))") [some table.text]
  | ⟨.rows wrapped, _⟩ => .statement (Template.sql wrapped) wrapped.params
  | ⟨.count s, _⟩ | ⟨.execute s, _⟩ => .statement s.sql s.params
  | ⟨.commit, _⟩ => .commit
  | ⟨.rollback, _⟩ => .rollback

/-- **How an exchange fails**, if it does. -/
def failure? (e : Exchange) : Option Failure :=
  match e.answer with
  | .error f => some (.fault f)
  | .ok a => (e.command.flaw? a).map .shape

/-- The rows that come back. -/
def rows : Exchange → List Json
  | ⟨.rows _, .ok (.arr rows)⟩ => rows
  | _ => []

/-- The number of rows that come back or are written. -/
def touched : Exchange → Nat
  | ⟨.rows _, .ok (.arr rows)⟩ => rows.length
  | ⟨.execute _, .ok n⟩ => n
  | _ => 0

/-- The number that a count comes to. -/
def counted? : Exchange → Option Nat
  | ⟨.count _, .ok n⟩ => some n.toNat
  | _ => none

/-- The names of columns that are looked up. -/
def columns? : Exchange → Option (List String)
  | ⟨.columns _, .ok names⟩ => some names
  | _ => none

@[simp] theorem failure?_error {α : Type} (c : Command α) (f : Fault) :
    failure? ⟨c, .error f⟩ = some (.fault f) := rfl

@[simp] theorem failure?_ok {α : Type} (c : Command α) (a : α) :
    failure? ⟨c, .ok a⟩ = (c.flaw? a).map .shape := rfl

/-- An exchange sends what its command sends, however it is answered. -/
theorem sent_eq {α : Type} (c : Command α) (a : Except Fault α) : sent ⟨c, a⟩ = c.sent := by
  cases c <;> rfl

/-- What does not fail is answered. -/
theorem exists_ok_of_failure?_eq_none {q : AnyCommand} {a : Except Fault q.1}
    (h : (q.answered a).failure? = none) : ∃ v, a = .ok v := by
  cases a with
  | error f => simp [AnyCommand.answered] at h
  | ok v => exact ⟨v, rfl⟩

end Exchange

/-- The first failure among exchanges. -/
def firstFailure (es : List Exchange) : Option Failure :=
  es.findSome? Exchange.failure?

/-- What a session with these exchanges ends with: their first failure, or else a result. -/
def concluded {α : Type} (es : List Exchange) (result : α) : Except Failure α :=
  match firstFailure es with
  | some f => .error f
  | none => .ok result

theorem firstFailure_cons_of_none {e : Exchange} (h : e.failure? = none) (es : List Exchange) :
    firstFailure (e :: es) = firstFailure es := by
  simp [firstFailure, h]

theorem concluded_cons_of_none {α : Type} {e : Exchange} (h : e.failure? = none)
    (es : List Exchange) (result : α) : concluded (e :: es) result = concluded es result := by
  rw [concluded, firstFailure_cons_of_none h, concluded]

theorem concluded_single {α : Type} {e : Exchange} {f : Failure} (h : e.failure? = some f)
    (result : α) : concluded [e] result = .error f := by
  simp [concluded, firstFailure, h]

/-! ## §2 — scripts -/

/-- **Exchanges are a script up to its first failure**: the commands of the script in order, and none
behind one that fails. -/
inductive Performed : List AnyCommand → List Exchange → Prop
  | nil : Performed [] []
  /-- What is left of the script is not performed. -/
  | failed {e : Exchange} {f : Failure} (left : List AnyCommand) (failure : e.failure? = some f) :
      Performed (e.asked :: left) [e]
  | next {e : Exchange} {left : List AnyCommand} {es : List Exchange} (success : e.failure? = none)
      (rest : Performed left es) : Performed (e.asked :: left) (e :: es)

namespace Performed

/-- The commands are those of the script, from its beginning and in its order. -/
theorem isPrefix {script : List AnyCommand} {es : List Exchange} (h : Performed script es) :
    es.map Exchange.asked <+: script := by
  induction h with
  | nil => exact List.nil_prefix
  | @failed e f left failure => exact ⟨left, rfl⟩
  | next success rest ih => exact (List.prefix_cons_inj _).2 ih

/-- A script without a failure is performed to its end. -/
theorem complete {script : List AnyCommand} {es : List Exchange} (h : Performed script es)
    (clean : firstFailure es = none) : es.map Exchange.asked = script := by
  induction h with
  | nil => rfl
  | failed left failure => simp [firstFailure, failure] at clean
  | next success rest ih =>
    rw [firstFailure_cons_of_none success] at clean
    rw [List.map_cons, ih clean]

/-- How a script with a first command is performed. -/
theorem of_cons {q : AnyCommand} {left : List AnyCommand} {es : List Exchange}
    (h : Performed (q :: left) es) :
    ∃ e rest, es = e :: rest ∧ e.asked = q ∧
      (rest = [] ∧ e.failure?.isSome = true ∨ e.failure? = none ∧ Performed left rest) := by
  generalize whole : q :: left = script at h
  cases h with
  | nil => cases whole
  | @failed e f left' failure =>
    obtain ⟨rfl, rfl⟩ := List.cons.inj whole
    exact ⟨e, [], rfl, rfl, .inl ⟨rfl, by rw [failure]; rfl⟩⟩
  | @next e left' rest success later =>
    obtain ⟨rfl, rfl⟩ := List.cons.inj whole
    exact ⟨e, rest, rfl, rfl, .inr ⟨success, later⟩⟩

/-- Only the last exchange can fail. -/
theorem failure?_of_mem_dropLast {script : List AnyCommand} {es : List Exchange}
    (h : Performed script es) {e : Exchange} (mem : e ∈ es.dropLast) : e.failure? = none := by
  induction h with
  | nil => simp at mem
  | failed left failure => simp at mem
  | @next first left es success rest ih =>
    cases es with
    | nil => simp at mem
    | cons second es =>
      rw [List.dropLast_cons_cons] at mem
      rcases List.mem_cons.1 mem with rfl | mem
      · exact success
      · exact ih mem

end Performed

/-! ## §3 — conversations -/

section
variable {σ : Type}

/-- The state of a database and its connection after a command. -/
def Backend.after (db : Backend σ) {α : Type} (c : Command α) (w : Wire σ) : Wire σ :=
  ⟨(db.answer c w.state).2, w.sent ++ [c.sent]⟩

/-- **Exchanges that a database takes part in**, from one state of it to another: each command meets the
state that the ones before it left, and gets the answer that the database gives there. -/
inductive Conversation (db : Backend σ) : Wire σ → List Exchange → Wire σ → Prop
  | nil (w : Wire σ) : Conversation db w [] w
  | cons {α : Type} (c : Command α) {w v : Wire σ} {es : List Exchange}
      (rest : Conversation db (db.after c w) es v) :
      Conversation db w (⟨c, (db.answer c w.state).1⟩ :: es) v

namespace Conversation
variable {db : Backend σ} {w v u : Wire σ} {es ds : List Exchange}

theorem single (db : Backend σ) {α : Type} (c : Command α) (w : Wire σ) :
    Conversation db w [⟨c, (db.answer c w.state).1⟩] (db.after c w) :=
  .cons c (.nil _)

theorem append (h : Conversation db w es v) (k : Conversation db v ds u) :
    Conversation db w (es ++ ds) u := by
  induction h with
  | nil w => exact k
  | cons c rest ih => exact .cons c (ih k)

/-- What reaches the connection is what the exchanges send, in order. -/
theorem sent_eq (h : Conversation db w es v) : v.sent = w.sent ++ es.map Exchange.sent := by
  induction h with
  | nil w => simp
  | @cons α c w v es rest ih =>
    rw [ih, Backend.after, List.map_cons, Exchange.sent_eq, List.append_assoc]
    rfl

end Conversation
end

/-! ## §4 — sessions -/

namespace Session
variable {σ α β : Type} {db : Backend σ}

theorem send_apply (db : Backend σ) (c : Command α) (w : Wire σ) :
    send db c w = ((db.answer c w.state).1.mapError .fault, db.after c w) := rfl

theorem attempt_apply {x : Session σ α} {w v : Wire σ} {result : Except Failure α}
    (h : x w = (result, v)) : attempt x w = (.ok result, v) := by
  show (Except.ok (x w).1, (x w).2) = _
  rw [h]

/-- **A session that is one exchange**, and what it makes of it. -/
def IsExchange (db : Backend σ) (x : Session σ α) (q : AnyCommand) (value : Exchange → α) : Prop :=
  ∀ w, ∃ a v, Conversation db w [q.answered a] v ∧
    x w = (concluded [q.answered a] (value (q.answered a)), v)

/-- **A session that performs a script**, and what it makes of the exchanges. What comes later in the
script may depend on what comes back earlier. -/
def Performs (db : Backend σ) (x : Session σ α) (script : List Exchange → List AnyCommand)
    (value : List Exchange → α) : Prop :=
  ∀ w, ∃ es v, Conversation db w es v ∧ Performed (script es) es ∧
    x w = (concluded es (value es), v)

/-- A session is one exchange when it sends one command and makes a result or a flaw of the answer. -/
theorem isExchange_send_bind {c : Command β} {g : β → Session σ α} {value : Exchange → α}
    (ended : ∀ a w, g a w = (concluded [⟨c, .ok a⟩] (value ⟨c, .ok a⟩), w)) :
    IsExchange db (send db c >>= g) ⟨β, c⟩ value := by
  intro w
  refine ⟨_, _, Conversation.single db c w, ?_⟩
  cases h : (db.answer c w.state).1 with
  | error f =>
    have ran : send db c w = (.error (.fault f), db.after c w) := by
      rw [send_apply, h]
      rfl
    exact bind_of_error ran g
  | ok a =>
    have ran : send db c w = (.ok a, db.after c w) := by
      rw [send_apply, h]
      rfl
    exact (bind_of_ok ran g).trans (ended a _)

theorem isExchange_send {c : Command α} {value : Exchange → α}
    (ended : ∀ a, concluded [⟨c, .ok a⟩] (value ⟨c, .ok a⟩) = .ok a) :
    IsExchange db (send db c) ⟨α, c⟩ value := by
  rw [← bind_pure (send db c)]
  exact isExchange_send_bind fun a w => by rw [ended]; rfl

theorem IsExchange.map {x : Session σ α} {q : AnyCommand} {first : Exchange → α} {f : α → β}
    {value : Exchange → β} (h : IsExchange db x q first)
    (same : ∀ a, f (first (q.answered a)) = value (q.answered a)) :
    IsExchange db (x >>= fun a => pure (f a)) q value := by
  intro w
  obtain ⟨a, v, talk, ran⟩ := h w
  refine ⟨a, v, talk, ?_⟩
  cases failure : firstFailure [q.answered a] with
  | some e =>
    rw [concluded, failure] at ran ⊢
    exact bind_of_error ran _
  | none =>
    rw [concluded, failure] at ran ⊢
    exact (bind_of_ok ran _).trans (by rw [← same]; rfl)

namespace Performs
variable {script : List Exchange → List AnyCommand} {value : List Exchange → α}

theorem pure {a : α} (done : script [] = []) (same : value [] = a) :
    Performs db (Pure.pure a) script value := by
  intro w
  refine ⟨[], w, .nil w, ?_, ?_⟩
  · rw [done]
    exact .nil
  · rw [same]
    rfl

theorem map {x : Session σ α} (h : Performs db x script value) (f : α → β) :
    Performs db (x >>= fun a => Pure.pure (f a)) script fun es => f (value es) := by
  intro w
  obtain ⟨es, v, talk, performed, ran⟩ := h w
  refine ⟨es, v, talk, performed, ?_⟩
  cases failure : firstFailure es with
  | some e =>
    rw [concluded, failure] at ran ⊢
    exact bind_of_error ran _
  | none =>
    rw [concluded, failure] at ran ⊢
    exact bind_of_ok ran _

/-- **One exchange, and a script behind it** that is performed when the exchange does not fail. -/
theorem bind {x : Session σ β} {g : β → Session σ α} {q : AnyCommand} {first : Exchange → β}
    {rest : Except Fault q.1 → List Exchange → List AnyCommand} (hx : IsExchange db x q first)
    (shape : ∀ a es, script (q.answered a :: es) = q :: rest a es)
    (hg : ∀ a, (q.answered a).failure? = none →
      Performs db (g (first (q.answered a))) (rest a) fun es => value (q.answered a :: es)) :
    Performs db (x >>= g) script value := by
  intro w
  obtain ⟨a, v, talk, ran⟩ := hx w
  cases failure : (q.answered a).failure? with
  | some f =>
    refine ⟨[q.answered a], v, talk, ?_, ?_⟩
    · rw [shape]
      exact .failed _ failure
    · rw [concluded_single failure] at ran ⊢
      exact bind_of_error ran _
  | none =>
    obtain ⟨es, u, later, performed, ended⟩ := hg a failure v
    refine ⟨q.answered a :: es, u, talk.append later, ?_, ?_⟩
    · rw [shape]
      exact .next failure performed
    · rw [concluded_cons_of_none failure] at ran ⊢
      exact (bind_of_ok ran _).trans ended

end Performs
end Session

end Gateway.Database
