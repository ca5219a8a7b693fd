import Gateway.Proofs.Database.Transaction
import Gateway.Proofs.Except
import Gateway.Proofs.Http.Plan
import Gateway.Proofs.Http.Preference

/-!
# The operation that a request asks for

What reaches the database is one operation, and it is the one that the method, the path, the parameters and
the body of the request ask for: a page or a count of a table, the statements of a write, or the call of a
function, each compiled from the request alone (`Service.Asks`). `asks_of_plan` says that no other operation
is ever carried out, and `Asks.returns` that the statements of a write give their rows back to a client that
asks for rows, and to no other.
-/

namespace Gateway.Http

open Gateway.Database (GivesRows Operation commandOf)
open Gateway.Sql (Identifier Query Statement StatementKind Template)

variable {σ : Type}

/-! ## §1 — what is asked for -/

namespace Request

/-- How an insert resolves conflicts. -/
def upsert? (r : Request) (q : Query) : Option Sql.Upsert :=
  r.preferences.resolution.map fun resolution => ⟨resolution, q.onConflict⟩

/-- **The arguments that a body gives**: none if it is blank or `null`, else the members of its object. -/
inductive Gives (body : List UInt8) : List (String × Json) → Prop
  | blank (blank : ∀ b ∈ body, b ∈ ([0x20, 0x09, 0x0A, 0x0C, 0x0D] : List UInt8)) : Gives body []
  | null (read : Json.readBytes? body = some .null) : Gives body []
  | object {arguments : List (String × Json)} (read : Json.readBytes? body = some (.obj arguments)) :
    Gives body arguments

end Request

namespace Service

/-- The path of the request is that of a route and has one name in it. -/
def Names (s : Service σ) (r : Request) (route : Route) (name : String) : Prop :=
  ∃ p, Route.ofPath? s.config.restPrefix r.uri.path = some (route, [p]) ∧ p.value? = some name

/-- **The operation that a request asks for.** -/
inductive Asks (s : Service σ) (r : Request) : Operation → Prop
  | read {table : String} {q : Query} {counted : Bool} (get : r.method = .get)
      (names : s.Names r .table table) (accepted : Query.read table (parameters r) = .ok q)
      (total : counted = true ↔ AsksTotal r.headers) : Asks s r (.read q counted)
  | count {table : String} {q : Query} (head : r.method = .head) (names : s.Names r .table table)
      (accepted : Query.read table (parameters r) = .ok q) : Asks s r (.count q)
  | insert {table : String} {q : Query} {body : Json} {returning : Bool} {statements : List Statement}
      (post : r.method = .post) (names : s.Names r .table table)
      (accepted : Query.read table (parameters r) = .ok q) (holds : Json.readBytes? r.body = some body)
      (rows : returning = true ↔ AsksRows r.headers)
      (compiled : Sql.insert q.table body returning (r.upsert? q) q.columns = .ok statements) :
    Asks s r (.write statements)
  | update {table : String} {q : Query} {body : Json} {returning : Bool} {statement : Statement}
      (patch : r.method = .patch) (names : s.Names r .table table)
      (accepted : Query.read table (parameters r) = .ok q) (holds : Json.readBytes? r.body = some body)
      (rows : returning = true ↔ AsksRows r.headers)
      (compiled : Sql.update q.table body q.filters returning = .ok statement) :
    Asks s r (.write [statement])
  | delete {table : String} {q : Query} {returning : Bool} {statement : Statement}
      (delete : r.method = .delete) (names : s.Names r .table table)
      (accepted : Query.read table (parameters r) = .ok q)
      (rows : returning = true ↔ AsksRows r.headers)
      (compiled : Sql.delete q.table q.filters returning = .ok statement) :
    Asks s r (.write [statement])
  /-- A call that only reads has the parameters as its arguments, each as a text. -/
  | query {function : String} {call : Statement} (reads : r.method = .get ∨ r.method = .head)
      (names : s.Names r .function function)
      (compiled : Sql.call function
        (Json.sortMembers ((parameters r).map fun (key, value) => (key, .str value))) = .ok call) :
    Asks s r (.call call true)
  | call {function : String} {arguments : List (String × Json)} {call : Statement}
      (post : r.method = .post) (names : s.Names r .function function)
      (gives : Request.Gives r.body arguments) (compiled : Sql.call function arguments = .ok call) :
    Asks s r (.call call false)

/-! ## §2 — plans -/

theorem compiled_eq_ok_iff {α : Type} {x : Except Sql.Rejection α} {a : α} :
    compiled x = .ok a ↔ x = .ok a :=
  mapError_eq_ok_iff

theorem parsed_eq_ok_iff {body : List UInt8} {value : Json} :
    parsed body = .ok value ↔ Json.readBytes? body = some value := by
  unfold parsed
  cases Json.readBytes? body <;> simp

theorem operation?_ofExcept {x : Except Failure Plan} {op : Operation}
    (h : (Plan.ofExcept x).operation? = some op) : ∃ plan, x = .ok plan ∧ plan.operation? = some op := by
  cases x with
  | ok plan => exact ⟨plan, rfl, h⟩
  | error f => cases h

/-- A plan on a name comes to an operation only if the path has one name in it. -/
theorem operation?_namedPlan {parameters : List Parameter} {plan : String → Except Failure Plan}
    {op : Operation} (h : (Request.namedPlan parameters plan).operation? = some op) :
    ∃ p name whole, parameters = [p] ∧ p.value? = some name ∧ plan name = .ok whole ∧
      whole.operation? = some op := by
  unfold Request.namedPlan at h
  split at h
  next => cases h
  next name texts names =>
    obtain ⟨whole, compiles, goes⟩ := operation?_ofExcept h
    have valued : ∀ p ∈ parameters, p.value? ≠ none := by simpa using texts
    cases parameters with
    | nil => cases names
    | cons p rest =>
      obtain ⟨value, here⟩ := Option.ne_none_iff_exists'.1 (valued p List.mem_cons_self)
      rw [List.filterMap_cons_some here] at names
      obtain ⟨rfl, none⟩ := List.cons.inj names
      have alone : rest = [] := by
        refine List.eq_nil_iff_forall_not_mem.2 fun q mem => ?_
        exact valued q (List.mem_cons_of_mem p mem) (List.filterMap_eq_nil_iff.1 none q mem)
      exact ⟨p, value, whole, by rw [alone], here, compiles, goes⟩
  next => cases h

theorem gives_of_arguments {body : List UInt8} {arguments : List (String × Json)}
    (read : Request.arguments body = .ok arguments) : Request.Gives body arguments := by
  unfold Request.arguments at read
  split at read
  next blank =>
    obtain rfl := Except.ok.inj read
    refine .blank fun b mem => ?_
    simpa [isBlankByte, or_assoc] using List.all_eq_true.1 blank b mem
  next =>
    obtain ⟨value, found, read⟩ := bind_eq_ok_iff.1 read
    have holds := parsed_eq_ok_iff.1 found
    split at read
    next =>
      obtain rfl := Except.ok.inj read
      exact .object holds
    next =>
      obtain rfl := Except.ok.inj read
      exact .null holds
    next => cases read

/-! ## §3 — each handler -/

variable {s : Service σ} {r : Request} {plan : Plan} {op : Operation} {name : String}

theorem asks_of_readPlan (get : r.method = .get) (names : s.Names r .table name)
    (compiles : r.readPlan name = .ok plan) (goes : plan.operation? = some op) : s.Asks r op := by
  obtain ⟨q, accepted, same⟩ := bind_eq_ok_iff.1 compiles
  obtain rfl := Except.ok.inj same
  obtain rfl := Option.some.inj goes
  exact .read get names (compiled_eq_ok_iff.1 accepted) (Preferences.count_ofHeaders_iff r.headers)

theorem asks_of_countPlan (head : r.method = .head) (names : s.Names r .table name)
    (compiles : r.countPlan name = .ok plan) (goes : plan.operation? = some op) : s.Asks r op := by
  obtain ⟨q, accepted, same⟩ := bind_eq_ok_iff.1 compiles
  obtain rfl := Except.ok.inj same
  obtain rfl := Option.some.inj goes
  exact .count head names (compiled_eq_ok_iff.1 accepted)

theorem asks_of_createPlan (post : r.method = .post) (names : s.Names r .table name)
    (compiles : r.createPlan name = .ok plan) (goes : plan.operation? = some op) : s.Asks r op := by
  obtain ⟨q, accepted, compiles⟩ := bind_eq_ok_iff.1 compiles
  obtain ⟨body, holds, compiles⟩ := bind_eq_ok_iff.1 compiles
  obtain ⟨statements, inserts, same⟩ := bind_eq_ok_iff.1 compiles
  obtain rfl := Except.ok.inj same
  obtain rfl := Option.some.inj goes
  exact .insert post names (compiled_eq_ok_iff.1 accepted) (parsed_eq_ok_iff.1 holds)
    (Preferences.wantsRows_ofHeaders_iff r.headers) (compiled_eq_ok_iff.1 inserts)

theorem asks_of_modifyPlan (patch : r.method = .patch) (names : s.Names r .table name)
    (compiles : r.modifyPlan name = .ok plan) (goes : plan.operation? = some op) : s.Asks r op := by
  obtain ⟨q, accepted, compiles⟩ := bind_eq_ok_iff.1 compiles
  obtain ⟨body, holds, compiles⟩ := bind_eq_ok_iff.1 compiles
  obtain ⟨statement, updates, same⟩ := bind_eq_ok_iff.1 compiles
  obtain rfl := Except.ok.inj same
  obtain rfl := Option.some.inj goes
  exact .update patch names (compiled_eq_ok_iff.1 accepted) (parsed_eq_ok_iff.1 holds)
    (Preferences.wantsRows_ofHeaders_iff r.headers) (compiled_eq_ok_iff.1 updates)

theorem asks_of_removePlan (delete : r.method = .delete) (names : s.Names r .table name)
    (compiles : r.removePlan name = .ok plan) (goes : plan.operation? = some op) : s.Asks r op := by
  obtain ⟨q, accepted, compiles⟩ := bind_eq_ok_iff.1 compiles
  obtain ⟨statement, deletes, same⟩ := bind_eq_ok_iff.1 compiles
  obtain rfl := Except.ok.inj same
  obtain rfl := Option.some.inj goes
  exact .delete delete names (compiled_eq_ok_iff.1 accepted)
    (Preferences.wantsRows_ofHeaders_iff r.headers) (compiled_eq_ok_iff.1 deletes)

theorem asks_of_callWithParametersPlan (reads : r.method = .get ∨ r.method = .head)
    (names : s.Names r .function name) (compiles : r.callWithParametersPlan name = .ok plan)
    (goes : plan.operation? = some op) : s.Asks r op := by
  obtain ⟨call, calls, same⟩ := bind_eq_ok_iff.1 compiles
  obtain rfl := Except.ok.inj same
  obtain rfl := Option.some.inj goes
  exact .query reads names (compiled_eq_ok_iff.1 calls)

theorem asks_of_callWithBodyPlan (post : r.method = .post) (names : s.Names r .function name)
    (compiles : r.callWithBodyPlan name = .ok plan) (goes : plan.operation? = some op) :
    s.Asks r op := by
  obtain ⟨arguments, given, compiles⟩ := bind_eq_ok_iff.1 compiles
  obtain ⟨call, calls, same⟩ := bind_eq_ok_iff.1 compiles
  obtain rfl := Except.ok.inj same
  obtain rfl := Option.some.inj goes
  exact .call post names (gives_of_arguments given) (compiled_eq_ok_iff.1 calls)

/-- **No operation is carried out but the one that is asked for.** -/
theorem asks_of_plan (h : (s.plan r).operation? = some op) : s.Asks r op := by
  unfold Service.plan at h
  cases found : Route.ofPath? s.config.restPrefix r.uri.path with
  | none =>
    rw [found] at h
    simp only at h
    split at h <;> cases h
  | some place =>
    obtain ⟨route, parameters⟩ := place
    rw [found] at h
    unfold Request.routePlan at h
    simp only at h
    -- A handler is reached by its method alone, and works on the one name in the path.
    have named {plan : String → Except Failure Plan}
        (goes : (Request.namedPlan parameters plan).operation? = some op) :
        ∃ name whole, s.Names r route name ∧ plan name = .ok whole ∧ whole.operation? = some op := by
      obtain ⟨p, name, whole, rfl, value, compiles, goes⟩ := operation?_namedPlan goes
      exact ⟨name, whole, ⟨p, found, value⟩, compiles, goes⟩
    cases method : r.method with
    | options | other => cases route <;> simp only [method] at h <;> cases h
    | get =>
      cases route <;> simp only [method] at h
      case health => cases h
      case table =>
        obtain ⟨name, whole, names, compiles, goes⟩ := named h
        exact asks_of_readPlan method names compiles goes
      case function =>
        obtain ⟨name, whole, names, compiles, goes⟩ := named h
        exact asks_of_callWithParametersPlan (.inl method) names compiles goes
    | head =>
      cases route <;> simp only [method] at h
      case health => cases h
      case table =>
        obtain ⟨name, whole, names, compiles, goes⟩ := named h
        exact asks_of_countPlan method names compiles goes
      case function =>
        obtain ⟨name, whole, names, compiles, goes⟩ := named h
        exact asks_of_callWithParametersPlan (.inr method) names compiles goes
    | post =>
      cases route <;> simp only [method] at h
      case health => cases h
      case table =>
        obtain ⟨name, whole, names, compiles, goes⟩ := named h
        exact asks_of_createPlan method names compiles goes
      case function =>
        obtain ⟨name, whole, names, compiles, goes⟩ := named h
        exact asks_of_callWithBodyPlan method names compiles goes
    | patch =>
      cases route <;> simp only [method] at h
      case health | function => cases h
      case table =>
        obtain ⟨name, whole, names, compiles, goes⟩ := named h
        exact asks_of_modifyPlan method names compiles goes
    | delete =>
      cases route <;> simp only [method] at h
      case health | function => cases h
      case table =>
        obtain ⟨name, whole, names, compiles, goes⟩ := named h
        exact asks_of_removePlan method names compiles goes

/-! ## §4 — the rows of a write -/

/-- The statement writes, and is to return its rows or not. -/
def Writes (returning : Bool) (t : Statement) : Prop :=
  ∃ kind : StatementKind, ∃ template : Template,
    (kind = .insert ∨ kind = .update ∨ kind = .delete) ∧ t = .writing kind template returning

theorem writes_of_insert {table : Identifier} {body : Json} {returning : Bool} {upsert : Option Sql.Upsert}
    {allowed : Option (List Identifier)} {statements : List Statement}
    (compiled : Sql.insert table body returning upsert allowed = .ok statements) :
    ∀ t ∈ statements, Writes returning t := by
  intro t mem
  obtain ⟨rows, -, whole⟩ := bind_eq_ok_iff.1 compiled
  obtain ⟨row, -, compiles⟩ := exists_of_mem_mapM whole mem
  obtain ⟨assignments, -, rfl⟩ := map_eq_ok_iff.1 compiles
  exact ⟨.insert, _, .inl rfl, rfl⟩

theorem writes_of_update {table : Identifier} {body : Json} {filters : List Sql.Filter} {returning : Bool}
    {t : Statement} (compiled : Sql.update table body filters returning = .ok t) : Writes returning t := by
  unfold Sql.update at compiled
  split at compiled
  · cases compiled
  · obtain ⟨assignments, -, same⟩ := bind_eq_ok_iff.1 compiled
    exact ⟨.update, _, .inr (.inl rfl), (Except.ok.inj same).symm⟩
  · cases compiled

theorem writes_of_delete {table : Identifier} {filters : List Sql.Filter} {returning : Bool} {t : Statement}
    (compiled : Sql.delete table filters returning = .ok t) : Writes returning t := by
  unfold Sql.delete at compiled
  split at compiled
  · cases compiled
  · exact ⟨.delete, _, .inr (.inr rfl), (Except.ok.inj compiled).symm⟩

/-- **What becomes of the rows that a statement writes**: a client that asks for them is given them, and for
any other the statement is run without them. -/
structure Returns (hs : Headers) (t : Statement) : Prop where
  rows : AsksRows hs → GivesRows t
  silent : ¬ AsksRows hs → commandOf t = ⟨_, .execute t⟩

theorem Writes.returns {hs : Headers} {returning : Bool} {t : Statement} (writes : Writes returning t)
    (wanted : returning = true ↔ AsksRows hs) : Returns hs t := by
  obtain ⟨kind, template, writes, rfl⟩ := writes
  constructor
  · intro asks
    obtain rfl := wanted.2 asks
    exact Database.givesRows_writing writes template
  · intro asks
    obtain rfl := Bool.eq_false_iff.2 (mt wanted.1 asks)
    exact Database.commandOf_writing writes template

/-- **A write returns its rows to the client that asks for them.** -/
theorem Asks.returns {statements : List Statement} (asked : s.Asks r (.write statements)) :
    ∀ t ∈ statements, Returns r.headers t := by
  cases asked with
  | insert post names accepted holds rows compiled =>
    exact fun t mem => (writes_of_insert compiled t mem).returns rows
  | update patch names accepted holds rows compiled =>
    intro t mem
    obtain rfl := List.mem_singleton.1 mem
    exact (writes_of_update compiled).returns rows
  | delete delete names accepted rows compiled =>
    intro t mem
    obtain rfl := List.mem_singleton.1 mem
    exact (writes_of_delete compiled).returns rows

end Service

end Gateway.Http
