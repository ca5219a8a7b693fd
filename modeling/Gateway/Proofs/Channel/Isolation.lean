import Gateway.Proofs.Channel.Delivery
import Mathlib.Data.List.Count

/-!
# A reader that is slow or gone affects nobody else

Whether a queue takes a frame depends on its reader. What a step does to the hub, and what it offers to
whom, does not depend on queues at all, so nobody can tell from its own frames how another connection
reads. `isolated_run` sets two runs side by side that differ in the queue of one connection: in its
capacity, in when its reader takes what waits, and in whether its reader goes.

The queue of each connection after a step comes from its own queue before (`get?_step`). Hence two servers
that are alike but for one queue stay so, whatever they both do (`AlikeBut.step`), and also where only one
of them does something to that queue (`AlikeBut.step_reading`).

The connection itself receives what its queue accepts of what it is offered. `Server.attempts` lists each
frame that it is offered with the queue of that moment, so that `received_eq` can say which ones are lost.
-/

namespace Gateway.Channel

open Gateway.Auth (Identity)
open Gateway.Feed (Event)

/-! ## §1 — the capacity of new queues -/

namespace Server

variable {s t u : Server} {c x : ConnectionId} {a : Action}

/-- Delivering frames leaves the capacity of new queues alone. -/
theorem capacity_deliver (s : Server) (offers : List Offer) :
    (s.deliver offers).1.capacity = s.capacity := by
  induction offers generalizing s with
  | nil => rfl
  | cons o rest ih =>
    rw [deliver]
    refine (ih _).trans ?_
    unfold offer
    split <;> rfl

/-- No action changes the capacity of new queues. -/
theorem capacity_step (s : Server) (a : Action) : (s.step a).capacity = s.capacity := by
  cases a with
  | connect | attachFeed | feedChanged | clock => rfl
  | disconnect d => exact capacity_deliver _ _
  | text d text => exact capacity_deliver _ _
  | publish e => exact capacity_deliver _ _
  | frame d frame =>
    show (s.handleFrame d frame).1.capacity = _
    unfold handleFrame
    rcases s.hub.handle d frame with ⟨h, refusal | offers⟩
    · rfl
    · exact capacity_deliver _ _
  | receive d =>
    show (s.receive d).1.capacity = _
    unfold receive
    split <;> rfl
  | drain d =>
    show (s.drain d).1.capacity = _
    unfold drain
    split <;> rfl
  | closeQueue d =>
    show (s.closeQueue d).capacity = _
    unfold closeQueue
    split <;> rfl

/-! ## §2 — servers that are alike but for one queue -/

/-- **Two servers are alike but for the queue of one connection.** -/
structure AlikeBut (x : ConnectionId) (s t : Server) : Prop where
  hub : s.hub = t.hub
  capacity : s.capacity = t.capacity
  queues : ∀ c, c ≠ x → s.queues.get? c = t.queues.get? c

namespace AlikeBut

theorem refl (x : ConnectionId) (s : Server) : AlikeBut x s s := ⟨rfl, rfl, fun _ _ => rfl⟩

theorem symm (alike : AlikeBut x s t) : AlikeBut x t s :=
  ⟨alike.hub.symm, alike.capacity.symm, fun c other => (alike.queues c other).symm⟩

theorem trans (first : AlikeBut x s t) (second : AlikeBut x t u) : AlikeBut x s u where
  hub := first.hub.trans second.hub
  capacity := first.capacity.trans second.capacity
  queues c other := (first.queues c other).trans (second.queues c other)

/-- **What both do keeps them alike.** -/
theorem step (alike : AlikeBut x s t) (a : Action) : AlikeBut x (s.step a) (t.step a) where
  hub := by rw [hub_step, hub_step, alike.hub]
  capacity := by rw [capacity_step, capacity_step, alike.capacity]
  queues c other := by rw [get?_step, get?_step, alike.hub, alike.capacity, alike.queues c other]

/-- **What one of them does to that queue** keeps them alike. -/
theorem step_reading (reads : a.isReading x = true) (s : Server) : AlikeBut x (s.step a) s where
  hub := by rw [hub_step, Hub.act_of_isReading reads]
  capacity := capacity_step s a
  queues c other := by
    rw [get?_step]
    cases a with
    | receive d | drain d | closeQueue d =>
      have elsewhere : d ≠ c := fun same => other (same ▸ of_decide_eq_true reads)
      simp [Hub.opens, Queue.after, elsewhere]
    | _ => cases reads

/-- Others receive the same in a step. -/
theorem receives (alike : AlikeBut x s t) (other : c ≠ x) (a : Action) :
    s.receives c a = t.receives c a := by
  rw [Server.receives, Server.receives, alike.hub, alike.queues c other]

/-- The reader of another connection takes the same in a step. -/
theorem takes (alike : AlikeBut x s t) (other : c ≠ x) (a : Action) : s.takes c a = t.takes c a := by
  cases a with
  | receive d =>
    rw [Server.takes, Server.takes, receive, receive, alike.queues c other]
    cases t.queues.get? c <;> rfl
  | drain d =>
    rw [Server.takes, Server.takes, drain, drain, alike.queues c other]
    cases t.queues.get? c <;> rfl
  | _ => rfl

end AlikeBut

/-! ## §3 — runs that are alike but for one queue -/

/-- The frames that are offered to a connection during a run, in order. -/
def offered (s : Server) (c : ConnectionId) : List Action → List Frame
  | [] => []
  | a :: rest => framesFor c (s.hub.act a).2 ++ (s.step a).offered c rest

/-- **Two runs are alike but for the queue of one connection**: the shared state and all other queues are
the same in the end, everybody is offered the same frames, and all others receive and read the same. -/
structure RunsAlikeBut (x : ConnectionId) (s : Server) (actions : List Action) (t : Server)
    (actions' : List Action) : Prop where
  after : AlikeBut x (s.run actions) (t.run actions')
  offered : ∀ c, s.offered c actions = t.offered c actions'
  received : ∀ c, c ≠ x → s.received c actions = t.received c actions'
  taken : ∀ c, c ≠ x → s.taken c actions = t.taken c actions'

namespace RunsAlikeBut

variable {actions actions' actions'' : List Action}

theorem symm (same : RunsAlikeBut x s actions t actions') : RunsAlikeBut x t actions' s actions :=
  ⟨same.after.symm, fun c => (same.offered c).symm, fun c other => (same.received c other).symm,
    fun c other => (same.taken c other).symm⟩

theorem trans (first : RunsAlikeBut x s actions t actions')
    (second : RunsAlikeBut x t actions' u actions'') : RunsAlikeBut x s actions u actions'' where
  after := first.after.trans second.after
  offered c := (first.offered c).trans (second.offered c)
  received c other := (first.received c other).trans (second.received c other)
  taken c other := (first.taken c other).trans (second.taken c other)

/-- Both do the same first. -/
theorem cons (alike : AlikeBut x s t) (rest : RunsAlikeBut x (s.step a) actions (t.step a) actions') :
    RunsAlikeBut x s (a :: actions) t (a :: actions') where
  after := rest.after
  offered c := by rw [Server.offered, Server.offered, alike.hub, rest.offered c]
  received c other := by
    rw [Server.received, Server.received, alike.receives other, rest.received c other]
  taken c other := by rw [Server.taken, Server.taken, alike.takes other, rest.taken c other]

/-- One of them does something to the queue first. -/
theorem cons_reading (reads : a.isReading x = true)
    (rest : RunsAlikeBut x (s.step a) actions t actions') :
    RunsAlikeBut x s (a :: actions) t actions' where
  after := rest.after
  offered c := by rw [Server.offered, Hub.act_of_isReading reads, ← rest.offered c]; rfl
  received c other := by
    have none : s.receives c a = [] := by
      rw [receives, Hub.act_of_isReading reads]
      cases s.queues.get? c <;> rfl
    rw [Server.received, none, List.nil_append, rest.received c other]
  taken c other := by
    have none : s.takes c a = [] := by
      cases a with
      | receive d | drain d => exact if_neg fun same : d = c => other (same ▸ of_decide_eq_true reads)
      | _ => rfl
    rw [Server.taken, none, List.nil_append, rest.taken c other]

end RunsAlikeBut

/-- A run is alike to the one in which the reader of a connection does nothing. -/
theorem AlikeBut.run_filter (alike : AlikeBut x s t) (actions : List Action) :
    RunsAlikeBut x s actions t (actions.filter fun a => !a.isReading x) := by
  induction actions generalizing s t with
  | nil => exact ⟨alike, fun _ => rfl, fun _ _ => rfl, fun _ _ => rfl⟩
  | cons a rest ih =>
    cases reads : a.isReading x with
    | true =>
      rw [List.filter_cons_of_neg (by simp [reads])]
      exact .cons_reading reads (ih ((step_reading reads s).trans alike))
    | false =>
      rw [List.filter_cons_of_pos (by simp [reads])]
      exact .cons alike (ih (alike.step a))

/-- **Runs of servers that are alike** stay so when they differ in what one reader does. -/
theorem AlikeBut.run (alike : AlikeBut x s t) {actions actions' : List Action}
    (same : actions.filter (fun a => !a.isReading x) = actions'.filter fun a => !a.isReading x) :
    RunsAlikeBut x s actions t actions' := by
  refine (alike.run_filter actions).trans ?_
  rw [same]
  exact ((AlikeBut.refl x t).run_filter actions').symm

end Server

/-! ## §4 — publishing -/

/-- Predicates that agree but on one element count the same of a list, but for that element. -/
theorem countP_le_succ {α : Type} [DecidableEq α] {l : List α} (nodup : l.Nodup) {p q : α → Bool}
    {x : α} (agree : ∀ c, c ≠ x → p c = q c) : l.countP p ≤ l.countP q + 1 := by
  have others : (l.erase x).countP p = (l.erase x).countP q := by
    refine List.countP_congr fun c hc => ?_
    rw [agree c (nodup.mem_erase_iff.1 hc).1]
  have first := List.countP_erase (p := p) l x
  have second := (List.erase_sublist (a := x) (l := l)).countP_le (p := q)
  split at first <;> omega

namespace Server

variable {s t : Server} {x : ConnectionId}

/-- Publishing yields the same number in servers that are alike, but for one. -/
theorem AlikeBut.publish_le (alike : AlikeBut x s t) (e : Event) :
    (s.publish e).2 ≤ (t.publish e).2 + 1 := by
  rw [publish_count, publish_count, alike.hub]
  refine countP_le_succ (x := x) t.hub.connections.nodup fun c other => ?_
  rw [alike.receives other]

end Server

/-! ## §5 — the connection itself -/

namespace Queue

/-- The frames that a queue is offered, each with the queue of that moment. -/
def attempts (q : Queue) : List Frame → List (Queue × Frame)
  | [] => []
  | frame :: rest => (q, frame) :: (q.offer frame).attempts rest

theorem map_attempts (q : Queue) (frames : List Frame) : (q.attempts frames).map (·.2) = frames := by
  induction frames generalizing q with
  | nil => rfl
  | cons frame rest ih => exact congrArg (frame :: ·) (ih _)

/-- A queue takes what it is offered while it is neither full nor closed. -/
theorem taken_eq (q : Queue) (frames : List Frame) :
    q.taken frames = ((q.attempts frames).filter (·.1.takes)).map (·.2) := by
  induction frames generalizing q with
  | nil => rfl
  | cons frame rest ih =>
    rw [taken, attempts, List.filter_cons, ih]
    split <;> rfl

/-- Offering frames to a queue changes nothing in it but what waits. -/
theorem offerAll_eq (q : Queue) (frames : List Frame) :
    q.offerAll frames = { q with waiting := q.waiting ++ q.taken frames } := by
  induction frames generalizing q with
  | nil => simp [offerAll, taken]
  | cons frame rest ih =>
    refine (ih _).trans ?_
    rw [taken, offer]
    split <;> simp

/-- A queue that is closed takes nothing. -/
theorem taken_of_closed {q : Queue} (closed : q.closed = true) (frames : List Frame) :
    q.taken frames = [] := by
  induction frames with
  | nil => rfl
  | cons frame rest ih =>
    have refuses : q.takes = false := by rw [takes, closed]; rfl
    have same : q.offer frame = q := by rw [offer, refuses]; rfl
    rw [taken, refuses, same, ih]
    rfl

theorem hasRoom_iff {q : Queue} {n : Nat} :
    q.hasRoom n = true ↔ q.closed = false ∧ q.waiting.length + n ≤ q.capacity := by
  rw [hasRoom, Bool.and_eq_true, Bool.not_eq_true', decide_eq_true_eq]

/-- The room that frames leave is there when they have come, unless the reader goes. -/
theorem hasRoom_after {q : Queue} {c : ConnectionId} {frames : List Frame} {n : Nat}
    (room : q.hasRoom (frames.length + n) = true) {a : Action} (reading : a ≠ .closeQueue c) :
    (q.after c frames a).hasRoom n = true := by
  obtain ⟨isOpen, fits⟩ := hasRoom_iff.1 room
  have all : q.taken frames = frames := taken_of_hasRoom (hasRoom_iff.2 ⟨isOpen, by omega⟩)
  cases a with
  | receive d =>
    show (if d = c then q.receive.1 else q).hasRoom n = true
    split
    · refine hasRoom_iff.2 ⟨isOpen, ?_⟩
      show q.waiting.tail.length + n ≤ q.capacity
      rw [List.length_tail]
      omega
    · exact hasRoom_iff.2 ⟨isOpen, by omega⟩
  | drain d =>
    show (if d = c then q.drain.1 else q).hasRoom n = true
    split
    · refine hasRoom_iff.2 ⟨isOpen, ?_⟩
      show 0 + n ≤ q.capacity
      omega
    · exact hasRoom_iff.2 ⟨isOpen, by omega⟩
  | closeQueue d =>
    have elsewhere : d ≠ c := fun same => reading (same ▸ rfl)
    rw [after, if_neg elsewhere]
    exact hasRoom_iff.2 ⟨isOpen, by omega⟩
  | _ =>
    show (q.offerAll frames).hasRoom n = true
    rw [offerAll_eq, all, hasRoom_iff]
    refine ⟨isOpen, ?_⟩
    show (q.waiting ++ frames).length + n ≤ q.capacity
    rw [List.length_append]
    omega

/-- No action opens a queue that is closed. -/
theorem closed_after {q : Queue} (closed : q.closed = true) (c : ConnectionId) (frames : List Frame)
    (a : Action) : (q.after c frames a).closed = true := by
  cases a with
  | receive d =>
    show (if d = c then q.receive.1 else q).closed = true
    split <;> exact closed
  | drain d =>
    show (if d = c then q.drain.1 else q).closed = true
    split <;> exact closed
  | closeQueue d =>
    show (if d = c then q.close else q).closed = true
    split
    · rfl
    · exact closed
  | _ =>
    show (q.offerAll frames).closed = true
    rw [offerAll_eq]
    exact closed

end Queue

namespace Server

variable {s t : Server} {c x : ConnectionId} {actions : List Action}

/-- The frames that a connection is offered during a run, each with its queue of that moment. -/
def attempts (s : Server) (c : ConnectionId) : List Action → List (Queue × Frame)
  | [] => []
  | a :: rest =>
    ((s.queues.get? c).map fun q => q.attempts (framesFor c (s.hub.act a).2)).getD []
      ++ (s.step a).attempts c rest

/-- **A frame is lost only where the queue was full or closed** at the moment it was offered. -/
theorem received_eq (s : Server) (c : ConnectionId) (actions : List Action) :
    s.received c actions = ((s.attempts c actions).filter (·.1.takes)).map (·.2) := by
  induction actions generalizing s with
  | nil => rfl
  | cons a rest ih =>
    rw [received, attempts, List.filter_append, List.map_append, ih, receives]
    congr 1
    cases s.queues.get? c with
    | none => rfl
    | some q => exact q.taken_eq _

/-- **A connection has a queue**, and its number, so that no other connection is given it. -/
structure HasQueue (s : Server) (c : ConnectionId) (q : Queue) : Prop where
  numbered : c.number < s.hub.nextConnection
  found : s.queues.get? c = some q

namespace HasQueue

variable {q : Queue}

/-- A connection keeps its queue. -/
theorem step (has : s.HasQueue c q) (a : Action) :
    (s.step a).HasQueue c (q.after c (framesFor c (s.hub.act a).2) a) where
  numbered := by
    rw [hub_step]
    exact Nat.lt_of_lt_of_le has.numbered (Hub.effect_act s.hub a).nextConnection_le
  found := by
    have old : s.hub.opens c a = false := by
      cases a with
      | connect identity =>
        refine decide_eq_false fun same => ?_
        exact Nat.lt_irrefl _ (same ▸ has.numbered)
      | _ => rfl
    rw [get?_step, old, has.found]
    rfl

theorem receives (has : s.HasQueue c q) (a : Action) :
    s.receives c a = q.taken (framesFor c (s.hub.act a).2) := by
  rw [Server.receives, has.found]
  rfl

/-- What a connection with a queue is offered is offered to the queue. -/
theorem offered_eq (has : s.HasQueue c q) (actions : List Action) :
    s.offered c actions = (s.attempts c actions).map (·.2) := by
  induction actions generalizing s q with
  | nil => rfl
  | cons a rest ih =>
    rw [offered, attempts, List.map_append, ih (has.step a), has.found, Option.map_some,
      Option.getD_some, Queue.map_attempts]

/-- **A queue with room for everything receives everything**, if it stays open. -/
theorem received_of_hasRoom (has : s.HasQueue c q)
    (room : q.hasRoom (s.offered c actions).length = true)
    (reading : ∀ a ∈ actions, a ≠ .closeQueue c) : s.received c actions = s.offered c actions := by
  induction actions generalizing s q with
  | nil => rfl
  | cons a rest ih =>
    rw [offered, List.length_append] at room
    have now : q.taken (framesFor c (s.hub.act a).2) = framesFor c (s.hub.act a).2 := by
      obtain ⟨isOpen, fits⟩ := Queue.hasRoom_iff.1 room
      exact Queue.taken_of_hasRoom (Queue.hasRoom_iff.2 ⟨isOpen, by omega⟩)
    have later := Queue.hasRoom_after room (reading a (List.mem_cons_self ..))
    rw [received, offered, has.receives, now,
      ih (has.step a) later fun b hb => reading b (List.mem_cons_of_mem _ hb)]

/-- A queue that is closed receives nothing. -/
theorem received_of_closed (has : s.HasQueue c q) (closed : q.closed = true) (actions : List Action) :
    s.received c actions = [] := by
  induction actions generalizing s q with
  | nil => rfl
  | cons a rest ih =>
    rw [received, has.receives, Queue.taken_of_closed closed,
      ih (has.step a) (Queue.closed_after closed ..)]
    rfl

/-- **What the reader takes is the beginning of what its queue has received**, after what waited. -/
theorem taken_isPrefix (has : s.HasQueue c q) (actions : List Action) :
    s.taken c actions <+: s.waitingFor c ++ s.received c actions := by
  induction actions generalizing s q with
  | nil => exact List.nil_prefix
  | cons a rest ih =>
    have later := ih (has.step a)
    by_cases closes : a = .closeQueue c
    · subst closes
      -- What waited is lost, and nothing comes any more.
      have queue : (s.step (.closeQueue c)).HasQueue c q.close := by
        have closing := has.step (.closeQueue c)
        rwa [Queue.after, if_pos rfl] at closing
      have empty : (s.step (.closeQueue c)).waitingFor c = [] := by
        rw [waitingFor, queue.found]
        rfl
      rw [empty, queue.received_of_closed rfl, List.nil_append, List.prefix_nil] at later
      have none : s.taken c (.closeQueue c :: rest) = [] := by
        rw [taken, later]
        rfl
      rw [none]
      exact List.nil_prefix
    · have now := s.takes_append_waitingFor c has.numbered closes
      rw [taken, received, ← List.append_assoc, ← now, List.append_assoc]
      exact (List.prefix_append_right_inj _).2 later

end HasQueue

/-- **A connection loses only what its queue cannot take.** -/
structure LosesOnly (s : Server) (c : ConnectionId) (actions : List Action) : Prop where
  /-- Every frame that it is offered comes to its queue. -/
  offered : s.offered c actions = (s.attempts c actions).map (·.2)
  /-- Those are received, in their order, that find the queue neither closed nor full. -/
  received : s.received c actions = ((s.attempts c actions).filter fun (q, _) =>
    !q.closed && q.waiting.length < q.capacity).map (·.2)
  /-- The reader takes them from the front. -/
  taken : s.taken c actions <+: s.received c actions

theorem HasQueue.losesOnly {q : Queue} (has : s.HasQueue c q) (empty : q.waiting = [])
    (actions : List Action) : s.LosesOnly c actions := by
  refine ⟨has.offered_eq actions, s.received_eq c actions, ?_⟩
  have front := has.taken_isPrefix actions
  have none : s.waitingFor c = [] := by
    rw [waitingFor, has.found]
    exact empty
  rwa [none, List.nil_append] at front

/-- What is lost in one run is all that is missing beside a run in which nothing is lost. -/
theorem RunsAlikeBut.received_sublist {actions' : List Action}
    (runs : RunsAlikeBut x s actions t actions') (loses : s.LosesOnly x actions)
    (all : t.received x actions' = t.offered x actions') :
    (s.received x actions).Sublist (t.received x actions') := by
  rw [all, ← runs.offered x, loses.offered, loses.received]
  exact List.filter_sublist.map _

/-! ## §6 — two runs -/

/-- Open a connection whose queue has a capacity of its own. -/
def connectWith (s : Server) (capacity : Nat) (identity : Identity) : Server :=
  let (hub, c) := s.hub.connect identity
  { s with hub, queues := s.queues.insert c { capacity } }

theorem hasQueue_connectWith (s : Server) (capacity : Nat) (identity : Identity) :
    (s.connectWith capacity identity).HasQueue ⟨s.hub.nextConnection⟩ { capacity } where
  numbered := Nat.lt_succ_self _
  found := (Keyed.get?_insert ..).trans (if_pos rfl)

theorem alikeBut_connectWith (s : Server) (k k' : Nat) (identity : Identity) :
    AlikeBut ⟨s.hub.nextConnection⟩ (s.connectWith k identity) (s.connectWith k' identity) where
  hub := rfl
  capacity := rfl
  queues c other := by
    refine ((Keyed.get?_insert ..).trans (if_neg other)).trans ?_
    exact ((Keyed.get?_insert ..).trans (if_neg other)).symm

/-- **A reader that is slow or gone affects nobody else.** After any run open a connection, with one
capacity of its queue or with another, and go on with the same actions but for what its reader does, as
long as you like. Then both runs are alike but for that queue, and a change that is published next is taken
by the same number of queues, but for one. The connection itself loses only what its queue cannot take:
where the other queue has room for everything and stays open, what it receives is part of what is received
there, in the same order. -/
theorem isolated_run (verifier : Auth.Verifier) (capacity : Nat) (before : List Action)
    (identity : Identity) (k k' : Nat) (actions actions' : List Action) :
    let opening := (start verifier capacity).run before
    let x := (opening.connect identity).2
    let s := opening.connectWith k identity
    let t := opening.connectWith k' identity
    actions.filter (fun a => !a.isReading x) = actions'.filter (fun a => !a.isReading x) →
    RunsAlikeBut x s actions t actions' ∧
    (∀ e, ((s.run actions).publish e).2 ≤ ((t.run actions').publish e).2 + 1 ∧
      ((t.run actions').publish e).2 ≤ ((s.run actions).publish e).2 + 1) ∧
    s.LosesOnly x actions ∧
    ((t.offered x actions').length ≤ k' → (∀ a ∈ actions', a ≠ .closeQueue x) →
      t.received x actions' = t.offered x actions' ∧
        (s.received x actions).Sublist (t.received x actions')) := by
  intro opening x s t same
  have has : s.HasQueue x { capacity := k } := opening.hasQueue_connectWith k identity
  have has' : t.HasQueue x { capacity := k' } := opening.hasQueue_connectWith k' identity
  have runs : RunsAlikeBut x s actions t actions' :=
    (opening.alikeBut_connectWith k k' identity).run same
  have loses : s.LosesOnly x actions := has.losesOnly rfl actions
  refine ⟨runs, fun e => ⟨runs.after.publish_le e, runs.after.symm.publish_le e⟩, loses, ?_⟩
  intro fits reading
  have room : ({ capacity := k' } : Queue).hasRoom (t.offered x actions').length = true := by
    refine Queue.hasRoom_iff.2 ⟨rfl, ?_⟩
    show 0 + (t.offered x actions').length ≤ k'
    omega
  have all := has'.received_of_hasRoom room reading
  exact ⟨all, runs.received_sublist loses all⟩

/-- A join overflows the queue of a connection, whose reader then goes; another one tracks meanwhile. -/
theorem isolated_run_overflow :
    let joining : Frame := ⟨"room", joinEvent, .null, none⟩
    let tracking : Frame := ⟨"room", "presence-track", .null, none⟩
    let opening := (start {} 8).run [.connect .anonymous, .frame ⟨1⟩ joining]
    let s := opening.connectWith 1 .anonymous
    let t := opening.connectWith 8 .anonymous
    let actions : List Action := [.frame ⟨2⟩ joining, .frame ⟨1⟩ tracking, .closeQueue ⟨2⟩,
      .frame ⟨2⟩ tracking, .disconnect ⟨2⟩]
    let actions' : List Action := [.frame ⟨2⟩ joining, .drain ⟨2⟩, .frame ⟨1⟩ tracking,
      .frame ⟨2⟩ tracking, .disconnect ⟨2⟩]
    actions.filter (fun a => !a.isReading ⟨2⟩) = actions'.filter (fun a => !a.isReading ⟨2⟩) ∧
      (t.offered ⟨2⟩ actions').length ≤ 8 ∧ (∀ a ∈ actions', a ≠ .closeQueue ⟨2⟩) ∧
      (s.received ⟨2⟩ actions).length < (t.received ⟨2⟩ actions').length ∧
      RunsAlikeBut ⟨2⟩ s actions t actions' ∧
      (s.received ⟨2⟩ actions).Sublist (t.received ⟨2⟩ actions') := by
  intro joining tracking opening s t actions actions'
  have same : actions.filter (fun a => !a.isReading ⟨2⟩) =
      actions'.filter (fun a => !a.isReading ⟨2⟩) := rfl
  have fits : (t.offered ⟨2⟩ actions').length ≤ 8 := by decide +kernel
  have reading : ∀ a ∈ actions', a ≠ .closeQueue ⟨2⟩ := by
    simp [actions']
  have fewer : (s.received ⟨2⟩ actions).length < (t.received ⟨2⟩ actions').length := by
    decide +kernel
  obtain ⟨runs, -, -, roomy⟩ := isolated_run {} 8 [.connect .anonymous, .frame ⟨1⟩ joining]
    .anonymous 1 8 actions actions' same
  exact ⟨same, fits, reading, fewer, runs, (roomy fits reading).2⟩

end Server

end Gateway.Channel
