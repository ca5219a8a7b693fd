import Gateway.Channel.Server

/-!
# Runs of the channel server

A run is any sequence of actions: connections come and go, send texts and frames, changes are published,
the change feed and the clock move, and readers take what waits for them or go away. `Hub.act` is what an
action does to the shared state and what it offers to whom, `Server.step` what it does to the server as a
whole, and `hub_step` says that the two agree.

What becomes of an offer is a matter of one queue alone: `queue_deliver` and `get?_step` give the queue
of a connection after a step from its own queue before and from the frames that are offered to it.
`received` is what a queue takes in the course of a run, and `taken` what its reader takes out of it.
-/

namespace Gateway.Channel

open Gateway.Auth (Identity)
open Gateway.Feed (Event)

/-! ## §1 — actions -/

/-- Something that happens to a server. -/
inductive Action where
  /-- A connection is opened. -/
  | connect (identity : Identity)
  /-- A connection is closed. -/
  | disconnect (c : ConnectionId)
  /-- A connection sends a text. -/
  | text (c : ConnectionId) (text : String)
  /-- A frame of a connection is handled; the caller answers a refusal. -/
  | frame (c : ConnectionId) (frame : Frame)
  /-- A change is published. -/
  | publish (e : Event)
  /-- A change feed is attached. -/
  | attachFeed (state : Feed.State)
  /-- The attached change feed comes to a state. -/
  | feedChanged (state : Feed.State)
  /-- Time goes on. -/
  | clock (now : Nat)
  /-- The reader of a connection takes the frame that has waited longest for it, if one waits. -/
  | receive (c : ConnectionId)
  /-- The reader of a connection takes all that waits for it. -/
  | drain (c : ConnectionId)
  /-- The reader of a connection goes. -/
  | closeQueue (c : ConnectionId)

/-- The action is one of the reader of a connection: it takes something of what waits, or it goes. -/
def Action.isReading (c : ConnectionId) : Action → Bool
  | .receive d | .drain d | .closeQueue d => d = c
  | _ => false

namespace Hub

/-- The hub at another time: tokens are verified against the present. -/
def atTime (h : Hub) (now : Nat) : Hub :=
  { h with verifier := { h.verifier with now } }

/-- **What an action does to the hub**, and what it offers. -/
def act (h : Hub) : Action → Hub × List Offer
  | .connect identity => ((h.connect identity).1, [])
  | .disconnect c => h.disconnect c
  | .text c text => h.handleText c text
  | .frame c frame =>
    match h.handle c frame with
    | (h, .ok offers) => (h, offers)
    | (h, .error _) => (h, [])
  | .publish e => (h, h.publish e)
  | .attachFeed state => (h.attachFeed state, [])
  | .feedChanged state => (h.feedChanged state, [])
  | .clock now => (h.atTime now, [])
  | .receive _ | .drain _ | .closeQueue _ => (h, [])

/-- What a reader does leaves the hub alone, and offers nothing. -/
theorem act_of_isReading {a : Action} {c : ConnectionId} (reads : a.isReading c = true) (h : Hub) :
    h.act a = (h, []) := by
  cases a with
  | receive d | drain d | closeQueue d => rfl
  | _ => cases reads

/-- The action opens a connection under a number. -/
def opens (h : Hub) (c : ConnectionId) : Action → Bool
  | .connect _ => c = ⟨h.nextConnection⟩
  | _ => false

/-- A number that has been given is not given again. -/
theorem opens_eq_false {h : Hub} {c : ConnectionId} (given : c.number < h.nextConnection)
    (a : Action) : h.opens c a = false := by
  cases a with
  | connect identity =>
    refine decide_eq_false fun same => ?_
    simp [same] at given
  | _ => rfl

end Hub

namespace Server

/-- A server to which nothing has happened. -/
def start (verifier : Auth.Verifier) (capacity : Nat) : Server where
  hub := { verifier }
  capacity := capacity

/-- **What an action does to the server.** -/
def step (s : Server) : Action → Server
  | .connect identity => (s.connect identity).1
  | .disconnect c => s.disconnect c
  | .text c text => s.handleText c text
  | .frame c frame => (s.handleFrame c frame).1
  | .publish e => (s.publish e).1
  | .attachFeed state => s.attachFeed state
  | .feedChanged state => s.feedChanged state
  | .clock now => { s with hub := s.hub.atTime now }
  | .receive c => (s.receive c).1
  | .drain c => (s.drain c).1
  | .closeQueue c => s.closeQueue c

/-- **A run**: actions one after the other. -/
def run (s : Server) (actions : List Action) : Server :=
  actions.foldl step s

@[simp] theorem run_nil (s : Server) : s.run [] = s := rfl

@[simp] theorem run_cons (s : Server) (a : Action) (rest : List Action) :
    s.run (a :: rest) = (s.step a).run rest := rfl

theorem run_append (s : Server) (before after : List Action) :
    s.run (before ++ after) = (s.run before).run after :=
  List.foldl_append

/-! ## §2 — the hub of a server -/

/-- Delivering frames leaves the hub alone. -/
@[simp] theorem hub_deliver (s : Server) (offers : List Offer) : (s.deliver offers).1.hub = s.hub := by
  induction offers generalizing s with
  | nil => rfl
  | cons o rest ih =>
    rw [deliver]
    refine (ih _).trans ?_
    unfold offer
    split <;> rfl

/-- **A step of the server is a step of its hub.** -/
theorem hub_step (s : Server) (a : Action) : (s.step a).hub = (s.hub.act a).1 := by
  cases a with
  | connect | attachFeed | feedChanged | clock => rfl
  | disconnect c => exact hub_deliver _ _
  | text c text => exact hub_deliver _ _
  | publish e => exact hub_deliver _ _
  | frame c frame =>
    rw [step, handleFrame, Hub.act]
    obtain ⟨h, answer⟩ := s.hub.handle c frame
    cases answer with
    | ok offers => exact hub_deliver _ _
    | error refusal => rfl
  | receive c =>
    rw [step, receive, Hub.act]
    split <;> rfl
  | drain c =>
    rw [step, drain, Hub.act]
    split <;> rfl
  | closeQueue c =>
    rw [step, closeQueue, Hub.act]
    split <;> rfl

end Server

/-! ## §3 — offers to one connection -/

/-- The frames that are offered to a connection, in order. -/
def framesFor (c : ConnectionId) (offers : List Offer) : List Frame :=
  offers.filterMap fun o => if o.receiver = c then some o.frame else none

@[simp] theorem framesFor_nil (c : ConnectionId) : framesFor c [] = [] := rfl

@[simp] theorem framesFor_append (c : ConnectionId) (first second : List Offer) :
    framesFor c (first ++ second) = framesFor c first ++ framesFor c second :=
  List.filterMap_append

theorem mem_framesFor {c : ConnectionId} {offers : List Offer} {frame : Frame}
    (h : frame ∈ framesFor c offers) : ⟨c, frame⟩ ∈ offers := by
  obtain ⟨o, ho, chosen⟩ := List.mem_filterMap.1 h
  split at chosen
  next same =>
    obtain rfl := Option.some.inj chosen
    exact same ▸ ho
  next => simp at chosen

/-- Where each entry of a keyed list gets at most one frame, a connection gets that of its own. -/
theorem framesFor_entries {α : Type} (t : Keyed ConnectionId α)
    (frame? : ConnectionId → α → Option Frame) (c : ConnectionId) :
    framesFor c (t.entries.filterMap fun (d, a) => (frame? d a).map fun frame => ⟨d, frame⟩) =
      ((t.get? c).bind (frame? c)).toList := by
  obtain ⟨entries, nodup⟩ := t
  unfold framesFor Keyed.get?
  simp only
  induction entries with
  | nil => rfl
  | cons e others ih =>
    obtain ⟨d, a⟩ := e
    rw [List.map_cons, List.nodup_cons] at nodup
    have rest := ih nodup.2
    rw [List.filterMap_filterMap] at rest ⊢
    rw [Keyed.find?, List.filterMap_cons]
    by_cases same : d = c
    · subst same
      -- No later entry has the same key, so nothing more comes.
      have absent : Keyed.find? d others = none := by
        rw [Option.eq_none_iff_forall_ne_some]
        intro b found
        exact nodup.1 (Keyed.mem_keys_iff.2 ⟨b, (Keyed.find?_eq_some_iff nodup.2).1 found⟩)
      rw [absent] at rest
      rw [if_pos rfl, rest, Option.bind_some]
      cases frame? d a <;> simp
    · rw [if_neg same, ← rest]
      cases frame? d a <;> simp [same]

/-! ## §4 — queues -/

namespace Queue

/-- Offer frames to a queue in order. -/
def offerAll (q : Queue) (frames : List Frame) : Queue :=
  frames.foldl offer q

/-- The frames that a queue takes when it is offered frames in order. -/
def taken (q : Queue) : List Frame → List Frame
  | [] => []
  | frame :: rest =>
    if q.takes then frame :: (q.offer frame).taken rest else (q.offer frame).taken rest

/-- **What a queue takes waits behind what waited before.** -/
theorem waiting_offerAll (q : Queue) (frames : List Frame) :
    (q.offerAll frames).waiting = q.waiting ++ q.taken frames := by
  induction frames generalizing q with
  | nil => simp [offerAll, taken]
  | cons frame rest ih =>
    refine (ih (q.offer frame)).trans ?_
    rw [taken, offer]
    split <;> simp

/-- What an action makes of the queue of a connection that is offered frames. -/
def after (q : Queue) (c : ConnectionId) (frames : List Frame) : Action → Queue
  | .receive d => if d = c then q.receive.1 else q
  | .drain d => if d = c then q.drain.1 else q
  | .closeQueue d => if d = c then q.close else q
  | _ => q.offerAll frames

/-- The queue has a reader and space for a number of frames. -/
def hasRoom (q : Queue) (n : Nat) : Bool :=
  !q.closed && q.waiting.length + n ≤ q.capacity

theorem taken_of_hasRoom {q : Queue} {frames : List Frame} (room : q.hasRoom frames.length = true) :
    q.taken frames = frames := by
  induction frames generalizing q with
  | nil => rfl
  | cons frame rest ih =>
    simp only [hasRoom, Bool.and_eq_true, Bool.not_eq_true', decide_eq_true_eq, List.length_cons]
      at room
    obtain ⟨reading, fits⟩ := room
    have takes : q.takes = true := by
      simp only [Queue.takes, reading, Bool.not_false, Bool.true_and, decide_eq_true_eq]
      omega
    have later : (q.offer frame).hasRoom rest.length = true := by
      simp only [hasRoom, offer, takes, if_true, reading, Bool.not_false, Bool.true_and,
        List.length_append, List.length_singleton, decide_eq_true_eq]
      omega
    rw [taken, if_pos takes, ih later]

end Queue

namespace Server

variable (s : Server) (c : ConnectionId)

/-- **The queue of a connection after a delivery** has been offered the frames for that connection,
and nothing else. -/
theorem queue_deliver (offers : List Offer) :
    (s.deliver offers).1.queues.get? c =
      (s.queues.get? c).map fun q => q.offerAll (framesFor c offers) := by
  induction offers generalizing s with
  | nil => simp [deliver, Queue.offerAll]
  | cons o rest ih =>
    rw [deliver]
    refine (ih _).trans ?_
    unfold offer
    by_cases same : o.receiver = c
    · subst same
      cases found : s.queues.get? o.receiver with
      | none => simp [found]
      | some q => simp [Keyed.get?_insert, framesFor, Queue.offerAll]
    · have kept : framesFor c (o :: rest) = framesFor c rest := by simp [framesFor, same]
      rw [kept]
      cases found : s.queues.get? o.receiver with
      | none => rfl
      | some q => simp [Keyed.get?_insert, Ne.symm same]

/-- Frames that the queue of a connection takes in a step. -/
def receives (a : Action) : List Frame :=
  ((s.queues.get? c).map fun q => q.taken (framesFor c (s.hub.act a).2)).getD []

/-- The queue of a connection refuses nothing that a step offers to it. -/
def TakesAll (a : Action) : Prop :=
  s.receives c a = framesFor c (s.hub.act a).2

variable {s c} in
/-- A queue with room for all that a step offers to it refuses none of it. -/
theorem takesAll_of_hasRoom {a : Action}
    (room : (s.queues.get? c).any (·.hasRoom (framesFor c (s.hub.act a).2).length) = true) :
    s.TakesAll c a := by
  obtain ⟨q, found, room⟩ := (Option.any_eq_true ..).1 room
  rw [TakesAll, receives, found, Option.map_some, Option.getD_some, Queue.taken_of_hasRoom room]

/-- A change of one queue is none of the others. -/
theorem get?_of_changes {t : Server} {f : Queue → Queue} (d : ConnectionId)
    (changes : t = match s.queues.get? d with
      | none => s
      | some q => { s with queues := s.queues.insert d (f q) }) :
    t.queues.get? c = (s.queues.get? c).map fun q => if d = c then f q else q := by
  subst changes
  by_cases same : d = c
  · subst same
    cases found : s.queues.get? d <;> simp [found, Keyed.get?_insert]
  · cases s.queues.get? d <;> simp [Keyed.get?_insert, same, Ne.symm same]

/-- **The queue of a connection after a step** comes from its own queue before. -/
theorem get?_step (a : Action) : (s.step a).queues.get? c =
    if s.hub.opens c a then some { capacity := s.capacity }
    else (s.queues.get? c).map fun q => q.after c (framesFor c (s.hub.act a).2) a := by
  have untouched : s.queues.get? c = (s.queues.get? c).map fun q => q.offerAll [] := by
    cases s.queues.get? c <;> rfl
  cases a with
  | connect identity =>
    refine (Keyed.get?_insert ..).trans ?_
    simp only [Hub.opens, decide_eq_true_eq]
    split
    · rfl
    · exact untouched
  | attachFeed | feedChanged | clock => exact untouched
  | disconnect d => exact queue_deliver _ c _
  | text d text => exact queue_deliver _ c _
  | publish e => exact queue_deliver _ c _
  | frame d frame =>
    show (s.handleFrame d frame).1.queues.get? c =
      (s.queues.get? c).map fun q => q.offerAll (framesFor c (s.hub.act (.frame d frame)).2)
    rw [handleFrame, Hub.act]
    rcases s.hub.handle d frame with ⟨h, refusal | offers⟩
    · exact untouched
    · exact queue_deliver _ c _
  | receive d =>
    refine get?_of_changes s c d ?_
    show (s.receive d).1 = _
    unfold receive
    cases s.queues.get? d <;> rfl
  | drain d =>
    refine get?_of_changes s c d ?_
    show (s.drain d).1 = _
    unfold drain
    cases s.queues.get? d <;> rfl
  | closeQueue d => exact get?_of_changes s c d rfl

/-- The frames that wait for the reader of a connection. -/
def waitingFor : List Frame :=
  ((s.queues.get? c).map (·.waiting)).getD []

/-- The frames that the reader of a connection takes in a step. -/
def takes (s : Server) (c : ConnectionId) : Action → List Frame
  | .receive d => if d = c then (s.receive c).2.toList else []
  | .drain d => if d = c then (s.drain c).2 else []
  | _ => []

/-- **Nothing is lost between the queue and its reader**: what is read in a step, and then what waits,
is what waited before, and then what the queue has received. -/
theorem takes_append_waitingFor {a : Action} (numbered : c.number < s.hub.nextConnection)
    (notClose : a ≠ .closeQueue c) :
    s.takes c a ++ (s.step a).waitingFor c = s.waitingFor c ++ s.receives c a := by
  have after : (s.step a).waitingFor c = ((s.queues.get? c).map fun q =>
      (q.after c (framesFor c (s.hub.act a).2) a).waiting).getD [] := by
    rw [waitingFor, get?_step, Hub.opens_eq_false numbered, if_neg Bool.false_ne_true, Option.map_map]
    rfl
  rw [after, waitingFor, receives]
  cases found : s.queues.get? c with
  | none => cases a <;> simp [takes, receive, drain, found]
  | some q =>
    simp only [Option.map_some, Option.getD_some]
    cases a with
    | receive d =>
      by_cases same : d = c
      · subst same
        rw [Hub.act, framesFor_nil, Queue.taken, List.append_nil]
        cases waits : q.waiting <;> simp [takes, receive, found, Queue.after, Queue.receive, waits]
      · simp [takes, same, Queue.after, Hub.act, Queue.taken]
    | drain d =>
      by_cases same : d = c
      · subst same
        simp [takes, drain, found, Queue.after, Queue.drain, Hub.act, Queue.taken]
      · simp [takes, same, Queue.after, Hub.act, Queue.taken]
    | closeQueue d =>
      have elsewhere : d ≠ c := fun same => notClose (same ▸ rfl)
      simp [takes, elsewhere, Queue.after, Hub.act, Queue.taken]
    | _ => exact q.waiting_offerAll _

/-- The frames that the queue of a connection takes during a run, in order. -/
def received (s : Server) (c : ConnectionId) : List Action → List Frame
  | [] => []
  | a :: rest => s.receives c a ++ (s.step a).received c rest

/-- The frames that the reader of a connection takes during a run, in order. -/
def taken (s : Server) (c : ConnectionId) : List Action → List Frame
  | [] => []
  | a :: rest => s.takes c a ++ (s.step a).taken c rest

end Server

end Gateway.Channel
