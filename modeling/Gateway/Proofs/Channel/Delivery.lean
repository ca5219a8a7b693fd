import Gateway.Proofs.Channel.Registry
import Mathlib.Data.List.Induction

/-!
# A change is told once to whoever asked for it

`ChangeFilter.Matches` says when a filter matches a change, one condition for each of its parts. A
connection wants a change when one of the filters under which it has joined a topic matches; then it is
offered one frame, for one topic, under the number of one such filter, and otherwise none
(`framesFor_publish_of_wants`, `framesFor_publish_of_not_wants`).

A client can only make sense of a number that it was given. `lastJoinReply?` is the reply by which a
connection has last been told in the course of a run that it has joined a topic, and `listed_run` says
that this reply lists the numbers of exactly the filters that the hub has filed. `publish_run` puts the
two together.
-/

namespace Gateway.Channel

open Gateway.Feed (Event)

/-! ## §1 — filters that match -/

namespace ChangeFilter

/-- **The filter matches a change**: what the filter names is what the change has, and a column filter
holds of that column of the row as it is now. -/
structure Matches (f : ChangeFilter) (e : Event) : Prop where
  operation : ∀ operation ∈ f.operation, operation = e.operation
  schema : ∀ schema ∈ f.schema, schema = e.schema
  table : ∀ table ∈ f.table, table = e.table
  column : ∀ column ∈ f.column, ∃ row value, e.record = some row ∧
    row.member? column.column = some value ∧ column.admits value = true

/-- A column filter selects a row that is there, by the value of its column. -/
theorem selects_iff {column : ColumnFilter} {row : Option Json} :
    column.selects row = true ↔ ∃ there value, row = some there ∧
      there.member? column.column = some value ∧ column.admits value = true := by
  rw [ColumnFilter.selects, Option.any_eq_true]
  constructor
  · rintro ⟨value, found, admitted⟩
    obtain ⟨there, rfl, member⟩ := Option.bind_eq_some_iff.1 found
    exact ⟨there, value, rfl, member, admitted⟩
  · rintro ⟨there, value, rfl, member, admitted⟩
    exact ⟨value, member, admitted⟩

theorem admits_iff {f : ChangeFilter} {e : Event} : f.admits e = true ↔ f.Matches e := by
  simp only [admits, Bool.and_eq_true, Option.all_eq_true, beq_iff_eq, selects_iff]
  constructor
  · rintro ⟨⟨⟨operation, schema⟩, table⟩, column⟩
    exact ⟨operation, schema, table, column⟩
  · rintro ⟨operation, schema, table, column⟩
    exact ⟨⟨⟨operation, schema⟩, table⟩, column⟩

end ChangeFilter

/-! ## §2 — what one connection is offered -/

/-- The frame that tells of a change under a topic, by the number of a change filter. -/
def Frame.change (topic : String) (id : Nat) (e : Event) : Frame :=
  .push topic changesEvent (Json.object [("ids", .arr [.int id]), ("data", e.value)])

namespace Hub

variable {h : Hub} {c : ConnectionId} {e : Event}

/-- A change filter under which a connection has joined a topic. -/
def Watches (h : Hub) (c : ConnectionId) (topic : String) (f : ChangeFilter) : Prop :=
  ∃ s, h.subscription? c topic = some s ∧ f ∈ s.filters

/-- One of the change filters of a connection matches a change. -/
def Wants (h : Hub) (c : ConnectionId) (e : Event) : Prop :=
  ∃ topic f, h.Watches c topic f ∧ f.Matches e

/-- A subscription has a filter that admits a change exactly when one of its filters matches. -/
theorem admitting?_eq_none_iff {s : Subscription} :
    s.admitting? e = none ↔ ∀ f ∈ s.filters, ¬ f.Matches e := by
  simp only [Subscription.admitting?, Option.map_eq_none_iff, List.find?_eq_none,
    ChangeFilter.admits_iff]

theorem admitting?_eq_some {s : Subscription} {id : Nat} (found : s.admitting? e = some id) :
    ∃ f ∈ s.filters, f.id = id ∧ f.Matches e := by
  obtain ⟨f, first, rfl⟩ := Option.map_eq_some_iff.1 found
  have admitted : f.admits e = true := by simpa using List.find?_some first
  exact ⟨f, List.mem_of_find?_eq_some first, rfl, ChangeFilter.admits_iff.1 admitted⟩

/-- The frame for a connection is that of the first subscription with a filter that admits the change. -/
theorem changeFrame?_eq (x : Connection) (e : Event) :
    changeFrame? x e = x.subscriptions.values.findSome? fun s =>
      (s.admitting? e).map fun id => .change s.topic id e := by
  refine congrArg (List.findSome? · _) (funext fun s => ?_)
  cases s.admitting? e <;> rfl

/-- **Whoever wants a change is offered one frame**, for a topic that it has joined and by the number of
a filter that matches. -/
theorem framesFor_publish_of_wants (inv : h.Consistent) (wants : h.Wants c e) :
    ∃ topic f, framesFor c (h.publish e) = [.change topic f.id e] ∧ h.Watches c topic f ∧
      f.Matches e := by
  obtain ⟨u, g, ⟨t, found, mem⟩, fits⟩ := wants
  obtain ⟨x, opened, joined⟩ := Option.bind_eq_some_iff.1 found
  have offered : framesFor c (h.publish e) = (changeFrame? x e).toList := by
    rw [framesFor_publish, opened, Option.bind_some]
  cases chosen : changeFrame? x e with
  | none =>
    -- A subscription with a filter that matches is not passed over.
    have all := List.findSome?_eq_none_iff.1 (changeFrame?_eq x e ▸ chosen)
    have passed := all t (Keyed.mem_values_iff.2 ⟨u, joined⟩)
    rw [Option.map_eq_none_iff, admitting?_eq_none_iff] at passed
    exact absurd fits (passed g mem)
  | some frame =>
    obtain ⟨s, filed, told⟩ := List.exists_of_findSome?_eq_some (changeFrame?_eq x e ▸ chosen)
    obtain ⟨id, admitted, rfl⟩ := Option.map_eq_some_iff.1 told
    obtain ⟨f, hf, rfl, matched⟩ := admitting?_eq_some admitted
    obtain ⟨topic, there⟩ := Keyed.mem_values_iff.1 filed
    have here : h.subscription? c topic = some s := (subscription?_of_get? opened topic).trans there
    obtain rfl := inv.filed c topic s here
    exact ⟨s.topic, f, by rw [offered, chosen]; rfl, ⟨s, here, hf⟩, matched⟩

/-- **Nobody else is offered anything.** -/
theorem framesFor_publish_of_not_wants (other : ¬ h.Wants c e) : framesFor c (h.publish e) = [] := by
  rw [framesFor_publish]
  cases opened : h.connections.get? c with
  | none => rfl
  | some x =>
    have none : changeFrame? x e = none := by
      refine (changeFrame?_eq x e).trans (List.findSome?_eq_none_iff.2 fun s hs => ?_)
      rw [Option.map_eq_none_iff, admitting?_eq_none_iff]
      intro f hf fits
      obtain ⟨topic, joined⟩ := Keyed.mem_values_iff.1 hs
      exact other ⟨topic, f, ⟨s, (subscription?_of_get? opened topic).trans joined, hf⟩, fits⟩
    rw [Option.bind_some, none]
    rfl

/-- A change is offered to open connections, to each once at most. -/
theorem receivers_publish (h : Hub) (e : Event) :
    ((h.publish e).map (·.receiver)).Sublist h.connections.keys := by
  unfold publish Keyed.keys
  induction h.connections.entries with
  | nil => exact .slnil
  | cons entry rest ih =>
    obtain ⟨d, x⟩ := entry
    rw [List.filterMap_cons]
    simp only
    cases changeFrame? x e with
    | none => exact ih.cons d
    | some frame => exact ih.cons_cons d

end Hub

/-! ## §3 — what the queues accept -/

namespace Server

variable {s : Server}

/-- **A delivery counts the offers that are taken.** Where nobody is offered two frames, those are the
ones whose queue had room before. -/
theorem deliver_count {offers : List Offer} (once : (offers.map (·.receiver)).Nodup) :
    (s.deliver offers).2 = offers.countP fun o => (s.queues.get? o.receiver).any (·.takes) := by
  induction offers generalizing s with
  | nil => rfl
  | cons o rest ih =>
    rw [List.map_cons, List.nodup_cons] at once
    have taken : (s.offer o).2 = (s.queues.get? o.receiver).any (·.takes) := by
      unfold offer
      cases s.queues.get? o.receiver <;> rfl
    -- The queues of the others are as they were.
    have later : ∀ p ∈ rest, (s.offer o).1.queues.get? p.receiver = s.queues.get? p.receiver := by
      intro p hp
      have other : p.receiver ≠ o.receiver := fun same =>
        once.1 (same ▸ List.mem_map_of_mem (f := (·.receiver)) hp)
      unfold offer
      split
      · rfl
      · exact (Keyed.get?_insert ..).trans (if_neg other)
    have count : ((s.offer o).1.deliver rest).2 =
        rest.countP fun p => (s.queues.get? p.receiver).any (·.takes) := by
      rw [ih once.2]
      exact List.countP_congr fun p hp => by rw [later p hp]
    have step : (s.deliver (o :: rest)).2 =
        if (s.offer o).2 = true then ((s.offer o).1.deliver rest).2 + 1
        else ((s.offer o).1.deliver rest).2 := rfl
    rw [step, List.countP_cons, ← taken, ← count]
    cases (s.offer o).2 <;> rfl

/-- A connection that is offered one frame receives it when its queue has room. -/
theorem receives_isEmpty {c : ConnectionId} {a : Action} {frame? : Option Frame}
    (offered : framesFor c (s.hub.act a).2 = frame?.toList) :
    (!(s.receives c a).isEmpty) = (frame?.isSome && (s.queues.get? c).any (·.takes)) := by
  rw [receives, offered]
  cases s.queues.get? c with
  | none => cases frame? <;> rfl
  | some q =>
    cases frame? with
    | none => rfl
    | some frame =>
      simp only [Option.toList_some, Option.map_some, Option.getD_some, Queue.taken, Option.any_some,
        Option.isSome_some, Bool.true_and]
      cases q.takes <;> rfl

/-- **Publishing a change yields the number of connections whose queue accepts it.** -/
theorem publish_count (s : Server) (e : Event) :
    (s.publish e).2 = s.hub.connections.keys.countP fun c => !(s.receives c (.publish e)).isEmpty := by
  have once := s.hub.connections.nodup.sublist (s.hub.receivers_publish e)
  rw [publish, deliver_count once, Hub.publish, List.countP_filterMap, Keyed.keys, List.countP_map]
  refine List.countP_congr fun ⟨c, x⟩ mem => ?_
  have opened := Keyed.mem_entries_iff.1 mem
  have offered : framesFor c (s.hub.act (.publish e)).2 = (Hub.changeFrame? x e).toList := by
    rw [Hub.act, Hub.framesFor_publish, opened, Option.bind_some]
  rw [Function.comp_apply, receives_isEmpty offered]
  simp only
  cases Hub.changeFrame? x e <;> simp

/-! ## §4 — the reply to the last join -/

/-- The reply by which a connection was last told, in the course of a run, that it has joined a topic. -/
def lastJoinReply? (s : Server) (c : ConnectionId) (topic : String) : List Action → Option Frame
  | [] => none
  | a :: rest => ((s.step a).lastJoinReply? c topic rest).or (s.hub.joinReply? a c topic)

theorem lastJoinReply?_concat (s : Server) (c : ConnectionId) (topic : String) (actions : List Action)
    (a : Action) : s.lastJoinReply? c topic (actions ++ [a]) =
      ((s.run actions).hub.joinReply? a c topic).or (s.lastJoinReply? c topic actions) := by
  induction actions generalizing s with
  | nil => simp [lastJoinReply?]
  | cons b rest ih => rw [List.cons_append, lastJoinReply?, ih, run_cons, lastJoinReply?, Option.or_assoc]

/-- **The last join of a topic lists the filters under which the connection hears of changes**: there is
no other way to come by a subscription, and the reply to it is the last of its kind. -/
theorem listed_run (verifier : Auth.Verifier) (capacity : Nat) (actions : List Action)
    {c : ConnectionId} {topic : String} {sub : Subscription}
    (joined : ((start verifier capacity).run actions).hub.subscription? c topic = some sub) :
    ∃ reply, (start verifier capacity).lastJoinReply? c topic actions = some reply ∧
      reply.listedIds = sub.filters.map fun f => (f.id : Int) := by
  induction actions using List.reverseRecOn with
  | nil => simp [start, Hub.subscription?] at joined
  | append_singleton actions a ih =>
    rw [run_append, run_cons, run_nil, hub_step] at joined
    rw [lastJoinReply?_concat]
    rcases Hub.subscription?_act joined with ⟨old, quiet⟩ | enters
    · rw [quiet, Option.none_or]
      exact ih old
    · obtain ⟨reply, told, listed⟩ := enters.reply
      rw [told, Option.some_or]
      exact ⟨reply, rfl, listed⟩

/-! ## §5 — publishing -/

/-- **A change is told once to whoever asked for it.** After every run a connection is offered one frame
if one of its filters matches the change, and none otherwise. The frame is for a topic that the connection
has joined; its number is that of a filter which matches, and was listed in the reply to the last join of
that topic. The hub stays as it is, and the number that publishing yields is that of the connections whose
queue accepts the frame. -/
theorem publish_run (verifier : Auth.Verifier) (capacity : Nat) (actions : List Action) (e : Event) :
    let s := (start verifier capacity).run actions
    (∀ c, s.hub.Wants c e → ∃ topic f reply,
      framesFor c (s.hub.publish e) = [.change topic f.id e] ∧
        s.hub.topicState c topic = .joined ∧ s.hub.Watches c topic f ∧ f.Matches e ∧
        (start verifier capacity).lastJoinReply? c topic actions = some reply ∧
        (f.id : Int) ∈ reply.listedIds) ∧
      (∀ c, ¬ s.hub.Wants c e → framesFor c (s.hub.publish e) = []) ∧
      (s.publish e).1.hub = s.hub ∧
      (∀ c, (s.publish e).1.waitingFor c = s.waitingFor c ++ s.receives c (.publish e)) ∧
      (s.publish e).2 =
        s.hub.connections.keys.countP fun c => !(s.receives c (.publish e)).isEmpty := by
  intro s
  have inv : s.hub.Consistent := consistent_run (.fresh verifier) actions
  refine ⟨fun c wants => ?_, fun c other => Hub.framesFor_publish_of_not_wants other,
    hub_deliver .., fun c => ?_, s.publish_count e⟩
  · obtain ⟨topic, f, offered, ⟨sub, joined, hf⟩, fits⟩ := Hub.framesFor_publish_of_wants inv wants
    obtain ⟨reply, told, listed⟩ := listed_run verifier capacity actions joined
    refine ⟨topic, f, reply, offered, Hub.topicState_eq_joined_iff.2 ⟨sub, joined⟩, ⟨sub, joined, hf⟩,
      fits, told, ?_⟩
    rw [listed]
    exact List.mem_map_of_mem hf
  · rw [publish, waitingFor, queue_deliver, waitingFor, receives, Hub.act]
    cases s.queues.get? c with
    | none => rfl
    | some q => exact q.waiting_offerAll _

/-- A connection that has left a topic and joined it again hears of a change by its new number. -/
theorem publish_run_rejoined :
    let joining : Frame := ⟨"room", joinEvent, .obj [("config", .obj [("postgres_changes",
      .arr [.obj [("event", .str "*")]])])], none⟩
    let leaving : Frame := ⟨"room", leaveEvent, .null, none⟩
    let actions : List Action :=
      [.connect .anonymous, .frame ⟨1⟩ joining, .frame ⟨1⟩ leaving, .frame ⟨1⟩ joining]
    let e : Event := ⟨"public", "orders", .insert, some (.obj []), none⟩
    let s := (start {} 8).run actions
    s.hub.Watches ⟨1⟩ "room" ⟨2, none, none, none, none⟩ ∧ s.hub.Wants ⟨1⟩ e ∧
      ∃ topic f reply, framesFor ⟨1⟩ (s.hub.publish e) = [.change topic f.id e] ∧
        s.hub.topicState ⟨1⟩ topic = .joined ∧ s.hub.Watches ⟨1⟩ topic f ∧ f.Matches e ∧
        (start {} 8).lastJoinReply? ⟨1⟩ topic actions = some reply ∧
        (f.id : Int) ∈ reply.listedIds := by
  intro joining leaving actions e s
  have filed : (s.hub.subscription? ⟨1⟩ "room").map (·.filters) = some [⟨2, none, none, none, none⟩] := by
    decide +kernel
  obtain ⟨sub, found, filters⟩ := Option.map_eq_some_iff.1 filed
  have watches : s.hub.Watches ⟨1⟩ "room" ⟨2, none, none, none, none⟩ :=
    ⟨sub, found, filters ▸ List.mem_singleton.2 rfl⟩
  have wants : s.hub.Wants ⟨1⟩ e :=
    ⟨"room", ⟨2, none, none, none, none⟩, watches, by constructor <;> simp⟩
  exact ⟨watches, wants, (publish_run {} 8 actions e).1 ⟨1⟩ wants⟩

end Server

end Gateway.Channel
