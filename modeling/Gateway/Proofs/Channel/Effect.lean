import Gateway.Proofs.Channel.Run

/-!
# What an action can do to the hub

`Hub.Effect` says once and for all what an action can do to topics and presence, and what it then offers:
nothing at all, open a connection, close one, enter a topic, leave one, track, or untrack. `effect_act`
says that every action has one of these effects, so whatever holds along a run is proved by cases on the
effect, and no proof elsewhere opens the handling of a frame.

A quiet step may still answer its sender or tell of a change of a row; it never sends a frame about
presence.
-/

namespace Gateway.Channel

open Gateway.Auth (Identity)
open Presence (Diff)

/-! ## §1 — frames about presence -/

/-- The frame is about presence: a state or a difference. -/
def Frame.IsPresence (f : Frame) : Prop :=
  f.event = presenceStateEvent ∨ f.event = presenceDiffEvent

theorem Frame.not_isPresence_reply (request : Frame) (status : Frame.Status) (response : Json) :
    ¬ (request.reply status response).IsPresence := by
  rintro (h | h)
  · exact absurd h (by decide : replyEvent ≠ presenceStateEvent)
  · exact absurd h (by decide : replyEvent ≠ presenceDiffEvent)

theorem Frame.not_isPresence_push {topic event : String} {payload : Json}
    (state : event ≠ presenceStateEvent) (diff : event ≠ presenceDiffEvent) :
    ¬ (Frame.push topic event payload).IsPresence := by
  rintro (h | h)
  · exact state h
  · exact diff h

/-- No frame that is offered is about presence. -/
def Silent (offers : List Offer) : Prop :=
  ∀ o ∈ offers, ¬ o.frame.IsPresence

theorem Silent.nil : Silent [] := by simp [Silent]

namespace Hub

variable {h h' : Hub} {c : ConnectionId}

/-! ## §2 — connections and subscriptions -/

theorem contains_iff_get? : h.connections.contains c = true ↔ ∃ x, h.connections.get? c = some x :=
  Option.isSome_iff_exists

/-- A connection that has joined a topic is open. -/
theorem contains_of_subscription? {topic : String} {s : Subscription}
    (found : h.subscription? c topic = some s) : h.connections.contains c = true := by
  obtain ⟨connection, opened, -⟩ := Option.bind_eq_some_iff.1 found
  exact contains_iff_get?.2 ⟨connection, opened⟩

theorem topicState_eq_joined_iff {topic : String} :
    h.topicState c topic = .joined ↔ ∃ s, h.subscription? c topic = some s := by
  unfold topicState
  rw [← Option.isSome_iff_exists]
  split <;> simp_all

theorem topicState_eq_left_iff {topic : String} :
    h.topicState c topic = .left ↔ h.subscription? c topic = none := by
  unfold topicState
  rw [← Option.isNone_iff_eq_none, ← Option.not_isSome]
  split <;> simp_all

theorem subscription?_of_get? {connection : Connection} (opened : h.connections.get? c = some connection)
    (topic : String) : h.subscription? c topic = connection.subscriptions.get? topic := by
  rw [subscription?, opened, Option.bind_some]

theorem subscription?_setConnection (h : Hub) (c : ConnectionId) (connection : Connection)
    (d : ConnectionId) (topic : String) :
    (h.setConnection c connection).subscription? d topic =
      if d = c then connection.subscriptions.get? topic else h.subscription? d topic := by
  unfold subscription? setConnection
  rw [Keyed.get?_insert]
  split <;> rfl

theorem contains_setConnection (h : Hub) (c : ConnectionId) (connection : Connection)
    (d : ConnectionId) :
    (h.setConnection c connection).connections.contains d =
      (decide (d = c) || h.connections.contains d) := by
  unfold setConnection Keyed.contains
  simp only [Keyed.get?_insert]
  by_cases same : d = c <;> simp [same]

/-- A new connection has joined nothing. -/
theorem subscription?_connect (h : Hub) (identity : Identity) (d : ConnectionId) (topic : String) :
    (h.connect identity).1.subscription? d topic =
      if d = ⟨h.nextConnection⟩ then none else h.subscription? d topic :=
  subscription?_setConnection h ⟨h.nextConnection⟩ { identity } d topic

theorem contains_connect (h : Hub) (identity : Identity) (d : ConnectionId) :
    (h.connect identity).1.connections.contains d =
      (decide (d = ⟨h.nextConnection⟩) || h.connections.contains d) :=
  contains_setConnection h ⟨h.nextConnection⟩ { identity } d

/-- The hub without a connection. -/
def withoutConnection (h : Hub) (c : ConnectionId) : Hub :=
  { h with connections := h.connections.erase c }

theorem subscription?_withoutConnection (h : Hub) (c d : ConnectionId) (topic : String) :
    (h.withoutConnection c).subscription? d topic =
      if d = c then none else h.subscription? d topic := by
  unfold subscription? withoutConnection
  rw [Keyed.get?_erase]
  split <;> rfl

theorem contains_withoutConnection (h : Hub) (c d : ConnectionId) :
    (h.withoutConnection c).connections.contains d =
      (decide (d ≠ c) && h.connections.contains d) := by
  unfold withoutConnection Keyed.contains
  simp only [Keyed.get?_erase]
  by_cases same : d = c <;> simp [same]

/-- A connection without one of its topics. -/
def withoutTopic (h : Hub) (c : ConnectionId) (x : Connection) (topic : String) : Hub :=
  h.setConnection c { x with subscriptions := x.subscriptions.erase topic }

theorem subscription?_withoutTopic {x : Connection} (opened : h.connections.get? c = some x)
    (topic : String) (d : ConnectionId) (u : String) :
    (h.withoutTopic c x topic).subscription? d u =
      if d = c ∧ u = topic then none else h.subscription? d u := by
  rw [withoutTopic, subscription?_setConnection]
  by_cases same : d = c
  · rw [if_pos same, Keyed.get?_erase, same, subscription?_of_get? opened]
    simp
  · rw [if_neg same, if_neg fun both => same both.1]

/-- A connection with a topic more. -/
def withTopic (h : Hub) (c : ConnectionId) (x : Connection) (s : Subscription) : Hub :=
  h.setConnection c { x with subscriptions := x.subscriptions.insert s.topic s }

theorem subscription?_withTopic {x : Connection} (opened : h.connections.get? c = some x)
    (s : Subscription) (d : ConnectionId) (u : String) :
    (h.withTopic c x s).subscription? d u =
      if d = c ∧ u = s.topic then some s else h.subscription? d u := by
  rw [withTopic, subscription?_setConnection]
  by_cases same : d = c
  · rw [if_pos same, Keyed.get?_insert, same, subscription?_of_get? opened]
    simp
  · rw [if_neg same, if_neg fun both => same both.1]

/-- A connection that is open already can be put in place of itself. -/
theorem contains_setConnection_of_get? {x : Connection} (opened : h.connections.get? c = some x)
    (y : Connection) (d : ConnectionId) :
    (h.setConnection c y).connections.contains d = h.connections.contains d := by
  rw [contains_setConnection]
  by_cases same : d = c
  · subst same
    simp [contains_iff_get?.2 ⟨x, opened⟩]
  · simp [same]

/-- The subscription that a request needs is there when the request is not refused. -/
theorem requireSubscription_eq_ok {topic : String} {s : Subscription}
    (found : h.requireSubscription c topic = .ok s) : h.subscription? c topic = some s := by
  unfold requireSubscription at found
  unfold subscription?
  cases opened : h.connections.get? c with
  | none => simp [opened] at found
  | some connection =>
    cases joined : connection.subscriptions.get? topic with
    | none => simp [opened, joined] at found
    | some t =>
      obtain rfl : t = s := by simpa [opened, joined] using found
      simp [joined]

/-- Two hubs in which the same connections are open, with the same topics and the same presence. -/
structure SameTopics (h h' : Hub) : Prop where
  presence : h'.presence = h.presence
  nextConnection : h'.nextConnection = h.nextConnection
  contains : ∀ d, h'.connections.contains d = h.connections.contains d
  subscription? : ∀ d topic, h'.subscription? d topic = h.subscription? d topic

namespace SameTopics

theorem refl (h : Hub) : SameTopics h h := ⟨rfl, rfl, fun _ => rfl, fun _ _ => rfl⟩

/-- Hubs that differ in none of the fields for connections and presence. -/
theorem of_fields (connections : h'.connections = h.connections)
    (presence : h'.presence = h.presence) (next : h'.nextConnection = h.nextConnection) :
    SameTopics h h' where
  presence := presence
  nextConnection := next
  contains d := by rw [connections]
  subscription? d topic := by unfold Hub.subscription?; rw [connections]

theorem trans {h'' : Hub} (first : SameTopics h h') (second : SameTopics h' h'') :
    SameTopics h h'' where
  presence := second.presence.trans first.presence
  nextConnection := second.nextConnection.trans first.nextConnection
  contains d := (second.contains d).trans (first.contains d)
  subscription? d topic := (second.subscription? d topic).trans (first.subscription? d topic)

end SameTopics

/-- Presenting a token changes no topics. -/
theorem sameTopics_attach (h : Hub) (c : ConnectionId) (token : Option String) :
    SameTopics h (h.attach c token) := by
  unfold attach
  split
  next token connection opened =>
    split
    · refine ⟨rfl, rfl, contains_setConnection_of_get? opened _, ?_⟩
      intro d topic
      rw [subscription?_setConnection]
      split
      next same => rw [same, subscription?_of_get? opened]
      next => rfl
    · exact .refl h
  · exact .refl h

/-! ## §3 — offers -/

theorem framesFor_offerTo (h : Hub) (c d : ConnectionId) (frame : Frame) :
    framesFor d (h.offerTo c frame) =
      if d = c ∧ h.connections.contains c = true then [frame] else [] := by
  unfold offerTo
  cases h.connections.contains c with
  | false => simp
  | true => by_cases same : d = c <;> simp [framesFor, same, eq_comm]

/-- **A broadcast** reaches every connection on the topic but its origin, once. -/
theorem framesFor_broadcast (h : Hub) (origin d : ConnectionId) (topic : String) (frame : Frame) :
    framesFor d (h.broadcast origin topic frame) =
      if d ≠ origin ∧ (h.subscription? d topic).isSome = true then [frame] else [] := by
  let frame? (c : ConnectionId) (x : Connection) : Option Frame :=
    if c ≠ origin ∧ x.subscriptions.contains topic then some frame else none
  have each := framesFor_entries h.connections frame? d
  have same : h.broadcast origin topic frame = h.connections.entries.filterMap fun e =>
      (frame? e.1 e.2).map fun frame => ⟨e.1, frame⟩ := by
    refine congrArg (List.filterMap · _) (funext fun e => ?_)
    simp only [frame?]
    split <;> rfl
  rw [same]
  refine each.trans ?_
  unfold subscription?
  cases h.connections.get? d with
  | none => simp
  | some x =>
    show (if d ≠ origin ∧ x.subscriptions.contains topic then some frame else none).toList =
      if d ≠ origin ∧ x.subscriptions.contains topic then [frame] else []
    split <;> rfl

theorem framesFor_broadcastDiff (h : Hub) (origin d : ConnectionId) (topic : String) {diff : Diff}
    (filled : diff.isEmpty = false) :
    framesFor d (h.broadcastDiff origin topic diff) =
      if d ≠ origin ∧ (h.subscription? d topic).isSome = true then
        [.push topic presenceDiffEvent diff.value] else [] := by
  rw [broadcastDiff, if_neg (by simp [filled]), framesFor_broadcast]

/-- What a connection that has joined is told of the change feed. -/
def feedFrames (h : Hub) (topic : String) (filters : List ChangeFilter) : List Frame :=
  if filters.isEmpty then [] else [.push topic systemEvent h.feedStatus]

theorem feedFrames_no_diff (h : Hub) (topic : String) (filters : List ChangeFilter) :
    ∀ f ∈ h.feedFrames topic filters, f.event ≠ presenceDiffEvent := by
  intro f hf
  unfold feedFrames at hf
  split at hf
  · simp at hf
  · rw [List.mem_singleton.1 hf]
    exact (by decide : systemEvent ≠ presenceDiffEvent)

/-- **The frames of a join**: the reply, the state of the topic, and what there is to say of the feed. -/
theorem framesFor_joinOffers (h : Hub) (c d : ConnectionId) (frame : Frame)
    (filters : List ChangeFilter) :
    framesFor d (h.joinOffers c frame filters) =
      if d = c ∧ h.connections.contains c = true then
        frame.replyOk (.obj [("postgres_changes", .arr (filters.map ChangeFilter.describe))])
          :: .push frame.topic presenceStateEvent (h.presence.snapshot frame.topic)
          :: h.feedFrames frame.topic filters
      else [] := by
  rw [joinOffers, framesFor_append, framesFor_append, framesFor_offerTo, framesFor_offerTo, feedFrames]
  by_cases there : d = c ∧ h.connections.contains c = true
  · rw [if_pos there, if_pos there, if_pos there]
    split
    · rfl
    · rw [framesFor_offerTo, if_pos there]
      rfl
  · rw [if_neg there, if_neg there, if_neg there]
    split
    · rfl
    · rw [framesFor_offerTo, if_neg there]
      rfl

theorem silent_offerTo (h : Hub) (c : ConnectionId) {frame : Frame} (quiet : ¬ frame.IsPresence) :
    Silent (h.offerTo c frame) := by
  unfold offerTo
  split
  · intro o ho
    rw [List.mem_singleton.1 ho]
    exact quiet
  · exact .nil

theorem silent_acknowledge (h : Hub) (c : ConnectionId) (frame : Frame) :
    Silent (h.acknowledge c frame) :=
  silent_offerTo h c (Frame.not_isPresence_reply frame .ok _)

theorem silent_publish (h : Hub) (e : Feed.Event) : Silent (h.publish e) := by
  intro o ho
  obtain ⟨⟨d, x⟩, -, found⟩ := List.mem_filterMap.1 ho
  obtain ⟨frame, chosen, rfl⟩ := Option.map_eq_some_iff.1 found
  obtain ⟨s, -, admitted⟩ := List.exists_of_findSome?_eq_some chosen
  obtain ⟨id, -, rfl⟩ := Option.map_eq_some_iff.1 admitted
  exact Frame.not_isPresence_push (by decide) (by decide)

/-! ## §4 — the effects -/

/-- **What an action does to topics and presence**, the offers it makes, and the hub it leads to. -/
inductive Effect (h : Hub) : List Offer → Hub → Prop where
  /-- Topics and presence stay, and nobody is told of presence. -/
  | quiet {offers : List Offer} {h' : Hub} (same : SameTopics h h') (silent : Silent offers) :
      Effect h offers h'
  /-- A connection is opened. -/
  | connected (identity : Identity) : Effect h [] (h.connect identity).1
  /-- A connection is closed; the connection goes first. -/
  | disconnected (c : ConnectionId) (x : Connection) (opened : h.connections.get? c = some x) :
      Effect h ((h.withoutConnection c).releaseAll c x.subscriptions.values).2
        ((h.withoutConnection c).releaseAll c x.subscriptions.values).1
  /-- A connection joins a topic and is told who is there. -/
  | entered (c : ConnectionId) (x : Connection) (frame : Frame) (filters : List ChangeFilter)
      (key : String) {h' : Hub} (opened : h.connections.get? c = some x)
      (fresh : x.subscriptions.get? frame.topic = none)
      (same : SameTopics (h.withTopic c x ⟨frame.topic, filters, key⟩) h') :
      Effect h (h'.joinOffers c frame filters) h'
  /-- A connection leaves a topic. -/
  | left (c : ConnectionId) (x : Connection) (frame : Frame) (s : Subscription)
      (opened : h.connections.get? c = some x) (joined : x.subscriptions.get? frame.topic = some s) :
      Effect h
        ((h.withoutTopic c x frame.topic).acknowledge c frame
          ++ ((h.withoutTopic c x frame.topic).release c s).2)
        ((h.withoutTopic c x frame.topic).release c s).1
  /-- A connection tracks its presence. -/
  | tracked (c : ConnectionId) (frame : Frame) (s : Subscription) (metadata : List (String × Json))
      (joined : h.subscription? c frame.topic = some s) {presence : Presence.Table} {d : Diff}
      (new : h.presence.track frame.topic s.presenceKey c metadata = (presence, d)) :
      Effect h
        ({ h with presence }.acknowledge c frame ++ { h with presence }.broadcastDiff c frame.topic d)
        { h with presence }
  /-- A connection untracks its presence. -/
  | untracked (c : ConnectionId) (frame : Frame) (s : Subscription)
      (joined : h.subscription? c frame.topic = some s) {presence : Presence.Table} {d : Diff}
      (gone : h.presence.untrack frame.topic s.presenceKey c = some (presence, d)) :
      Effect h
        ({ h with presence }.acknowledge c frame ++ { h with presence }.broadcastDiff c frame.topic d)
        { h with presence }

/-! ## §5 — every action has an effect -/

/-- The effect of handling a frame: what its offers or its refusal come with. -/
def HandleEffect (h : Hub) : Hub × Except Refusal (List Offer) → Prop
  | (h', .ok offers) => Effect h offers h'
  | (h', .error _) => SameTopics h h'

/-- A step that changes nothing when it is refused. -/
theorem handleEffect_orUnchanged {r : Except Refusal (Hub × List Offer)}
    (accepted : ∀ h' offers, r = .ok (h', offers) → Effect h offers h') :
    HandleEffect h (h.orUnchanged r) := by
  cases r with
  | error refusal => exact SameTopics.refl h
  | ok step => exact accepted step.1 step.2 rfl

/-- **What leaving does** when it is not refused: the connection loses the topic, then releases it. -/
theorem leave_eq_ok {frame : Frame} {offers : List Offer} (ok : h.leave c frame = .ok (h', offers)) :
    ∃ x s, h.connections.get? c = some x ∧ x.subscriptions.get? frame.topic = some s ∧
      h' = ((h.withoutTopic c x frame.topic).release c s).1 ∧
      offers = (h.withoutTopic c x frame.topic).acknowledge c frame
        ++ ((h.withoutTopic c x frame.topic).release c s).2 := by
  unfold leave at ok
  cases opened : h.connections.get? c with
  | none => simp [opened] at ok
  | some x =>
    cases joined : x.subscriptions.get? frame.topic with
    | none => simp [opened, joined] at ok
    | some s =>
      simp only [opened, joined, Except.ok.injEq, Prod.mk.injEq] at ok
      obtain ⟨rfl, rfl⟩ := ok
      exact ⟨x, s, rfl, joined, rfl, rfl⟩

/-- **What tracking does** when it is not refused: the presence changes, and nothing else. -/
theorem track_eq_ok {frame : Frame} {metadata : List (String × Json)} {offers : List Offer}
    (ok : h.track c frame metadata = .ok (h', offers)) :
    ∃ s presence d, h.subscription? c frame.topic = some s ∧
      h.presence.track frame.topic s.presenceKey c metadata = (presence, d) ∧
      h' = { h with presence } ∧
      offers = { h with presence }.acknowledge c frame
        ++ { h with presence }.broadcastDiff c frame.topic d := by
  unfold track at ok
  cases found : h.requireSubscription c frame.topic with
  | error refusal =>
    rw [found] at ok
    exact absurd ok (by simp [bind, Except.bind])
  | ok s =>
    rw [found] at ok
    obtain ⟨rfl, rfl⟩ := Prod.mk.inj (Except.ok.inj ok)
    exact ⟨s, _, _, requireSubscription_eq_ok found, rfl, rfl, rfl⟩

/-- **What untracking does** when it is not refused: the presence changes, and nothing else. -/
theorem untrack_eq_ok {frame : Frame} {offers : List Offer}
    (ok : h.untrack c frame = .ok (h', offers)) :
    ∃ s presence d, h.subscription? c frame.topic = some s ∧
      h.presence.untrack frame.topic s.presenceKey c = some (presence, d) ∧
      h' = { h with presence } ∧
      offers = { h with presence }.acknowledge c frame
        ++ { h with presence }.broadcastDiff c frame.topic d := by
  unfold untrack at ok
  cases found : h.requireSubscription c frame.topic with
  | error refusal =>
    rw [found] at ok
    exact absurd ok (by simp [bind, Except.bind])
  | ok s =>
    rw [found] at ok
    simp only [bind, Except.bind] at ok
    cases gone : h.presence.untrack frame.topic s.presenceKey c with
    | none =>
      rw [gone] at ok
      exact absurd ok (by simp [throw, throwThe, MonadExceptOf.throw])
    | some step =>
      obtain ⟨presence, d⟩ := step
      rw [gone] at ok
      obtain ⟨rfl, rfl⟩ := Prod.mk.inj (Except.ok.inj ok)
      exact ⟨s, presence, d, requireSubscription_eq_ok found, gone, rfl, rfl⟩

theorem effect_leave {frame : Frame} {offers : List Offer}
    (ok : h.leave c frame = .ok (h', offers)) : Effect h offers h' := by
  obtain ⟨x, s, opened, joined, rfl, rfl⟩ := leave_eq_ok ok
  exact .left c x frame s opened joined

theorem effect_track {frame : Frame} {metadata : List (String × Json)} {offers : List Offer}
    (ok : h.track c frame metadata = .ok (h', offers)) : Effect h offers h' := by
  obtain ⟨s, presence, d, joined, new, rfl, rfl⟩ := track_eq_ok ok
  exact .tracked c frame s metadata joined new

theorem effect_untrack {frame : Frame} {offers : List Offer}
    (ok : h.untrack c frame = .ok (h', offers)) : Effect h offers h' := by
  obtain ⟨s, presence, d, joined, gone, rfl, rfl⟩ := untrack_eq_ok ok
  exact .untracked c frame s joined gone

theorem handleEffect_join (h : Hub) (c : ConnectionId) (frame : Frame) (j : JoinRequest) :
    HandleEffect h (h.join c frame j) := by
  unfold join
  -- The number of the next filter moves on whatever becomes of the join.
  generalize acceptFilters h.nextFilter j.changes = numbered
  obtain ⟨nextFilter, accepted⟩ := numbered
  have counted : SameTopics h { h with nextFilter } := .of_fields rfl rfl rfl
  cases accepted with
  | error refusal => exact counted
  | ok filters =>
    simp only [enter]
    cases opened : h.connections.get? c with
    | none => exact counted
    | some x =>
      simp only
      cases fresh : x.subscriptions.get? frame.topic with
      | some s =>
        rw [Keyed.contains, fresh]
        exact counted
      | none =>
        rw [Keyed.contains, fresh]
        refine Effect.entered c x frame filters (presenceKeyFor c j) opened fresh ?_
        refine .trans ?_ (sameTopics_attach _ c j.accessToken)
        exact .of_fields rfl rfl rfl

/-- **Handling a frame has an effect**, and a refusal leaves topics and presence as they are. -/
theorem handleEffect_handle (h : Hub) (c : ConnectionId) (frame : Frame) :
    HandleEffect h (h.handle c frame) := by
  unfold handle
  cases Request.ofFrame frame with
  | error refusal => exact SameTopics.refl h
  | ok request =>
    cases request with
    | join j => exact handleEffect_join h c frame j
    | leave => exact handleEffect_orUnchanged fun _ _ => effect_leave
    | heartbeat => exact Effect.quiet (.refl h) (silent_acknowledge h c frame)
    | attach token =>
      exact Effect.quiet (sameTopics_attach h c token) (silent_acknowledge _ c frame)
    | track metadata => exact handleEffect_orUnchanged fun _ _ => effect_track
    | untrack => exact handleEffect_orUnchanged fun _ _ => effect_untrack

theorem effect_handleText (h : Hub) (c : ConnectionId) (text : String) :
    Effect h (h.handleText c text).2 (h.handleText c text).1 := by
  unfold handleText
  cases Frame.read text with
  | error refusal => exact .quiet (.refl h) .nil
  | ok frame =>
    have effect := handleEffect_handle h c frame
    rcases handled : h.handle c frame with ⟨h', answer⟩
    rw [handled] at effect
    simp only [handled]
    cases answer with
    | ok offers => exact effect
    | error refusal =>
      refine .quiet effect ?_
      simp only
      split
      · exact .nil
      · exact silent_offerTo h' c (Frame.not_isPresence_reply frame .error _)

/-- **Every action has one of the effects.** -/
theorem effect_act (h : Hub) (a : Action) : Effect h (h.act a).2 (h.act a).1 := by
  cases a with
  | connect identity => exact .connected identity
  | disconnect c =>
    rw [act, disconnect]
    cases opened : h.connections.get? c with
    | none => exact .quiet (.refl h) .nil
    | some x => exact .disconnected c x opened
  | text c text => exact effect_handleText h c text
  | frame c frame =>
    have effect := handleEffect_handle h c frame
    rcases handled : h.handle c frame with ⟨h', answer⟩
    rw [handled] at effect
    simp only [act, handled]
    cases answer with
    | ok offers => exact effect
    | error refusal => exact .quiet effect .nil
  | publish e => exact .quiet (.refl h) (silent_publish h e)
  | attachFeed | feedChanged | clock => exact .quiet (.of_fields rfl rfl rfl) .nil
  | receive | drain | closeQueue => exact .quiet (.refl h) .nil

end Hub

end Gateway.Channel
