import Gateway.Proofs.Channel.Registry

/-!
# What others are told of a connection that goes

A connection that is closed releases its subscriptions one after the other. They are filed under different
topics, so what is offered under one topic comes from one release (`filter_framesFor_releaseAll`), and
`Hub.Farewell` says what it is: one difference to each other member of a topic on which the connection was
present, and nothing else.

A connection that is closed is gone for good: no action brings it back (`Effect.opens`).
-/

namespace Gateway.Channel

open Presence (Diff Entry Table)

namespace Hub

variable {h h' : Hub} {c d : ConnectionId} {topic : String}

/-! ## §1 — one release -/

/-- **A release tells the other members** of the entry that it takes away. -/
theorem framesFor_release (h : Hub) (c d : ConnectionId) (s : Subscription) :
    framesFor d (h.release c s).2 =
      if d ≠ c ∧ (h.subscription? d s.topic).isSome = true then
        (Table.entryOf? (h.presence.entriesAt s.topic s.presenceKey) c).toList.map fun gone =>
          .push s.topic presenceDiffEvent (Diff.value ⟨s.presenceKey, some gone, none⟩)
      else [] := by
  unfold release
  cases untracked : h.presence.untrack s.topic s.presenceKey c with
  | none =>
    rw [Table.untrack_eq_none_iff.1 untracked]
    exact (ite_self _).symm
  | some change =>
    obtain ⟨presence, diff⟩ := change
    obtain ⟨gone, found, rfl, -⟩ := Table.untrack_eq_some untracked
    have filled : (⟨s.presenceKey, some gone, none⟩ : Diff).isEmpty = false := rfl
    rw [found]
    exact framesFor_broadcastDiff { h with presence } c d s.topic filled

theorem topic_of_mem_framesFor_release {s : Subscription} {f : Frame}
    (mem : f ∈ framesFor d (h.release c s).2) : f.topic = s.topic := by
  rw [framesFor_release] at mem
  split at mem
  · obtain ⟨gone, -, rfl⟩ := List.mem_map.1 mem
    rfl
  · exact absurd mem List.not_mem_nil

/-- A release leaves what another one tells of another topic. -/
theorem framesFor_release_release {s t : Subscription} (other : t.topic ≠ s.topic) :
    framesFor d ((h.release c s).1.release c t).2 = framesFor d (h.release c t).2 := by
  have subs : (h.release c s).1.subscription? d t.topic = h.subscription? d t.topic := by
    rw [subscription?, connections_release, subscription?]
  have entries : (h.release c s).1.presence.entriesAt t.topic t.presenceKey =
      h.presence.entriesAt t.topic t.presenceKey := by
    unfold release
    split
    · rfl
    next found => exact (Table.entriesAt_untrack found ..).trans (if_neg fun same => other same.1)
  rw [framesFor_release, framesFor_release, subs, entries]

/-! ## §2 — all of them -/

/-- **What is told of a topic comes from the one subscription to it.** -/
theorem filter_framesFor_releaseAll (h : Hub) (c d : ConnectionId) (topic : String)
    {subs : List Subscription} (distinct : (subs.map (·.topic)).Nodup) :
    (framesFor d (h.releaseAll c subs).2).filter (·.topic = topic) =
      ((subs.find? (·.topic = topic)).map fun s => framesFor d (h.release c s).2).getD [] := by
  induction subs generalizing h with
  | nil => rfl
  | cons s rest ih =>
    rw [List.map_cons, List.nodup_cons] at distinct
    have here : (framesFor d (h.release c s).2).filter (·.topic = topic) =
        if s.topic = topic then framesFor d (h.release c s).2 else [] := by
      split
      next same =>
        rw [List.filter_eq_self]
        intro f mem
        simpa using (topic_of_mem_framesFor_release mem).trans same
      next other =>
        rw [List.filter_eq_nil_iff]
        intro f mem named
        exact other ((topic_of_mem_framesFor_release mem).symm.trans (by simpa using named))
    show (framesFor d ((h.release c s).2 ++ ((h.release c s).1.releaseAll c rest).2)).filter _ = _
    rw [framesFor_append, List.filter_append, here, ih (h.release c s).1 distinct.2]
    by_cases same : s.topic = topic
    · have none : rest.find? (·.topic = topic) = none := by
        rw [List.find?_eq_none]
        intro t mem named
        have again : t.topic = s.topic := (by simpa using named : t.topic = topic).trans same.symm
        exact distinct.1 (again ▸ List.mem_map_of_mem mem)
      rw [if_pos same, List.find?_cons_of_pos (by simpa using same), none]
      exact List.append_nil _
    · rw [if_neg same, List.find?_cons_of_neg (by simpa using same), List.nil_append]
      cases found : rest.find? (·.topic = topic) with
      | none => rfl
      | some t =>
        have named : t.topic = topic := by simpa using List.find?_some found
        exact framesFor_release_release fun again => same (again.symm.trans named)

/-- The subscriptions of a connection are filed under their topics, so there is one for each. -/
theorem Consistent.nodup_topics (inv : h.Consistent) {x : Connection}
    (opened : h.connections.get? c = some x) : (x.subscriptions.values.map (·.topic)).Nodup := by
  have filed : x.subscriptions.values.map (·.topic) = x.subscriptions.entries.map (·.1) := by
    rw [Keyed.values, List.map_map]
    refine List.map_congr_left fun e mem => ?_
    have found := (subscription?_of_get? opened e.1).trans (Keyed.mem_entries_iff.1 mem)
    exact inv.filed c e.1 e.2 found
  exact filed ▸ x.subscriptions.nodup

theorem Consistent.find?_topic (inv : h.Consistent) {x : Connection}
    (opened : h.connections.get? c = some x) (topic : String) :
    x.subscriptions.values.find? (·.topic = topic) = h.subscription? c topic := by
  have named {s : Subscription} (mem : s ∈ x.subscriptions.values) :
      h.subscription? c s.topic = some s := by
    obtain ⟨u, joined⟩ := Keyed.mem_values_iff.1 mem
    have found := (subscription?_of_get? opened u).trans joined
    rw [inv.filed c u s found]
    exact found
  cases found : x.subscriptions.values.find? (·.topic = topic) with
  | some s =>
    obtain rfl : s.topic = topic := by simpa using List.find?_some found
    exact (named (List.mem_of_find?_eq_some found)).symm
  | none =>
    symm
    rw [Option.eq_none_iff_forall_ne_some]
    intro s joined
    have mem : s ∈ x.subscriptions.values :=
      Keyed.mem_values_iff.2 ⟨topic, (subscription?_of_get? opened topic).symm.trans joined⟩
    exact List.find?_eq_none.1 found s mem (by simpa using inv.filed c topic s joined)

/-- What is told of a topic when a connection is closed: what the release of its subscription tells. -/
theorem Consistent.filter_framesFor_disconnect (inv : h.Consistent) (c d : ConnectionId)
    (topic : String) : (framesFor d (h.disconnect c).2).filter (·.topic = topic) =
      ((h.subscription? c topic).map fun s =>
        framesFor d ((h.withoutConnection c).release c s).2).getD [] := by
  unfold Hub.disconnect
  cases opened : h.connections.get? c with
  | none =>
    rw [subscription?, opened]
    rfl
  | some x =>
    rw [← inv.find?_topic opened]
    exact filter_framesFor_releaseAll (h.withoutConnection c) c d topic (inv.nodup_topics opened)

/-! ## §3 — farewell -/

/-- **What is told when a connection is closed**: one difference to each other member of each topic on
which it is present, and nothing else. -/
structure Farewell (h : Hub) (c : ConnectionId) : Prop where
  told : ∀ d topic key e, d ≠ c → h.topicState d topic = .joined →
    e ∈ h.presence.entriesAt topic key → e.connection = c →
    (framesFor d (h.disconnect c).2).filter (·.topic = topic) =
      [.push topic presenceDiffEvent (Diff.value ⟨key, some e, none⟩)]
  untold : ∀ d topic, (d = c ∨ h.topicState d topic = .left ∨
      ∀ e ∈ h.presence.entriesOn topic, e.connection ≠ c) →
    (framesFor d (h.disconnect c).2).filter (·.topic = topic) = []

/-- Where a connection has at most one entry, it is found. -/
theorem entryOf?_of_mem {entries : List Entry} (nodup : (entries.map (·.connection)).Nodup) {e : Entry}
    (mem : e ∈ entries) : Table.entryOf? entries e.connection = some e := by
  cases found : Table.entryOf? entries e.connection with
  | none => simpa using List.find?_eq_none.1 found e mem
  | some other =>
    obtain ⟨there, same⟩ := Table.entryOf?_eq_some found
    rw [List.inj_on_of_nodup_map nodup there mem same]

/-- **The others are told once of each topic**, and of no other. -/
theorem Consistent.farewell (inv : h.Consistent) (c : ConnectionId) : h.Farewell c where
  told d topic key e other joined mem mine := by
    subst mine
    obtain ⟨s, found, rfl⟩ := inv.tracked topic key e mem
    obtain rfl := inv.filed _ _ _ found
    obtain ⟨t, member⟩ := topicState_eq_joined_iff.1 joined
    have stays : (h.withoutConnection e.connection).subscription? d s.topic = some t := by
      rw [subscription?_withoutConnection, if_neg other, member]
    have entry := entryOf?_of_mem (inv.presence.listed s.topic s.presenceKey).connections mem
    rw [inv.filter_framesFor_disconnect, found, Option.map_some, Option.getD_some, framesFor_release,
      stays, if_pos ⟨other, rfl⟩]
    show ((Table.entryOf? (h.presence.entriesAt s.topic s.presenceKey) e.connection).toList.map _) = _
    rw [entry]
    rfl
  untold d topic away := by
    rw [inv.filter_framesFor_disconnect]
    cases found : h.subscription? c topic with
    | none => rfl
    | some s =>
      obtain rfl := inv.filed c topic s found
      rw [Option.map_some, Option.getD_some, framesFor_release, subscription?_withoutConnection]
      rcases away with rfl | left | absent
      · exact if_neg fun both => both.1 rfl
      · rw [topicState_eq_left_iff.1 left, ite_self]
        exact if_neg fun both => nomatch both.2
      · have none : Table.entryOf? (h.presence.entriesAt s.topic s.presenceKey) c = none := by
          refine List.find?_eq_none.2 fun e mem => ?_
          simpa using absent e (mem_entriesOn_iff.2 ⟨_, mem⟩)
        show (if _ then ((Table.entryOf? (h.presence.entriesAt s.topic s.presenceKey) c).toList.map _)
          else _) = _
        rw [none]
        exact ite_self _

/-! ## §4 — gone for good -/

/-- A connection that is open after an effect was open before, or is the new one. -/
theorem Effect.opens {offers : List Offer} (e : Effect h offers h')
    (opened : h'.connections.contains c = true) :
    h.connections.contains c = true ∨ c = ⟨h.nextConnection⟩ := by
  cases e with
  | quiet same => exact .inl (same.contains c ▸ opened)
  | connected identity =>
    rw [contains_connect, Bool.or_eq_true, decide_eq_true_eq] at opened
    exact opened.symm
  | disconnected d x _ =>
    rw [connections_releaseAll, contains_withoutConnection, Bool.and_eq_true] at opened
    exact .inl opened.2
  | entered d x frame filters key there _ same =>
    rw [same.contains, withTopic, contains_setConnection_of_get? there] at opened
    exact .inl opened
  | left d x frame s there _ =>
    rw [connections_release, withoutTopic, contains_setConnection_of_get? there] at opened
    exact .inl opened
  | tracked | untracked => exact .inl opened

theorem contains_disconnect (h : Hub) (c : ConnectionId) :
    (h.disconnect c).1.connections.contains c = false := by
  unfold disconnect
  cases opened : h.connections.get? c with
  | none =>
    rw [Keyed.contains, opened]
    rfl
  | some x =>
    show ((h.withoutConnection c).releaseAll c x.subscriptions.values).1.connections.contains c = false
    rw [connections_releaseAll, contains_withoutConnection]
    simp

/-- Without an open connection there is no subscription. -/
theorem subscription?_of_not_contains (gone : h.connections.contains c = false) (topic : String) :
    h.subscription? c topic = none := by
  have none : h.connections.get? c = none := by simpa [Keyed.contains] using gone
  rw [subscription?, none]
  rfl

/-- **A connection is gone**: it is not open, and its number will not be given again. -/
structure Gone (h : Hub) (c : ConnectionId) : Prop where
  closed : h.connections.contains c = false
  numbered : c.number < h.nextConnection

/-- No action brings a connection back. -/
theorem Gone.act (gone : h.Gone c) (a : Action) : (h.act a).1.Gone c where
  closed := by
    rw [Bool.eq_false_iff]
    intro opened
    rcases (effect_act h a).opens opened with before | rfl
    · rw [gone.closed] at before
      cases before
    · exact Nat.lt_irrefl _ gone.numbered
  numbered := Nat.lt_of_lt_of_le gone.numbered (effect_act h a).nextConnection_le

end Hub

namespace Server

/-- A run gives no number back. -/
theorem nextConnection_le_run (s : Server) (actions : List Action) :
    s.hub.nextConnection ≤ (s.run actions).hub.nextConnection := by
  induction actions generalizing s with
  | nil => exact Nat.le_refl _
  | cons a rest ih =>
    refine Nat.le_trans ?_ (ih (s.step a))
    rw [hub_step]
    exact (Hub.effect_act s.hub a).nextConnection_le

/-- **A connection that is gone stays gone.** -/
theorem gone_run {s : Server} {c : ConnectionId} (gone : s.hub.Gone c) (actions : List Action) :
    (s.run actions).hub.Gone c := by
  induction actions generalizing s with
  | nil => exact gone
  | cons a rest ih =>
    refine ih ?_
    rw [hub_step]
    exact gone.act a

end Server

end Gateway.Channel
