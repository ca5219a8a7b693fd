import Gateway.Proofs.Channel.Effect
import Gateway.Proofs.Presence.Table

/-!
# Presence stays within subscriptions

`Hub.Consistent` ties presence to subscriptions: whoever is present on a topic has joined it, under the
key that its subscription names. It also says that subscriptions are filed under their topics, that the
table is well-formed and that connections are numbered below the next one. Every effect keeps it
(`Consistent.effect`), so it holds after every run from a fresh server (`consistent_run`).

The step that carries the invariant is the release of subscriptions: `mem_entriesAt_releaseAll` says
exactly which entries stay, and those of a connection that goes are the ones that its subscriptions name.
-/

namespace Gateway.Channel

open Presence (Entry Table)

namespace Hub

variable {h h' : Hub} {c : ConnectionId}

/-! ## §1 — releasing subscriptions -/

@[simp] theorem connections_release (h : Hub) (c : ConnectionId) (s : Subscription) :
    (h.release c s).1.connections = h.connections := by
  unfold release
  split <;> rfl

@[simp] theorem nextConnection_release (h : Hub) (c : ConnectionId) (s : Subscription) :
    (h.release c s).1.nextConnection = h.nextConnection := by
  unfold release
  split <;> rfl

theorem wellFormed_release (wf : h.presence.WellFormed) (c : ConnectionId) (s : Subscription) :
    (h.release c s).1.presence.WellFormed := by
  unfold release
  split
  · exact wf
  next found => exact wf.untrack found

/-- **A release** takes away the entry of the connection under the key of the subscription. -/
theorem mem_entriesAt_release (wf : h.presence.WellFormed) (c : ConnectionId) (s : Subscription)
    {topic key : String} {e : Entry} :
    e ∈ (h.release c s).1.presence.entriesAt topic key ↔
      e ∈ h.presence.entriesAt topic key ∧
        ¬ (e.connection = c ∧ s.topic = topic ∧ s.presenceKey = key) := by
  unfold release
  split
  next none =>
    refine ⟨fun he => ⟨he, ?_⟩, And.left⟩
    rintro ⟨same, rfl, rfl⟩
    have absent := List.find?_eq_none.1 (Table.untrack_eq_none_iff.1 none) e he
    simp [same] at absent
  next presence d found =>
    rw [Table.entriesAt_untrack found]
    split
    next same =>
      obtain ⟨rfl, rfl⟩ := same
      rw [Table.withoutEntryOf_eq_filter (wf.listed _ _).connections, List.mem_filter]
      simp
    next differs =>
      refine ⟨fun he => ⟨he, ?_⟩, And.left⟩
      rintro ⟨-, rfl, rfl⟩
      exact differs ⟨rfl, rfl⟩

@[simp] theorem connections_releaseAll (h : Hub) (c : ConnectionId) (subs : List Subscription) :
    (h.releaseAll c subs).1.connections = h.connections := by
  induction subs generalizing h with
  | nil => rfl
  | cons s rest ih => exact (ih _).trans (connections_release h c s)

@[simp] theorem nextConnection_releaseAll (h : Hub) (c : ConnectionId) (subs : List Subscription) :
    (h.releaseAll c subs).1.nextConnection = h.nextConnection := by
  induction subs generalizing h with
  | nil => rfl
  | cons s rest ih => exact (ih _).trans (nextConnection_release h c s)

theorem wellFormed_releaseAll (wf : h.presence.WellFormed) (c : ConnectionId)
    (subs : List Subscription) : (h.releaseAll c subs).1.presence.WellFormed := by
  induction subs generalizing h with
  | nil => exact wf
  | cons s rest ih => exact ih (wellFormed_release wf c s)

/-- **Releasing several subscriptions** takes away the entries of the connection that they name. -/
theorem mem_entriesAt_releaseAll (wf : h.presence.WellFormed) (c : ConnectionId)
    (subs : List Subscription) {topic key : String} {e : Entry} :
    e ∈ (h.releaseAll c subs).1.presence.entriesAt topic key ↔
      e ∈ h.presence.entriesAt topic key ∧
        ¬ (e.connection = c ∧ ∃ s ∈ subs, s.topic = topic ∧ s.presenceKey = key) := by
  induction subs generalizing h with
  | nil => simp [releaseAll]
  | cons s rest ih =>
    refine (ih (wellFormed_release wf c s)).trans ?_
    rw [mem_entriesAt_release wf, and_assoc, ← not_or]
    simp only [List.mem_cons, exists_eq_or_imp, and_or_left]

/-! ## §2 — the invariant -/

/-- **Presence stays within subscriptions.** -/
structure Consistent (h : Hub) : Prop where
  presence : h.presence.WellFormed
  /-- Who is present on a topic has joined it, under the key of its subscription. -/
  tracked : ∀ topic key, ∀ e ∈ h.presence.entriesAt topic key,
    ∃ s, h.subscription? e.connection topic = some s ∧ s.presenceKey = key
  /-- A subscription is filed under its topic. -/
  filed : ∀ c topic s, h.subscription? c topic = some s → s.topic = topic
  /-- The next connection is none of the open ones. -/
  numbered : ∀ c, h.connections.contains c = true → c.number < h.nextConnection

namespace Consistent

theorem congr (inv : h.Consistent) (same : SameTopics h h') : h'.Consistent where
  presence := same.presence ▸ inv.presence
  tracked topic key e he := by
    rw [same.subscription?]
    exact inv.tracked topic key e (same.presence ▸ he)
  filed c topic s found := inv.filed c topic s (same.subscription? c topic ▸ found)
  numbered c opened := by
    rw [same.nextConnection]
    exact inv.numbered c (same.contains c ▸ opened)

/-- A new connection is not yet present anywhere. -/
theorem connect (inv : h.Consistent) (identity : Auth.Identity) :
    (h.connect identity).1.Consistent where
  presence := inv.presence
  tracked topic key e he := by
    obtain ⟨s, found, named⟩ := inv.tracked topic key e he
    have below := inv.numbered _ (contains_of_subscription? found)
    have other : e.connection ≠ ⟨h.nextConnection⟩ := fun same => by simp [same] at below
    exact ⟨s, by rw [subscription?_connect, if_neg other, found], named⟩
  filed c topic s found := by
    rw [subscription?_connect] at found
    split at found
    · simp at found
    · exact inv.filed c topic s found
  numbered c opened := by
    rw [contains_connect, Bool.or_eq_true, decide_eq_true_eq] at opened
    show c.number < h.nextConnection + 1
    rcases opened with rfl | opened
    · exact Nat.lt_succ_self _
    · exact Nat.lt_succ_of_lt (inv.numbered c opened)

/-- Presence that changes within the subscriptions. -/
theorem withPresence (inv : h.Consistent) {presence : Table} (wf : presence.WellFormed)
    (tracked : ∀ topic key, ∀ e ∈ presence.entriesAt topic key,
      ∃ s, h.subscription? e.connection topic = some s ∧ s.presenceKey = key) :
    ({ h with presence } : Hub).Consistent :=
  ⟨wf, tracked, inv.filed, inv.numbered⟩

theorem track (inv : h.Consistent) {topic : String} {s : Subscription}
    (joined : h.subscription? c topic = some s) (metadata : List (String × Json)) :
    ({ h with presence := (h.presence.track topic s.presenceKey c metadata).1 } : Hub).Consistent := by
  apply inv.withPresence (inv.presence.track topic s.presenceKey c metadata)
  intro u k e he
  rw [Table.entriesAt_track] at he
  split at he
  next same =>
    obtain ⟨rfl, rfl⟩ := same
    rcases List.mem_append.1 he with he | he
    · exact inv.tracked _ _ e (List.mem_of_mem_eraseP he)
    · rw [List.mem_singleton.1 he]
      exact ⟨s, joined, rfl⟩
  next => exact inv.tracked u k e he

theorem untrack (inv : h.Consistent) {topic key : String} {presence : Table} {d : Presence.Diff}
    (gone : h.presence.untrack topic key c = some (presence, d)) :
    ({ h with presence } : Hub).Consistent := by
  apply inv.withPresence (inv.presence.untrack gone)
  intro u k e he
  rw [Table.entriesAt_untrack gone] at he
  split at he
  next same =>
    obtain ⟨rfl, rfl⟩ := same
    exact inv.tracked _ _ e (List.mem_of_mem_eraseP he)
  next => exact inv.tracked u k e he

/-- A connection that joins a topic it has not joined. -/
theorem enter (inv : h.Consistent) {x : Connection} (opened : h.connections.get? c = some x)
    {s : Subscription} (fresh : x.subscriptions.get? s.topic = none) :
    (h.withTopic c x s).Consistent where
  presence := inv.presence
  tracked topic key e he := by
    obtain ⟨t, found, named⟩ := inv.tracked topic key e he
    have other : ¬ (e.connection = c ∧ topic = s.topic) := by
      rintro ⟨rfl, rfl⟩
      rw [subscription?_of_get? opened, fresh] at found
      simp at found
    exact ⟨t, by rw [subscription?_withTopic opened, if_neg other, found], named⟩
  filed d topic t found := by
    rw [subscription?_withTopic opened] at found
    split at found
    next same => exact Option.some.inj found ▸ same.2.symm
    next => exact inv.filed d topic t found
  numbered d isOpen := inv.numbered d (contains_setConnection_of_get? opened _ d ▸ isOpen)

/-- A connection that leaves a topic takes its presence there with it. -/
theorem leave (inv : h.Consistent) {x : Connection} (opened : h.connections.get? c = some x)
    {topic : String} {s : Subscription} (joined : x.subscriptions.get? topic = some s) :
    ((h.withoutTopic c x topic).release c s).1.Consistent := by
  have here : h.subscription? c topic = some s := (subscription?_of_get? opened topic).trans joined
  have subs : ∀ d u, ((h.withoutTopic c x topic).release c s).1.subscription? d u =
      if d = c ∧ u = topic then none else h.subscription? d u := fun d u => by
    rw [← subscription?_withoutTopic opened, subscription?, connections_release, subscription?]
  have wf : (h.withoutTopic c x topic).presence.WellFormed := inv.presence
  refine ⟨wellFormed_release wf c s, ?_, ?_, ?_⟩
  · intro u k e he
    rw [mem_entriesAt_release wf] at he
    obtain ⟨t, found, named⟩ := inv.tracked u k e he.1
    have other : ¬ (e.connection = c ∧ u = topic) := by
      rintro ⟨rfl, rfl⟩
      obtain rfl := Option.some.inj (here.symm.trans found)
      exact he.2 ⟨rfl, inv.filed _ _ _ here, named⟩
    exact ⟨t, by rw [subs, if_neg other, found], named⟩
  · intro d u t found
    rw [subs] at found
    split at found
    · simp at found
    · exact inv.filed d u t found
  · intro d isOpen
    rw [nextConnection_release]
    rw [connections_release] at isOpen
    exact inv.numbered d (contains_setConnection_of_get? opened _ d ▸ isOpen)

/-- A connection that closes takes all its presence with it. -/
theorem disconnect (inv : h.Consistent) {x : Connection} (opened : h.connections.get? c = some x) :
    ((h.withoutConnection c).releaseAll c x.subscriptions.values).1.Consistent := by
  have subs : ∀ d u, ((h.withoutConnection c).releaseAll c x.subscriptions.values).1.subscription? d u =
      if d = c then none else h.subscription? d u := fun d u => by
    rw [← subscription?_withoutConnection, subscription?, connections_releaseAll, subscription?]
  have wf : (h.withoutConnection c).presence.WellFormed := inv.presence
  refine ⟨wellFormed_releaseAll wf c _, fun u k e he => ?_, fun d u t found => ?_,
    fun d isOpen => ?_⟩
  · rw [mem_entriesAt_releaseAll wf] at he
    obtain ⟨t, found, named⟩ := inv.tracked u k e he.1
    have other : e.connection ≠ c := by
      rintro rfl
      have filed := inv.filed _ _ _ found
      rw [subscription?_of_get? opened] at found
      have mem : t ∈ x.subscriptions.values :=
        List.mem_map.2 ⟨(u, t), Keyed.mem_entries_iff.2 found, rfl⟩
      exact he.2 ⟨rfl, t, mem, filed, named⟩
    exact ⟨t, by rw [subs, if_neg other, found], named⟩
  · rw [subs] at found
    split at found
    · simp at found
    · exact inv.filed d u t found
  · rw [nextConnection_releaseAll]
    rw [connections_releaseAll, contains_withoutConnection, Bool.and_eq_true] at isOpen
    exact inv.numbered d isOpen.2

/-- **Every effect keeps presence within subscriptions.** -/
theorem effect (inv : h.Consistent) {offers : List Offer} (e : Effect h offers h') :
    h'.Consistent := by
  cases e with
  | quiet same => exact inv.congr same
  | connected identity => exact inv.connect identity
  | disconnected c x opened => exact inv.disconnect opened
  | entered c x frame filters key opened fresh same => exact (inv.enter opened fresh).congr same
  | left c x frame s opened joined => exact inv.leave opened joined
  | tracked c frame s metadata joined new =>
    have kept := inv.track joined metadata
    rwa [new] at kept
  | untracked c frame s joined gone => exact inv.untrack gone

/-- A fresh hub is consistent. -/
theorem fresh (verifier : Auth.Verifier) : ({ verifier } : Hub).Consistent where
  presence := Table.wellFormed_empty
  tracked topic key e he := by simp [Table.entriesAt, Table.keysOf] at he
  filed c topic s found := by simp [subscription?] at found
  numbered c opened := by simp [Keyed.contains] at opened

end Consistent

/-- No effect gives a number back. -/
theorem Effect.nextConnection_le {offers : List Offer} (e : Effect h offers h') :
    h.nextConnection ≤ h'.nextConnection := by
  cases e with
  | quiet same => exact Nat.le_of_eq same.nextConnection.symm
  | connected identity => exact Nat.le_succ _
  | disconnected c x opened =>
    have kept := nextConnection_releaseAll (h.withoutConnection c) c x.subscriptions.values
    exact Nat.le_of_eq kept.symm
  | entered c x frame filters key opened fresh same => exact Nat.le_of_eq same.nextConnection.symm
  | left c x frame s opened joined =>
    have kept := nextConnection_release (h.withoutTopic c x frame.topic) c s
    exact Nat.le_of_eq kept.symm
  | tracked | untracked => exact Nat.le_refl _

end Hub

/-! ## §3 — along a run -/

namespace Server

/-- A step keeps presence within subscriptions. -/
theorem consistent_step {s : Server} (inv : s.hub.Consistent) (a : Action) :
    (s.step a).hub.Consistent := by
  rw [hub_step]
  exact inv.effect (Hub.effect_act s.hub a)

/-- **Along a run presence stays within subscriptions.** -/
theorem consistent_run {s : Server} (inv : s.hub.Consistent) (actions : List Action) :
    (s.run actions).hub.Consistent := by
  induction actions generalizing s with
  | nil => exact inv
  | cons a rest ih => exact ih (consistent_step inv a)

/-- **What a queue receives in the course of a run reaches its reader in the same order**, or still
waits, as long as the reader does not go. -/
theorem taken_append_waitingFor {s : Server} {c : ConnectionId}
    (numbered : c.number < s.hub.nextConnection) {actions : List Action}
    (reading : ∀ a ∈ actions, a ≠ .closeQueue c) :
    s.taken c actions ++ (s.run actions).waitingFor c = s.waitingFor c ++ s.received c actions := by
  induction actions generalizing s with
  | nil => simp [taken, received]
  | cons a rest ih =>
    have numbered' : c.number < (s.step a).hub.nextConnection := by
      rw [hub_step]
      exact Nat.lt_of_lt_of_le numbered (Hub.effect_act s.hub a).nextConnection_le
    have later := ih numbered' fun b hb => reading b (List.mem_cons_of_mem _ hb)
    have now := s.takes_append_waitingFor c numbered (reading a (List.mem_cons_self ..))
    calc s.taken c (a :: rest) ++ (s.run (a :: rest)).waitingFor c
        = s.takes c a ++ ((s.step a).taken c rest ++ ((s.step a).run rest).waitingFor c) :=
          List.append_assoc ..
      _ = s.takes c a ++ (s.step a).waitingFor c ++ (s.step a).received c rest := by
          rw [later, List.append_assoc]
      _ = s.waitingFor c ++ s.received c (a :: rest) := by rw [now, List.append_assoc, received]

end Server

end Gateway.Channel
