import Gateway.Proofs.Channel.Enrolment
import Mathlib.Data.List.Nodup

/-!
# Connections, subscriptions, presence and change filters stay in step

The hub files subscriptions under connections and presence under topics, and numbers the change filters
of all connections together. `Hub.InStep` says how these agree: nobody is present without a subscription
that names the key, nobody is present twice on a topic, nothing empty is kept, a subscription is filed
under its topic, and no two live change filters have the same number.

What presence owes to subscriptions is `Hub.Consistent`. The numbers are `Hub.Numbered`: an action gives
new numbers only to the filters of the one subscription that it enters (`Numbered.act`). A connection
that has no subscription to a topic is present nowhere on it and hears of no change under it
(`Hub.Absent`), so closing a connection and leaving a topic leave nothing behind.
-/

namespace Gateway

/-! ## §1 — the values of a keyed list -/

/-- What the values of a keyed list hold, key by key, has no duplicate when no value has one and the
values of different keys have nothing in common. -/
theorem Keyed.nodup_flatMap_values {κ α β : Type} [DecidableEq κ] (t : Keyed κ α) (held : α → List β)
    (each : ∀ k a, t.get? k = some a → (held a).Nodup)
    (apart : ∀ k a l b, t.get? k = some a → t.get? l = some b → k ≠ l →
      List.Disjoint (held a) (held b)) : (t.values.flatMap held).Nodup := by
  rw [List.nodup_flatMap]
  constructor
  · intro a ha
    obtain ⟨⟨k, a⟩, mem, rfl⟩ := List.mem_map.1 ha
    exact each k a (mem_entries_iff.1 mem)
  · have keys : t.entries.Pairwise fun e f => e.1 ≠ f.1 := List.pairwise_map.1 t.nodup
    rw [values, List.pairwise_map]
    refine keys.imp_of_mem fun {e f} he hf different => ?_
    exact apart e.1 e.2 f.1 f.2 (mem_entries_iff.1 he) (mem_entries_iff.1 hf) different

/-- A value of a keyed list is that of one of its keys. -/
theorem Keyed.mem_values_iff {κ α : Type} [DecidableEq κ] {t : Keyed κ α} {a : α} :
    a ∈ t.values ↔ ∃ k, t.get? k = some a := by
  simp only [values, List.mem_map, Prod.exists, exists_eq_right, mem_entries_iff]

namespace Channel

open Presence (Entry Table)

/-! ## §2 — numbers of change filters -/

namespace Hub

variable {h : Hub} {a : Action}

/-- **Live change filters have numbers of their own**, all below the next one. -/
structure Numbered (h : Hub) : Prop where
  nodup : ∀ c topic s, h.subscription? c topic = some s → (s.filters.map (·.id)).Nodup
  below : ∀ c topic s, h.subscription? c topic = some s → ∀ f ∈ s.filters, f.id < h.nextFilter
  /-- Two filters of the same number belong to one subscription. -/
  owner : ∀ c topic s d u t, h.subscription? c topic = some s → h.subscription? d u = some t →
    ∀ f ∈ s.filters, ∀ g ∈ t.filters, f.id = g.id → c = d ∧ topic = u

/-- The filters of a subscription that is entered have the numbers from the next one on. -/
theorem Enters.le_id {c : ConnectionId} {topic : String} {s : Subscription}
    (enters : h.Enters a c topic s) {f : ChangeFilter} (hf : f ∈ s.filters) :
    h.nextFilter ≤ f.id ∧ f.id < (h.act a).1.nextFilter := by
  have mem : f.id ∈ s.filters.map (·.id) := List.mem_map_of_mem hf
  rw [enters.ids, List.mem_range'_1] at mem
  rw [enters.next]
  exact mem

/-- An action enters one subscription at most. -/
theorem Enters.unique {c d : ConnectionId} {topic u : String} {s t : Subscription}
    (first : h.Enters a c topic s) (second : h.Enters a d u t) : c = d ∧ topic = u := by
  have one := first.asks
  have two := second.asks
  unfold Action.asksToJoin at one two
  cases sends : a.request? with
  | none => simp [sends] at one
  | some request =>
    simp only [sends, Option.any_some, Bool.and_eq_true, decide_eq_true_eq] at one two
    exact ⟨one.1.1.symm.trans two.1.1, one.1.2.symm.trans two.1.2⟩

namespace Numbered

/-- **Every action keeps the numbers apart.** -/
theorem act (inv : h.Numbered) (a : Action) : (h.act a).1.Numbered where
  nodup c topic s found := by
    rcases subscription?_act found with ⟨old, -⟩ | enters
    · exact inv.nodup c topic s old
    · rw [enters.ids]
      exact List.nodup_range'
  below c topic s found f hf := by
    rcases subscription?_act found with ⟨old, -⟩ | enters
    · exact Nat.lt_of_lt_of_le (inv.below c topic s old f hf) (h.nextFilter_le_act a)
    · exact (enters.le_id hf).2
  owner c topic s d u t found found' f hf g hg same := by
    rcases subscription?_act found with ⟨old, -⟩ | enters
    · rcases subscription?_act found' with ⟨old', -⟩ | enters'
      · exact inv.owner c topic s d u t old old' f hf g hg same
      · have earlier := inv.below c topic s old f hf
        have later := (enters'.le_id hg).1
        omega
    · rcases subscription?_act found' with ⟨old', -⟩ | enters'
      · have earlier := inv.below d u t old' g hg
        have later := (enters.le_id hf).1
        omega
      · exact enters.unique enters'

theorem fresh (verifier : Auth.Verifier) : ({ verifier } : Hub).Numbered where
  nodup c topic s found := by simp [subscription?] at found
  below c topic s found := by simp [subscription?] at found
  owner c topic s d u t found := by simp [subscription?] at found

end Numbered

/-! ## §3 — in step -/

/-- The change filters of all subscriptions of all connections. -/
def liveFilters (h : Hub) : List ChangeFilter :=
  h.connections.values.flatMap fun x => x.subscriptions.values.flatMap (·.filters)

end Hub

/-- All entries on a topic, key by key. -/
def Presence.Table.entriesOn (t : Table) (topic : String) : List Entry :=
  (t.keysOf topic).values.flatten

namespace Hub

variable {h : Hub}

/-- **Connections, subscriptions, presence and change filters are in step.** -/
structure InStep (h : Hub) : Prop where
  /-- Whoever is present under a key is connected and has joined the topic under that key. -/
  tracked : ∀ topic keys key entries, h.presence.topics.get? topic = some keys →
    keys.get? key = some entries → ∀ e ∈ entries, ∃ x s, h.connections.get? e.connection = some x ∧
      x.subscriptions.get? topic = some s ∧ s.presenceKey = key
  /-- No connection is present twice on a topic. -/
  once : ∀ topic, ((h.presence.entriesOn topic).map (·.connection)).Nodup
  /-- No key is kept without entries. -/
  keys : ∀ topic keys, h.presence.topics.get? topic = some keys → ∀ key, keys.get? key ≠ some []
  /-- No topic is kept without keys. -/
  topics : ∀ topic keys, h.presence.topics.get? topic = some keys → keys.isEmpty = false
  /-- A subscription is filed under its topic. -/
  filed : ∀ c x topic s, h.connections.get? c = some x → x.subscriptions.get? topic = some s →
    s.topic = topic
  /-- No two live change filters have the same number. -/
  numbered : (h.liveFilters.map (·.id)).Nodup
  /-- The next change filter gets a new number. -/
  below : ∀ f ∈ h.liveFilters, f.id < h.nextFilter

theorem mem_liveFilters_iff {f : ChangeFilter} :
    f ∈ h.liveFilters ↔ ∃ c topic s, h.subscription? c topic = some s ∧ f ∈ s.filters := by
  simp only [liveFilters, List.mem_flatMap, Keyed.mem_values_iff]
  constructor
  · rintro ⟨x, ⟨c, opened⟩, s, ⟨topic, joined⟩, hf⟩
    exact ⟨c, topic, s, (subscription?_of_get? opened topic).trans joined, hf⟩
  · rintro ⟨c, topic, s, found, hf⟩
    obtain ⟨x, opened, joined⟩ := Option.bind_eq_some_iff.1 found
    exact ⟨x, ⟨c, opened⟩, s, ⟨topic, joined⟩, hf⟩

/-- Numbers that are apart, subscription by subscription, are apart in the whole list. -/
theorem Numbered.nodup_liveFilters (inv : h.Numbered) : (h.liveFilters.map (·.id)).Nodup := by
  have ids : h.liveFilters.map (·.id) = h.connections.values.flatMap fun x =>
      x.subscriptions.values.flatMap fun s => s.filters.map (·.id) := by
    simp only [liveFilters, List.map_flatMap]
  rw [ids]
  apply Keyed.nodup_flatMap_values
  · intro c x opened
    apply Keyed.nodup_flatMap_values
    · intro topic s joined
      exact inv.nodup c topic s ((subscription?_of_get? opened topic).trans joined)
    · intro topic s u t joined joined' different id hs ht
      obtain ⟨f, hf, rfl⟩ := List.mem_map.1 hs
      obtain ⟨g, hg, same⟩ := List.mem_map.1 ht
      have one := (subscription?_of_get? opened topic).trans joined
      have two := (subscription?_of_get? opened u).trans joined'
      exact different (inv.owner c topic s c u t one two f hf g hg same.symm).2
  · intro c x d y opened opened' different id hx hy
    obtain ⟨s, hs, inS⟩ := List.mem_flatMap.1 hx
    obtain ⟨t, ht, inT⟩ := List.mem_flatMap.1 hy
    obtain ⟨topic, joined⟩ := Keyed.mem_values_iff.1 hs
    obtain ⟨u, joined'⟩ := Keyed.mem_values_iff.1 ht
    obtain ⟨f, hf, rfl⟩ := List.mem_map.1 inS
    obtain ⟨g, hg, same⟩ := List.mem_map.1 inT
    have one := (subscription?_of_get? opened topic).trans joined
    have two := (subscription?_of_get? opened' u).trans joined'
    exact different (inv.owner c topic s d u t one two f hf g hg same.symm).1

/-- Presence within subscriptions puts no connection on a topic twice: it has one subscription there,
and so one key. -/
theorem Consistent.nodup_entriesOn (inv : h.Consistent) (topic : String) :
    ((h.presence.entriesOn topic).map (·.connection)).Nodup := by
  rw [Table.entriesOn, ← List.flatMap_id, List.map_flatMap]
  have at? {key : String} {entries : List Entry}
      (found : (h.presence.keysOf topic).get? key = some entries) :
      h.presence.entriesAt topic key = entries := by rw [Table.entriesAt, found]; rfl
  apply Keyed.nodup_flatMap_values
  · intro key entries found
    exact at? found ▸ (inv.presence.listed topic key).connections
  · intro key entries key' entries' found found' different c hc hc'
    obtain ⟨e, he, rfl⟩ := List.mem_map.1 hc
    obtain ⟨e', he', same⟩ := List.mem_map.1 hc'
    obtain ⟨s, joined, named⟩ := inv.tracked topic key e (at? found ▸ he)
    obtain ⟨s', joined', named'⟩ := inv.tracked topic key' e' (at? found' ▸ he')
    rw [same] at joined'
    obtain rfl := Option.some.inj (joined.symm.trans joined')
    exact different (named.symm.trans named')

theorem inStep_of_consistent (inv : h.Consistent) (numbered : h.Numbered) : h.InStep where
  tracked topic keys key entries found found' e he := by
    have here : e ∈ h.presence.entriesAt topic key := by
      rw [Table.entriesAt, Table.keysOf, found, Option.getD_some, found']
      exact he
    obtain ⟨s, joined, named⟩ := inv.tracked topic key e here
    obtain ⟨x, opened, joined⟩ := Option.bind_eq_some_iff.1 joined
    exact ⟨x, s, opened, joined, named⟩
  once := inv.nodup_entriesOn
  keys topic keys found key := by
    have none := inv.presence.keys topic key
    rwa [Table.keysOf, found] at none
  topics := inv.presence.topics
  filed c x topic s opened joined :=
    inv.filed c topic s ((subscription?_of_get? opened topic).trans joined)
  numbered := numbered.nodup_liveFilters
  below f hf := by
    obtain ⟨c, topic, s, found, mem⟩ := mem_liveFilters_iff.1 hf
    exact numbered.below c topic s found f mem

/-! ## §4 — nothing is left behind -/

/-- **A connection has nothing to do with a topic**: it has no subscription to it, no entry on it, and
hears of no change under it. -/
structure Absent (h : Hub) (c : ConnectionId) (topic : String) : Prop where
  subscription : h.topicState c topic = .left
  presence : ∀ e ∈ h.presence.entriesOn topic, e.connection ≠ c
  changes : ∀ e, ∀ frame ∈ framesFor c (h.publish e), frame.topic ≠ topic

theorem mem_entriesOn_iff {topic : String} {e : Entry} :
    e ∈ h.presence.entriesOn topic ↔ ∃ key, e ∈ h.presence.entriesAt topic key := by
  simp only [Table.entriesOn, List.mem_flatten, Keyed.mem_values_iff, Table.entriesAt]
  constructor
  · rintro ⟨entries, ⟨key, found⟩, he⟩
    exact ⟨key, by rw [found]; exact he⟩
  · rintro ⟨key, he⟩
    cases found : (h.presence.keysOf topic).get? key with
    | none => simp [found] at he
    | some entries =>
      rw [found] at he
      exact ⟨entries, ⟨key, found⟩, he⟩

/-- A connection is told of changes under topics that it has joined, and by one frame at most. -/
theorem framesFor_publish (h : Hub) (c : ConnectionId) (e : Feed.Event) :
    framesFor c (h.publish e) = ((h.connections.get? c).bind (changeFrame? · e)).toList :=
  framesFor_entries h.connections (fun _ x => changeFrame? x e) c

/-- **Without a subscription nothing is left.** -/
theorem Consistent.absent (inv : h.Consistent) {c : ConnectionId} {topic : String}
    (gone : h.subscription? c topic = none) : h.Absent c topic where
  subscription := topicState_eq_left_iff.2 gone
  presence e he := by
    rintro rfl
    obtain ⟨key, here⟩ := mem_entriesOn_iff.1 he
    obtain ⟨s, found, -⟩ := inv.tracked topic key e here
    rw [gone] at found
    simp at found
  changes e frame hf := by
    rintro rfl
    rw [framesFor_publish, Option.mem_toList, Option.bind_eq_some_iff] at hf
    obtain ⟨x, opened, chosen⟩ := hf
    obtain ⟨s, mem, admitted⟩ := List.exists_of_findSome?_eq_some chosen
    obtain ⟨id, -, rfl⟩ := Option.map_eq_some_iff.1 admitted
    obtain ⟨u, joined⟩ := Keyed.mem_values_iff.1 mem
    have found := (subscription?_of_get? opened u).trans joined
    obtain rfl := inv.filed c u s found
    have absent : h.subscription? c s.topic = none := gone
    rw [absent] at found
    simp at found

theorem subscription?_disconnect (h : Hub) (c : ConnectionId) (topic : String) :
    (h.disconnect c).1.subscription? c topic = none := by
  unfold disconnect
  cases opened : h.connections.get? c with
  | none => simp [subscription?, opened]
  | some x =>
    show ((h.withoutConnection c).releaseAll c x.subscriptions.values).1.subscription? c topic = none
    rw [subscription?, connections_releaseAll, ← subscription?, subscription?_withoutConnection,
      if_pos rfl]

theorem subscription?_leave {h' : Hub} {c : ConnectionId} {frame : Frame} {offers : List Offer}
    (ok : h.leave c frame = .ok (h', offers)) : h'.subscription? c frame.topic = none := by
  obtain ⟨x, s, opened, -, rfl, -⟩ := leave_eq_ok ok
  rw [subscription?, connections_release, ← subscription?, subscription?_withoutTopic opened,
    if_pos ⟨rfl, rfl⟩]

end Hub

/-! ## §5 — along a run -/

namespace Server

/-- Along a run the numbers of change filters stay apart. -/
theorem numbered_run {s : Server} (inv : s.hub.Numbered) (actions : List Action) :
    (s.run actions).hub.Numbered := by
  induction actions generalizing s with
  | nil => exact inv
  | cons a rest ih =>
    have next : (s.step a).hub.Numbered := by
      rw [hub_step]
      exact inv.act a
    exact ih next

/-- **After every run connections, subscriptions, presence and change filters are in step**; closing a
connection leaves nothing of it behind, and leaving a topic nothing of it there. -/
theorem inStep_run (verifier : Auth.Verifier) (capacity : Nat) (actions : List Action) :
    let s := (start verifier capacity).run actions
    s.hub.InStep ∧ (∀ c topic, (s.step (.disconnect c)).hub.Absent c topic) ∧
      ∀ a c frame, a.request? = some (c, frame) → Request.ofFrame frame = .ok .leave →
        (s.handleFrame c frame).2 = .ok () → (s.step a).hub.Absent c frame.topic := by
  intro s
  have inv : s.hub.Consistent := consistent_run (.fresh verifier) actions
  have numbered : s.hub.Numbered := numbered_run (.fresh verifier) actions
  refine ⟨Hub.inStep_of_consistent inv numbered, fun c topic => ?_,
    fun a c frame sends asked met => ?_⟩
  · apply (consistent_step inv _).absent
    rw [hub_step]
    exact s.hub.subscription?_disconnect c topic
  · apply (consistent_step inv _).absent
    rw [hub_step, (s.hub.act_of_request sends).1]
    rw [handleFrame, Hub.handle, asked] at met
    rw [Hub.handle, asked]
    cases left : s.hub.leave c frame with
    | error refusal => simp [left, Hub.orUnchanged] at met
    | ok step => exact Hub.subscription?_leave left

/-- A connection that is present on a topic and hears of changes there leaves it. -/
theorem inStep_run_leave :
    let joining : Frame := ⟨"room", joinEvent, .obj [("config", .obj [("postgres_changes",
      .arr [.obj [("event", .str "*")]])])], none⟩
    let tracking : Frame := ⟨"room", "presence-track", .obj [], none⟩
    let leaving : Frame := ⟨"room", leaveEvent, .null, none⟩
    let s := (start {} 8).run [.connect .anonymous, .frame ⟨1⟩ joining, .frame ⟨1⟩ tracking]
    s.hub.topicState ⟨1⟩ "room" = .joined ∧ s.hub.liveFilters.length = 1 ∧
      (s.hub.presence.entriesOn "room").length = 1 ∧
      (s.handleFrame ⟨1⟩ leaving).2 = .ok () ∧
      (s.step (.frame ⟨1⟩ leaving)).hub.Absent ⟨1⟩ "room" := by
  intro joining tracking leaving s
  have met : (s.handleFrame ⟨1⟩ leaving).2 = .ok () := by decide +kernel
  refine ⟨by decide +kernel, by decide +kernel, by decide +kernel, met, ?_⟩
  exact (inStep_run {} 8 [.connect .anonymous, .frame ⟨1⟩ joining, .frame ⟨1⟩ tracking]).2.2
    (.frame ⟨1⟩ leaving) ⟨1⟩ leaving rfl rfl met

end Server

end Channel

end Gateway
