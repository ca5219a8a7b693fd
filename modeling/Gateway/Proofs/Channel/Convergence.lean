import Gateway.Proofs.Channel.Consistency
import Gateway.Proofs.Presence.View

/-!
# Clients agree with the server about presence

A client on a topic is sent who is present when it joins, and differences from then on. `rebuild` is the
view that it makes of the frames in its queue. `rebuild_received` says that after every run of the server
this view is the state of the topic without the client's own entries, as long as the client has stayed on
the topic and its queue has refused no frame.

One step at a time: `follow_effect`, the frames that a step offers to a client on the topic lead from the
state before to the state after; `rebuild_effect`, the frames of the step that joins the topic hold the
state to begin with. That the two fit together is the invariant `Hub.Consistent`.
-/

namespace Gateway.Channel

open Presence (Diff Table)

/-! ## §1 — what a client makes of its frames -/

namespace Presence.View

/-- What a frame does to the view of a topic: a difference of that topic is applied. -/
def follow (topic : String) (view : Json) (frame : Frame) : Json :=
  if frame.topic = topic ∧ frame.event = presenceDiffEvent then apply view frame.payload else view

/-- **The view that a client rebuilds** from its frames: the first state of the topic, and from then on
every difference. -/
def rebuild (topic : String) : List Frame → Option Json
  | [] => none
  | frame :: rest =>
    if frame.topic = topic ∧ frame.event = presenceStateEvent then
      some (rest.foldl (follow topic) frame.payload)
    else rebuild topic rest

variable {topic : String} {view : Json} {frames more : List Frame}

/-- Frames that come later are followed from the view that the earlier ones give. -/
theorem rebuild_append (h : rebuild topic frames = some view) :
    rebuild topic (frames ++ more) = some (more.foldl (follow topic) view) := by
  induction frames with
  | nil => simp [rebuild] at h
  | cons frame rest ih =>
    rw [List.cons_append, rebuild]
    rw [rebuild] at h
    split at h
    next state =>
      rw [if_pos state, List.foldl_append, Option.some.inj h]
    next other =>
      rw [if_neg other, ih h]

/-- Frames that tell of no difference leave a view alone. -/
theorem follow_of_no_diff (none : ∀ frame ∈ frames, frame.event ≠ presenceDiffEvent) :
    frames.foldl (follow topic) view = view := by
  induction frames generalizing view with
  | nil => rfl
  | cons frame rest ih =>
    rw [List.foldl_cons, follow, if_neg fun both => none frame (List.mem_cons_self ..) both.2]
    exact ih fun f hf => none f (List.mem_cons_of_mem _ hf)

end Presence.View

namespace Hub

open Presence
open Presence.View (follow rebuild rebuild_append follow_of_no_diff)

variable {h h' : Hub} {c : ConnectionId} {topic : String} {view : Json}

/-! ## §2 — one step -/

/-- Offers without presence leave the view of every client alone. -/
theorem follow_silent {offers : List Offer} (silent : Silent offers) :
    (framesFor c offers).foldl (follow topic) view = view :=
  follow_of_no_diff fun _ hf diff => silent _ (mem_framesFor hf) (.inr diff)

/-- **What a client makes of a broadcast**: it applies a difference of its topic that is not its own. -/
theorem follow_broadcastDiff (joined : ∃ s, h.subscription? c topic = some s)
    (origin : ConnectionId) (u : String) {d : Diff} (filled : d.isEmpty = false) :
    (framesFor c (h.broadcastDiff origin u d)).foldl (follow topic) view =
      if c ≠ origin ∧ u = topic then View.apply view d.value else view := by
  rw [framesFor_broadcastDiff h origin c u filled]
  by_cases same : u = topic
  · subst same
    rw [Option.isSome_iff_exists.2 joined]
    by_cases other : c = origin
    · rw [if_neg (by simp [other]), if_neg (by simp [other])]
      rfl
    · rw [if_pos ⟨other, rfl⟩, if_pos ⟨other, rfl⟩, List.foldl_cons, follow, if_pos ⟨rfl, rfl⟩]
      rfl
  · have untold : ¬ (c ≠ origin ∧ u = topic) := fun both => same both.2
    rw [if_neg untold]
    split
    · rw [List.foldl_cons, follow, if_neg fun both => same both.1]
      rfl
    · rfl

/-- A client follows what is told when a connection, its own or another's, is untracked. -/
theorem follow_untrack (wf : h.presence.WellFormed) {presence : Table}
    (joined : ∃ s, ({ h with presence } : Hub).subscription? c topic = some s)
    {d : ConnectionId} {u key : String} {diff : Diff}
    (gone : h.presence.untrack u key d = some (presence, diff)) :
    (framesFor c ({ h with presence }.broadcastDiff d u diff)).foldl (follow topic)
        (h.presence.snapshotWithout c topic) =
      presence.snapshotWithout c topic := by
  obtain ⟨e, -, rfl, -⟩ := Table.untrack_eq_some gone
  rw [follow_broadcastDiff joined d u rfl]
  split
  next both =>
    obtain ⟨other, rfl⟩ := both
    exact Table.apply_untrack wf (Ne.symm other) gone
  next neither =>
    by_cases same : c = d
    · subst same
      exact (Table.snapshotWithout_untrack_self wf gone).symm
    · have elsewhere : topic ≠ u := fun t => neither ⟨same, t.symm⟩
      exact (Table.snapshotWithout_untrack_of_ne elsewhere gone).symm

/-- **A client follows a release**, its own or another's. -/
theorem follow_release (wf : h.presence.WellFormed) (joined : ∃ s, h.subscription? c topic = some s)
    (d : ConnectionId) (s : Subscription) :
    (framesFor c (h.release d s).2).foldl (follow topic) (h.presence.snapshotWithout c topic) =
      (h.release d s).1.presence.snapshotWithout c topic := by
  unfold release
  split
  · rfl
  next presence diff gone =>
    have joined' : ∃ t, ({ h with presence } : Hub).subscription? c topic = some t := joined
    exact follow_untrack wf joined' gone

/-- A client on a topic follows the releases of another connection. -/
theorem follow_releaseAll (wf : h.presence.WellFormed)
    (joined : ∃ s, h.subscription? c topic = some s) (d : ConnectionId) (subs : List Subscription) :
    (framesFor c (h.releaseAll d subs).2).foldl (follow topic) (h.presence.snapshotWithout c topic) =
      (h.releaseAll d subs).1.presence.snapshotWithout c topic := by
  induction subs generalizing h with
  | nil => rfl
  | cons s rest ih =>
    have joined' : ∃ t, (h.release d s).1.subscription? c topic = some t := by
      rwa [subscription?, connections_release]
    rw [releaseAll, framesFor_append, List.foldl_append, follow_release wf joined]
    exact ih (wellFormed_release wf d s) joined'

/-- **A client on a topic follows every step** that leaves it there. -/
theorem follow_effect (inv : h.Consistent) {offers : List Offer} (e : Effect h offers h')
    (joined : ∃ s, h.subscription? c topic = some s)
    (still : ∃ s, h'.subscription? c topic = some s) :
    (framesFor c offers).foldl (follow topic) (h.presence.snapshotWithout c topic) =
      h'.presence.snapshotWithout c topic := by
  cases e with
  | quiet same silent => rw [follow_silent silent, same.presence]
  | connected identity => rfl
  | disconnected d x opened =>
    -- The connection that closes is another one.
    have joined' : ∃ s, (h.withoutConnection d).subscription? c topic = some s := by
      rwa [subscription?, connections_releaseAll] at still
    exact follow_releaseAll (h := h.withoutConnection d) inv.presence joined' d _
  | entered d x frame filters key opened fresh same =>
    rw [same.presence]
    apply follow_of_no_diff
    intro f hf
    rw [framesFor_joinOffers] at hf
    split at hf
    · rcases List.mem_cons.1 hf with rfl | hf
      · exact (by decide : replyEvent ≠ presenceDiffEvent)
      rcases List.mem_cons.1 hf with rfl | hf
      · exact (by decide : presenceStateEvent ≠ presenceDiffEvent)
      exact feedFrames_no_diff h' frame.topic filters f hf
    · simp at hf
  | left d x frame s opened _ =>
    have joined' : ∃ t, (h.withoutTopic d x frame.topic).subscription? c topic = some t := by
      rwa [subscription?, connections_release] at still
    rw [framesFor_append, List.foldl_append, follow_silent (silent_acknowledge _ d frame)]
    exact follow_release (h := h.withoutTopic d x frame.topic) inv.presence joined' d s
  | tracked d frame s metadata _ new =>
    rename_i presence diff
    have joined' : ∃ t, ({ h with presence } : Hub).subscription? c topic = some t := joined
    have after : presence = (h.presence.track frame.topic s.presenceKey d metadata).1 := by rw [new]
    have told : diff = (h.presence.track frame.topic s.presenceKey d metadata).2 := by rw [new]
    have filled : diff.isEmpty = false := by
      rw [told, Table.track, Diff.isEmpty]
      exact Bool.and_false _
    rw [framesFor_append, List.foldl_append, follow_silent (silent_acknowledge _ d frame),
      follow_broadcastDiff joined' d frame.topic filled]
    split
    next both =>
      obtain ⟨other, rfl⟩ := both
      rw [told]
      exact (Table.apply_track inv.presence (Ne.symm other) metadata).trans (by rw [after])
    next neither =>
      show _ = presence.snapshotWithout c topic
      rw [after]
      by_cases same : c = d
      · subst same
        exact (Table.snapshotWithout_track_self inv.presence s.presenceKey frame.topic metadata).symm
      · have elsewhere : topic ≠ frame.topic := fun t => neither ⟨same, t.symm⟩
        exact (Table.snapshotWithout_track_of_ne elsewhere metadata).symm
  | untracked d frame s _ gone =>
    rename_i presence diff
    have joined' : ∃ t, ({ h with presence } : Hub).subscription? c topic = some t := joined
    rw [framesFor_append, List.foldl_append, follow_silent (silent_acknowledge _ d frame)]
    exact follow_untrack inv.presence joined' gone

/-- **A connection that joins a topic is sent the state of it**, and nothing else about presence. -/
theorem rebuild_effect (inv : h.Consistent) {offers : List Offer} (e : Effect h offers h')
    (before : h.subscription? c topic = none) (joined : ∃ s, h'.subscription? c topic = some s) :
    rebuild topic (framesFor c offers) = some (h'.presence.snapshotWithout c topic) := by
  obtain ⟨s, joined⟩ := joined
  cases e with
  | entered d x frame filters key opened fresh same =>
    rw [same.subscription?, subscription?_withTopic opened, before] at joined
    by_cases here : c = d ∧ topic = frame.topic
    · obtain ⟨rfl, rfl⟩ := here
      have isOpen : h'.connections.contains c = true := by
        rw [same.contains, withTopic, contains_setConnection_of_get? opened]
        exact contains_iff_get?.2 ⟨x, opened⟩
      have absent : ∀ key, ∀ e ∈ h.presence.entriesAt frame.topic key, e.connection ≠ c := by
        rintro key e he rfl
        obtain ⟨t, found, -⟩ := inv.tracked _ _ e he
        rw [before] at found
        simp at found
      rw [framesFor_joinOffers, if_pos ⟨rfl, isOpen⟩, same.presence]
      show _ = some (h.presence.snapshotWithout c frame.topic)
      rw [Table.snapshotWithout_eq_snapshot inv.presence absent]
      have reply : ¬ (frame.topic = frame.topic ∧ replyEvent = presenceStateEvent) := fun both =>
        absurd both.2 (by decide)
      refine (if_neg reply).trans ((if_pos ⟨rfl, rfl⟩).trans (congrArg some ?_))
      exact follow_of_no_diff (feedFrames_no_diff h' frame.topic filters)
    · rw [if_neg here] at joined
      simp at joined
  | quiet same silent =>
    rw [same.subscription?, before] at joined
    simp at joined
  | connected identity =>
    rw [subscription?_connect, before] at joined
    simp at joined
  | disconnected d x opened =>
    rw [subscription?, connections_releaseAll, ← subscription?, subscription?_withoutConnection,
      before] at joined
    simp at joined
  | left d x frame s opened _ =>
    rw [subscription?, connections_release, ← subscription?, subscription?_withoutTopic opened,
      before] at joined
    simp at joined
  | tracked d frame s metadata found new => exact absurd (joined.symm.trans before) (by simp)
  | untracked d frame s found gone => exact absurd (joined.symm.trans before) (by simp)

end Hub

/-! ## §3 — along a run -/

namespace Server

open Presence.View (follow rebuild rebuild_append)

/-- **Throughout a run a connection is on a topic, and its queue refuses nothing.** It is on the topic
after every step, so also where the first step is the one that joins. -/
def Attends (s : Server) (c : ConnectionId) (topic : String) : List Action → Prop
  | [] => True
  | a :: rest =>
    s.TakesAll c a ∧ (s.step a).hub.topicState c topic = .joined ∧ (s.step a).Attends c topic rest

variable {s : Server} {c : ConnectionId} {topic : String}

/-- A client on a topic follows a run that leaves it there. -/
theorem follow_received (inv : s.hub.Consistent) (joined : s.hub.topicState c topic = .joined)
    {actions : List Action} (attends : s.Attends c topic actions) :
    (s.received c actions).foldl (follow topic) (s.hub.presence.snapshotWithout c topic) =
      (s.run actions).hub.presence.snapshotWithout c topic := by
  induction actions generalizing s with
  | nil => rfl
  | cons a rest ih =>
    obtain ⟨takes, still, attends⟩ := attends
    have one := Hub.follow_effect inv (Hub.effect_act s.hub a) (Hub.topicState_eq_joined_iff.1 joined)
      (hub_step s a ▸ Hub.topicState_eq_joined_iff.1 still)
    rw [received, List.foldl_append, takes, one, ← hub_step]
    exact ih (consistent_step inv a) still attends

/-- **Clients agree with the server about presence.** After any run, take a step that joins a connection
to a topic and any steps after it during which the connection stays on the topic and its queue refuses
nothing. The view that it rebuilds from the frames in its queue is the state of the topic without its own
entries, in the same order. -/
theorem rebuild_received (verifier : Auth.Verifier) (capacity : Nat) (before : List Action)
    (join : Action) (after : List Action) (c : ConnectionId) (topic : String)
    (outside : ((start verifier capacity).run before).hub.topicState c topic = .left)
    (attends : ((start verifier capacity).run before).Attends c topic (join :: after)) :
    rebuild topic (((start verifier capacity).run before).received c (join :: after)) =
      some (((start verifier capacity).run (before ++ join :: after)).hub.presence.snapshotWithout
        c topic) := by
  have inv := consistent_run (s := start verifier capacity) (.fresh verifier) before
  rw [run_append]
  generalize (start verifier capacity).run before = s at inv outside attends ⊢
  obtain ⟨takes, joined, attends⟩ := attends
  have first := Hub.rebuild_effect inv (Hub.effect_act s.hub join)
    (Hub.topicState_eq_left_iff.1 outside) (hub_step s join ▸ Hub.topicState_eq_joined_iff.1 joined)
  rw [received, takes, rebuild_append first, ← hub_step]
  exact congrArg some (follow_received (consistent_step inv join) joined attends)

/-- Three connections that share a key: while the last one watches, the first is tracked anew and then
closes, and the second is untracked. -/
theorem rebuild_received_desk :
    let joining : Frame := ⟨"room", joinEvent,
      .obj [("config", .obj [("presence", .obj [("key", .str "desk")])])], none⟩
    let tracking : Frame := ⟨"room", "presence-track", .obj [("seat", .int 1)], none⟩
    let untracking : Frame := ⟨"room", "presence-untrack", .null, none⟩
    let before : List Action := [.connect .anonymous, .connect .anonymous, .connect .anonymous,
      .frame ⟨1⟩ joining, .frame ⟨1⟩ tracking, .frame ⟨2⟩ joining, .frame ⟨2⟩ tracking]
    let after : List Action := [.frame ⟨3⟩ tracking, .frame ⟨1⟩ tracking, .frame ⟨2⟩ untracking,
      .frame ⟨2⟩ tracking, .disconnect ⟨1⟩]
    let s := (start {} 8).run before
    s.hub.topicState ⟨3⟩ "room" = .left ∧
      s.Attends ⟨3⟩ "room" (.frame ⟨3⟩ joining :: after) ∧
      rebuild "room" (s.received ⟨3⟩ (.frame ⟨3⟩ joining :: after)) =
        some (((start {} 8).run (before ++ .frame ⟨3⟩ joining :: after)).hub.presence.snapshotWithout
          ⟨3⟩ "room") := by
  intro joining tracking untracking before after s
  have outside : s.hub.topicState ⟨3⟩ "room" = .left := by decide +kernel
  have attends : s.Attends ⟨3⟩ "room" (.frame ⟨3⟩ joining :: after) := by
    refine ⟨takesAll_of_hasRoom ?_, ?_, takesAll_of_hasRoom ?_, ?_, takesAll_of_hasRoom ?_, ?_,
      takesAll_of_hasRoom ?_, ?_, takesAll_of_hasRoom ?_, ?_, takesAll_of_hasRoom ?_, ?_, trivial⟩
      <;> decide +kernel
  exact ⟨outside, attends, rebuild_received {} 8 before (.frame ⟨3⟩ joining) after ⟨3⟩ "room" outside
    attends⟩

end Server

end Gateway.Channel
