import Gateway.Proofs.Channel.Answer
import Gateway.Proofs.Channel.Delivery
import Gateway.Proofs.Feed.Record

/-!
# What the server says is canonical

A payload that the server makes up is canonical, and what it passes on, a row of a change or the metadata
of a presence, is canonical because it was read. The rows come with the change and go with it; metadata are
kept, so that they stay canonical is an invariant (`Hub.Canonical`). The numbers of change filters have 64
bits as long as the hub has not given out more of them (`canonical_act`).

A frame or a change that is handed to the server by a caller and not read from a text has to be canonical
itself (`Action.Canonical`).
-/

namespace Gateway.Channel

open Gateway.Binary64 (Fits64)
open Gateway.Json (canonical_arr_iff canonical_empty canonical_int canonical_null canonical_obj_iff
  canonical_object canonical_ofOption canonical_single canonical_str sorted_cons)
open Presence (Diff Entry Table entriesValue)

/-! ## §1 — requests -/

/-- **The payload of a frame that was read is canonical.** -/
theorem Frame.canonical_read {text : String} {f : Frame} (ok : read text = .ok f) :
    f.payload.Canonical := by
  obtain ⟨slots, record, shaped⟩ := exists_slots_of_read ok
  have filed := Json.Record.canonical_ofText record
  unfold ofSlots? at shaped
  split at shaped
  next payload _ =>
    obtain rfl := Option.some.inj shaped
    cases payload with
    | none => exact canonical_null
    | some value => exact filed value (by simp)
  next => cases shaped

/-- What an action is given besides texts is canonical. -/
def Action.Canonical : Action → Prop
  | .frame _ f => f.payload.Canonical
  | .publish e => e.Canonical
  | _ => True

theorem Action.Canonical.request {a : Action} (canonical : a.Canonical) {c : ConnectionId} {f : Frame}
    (sends : a.request? = some (c, f)) : f.payload.Canonical := by
  cases a with
  | text d raw =>
    cases read : Frame.read raw with
    | error refusal => simp [Action.request?, read, Except.toOption] at sends
    | ok request =>
      simp only [Action.request?, read, Except.toOption, Option.map_some, Option.some.injEq,
        Prod.mk.injEq] at sends
      obtain ⟨-, rfl⟩ := sends
      exact Frame.canonical_read read
  | frame d request =>
    obtain ⟨-, rfl⟩ := Prod.mk.inj (Option.some.inj sends)
    exact canonical
  | _ => simp [Action.request?] at sends

namespace Request

/-- The metadata of a request to track are canonical with the payload. -/
theorem canonical_metadata {payload : Json} (canonical : payload.Canonical) :
    (Json.obj (metadata payload)).Canonical := by
  unfold metadata
  split
  next members inside => exact canonical.member? inside
  next members _ =>
    obtain ⟨sorted, each⟩ := canonical_obj_iff.1 canonical
    exact canonical_obj_iff.2 ⟨sorted.filter _, fun m mem => each m (List.mem_filter.1 mem).1⟩
  next => exact canonical_empty

theorem metadata_of_ofFrame {f : Frame} {given : List (String × Json)}
    (asked : ofFrame f = .ok (.track given)) : given = metadata f.payload := by
  cases asks_of_ofFrame asked with
  | join event found =>
    unfold ofJoin at found
    split at found
    · cases found
    · split at found <;> cases found
  | presence event found =>
    unfold ofPresence at found
    split at found
    · exact (Request.track.inj (Except.ok.inj found)).symm
    · cases found
    · cases found
  | track event => rfl

end Request

/-! ## §2 — presence -/

namespace Presence

/-- The metadata of an entry are canonical. -/
def Entry.Canonical (e : Entry) : Prop :=
  (Json.obj e.metadata).Canonical

theorem Entry.Canonical.value {e : Entry} (canonical : e.Canonical) : e.value.Canonical := by
  obtain ⟨sorted, each⟩ := canonical_obj_iff.1 canonical
  refine canonical_obj_iff.2 ⟨sorted.insertMember _ _, fun m mem => ?_⟩
  rcases Json.mem_insertMember mem with rfl | mem
  · exact canonical_str _
  · exact each m mem

theorem canonical_entriesValue {entries : List Entry} (each : ∀ e ∈ entries, e.Canonical) :
    (entriesValue entries).Canonical := by
  refine canonical_single (canonical_arr_iff.2 (List.forall_mem_map.2 ?_))
  exact fun e mem => (each e mem).value

namespace Diff

/-- What went and what came is canonical. -/
def Canonical (d : Diff) : Prop :=
  ∀ e, d.left = some e ∨ d.joined = some e → e.Canonical

theorem canonical_side (key : String) {entry : Option Entry} (each : ∀ e, entry = some e → e.Canonical) :
    (side key entry).Canonical := by
  cases entry with
  | none => exact canonical_empty
  | some e =>
    refine canonical_single (canonical_entriesValue ?_)
    simpa using each e rfl

theorem Canonical.value {d : Diff} (canonical : d.Canonical) : d.value.Canonical := by
  refine canonical_obj_iff.2 ⟨sorted_cons.2 ⟨?_, List.pairwise_singleton _ _⟩, ?_⟩
  · simp only [List.mem_singleton, forall_eq]
    decide
  · simp only [List.forall_mem_cons]
    exact ⟨canonical_side d.key fun e came => canonical e (Or.inr came),
      canonical_side d.key fun e went => canonical e (Or.inl went), List.forall_mem_nil _⟩

end Diff

namespace Table

/-- Every entry of the table is canonical. -/
def Canonical (t : Table) : Prop :=
  ∀ topic key, ∀ e ∈ t.entriesAt topic key, e.Canonical

variable {t t' : Table} {topic key : String} {c : ConnectionId}

theorem Canonical.without (canonical : t.Canonical) (topic key : String) (c : ConnectionId) :
    ∀ e ∈ withoutEntryOf (t.entriesAt topic key) c, e.Canonical :=
  fun e mem => canonical topic key e (List.mem_of_mem_eraseP mem)

/-- **Tracking** canonical metadata keeps a table canonical, and what it reports is. -/
theorem Canonical.track (canonical : t.Canonical) {metadata : List (String × Json)}
    (given : (Json.obj metadata).Canonical) {d : Diff}
    (new : t.track topic key c metadata = (t', d)) : t'.Canonical ∧ d.Canonical := by
  obtain rfl : (t.track topic key c metadata).1 = t' := congrArg Prod.fst new
  obtain rfl : (t.track topic key c metadata).2 = d := congrArg Prod.snd new
  constructor
  · intro u k e mem
    rw [entriesAt_track] at mem
    split at mem
    · rcases List.mem_append.1 mem with before | last
      · exact canonical.without topic key c e before
      · exact List.mem_singleton.1 last ▸ given
    · exact canonical u k e mem
  · rintro e (went | came)
    · exact canonical topic key e (entryOf?_eq_some went).1
    · exact Option.some.inj came ▸ given

/-- **Untracking** keeps a table canonical, and what it reports is. -/
theorem Canonical.untrack (canonical : t.Canonical) {d : Diff}
    (gone : t.untrack topic key c = some (t', d)) : t'.Canonical ∧ d.Canonical := by
  constructor
  · intro u k e mem
    rw [entriesAt_untrack gone] at mem
    split at mem
    · exact canonical.without topic key c e mem
    · exact canonical u k e mem
  · obtain ⟨went, found, rfl, -⟩ := untrack_eq_some gone
    rintro e (same | came)
    · exact Option.some.inj same ▸ canonical topic key went (entryOf?_eq_some found).1
    · cases came

/-- Who is present is told in a canonical form. -/
theorem Canonical.snapshot (canonical : t.Canonical) (topic : String) : (t.snapshot topic).Canonical := by
  refine canonical_object (List.forall_mem_map.2 ?_)
  rintro ⟨key, entries⟩ mem
  refine canonical_entriesValue fun e he => canonical topic key e ?_
  rw [entriesAt, Keyed.mem_entries_iff.1 mem]
  exact he

end Table

end Presence

/-! ## §3 — what the hub offers -/

/-- The payloads of the frames that are offered are canonical. -/
def CanonicalOffers (offers : List Offer) : Prop :=
  ∀ o ∈ offers, o.frame.payload.Canonical

theorem CanonicalOffers.nil : CanonicalOffers [] :=
  List.forall_mem_nil _

theorem CanonicalOffers.append {first second : List Offer} (one : CanonicalOffers first)
    (two : CanonicalOffers second) : CanonicalOffers (first ++ second) :=
  List.forall_mem_append.2 ⟨one, two⟩

theorem Frame.canonical_reply (request : Frame) (status : Status) {response : Json}
    (canonical : response.Canonical) : (request.reply status response).payload.Canonical := by
  refine canonical_object ?_
  simp only [List.forall_mem_cons]
  exact ⟨canonical_str _, canonical, List.forall_mem_nil _⟩

theorem Frame.canonical_replyError (request : Frame) (refusal : Refusal) :
    (request.replyError refusal).payload.Canonical :=
  request.canonical_reply .error (canonical_single (canonical_str _))

theorem ChangeFilter.canonical_describe {f : ChangeFilter} (small : f.id < 2 ^ 64) :
    f.describe.Canonical := by
  have fits : Fits64 f.id := by
    unfold Fits64
    omega
  refine canonical_object ?_
  simp only [List.forall_mem_cons]
  exact ⟨canonical_int fits, canonical_str _, canonical_str _, canonical_str _,
    canonical_ofOption _, List.forall_mem_nil _⟩

/-- A change is told in a canonical form. -/
theorem Frame.canonical_change (topic : String) {id : Nat} (small : id < 2 ^ 64) {e : Feed.Event}
    (canonical : e.Canonical) : (Frame.change topic id e).payload.Canonical := by
  have fits : Fits64 id := by
    unfold Fits64
    omega
  refine canonical_object ?_
  simp only [List.forall_mem_cons]
  refine ⟨canonical_arr_iff.2 ?_, Feed.Event.canonical_value canonical, List.forall_mem_nil _⟩
  simpa using canonical_int fits

namespace Hub

variable {h h' : Hub} {c : ConnectionId} {frame : Frame} {offers : List Offer}

/-- **What the hub keeps of payloads is canonical.** -/
def Canonical (h : Hub) : Prop :=
  h.presence.Canonical

/-- A step leads to a canonical hub and offers canonical payloads. -/
structure CanonicalStep (h' : Hub) (offers : List Offer) : Prop where
  hub : h'.Canonical
  offers : CanonicalOffers offers

theorem canonical_offerTo (h : Hub) (c : ConnectionId) (canonical : frame.payload.Canonical) :
    CanonicalOffers (h.offerTo c frame) := by
  unfold offerTo
  split
  · intro o mem
    exact List.mem_singleton.1 mem ▸ canonical
  · exact .nil

theorem canonical_acknowledge (h : Hub) (c : ConnectionId) (frame : Frame) :
    CanonicalOffers (h.acknowledge c frame) :=
  canonical_offerTo h c (frame.canonical_reply .ok canonical_empty)

theorem canonical_broadcastDiff (h : Hub) (origin : ConnectionId) (topic : String) {d : Diff}
    (canonical : d.Canonical) : CanonicalOffers (h.broadcastDiff origin topic d) := by
  unfold broadcastDiff
  split
  · exact .nil
  · intro o mem
    obtain ⟨⟨d', x⟩, -, chosen⟩ := List.mem_filterMap.1 mem
    simp only at chosen
    split at chosen
    · exact Option.some.inj chosen ▸ canonical.value
    · cases chosen

theorem canonical_release (canonical : h.Canonical) (c : ConnectionId) (s : Subscription) :
    CanonicalStep (h.release c s).1 (h.release c s).2 := by
  unfold release
  split
  · exact ⟨canonical, .nil⟩
  next gone =>
    obtain ⟨table, diff⟩ := Table.Canonical.untrack canonical gone
    exact ⟨table, canonical_broadcastDiff h c s.topic diff⟩

theorem canonical_releaseAll (canonical : h.Canonical) (c : ConnectionId) (subs : List Subscription) :
    CanonicalStep (h.releaseAll c subs).1 (h.releaseAll c subs).2 := by
  induction subs generalizing h with
  | nil => exact ⟨canonical, .nil⟩
  | cons s rest ih =>
    have first := canonical_release canonical c s
    have later := ih first.hub
    exact ⟨later.hub, first.offers.append later.offers⟩

theorem canonical_disconnect (canonical : h.Canonical) (c : ConnectionId) :
    CanonicalStep (h.disconnect c).1 (h.disconnect c).2 := by
  unfold disconnect
  split
  · exact ⟨canonical, .nil⟩
  next connection _ =>
    have without : (h.withoutConnection c).Canonical := canonical
    exact canonical_releaseAll without c connection.subscriptions.values

theorem canonical_feedStatus (h : Hub) : h.feedStatus.Canonical := by
  refine canonical_object ?_
  simp only [List.forall_mem_cons]
  exact ⟨canonical_str _, canonical_str _, canonical_str _, List.forall_mem_nil _⟩

theorem canonical_joinOffers (canonical : h.Canonical) (c : ConnectionId) (frame : Frame)
    {filters : List ChangeFilter} (small : ∀ f ∈ filters, f.id < 2 ^ 64) :
    CanonicalOffers (h.joinOffers c frame filters) := by
  have listed : (Json.arr (filters.map ChangeFilter.describe)).Canonical :=
    canonical_arr_iff.2 (List.forall_mem_map.2 fun f mem => ChangeFilter.canonical_describe (small f mem))
  refine (CanonicalOffers.append ?_ ?_).append ?_
  · exact canonical_offerTo h c (frame.canonical_reply .ok (canonical_single listed))
  · exact canonical_offerTo h c (canonical.snapshot frame.topic)
  · split
    · exact .nil
    · exact canonical_offerTo h c h.canonical_feedStatus

/-- A change is told under the number of a filter that the hub has given out. -/
theorem mem_publish {o : Offer} {e : Feed.Event} (mem : o ∈ h.publish e) :
    ∃ topic u f, o.frame = .change topic f.id e ∧ h.Watches o.receiver u f := by
  obtain ⟨⟨d, x⟩, entry, told⟩ := List.mem_filterMap.1 mem
  obtain ⟨chosen, found, rfl⟩ := Option.map_eq_some_iff.1 told
  obtain ⟨s, filed, same⟩ := List.exists_of_findSome?_eq_some (changeFrame?_eq x e ▸ found)
  obtain ⟨id, admitted, rfl⟩ := Option.map_eq_some_iff.1 same
  obtain ⟨f, hf, rfl, -⟩ := admitting?_eq_some admitted
  obtain ⟨u, joined⟩ := Keyed.mem_values_iff.1 filed
  have opened := Keyed.mem_entries_iff.1 entry
  exact ⟨s.topic, u, f, rfl, s, (subscription?_of_get? opened u).trans joined, hf⟩

theorem canonical_publish (numbered : h.Numbered) (small : h.nextFilter ≤ 2 ^ 64) {e : Feed.Event}
    (canonical : e.Canonical) : CanonicalOffers (h.publish e) := by
  intro o mem
  obtain ⟨topic, u, f, told, s, joined, hf⟩ := mem_publish mem
  rw [told]
  exact Frame.canonical_change topic
    (Nat.lt_of_lt_of_le (numbered.below o.receiver u s joined f hf) small) canonical

theorem canonical_attach (canonical : h.Canonical) (c : ConnectionId) (token : Option String) :
    (h.attach c token).Canonical := by
  rw [Canonical, (sameTopics_attach h c token).presence]
  exact canonical

/-- **What a request comes to is canonical**, as long as the filters have numbers of 64 bits. -/
theorem canonical_handle (canonical : h.Canonical) (given : frame.payload.Canonical)
    (met : h.handle c frame = (h', .ok offers)) (small : h'.nextFilter ≤ 2 ^ 64) :
    CanonicalStep h' offers := by
  have handled : Handled h c frame h' (.ok offers) := by
    have all := handled_handle h c frame
    rwa [met] at all
  unfold handle at met
  cases asked : Request.ofFrame frame with
  | error refusal => simp [asked] at met
  | ok request =>
    rw [asked] at met
    cases request with
    | join j =>
      cases handled with
      | met other =>
        rw [Frame.asksToJoin, asked] at other
        cases other
      | joined j' x filters asked' opened fresh counted same =>
        have entered : h'.Canonical := by
          rw [Canonical, same.presence]
          exact canonical
        refine ⟨entered, canonical_joinOffers entered c frame fun f mem => ?_⟩
        -- The filters have the last numbers that the hub has given out.
        obtain ⟨ids, next⟩ := ids_acceptFilters counted
        have listed : f.id ∈ filters.map (·.id) := List.mem_map_of_mem mem
        rw [ids, List.mem_range'_1] at listed
        omega
    | leave =>
      obtain ⟨x, s, -, -, rfl, rfl⟩ := leave_eq_ok (orUnchanged_eq_ok met)
      have without : (h.withoutTopic c x frame.topic).Canonical := canonical
      have released := canonical_release without c s
      exact ⟨released.hub, (canonical_acknowledge _ c frame).append released.offers⟩
    | heartbeat =>
      obtain ⟨rfl, offered⟩ := Prod.mk.inj met
      obtain rfl := Except.ok.inj offered
      exact ⟨canonical, canonical_acknowledge h c frame⟩
    | attach token =>
      obtain ⟨rfl, offered⟩ := Prod.mk.inj met
      obtain rfl := Except.ok.inj offered
      exact ⟨canonical_attach canonical c token, canonical_acknowledge _ c frame⟩
    | track metadata =>
      obtain ⟨s, presence, d, -, new, rfl, rfl⟩ := track_eq_ok (orUnchanged_eq_ok met)
      obtain rfl := Request.metadata_of_ofFrame asked
      obtain ⟨table, diff⟩ := Table.Canonical.track canonical (Request.canonical_metadata given) new
      exact ⟨table, (canonical_acknowledge _ c frame).append (canonical_broadcastDiff _ c _ diff)⟩
    | untrack =>
      obtain ⟨s, presence, d, -, gone, rfl, rfl⟩ := untrack_eq_ok (orUnchanged_eq_ok met)
      obtain ⟨table, diff⟩ := Table.Canonical.untrack canonical gone
      exact ⟨table, (canonical_acknowledge _ c frame).append (canonical_broadcastDiff _ c _ diff)⟩

/-- **Every action keeps the hub canonical, and what it offers is canonical**, as long as the change filters
have numbers of 64 bits. -/
theorem canonical_act (canonical : h.Canonical) (numbered : h.Numbered) {a : Action}
    (given : a.Canonical) (small : (h.act a).1.nextFilter ≤ 2 ^ 64) :
    CanonicalStep (h.act a).1 (h.act a).2 := by
  cases sends : a.request? with
  | some request =>
    obtain ⟨c, frame⟩ := request
    obtain ⟨state, offered⟩ := h.act_of_request sends
    rw [state] at small ⊢
    rcases handled : h.handle c frame with ⟨h', refusal | offers⟩
    · rw [handled] at offered
      obtain ⟨next, -, same⟩ := handle_eq_of_refused (congrArg Prod.snd handled)
      obtain rfl : h' = h.counting next := congrArg Prod.fst (handled.symm.trans same)
      refine ⟨canonical, fun o mem => ?_⟩
      rw [offered o mem]
      exact frame.canonical_replyError refusal
    · rw [handled] at offered small
      rw [show (h.act a).2 = offers from offered]
      exact canonical_handle canonical (given.request sends) handled small
  | none =>
    cases a with
    | connect | attachFeed | feedChanged | clock | receive | drain | closeQueue => exact ⟨canonical, .nil⟩
    | disconnect c => exact canonical_disconnect canonical c
    | publish e => exact ⟨canonical, canonical_publish numbered small given⟩
    | frame => cases sends
    | text c raw =>
      -- Nothing can be read from the text, so it is dropped.
      cases read : Frame.read raw with
      | error refusal =>
        rw [act, handleText, read]
        exact ⟨canonical, .nil⟩
      | ok request => simp [Action.request?, read, Except.toOption] at sends

end Hub

/-! ## §4 — along a run -/

namespace Server

/-- No number of a change filter is given back in the course of a run. -/
theorem nextFilter_le_step (s : Server) (a : Action) : s.hub.nextFilter ≤ (s.step a).hub.nextFilter := by
  rw [hub_step]
  exact s.hub.nextFilter_le_act a

/-- **Along a run the hub stays canonical.** -/
theorem canonical_run (verifier : Auth.Verifier) (capacity : Nat) {actions : List Action}
    (given : ∀ a ∈ actions, a.Canonical)
    (small : ((start verifier capacity).run actions).hub.nextFilter ≤ 2 ^ 64) :
    ((start verifier capacity).run actions).hub.Canonical := by
  induction actions using List.reverseRecOn with
  | nil => exact fun topic key e mem => absurd mem List.not_mem_nil
  | append_singleton actions a ih =>
    rw [run_append, run_cons, run_nil] at small ⊢
    have before := ih (fun b mem => given b (List.mem_append_left _ mem))
      (Nat.le_trans (nextFilter_le_step _ a) small)
    have numbered := numbered_run (s := start verifier capacity) (.fresh verifier) actions
    rw [hub_step] at small ⊢
    exact (Hub.canonical_act before numbered (given a (by simp)) small).hub

end Server

end Gateway.Channel
