import Gateway.Proofs.Channel.Consistency
import Gateway.Proofs.Json.Members

/-!
# Who joins what, and under which numbers

`Hub.Handled` is what handling a frame comes to: a refusal, which moves at most the number of the next
change filter; a join, whose filters take the numbers from there on; or another request, after which no
connection has a subscription that it did not have before. From it `enters_act` says that every
subscription after an action was there before, or was entered by this very action, a request of the
connection itself.

A client knows its change filters from the reply to its join. `Frame.listedIds` reads their numbers off
a reply, `Hub.joinReply?` finds the reply among the frames of a step, and `Enters` holds that the two
agree with the subscription that the hub has filed.
-/

namespace Gateway.Channel

/-! ## §1 — what a client sees of its join -/

/-- The request that an action makes, and who makes it. -/
def Action.request? : Action → Option (ConnectionId × Frame)
  | .text c raw => (Frame.read raw).toOption.map fun request => (c, request)
  | .frame c request => some (c, request)
  | _ => none

/-- The frame asks to join its topic. -/
def Frame.asksToJoin (f : Frame) : Bool :=
  match Request.ofFrame f with
  | .ok (.join _) => true
  | _ => false

/-- The action is a request of a connection to join a topic. -/
def Action.asksToJoin (a : Action) (c : ConnectionId) (topic : String) : Bool :=
  a.request?.any fun (d, request) => d = c && request.topic = topic && request.asksToJoin

namespace Frame

/-- The frame is a reply that says that the request was met. -/
def answersOk (f : Frame) : Bool :=
  f.event == replyEvent && (f.payload.member? "status").bind Json.str? == some Status.ok.name

/-- The number under which a change filter is listed. -/
def listedId? (item : Json) : Option Int :=
  match item.member? "id" with
  | some (.int n) => some n
  | _ => none

/-- The numbers of the change filters that a reply lists. -/
def listedIds (reply : Frame) : List Int :=
  match (reply.payload.member? "response").bind (Json.member? "postgres_changes") with
  | some (.arr items) => items.filterMap listedId?
  | _ => []

/-- The reply to a join with these change filters. -/
def joinReply (request : Frame) (filters : List ChangeFilter) : Frame :=
  request.replyOk (.obj [("postgres_changes", .arr (filters.map ChangeFilter.describe))])

theorem listedId?_describe (f : ChangeFilter) : listedId? f.describe = some (f.id : Int) := by
  have id : f.describe.member? "id" = some (.int f.id) := by
    show List.lookup "id" (Json.sortMembers _) = _
    rw [Json.lookup_sortMembers (by simp)]
    rfl
  rw [listedId?, id]

theorem member?_reply (request : Frame) (status : Status) (response : Json) :
    (request.reply status response).payload.member? "status" = some (.str status.name) ∧
      (request.reply status response).payload.member? "response" = some response := by
  constructor
  · show List.lookup "status" (Json.sortMembers _) = _
    rw [Json.lookup_sortMembers (by simp)]
    rfl
  · show List.lookup "response" (Json.sortMembers _) = _
    rw [Json.lookup_sortMembers (by simp)]
    rfl

/-- **The reply to a join lists the numbers of its filters**, in their order. -/
theorem listedIds_joinReply (request : Frame) (filters : List ChangeFilter) :
    (request.joinReply filters).listedIds = filters.map fun f => (f.id : Int) := by
  have response := (member?_reply request .ok
    (.obj [("postgres_changes", .arr (filters.map ChangeFilter.describe))])).2
  have items : (filters.map ChangeFilter.describe).filterMap listedId? =
      filters.map fun f => (f.id : Int) := by
    rw [List.filterMap_map, ← List.filterMap_eq_map]
    exact congrArg (List.filterMap · filters) (funext listedId?_describe)
  unfold listedIds joinReply replyOk
  rw [response, Option.bind_some]
  exact items

theorem answersOk_replyOk (request : Frame) (response : Json) :
    (request.replyOk response).answersOk = true := by
  rw [answersOk, replyOk, (member?_reply request .ok response).1]
  rfl

theorem answersOk_replyError (request : Frame) (refusal : Refusal) :
    (request.replyError refusal).answersOk = false := by
  rw [answersOk, replyError, (member?_reply request .error _).1]
  rfl

end Frame

/-! ## §2 — numbers of change filters -/

namespace ChangeFilter

theorem id_ofRequest {id : Nat} {r : ChangeRequest} {f : ChangeFilter} (ok : ofRequest id r = .ok f) :
    f.id = id := by
  unfold ofRequest at ok
  cases operation : readOperation r.event with
  | error refusal => simp [operation, bind, Except.bind] at ok
  | ok op =>
    cases column : readColumn r.filter with
    | error refusal => simp [operation, column, bind, Except.bind] at ok
    | ok col =>
      simp only [operation, column, bind, Except.bind, pure, Except.pure, Except.ok.injEq] at ok
      rw [← ok]

end ChangeFilter

namespace Hub

variable {h h' : Hub} {c : ConnectionId}

/-- **Filters that are accepted are numbered in order**, and the next number follows the last. -/
theorem ids_acceptFilters {next after : Nat} {requests : List ChangeRequest}
    {filters : List ChangeFilter} (ok : acceptFilters next requests = (after, .ok filters)) :
    filters.map (·.id) = List.range' next filters.length ∧ after = next + filters.length := by
  induction requests generalizing next after filters with
  | nil =>
    obtain ⟨rfl, none⟩ := Prod.mk.inj ok
    obtain rfl := Except.ok.inj none
    exact ⟨rfl, rfl⟩
  | cons r rest ih =>
    simp only [acceptFilters] at ok
    cases first : ChangeFilter.ofRequest next r with
    | error refusal => simp [first] at ok
    | ok f =>
      rcases later : acceptFilters (next + 1) rest with ⟨after', refusal | fs⟩
      · simp [first, later, Except.map] at ok
      · simp only [first, later, Except.map, Prod.mk.injEq, Except.ok.injEq] at ok
        obtain ⟨rfl, rfl⟩ := ok
        obtain ⟨ids, count⟩ := ih later
        refine ⟨?_, ?_⟩
        · rw [List.map_cons, ids, ChangeFilter.id_ofRequest first, List.length_cons,
            List.range'_succ]
        · rw [count, List.length_cons]
          omega

/-- No number is given back, also where a filter is refused. -/
theorem le_acceptFilters (next : Nat) (requests : List ChangeRequest) :
    next ≤ (acceptFilters next requests).1 := by
  induction requests generalizing next with
  | nil => exact Nat.le_refl _
  | cons r rest ih =>
    rw [acceptFilters]
    split
    · exact Nat.le_succ _
    · exact Nat.le_trans (Nat.le_succ _) (ih (next + 1))

/-! ## §3 — what handling a frame comes to -/

/-- **What handling a frame of a connection comes to.** -/
inductive Handled (h : Hub) (c : ConnectionId) (frame : Frame) :
    Hub → Except Refusal (List Offer) → Prop where
  /-- The frame is refused; numbers of filters may be used up. -/
  | refused {next : Nat} (le : h.nextFilter ≤ next) (refusal : Refusal) :
      Handled h c frame { h with nextFilter := next } (.error refusal)
  /-- The connection joins a topic that it has not joined. -/
  | joined (j : JoinRequest) (x : Connection) (filters : List ChangeFilter) {h' : Hub}
      (asked : Request.ofFrame frame = .ok (.join j)) (opened : h.connections.get? c = some x)
      (fresh : x.subscriptions.get? frame.topic = none)
      (numbered : acceptFilters h.nextFilter j.changes = (h'.nextFilter, .ok filters))
      (same : SameTopics (h.withTopic c x ⟨frame.topic, filters, presenceKeyFor c j⟩) h') :
      Handled h c frame h' (.ok (h'.joinOffers c frame filters))
  /-- Another request is met; it subscribes nobody to anything. -/
  | met {offers : List Offer} {h' : Hub} (other : frame.asksToJoin = false)
      (next : h'.nextFilter = h.nextFilter)
      (fewer : ∀ d topic s, h'.subscription? d topic = some s → h.subscription? d topic = some s) :
      Handled h c frame h' (.ok offers)

@[simp] theorem nextFilter_attach (h : Hub) (c : ConnectionId) (token : Option String) :
    (h.attach c token).nextFilter = h.nextFilter := by
  unfold attach
  split
  · split <;> rfl
  · rfl

@[simp] theorem nextFilter_release (h : Hub) (c : ConnectionId) (s : Subscription) :
    (h.release c s).1.nextFilter = h.nextFilter := by
  unfold release
  split <;> rfl

@[simp] theorem nextFilter_releaseAll (h : Hub) (c : ConnectionId) (subs : List Subscription) :
    (h.releaseAll c subs).1.nextFilter = h.nextFilter := by
  induction subs generalizing h with
  | nil => rfl
  | cons s rest ih => exact (ih _).trans (nextFilter_release h c s)

/-- A request that leaves everything as it is when it is refused. -/
theorem handled_orUnchanged {frame : Frame} {r : Except Refusal (Hub × List Offer)}
    (accepted : ∀ h' offers, r = .ok (h', offers) → Handled h c frame h' (.ok offers)) :
    Handled h c frame (h.orUnchanged r).1 (h.orUnchanged r).2 := by
  cases r with
  | error refusal => exact .refused (Nat.le_refl _) refusal
  | ok step => exact accepted step.1 step.2 rfl

theorem handled_join {frame : Frame} {j : JoinRequest} (asked : Request.ofFrame frame = .ok (.join j)) :
    Handled h c frame (h.join c frame j).1 (h.join c frame j).2 := by
  unfold join
  have le := le_acceptFilters h.nextFilter j.changes
  rcases numbered : acceptFilters h.nextFilter j.changes with ⟨next, accepted⟩
  rw [numbered] at le
  cases accepted with
  | error refusal => exact .refused le refusal
  | ok filters =>
    simp only [enter]
    cases opened : h.connections.get? c with
    | none => exact .refused le _
    | some x =>
      simp only
      cases fresh : x.subscriptions.get? frame.topic with
      | some s =>
        rw [Keyed.contains, fresh]
        exact .refused le _
      | none =>
        rw [Keyed.contains, fresh]
        let entered : Hub := { h with nextFilter := next }.withTopic c x
          ⟨frame.topic, filters, presenceKeyFor c j⟩
        have counted : acceptFilters h.nextFilter j.changes =
            ((entered.attach c j.accessToken).nextFilter, .ok filters) := by
          rw [nextFilter_attach]
          exact numbered
        have filed : SameTopics (h.withTopic c x ⟨frame.topic, filters, presenceKeyFor c j⟩) entered :=
          .of_fields rfl rfl rfl
        exact .joined j x filters asked opened fresh counted
          (filed.trans (sameTopics_attach entered c j.accessToken))

theorem handled_leave {frame : Frame} (other : frame.asksToJoin = false) {offers : List Offer}
    (ok : h.leave c frame = .ok (h', offers)) : Handled h c frame h' (.ok offers) := by
  obtain ⟨x, s, opened, -, rfl, rfl⟩ := leave_eq_ok ok
  refine .met other (nextFilter_release ..) ?_
  intro d topic t found
  rw [subscription?, connections_release, ← subscription?, subscription?_withoutTopic opened] at found
  split at found
  · simp at found
  · exact found

/-- **Handling a frame comes to one of these.** -/
theorem handled_handle (h : Hub) (c : ConnectionId) (frame : Frame) :
    Handled h c frame (h.handle c frame).1 (h.handle c frame).2 := by
  unfold handle
  cases asked : Request.ofFrame frame with
  | error refusal => exact .refused (Nat.le_refl _) refusal
  | ok request =>
    cases request with
    | join j => exact handled_join asked
    | leave =>
      have other : frame.asksToJoin = false := by rw [Frame.asksToJoin, asked]
      exact handled_orUnchanged fun _ _ ok => handled_leave other ok
    | heartbeat =>
      have other : frame.asksToJoin = false := by rw [Frame.asksToJoin, asked]
      exact .met other rfl fun _ _ _ found => found
    | attach token =>
      have other : frame.asksToJoin = false := by rw [Frame.asksToJoin, asked]
      refine .met other (nextFilter_attach ..) fun d topic s found => ?_
      rwa [(sameTopics_attach h c token).subscription?] at found
    | track metadata =>
      have other : frame.asksToJoin = false := by rw [Frame.asksToJoin, asked]
      refine handled_orUnchanged fun h' offers ok => ?_
      obtain ⟨s, presence, d, -, -, rfl, -⟩ := track_eq_ok ok
      exact .met other rfl fun _ _ _ found => found
    | untrack =>
      have other : frame.asksToJoin = false := by rw [Frame.asksToJoin, asked]
      refine handled_orUnchanged fun h' offers ok => ?_
      obtain ⟨s, presence, d, -, -, rfl, -⟩ := untrack_eq_ok ok
      exact .met other rfl fun _ _ _ found => found

/-! ## §4 — what an action does to subscriptions -/

/-- The reply that tells a connection that this action has joined it to a topic. -/
def joinReply? (h : Hub) (a : Action) (c : ConnectionId) (topic : String) : Option Frame :=
  if a.asksToJoin c topic then (framesFor c (h.act a).2).find? Frame.answersOk else none

/-- **An action enters a subscription**: it is a request of the connection, which had none to this topic;
the filters take the next numbers, and the reply lists them. -/
structure Enters (h : Hub) (a : Action) (c : ConnectionId) (topic : String) (s : Subscription) :
    Prop where
  asks : a.asksToJoin c topic = true
  fresh : h.subscription? c topic = none
  ids : s.filters.map (·.id) = List.range' h.nextFilter s.filters.length
  next : (h.act a).1.nextFilter = h.nextFilter + s.filters.length
  reply : ∃ reply, h.joinReply? a c topic = some reply ∧
    reply.listedIds = s.filters.map fun f => (f.id : Int)

variable {a : Action} {frame : Frame}

/-- **A request does what its frame asks for**: one that is met offers what handling the frame does, and
one that is refused offers an error reply at most. -/
theorem act_of_request (h : Hub) (sends : a.request? = some (c, frame)) :
    (h.act a).1 = (h.handle c frame).1 ∧
      match (h.handle c frame).2 with
      | .ok offers => (h.act a).2 = offers
      | .error refusal => ∀ o ∈ (h.act a).2, o = ⟨c, frame.replyError refusal⟩ := by
  rcases handled : h.handle c frame with ⟨h', answer⟩
  cases a with
  | text d raw =>
    cases read : Frame.read raw with
    | error refusal => simp [Action.request?, read, Except.toOption] at sends
    | ok request =>
      simp only [Action.request?, read, Except.toOption, Option.map_some, Option.some.injEq,
        Prod.mk.injEq] at sends
      obtain ⟨rfl, rfl⟩ := sends
      simp only [act, handleText, read, handled]
      cases answer with
      | ok offers => exact ⟨rfl, rfl⟩
      | error refusal =>
        refine ⟨rfl, fun o ho => ?_⟩
        simp only at ho
        split at ho
        · simp at ho
        · unfold offerTo at ho
          split at ho
          · exact List.mem_singleton.1 ho
          · simp at ho
  | frame d request =>
    obtain ⟨rfl, rfl⟩ := Prod.mk.inj (Option.some.inj sends)
    simp only [act, handled]
    cases answer with
    | ok offers => exact ⟨rfl, rfl⟩
    | error refusal => exact ⟨rfl, by simp⟩
  | _ => simp [Action.request?] at sends

/-- What is no request subscribes nobody to anything. -/
theorem act_of_no_request (h : Hub) (none : a.request? = none) :
    (h.act a).1.nextFilter = h.nextFilter ∧
      ∀ d topic s, (h.act a).1.subscription? d topic = some s → h.subscription? d topic = some s := by
  cases a with
  | connect identity =>
    refine ⟨rfl, fun d topic s found => ?_⟩
    rw [act, subscription?_connect] at found
    split at found
    · simp at found
    · exact found
  | disconnect c =>
    rw [act, disconnect]
    cases opened : h.connections.get? c with
    | none => exact ⟨rfl, fun _ _ _ found => found⟩
    | some x =>
      refine ⟨nextFilter_releaseAll .., fun d topic s found => ?_⟩
      have kept : (h.withoutConnection c).subscription? d topic = some s := by
        rwa [subscription?, connections_releaseAll] at found
      rw [subscription?_withoutConnection] at kept
      split at kept
      · simp at kept
      · exact kept
  | text d raw =>
    rw [act, handleText]
    cases read : Frame.read raw with
    | error refusal => exact ⟨rfl, fun _ _ _ found => found⟩
    | ok request => simp [Action.request?, read, Except.toOption] at none
  | frame => simp [Action.request?] at none
  | publish | attachFeed | feedChanged | clock | receive | drain | closeQueue =>
    exact ⟨rfl, fun _ _ _ found => found⟩

theorem joinReply?_of_not_asks {topic : String} (other : a.asksToJoin c topic = false) :
    h.joinReply? a c topic = none := by
  rw [joinReply?, other]
  rfl

/-- Only the join of a topic is answered as one. -/
theorem joinReply?_of_request {d : ConnectionId} {topic : String}
    (sends : a.request? = some (c, frame))
    (other : ¬ (d = c ∧ topic = frame.topic ∧ frame.asksToJoin = true)) :
    h.joinReply? a d topic = none := by
  apply joinReply?_of_not_asks
  rw [Action.asksToJoin, sends, Option.any_some]
  simp only [Bool.and_eq_false_iff, decide_eq_false_iff_not]
  by_contra all
  simp only [not_or, not_not, Bool.not_eq_false] at all
  exact other ⟨all.1.1.symm, all.1.2.symm, all.2⟩

/-- **A subscription after an action was there before**, and then the action was no join of its topic, or
the action has entered it. -/
theorem subscription?_act {d : ConnectionId} {topic : String} {s : Subscription}
    (found : (h.act a).1.subscription? d topic = some s) :
    (h.subscription? d topic = some s ∧ h.joinReply? a d topic = none) ∨ h.Enters a d topic s := by
  cases sends : a.request? with
  | none =>
    have quiet : a.asksToJoin d topic = false := by rw [Action.asksToJoin, sends]; rfl
    exact .inl ⟨(h.act_of_no_request sends).2 d topic s found, joinReply?_of_not_asks quiet⟩
  | some request =>
    obtain ⟨c, frame⟩ := request
    obtain ⟨hub, offered⟩ := h.act_of_request sends
    have handled := h.handled_handle c frame
    rw [hub] at found
    generalize h.handle c frame = step at handled found offered hub
    obtain ⟨h', answer⟩ := step
    simp only at handled found offered hub
    cases handled with
    | refused le refusal =>
      refine .inl ⟨found, ?_⟩
      rw [joinReply?]
      split
      · refine List.find?_eq_none.2 fun f hf => ?_
        obtain ⟨rfl, rfl⟩ := Offer.mk.inj (offered _ (mem_framesFor hf))
        simp [Frame.answersOk_replyError]
      · rfl
    | met other next fewer =>
      exact .inl ⟨fewer d topic s found, joinReply?_of_request sends (by simp [other])⟩
    | joined j x filters asked opened fresh numbered same =>
      rw [same.subscription?, subscription?_withTopic opened] at found
      by_cases here : d = c ∧ topic = frame.topic
      · rw [if_pos here] at found
        obtain ⟨rfl, rfl⟩ := here
        obtain rfl := Option.some.inj found
        have asks : frame.asksToJoin = true := by rw [Frame.asksToJoin, asked]
        have sent : a.asksToJoin d frame.topic = true := by
          simp [Action.asksToJoin, sends, asks]
        have isOpen : h'.connections.contains d = true := by
          rw [same.contains, withTopic, contains_setConnection_of_get? opened]
          exact contains_iff_get?.2 ⟨x, opened⟩
        obtain ⟨ids, count⟩ := ids_acceptFilters numbered
        refine .inr ⟨sent, (subscription?_of_get? opened _).trans fresh, ids, hub ▸ count,
          frame.joinReply filters, ?_, frame.listedIds_joinReply filters⟩
        rw [joinReply?, if_pos sent, offered, framesFor_joinOffers, if_pos ⟨rfl, isOpen⟩]
        exact List.find?_cons_of_pos (Frame.answersOk_replyOk frame _)
      · rw [if_neg here] at found
        exact .inl ⟨found, joinReply?_of_request sends fun all => here ⟨all.1, all.2.1⟩⟩

/-- **No action gives a number of a filter back.** -/
theorem nextFilter_le_act (h : Hub) (a : Action) : h.nextFilter ≤ (h.act a).1.nextFilter := by
  cases sends : a.request? with
  | none => exact Nat.le_of_eq (h.act_of_no_request sends).1.symm
  | some request =>
    obtain ⟨c, frame⟩ := request
    have handled := h.handled_handle c frame
    rw [(h.act_of_request sends).1]
    generalize h.handle c frame = step at handled
    obtain ⟨h', answer⟩ := step
    simp only at handled
    cases handled with
    | refused le refusal => exact le
    | met other next fewer => exact Nat.le_of_eq next.symm
    | joined j x filters asked opened fresh numbered same =>
      have count := (ids_acceptFilters numbered).2
      exact count ▸ Nat.le_add_right ..

end Hub

end Gateway.Channel
