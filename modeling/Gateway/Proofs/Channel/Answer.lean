import Gateway.Proofs.Channel.Refusal

/-!
# How requests are answered

A connection can match replies to its requests: for each request it is offered one reply, before anything
else that the request causes, and what others are offered are differences of presence on the topic of the
request. `Hub.Answer` says once what a request offers; `answer_handleText` shows it of every request, one
kind at a time, and `handleText_answered` reads the law off it.

A text that is no frame, or a frame that breaks the protocol, is no request. It is dropped.
-/

namespace Gateway.Channel

/-! ## §1 — what a request offers -/

/-- A request that is none to join. -/
theorem Frame.asksToJoin_eq_false {f : Frame} {request : Request}
    (asked : Request.ofFrame f = .ok request) (other : ∀ j, request ≠ .join j) :
    f.asksToJoin = false := by
  rw [asksToJoin, asked]
  cases request with
  | join j => exact absurd rfl (other j)
  | _ => rfl

namespace Hub

variable {h h' : Hub} {c : ConnectionId} {frame : Frame} {topic : String}

/-- Filters are accepted all together, each in its place. -/
theorem length_acceptFilters {next after : Nat} {requests : List ChangeRequest}
    {filters : List ChangeFilter} (accepted : acceptFilters next requests = (after, .ok filters)) :
    filters.length = requests.length := by
  induction requests generalizing next after filters with
  | nil =>
    obtain rfl := Except.ok.inj (Prod.mk.inj accepted).2
    rfl
  | cons r rest ih =>
    rw [acceptFilters] at accepted
    cases first : ChangeFilter.ofRequest next r with
    | error refusal => simp [first] at accepted
    | ok f =>
      rcases later : acceptFilters (next + 1) rest with ⟨after', refusal | fs⟩
      · simp [first, later, Except.map] at accepted
      · simp only [first, later, Except.map, Prod.mk.injEq, Except.ok.injEq] at accepted
        rw [← accepted.2, List.length_cons, List.length_cons, ih later]

/-- **Others alone are told**, of a difference of presence on a topic, and only those on the topic. -/
def TellsOthers (h : Hub) (c : ConnectionId) (topic : String) (offers : List Offer) : Prop :=
  ∀ d, ∀ f ∈ framesFor d offers, d ≠ c ∧ f.event = presenceDiffEvent ∧ f.topic = topic ∧
    h.topicState d topic = .joined

theorem TellsOthers.nil : h.TellsOthers c topic [] := by
  intro d f hf
  cases hf

/-- The one whose request it is is told nothing. -/
theorem TellsOthers.framesFor_self {offers : List Offer} (told : h.TellsOthers c topic offers) :
    framesFor c offers = [] :=
  List.eq_nil_iff_forall_not_mem.2 fun f hf => (told c f hf).1 rfl

/-- A broadcast of a difference tells others, where they are on the topic as before. -/
theorem tellsOthers_broadcastDiff (now : Hub)
    (same : ∀ d, d ≠ c → now.subscription? d topic = h.subscription? d topic)
    (diff : Presence.Diff) : h.TellsOthers c topic (now.broadcastDiff c topic diff) := by
  intro d f hf
  unfold broadcastDiff at hf
  split at hf
  · cases hf
  · rw [framesFor_broadcast] at hf
    split at hf
    next there =>
      obtain rfl := List.mem_singleton.1 hf
      obtain ⟨other, joined⟩ := there
      rw [same d other, Option.isSome_iff_exists] at joined
      exact ⟨other, rfl, rfl, topicState_eq_joined_iff.2 joined⟩
    next => cases hf

/-- A release tells others. -/
theorem tellsOthers_release (now : Hub) {s : Subscription}
    (same : ∀ d, d ≠ c → now.subscription? d s.topic = h.subscription? d s.topic) :
    h.TellsOthers c s.topic (now.release c s).2 := by
  unfold release
  split
  · exact .nil
  next presence diff _ =>
    exact tellsOthers_broadcastDiff { now with presence } same diff

theorem feedFrames_no_reply (h : Hub) (topic : String) (filters : List ChangeFilter) :
    ∀ f ∈ h.feedFrames topic filters, f.event ≠ replyEvent := by
  intro f hf
  unfold feedFrames at hf
  split at hf
  · cases hf
  · rw [List.mem_singleton.1 hf]
    exact (by decide : systemEvent ≠ replyEvent)

/-- A reply that reports nothing goes to a connection that is open. -/
theorem acknowledge_of_contains (opened : h.connections.contains c = true) (frame : Frame) :
    h.acknowledge c frame = [⟨c, frame.replyOk (.obj [])⟩] := by
  rw [acknowledge, offerTo, if_pos opened]

/-- **How a request of an open connection is answered**: what handling it yields, and what is offered. -/
inductive Answer (h : Hub) (c : ConnectionId) (frame : Frame) (h' : Hub) :
    Except Refusal (List Offer) → List Offer → Prop where
  /-- The request is refused, and the refusal is the answer. -/
  | refused (refusal : Refusal) : Answer h c frame h' (.error refusal) [⟨c, frame.replyError refusal⟩]
  /-- The connection joins a topic. -/
  | joined (j : JoinRequest) (filters : List ChangeFilter)
      (asked : Request.ofFrame frame = .ok (.join j)) (opened : h'.connections.contains c = true)
      (each : filters.length = j.changes.length) :
      Answer h c frame h' (.ok (h'.joinOffers c frame filters)) (h'.joinOffers c frame filters)
  /-- Another request is met; after the reply, others are told what has changed. -/
  | met {more : List Offer} (other : frame.asksToJoin = false) (told : h.TellsOthers c frame.topic more) :
      Answer h c frame h' (.ok (⟨c, frame.replyOk (.obj [])⟩ :: more))
        (⟨c, frame.replyOk (.obj [])⟩ :: more)

theorem orUnchanged_eq_ok {r : Except Refusal (Hub × List Offer)} {offers : List Offer}
    (met : h.orUnchanged r = (h', .ok offers)) : r = .ok (h', offers) := by
  cases r with
  | error refusal => cases met
  | ok step =>
    cases met
    rfl

theorem answer_join {j : JoinRequest} {offers : List Offer}
    (asked : Request.ofFrame frame = .ok (.join j)) (met : h.join c frame j = (h', .ok offers)) :
    h.Answer c frame h' (.ok offers) offers := by
  have handled : Handled h c frame h' (.ok offers) := by
    have joining := handled_join (h := h) (c := c) asked
    rwa [met] at joining
  cases handled with
  | joined j' x filters asked' opened fresh numbered same =>
    refine .joined j' filters asked' ?_ (length_acceptFilters numbered)
    rw [same.contains, withTopic, contains_setConnection_of_get? opened]
    exact contains_iff_get?.2 ⟨x, opened⟩
  | met other =>
    rw [Frame.asksToJoin, asked] at other
    cases other

theorem answer_leave (inv : h.Consistent) {offers : List Offer} (other : frame.asksToJoin = false)
    (met : h.leave c frame = .ok (h', offers)) : h.Answer c frame h' (.ok offers) offers := by
  obtain ⟨x, s, opened, joined, rfl, rfl⟩ := leave_eq_ok met
  have contains : (h.withoutTopic c x frame.topic).connections.contains c = true := by
    rw [withoutTopic, contains_setConnection_of_get? opened]
    exact contains_iff_get?.2 ⟨x, opened⟩
  have filed : s.topic = frame.topic :=
    inv.filed c frame.topic s ((subscription?_of_get? opened _).trans joined)
  rw [acknowledge_of_contains contains]
  refine .met other (filed ▸ tellsOthers_release _ fun d different => ?_)
  rw [subscription?_withoutTopic opened, if_neg fun both => different both.1]

/-- A change of presence tells others, and leaves connections as they are. -/
theorem answer_presence {presence : Presence.Table} (opened : h.connections.contains c = true)
    (other : frame.asksToJoin = false) (diff : Presence.Diff) :
    let offers := { h with presence }.acknowledge c frame
      ++ { h with presence }.broadcastDiff c frame.topic diff
    h.Answer c frame { h with presence } (.ok offers) offers := by
  intro offers
  have contains : ({ h with presence } : Hub).connections.contains c = true := opened
  simp only [offers, acknowledge_of_contains contains]
  exact .met other (tellsOthers_broadcastDiff { h with presence } (fun _ _ => rfl) diff)

/-- **A request that is met** is answered by a reply, before others are told. -/
theorem answer_of_met (inv : h.Consistent) (opened : h.connections.contains c = true)
    {request : Request} (asked : Request.ofFrame frame = .ok request) {offers : List Offer}
    (met : h.handle c frame = (h', .ok offers)) : h.Answer c frame h' (.ok offers) offers := by
  have other (no : ∀ j, request ≠ .join j) : frame.asksToJoin = false :=
    Frame.asksToJoin_eq_false asked no
  unfold handle at met
  rw [asked] at met
  cases request with
  | join j => exact answer_join asked met
  | leave => exact answer_leave inv (other nofun) (orUnchanged_eq_ok met)
  | heartbeat =>
    obtain ⟨rfl, offered⟩ := Prod.mk.inj met
    obtain rfl := Except.ok.inj offered
    rw [acknowledge_of_contains opened]
    exact .met (other nofun) .nil
  | attach token =>
    obtain ⟨rfl, offered⟩ := Prod.mk.inj met
    have contains : (h.attach c token).connections.contains c = true := by
      rw [(sameTopics_attach h c token).contains, opened]
    obtain rfl := Except.ok.inj offered
    rw [acknowledge_of_contains contains]
    exact .met (other nofun) .nil
  | track metadata =>
    obtain ⟨s, presence, diff, -, -, rfl, rfl⟩ := track_eq_ok (orUnchanged_eq_ok met)
    exact answer_presence opened (other nofun) diff
  | untrack =>
    obtain ⟨s, presence, diff, -, -, rfl, rfl⟩ := untrack_eq_ok (orUnchanged_eq_ok met)
    exact answer_presence opened (other nofun) diff

/-- **Every request of an open connection is answered**, also one that is refused. -/
theorem answer_handleText (inv : h.Consistent) (opened : h.connections.contains c = true)
    {text : String} (read : Frame.read text = .ok frame) {request : Request}
    (asked : Request.ofFrame frame = .ok request) :
    h.Answer c frame (h.handleText c text).1 (h.handle c frame).2 (h.handleText c text).2 := by
  have answerable := h.answerable_handle c asked
  unfold handleText
  rw [read]
  rcases handled : h.handle c frame with ⟨h', refusal | offers⟩
  · rw [handled] at answerable
    obtain ⟨next, -, same⟩ := handle_eq_of_refused (congrArg Prod.snd handled)
    obtain rfl : h' = h.counting next := congrArg Prod.fst (handled.symm.trans same)
    have contains : (h.counting next).connections.contains c = true := opened
    simp only [handled, answerable refusal rfl, offerTo, contains, if_true, Bool.false_eq_true,
      if_false]
    exact .refused refusal
  · simp only [handled]
    exact answer_of_met inv opened asked handled

/-- A text is dropped when all that can be read from it breaks the protocol. -/
theorem handleText_of_dropped (h : Hub) (c : ConnectionId) {text : String}
    (breaks : ∀ frame, Frame.read text = .ok frame → frame.BreaksProtocol) :
    h.handleText c text = (h, []) := by
  unfold handleText
  cases read : Frame.read text with
  | error refusal => rfl
  | ok frame =>
    obtain ⟨refusal, refused⟩ := Request.ofFrame_of_breaksProtocol (breaks frame read)
    have protocol := (Request.breaksProtocol_of_ofFrame refused).2
    have handled : h.handle c frame = (h, .error refusal) := by
      rw [handle, refused]
    simp only [handled, protocol, if_true]

end Hub

/-! ## §2 — replies -/

namespace Frame

/-- The reference that a text gives, as JSON. -/
def givenReference? (text : String) : Option Json :=
  (Json.Record.ofText fields text).bind fun slots => slots[3]?.join

/-- A frame is read from the slots of a record. -/
theorem exists_slots_of_read {text : String} {f : Frame} (ok : read text = .ok f) :
    ∃ slots, Json.Record.ofText fields text = some slots ∧ ofSlots? slots = some f := by
  unfold read at ok
  split at ok
  next frame found =>
    obtain rfl := Except.ok.inj ok
    exact Option.bind_eq_some_iff.1 found
  next => cases ok

/-- A frame has the text of the reference that it is given. -/
theorem reference_read {text : String} {f : Frame} (ok : read text = .ok f) :
    f.reference = (givenReference? text).bind reference? := by
  obtain ⟨slots, record, shaped⟩ := exists_slots_of_read ok
  rw [givenReference?, record]
  unfold ofSlots? at shaped
  split at shaped
  · obtain rfl := Option.some.inj shaped
    rfl
  · cases shaped

/-- **A frame answers a request**: it is a reply on the topic of the request and under its reference, and
its status says whether the request was met. -/
structure Answers (f request : Frame) (met : Prop) : Prop where
  event : f.event = replyEvent
  topic : f.topic = request.topic
  reference : f.reference = request.reference
  ok : f.payload.member? "status" = some (.str "ok") ↔ met
  error : f.payload.member? "status" = some (.str "error") ↔ ¬ met

theorem answers_replyOk (request : Frame) (response : Json) {met : Prop} (yes : met) :
    (request.replyOk response).Answers request met := by
  have status := (member?_reply request .ok response).1
  refine ⟨rfl, rfl, rfl, ?_, ?_⟩
  · exact ⟨fun _ => yes, fun _ => status⟩
  · rw [replyOk, status]
    simp [Status.name, yes]

theorem answers_replyError (request : Frame) (refusal : Refusal) {met : Prop} (no : ¬ met) :
    (request.replyError refusal).Answers request met := by
  have status := (member?_reply request .error (.obj [("reason", .str refusal.message)])).1
  refine ⟨rfl, rfl, rfl, ?_, ?_⟩
  · rw [replyError, status]
    simp [Status.name, no]
  · exact ⟨fun _ => no, fun _ => status⟩

end Frame

namespace Server

/-- **A request of a connection is answered** by a server, which it takes from one state to another, with
the frames that are offered to each connection. -/
structure Answered (s : Server) (c : ConnectionId) (request : Frame) (t : Server)
    (offered : ConnectionId → List Frame) : Prop where
  /-- The connection is offered one reply, and first of all. -/
  reply : ∃ reply rest, offered c = reply :: rest ∧
    reply.Answers request ((s.handleFrame c request).2 = .ok ()) ∧ ∀ f ∈ rest, f.event ≠ replyEvent
  /-- A connection that joins is then told who is there, and of the change feed if it asked for changes. -/
  join : ∀ j, Request.ofFrame request = .ok (.join j) → (s.handleFrame c request).2 = .ok () →
    (offered c).tail =
      .push request.topic presenceStateEvent (t.hub.presence.snapshot request.topic) ::
        if j.changes = [] then [] else [.push request.topic systemEvent t.hub.feedStatus]
  /-- Otherwise the reply is all. -/
  alone : request.asksToJoin = false ∨ (s.handleFrame c request).2 ≠ .ok () → (offered c).tail = []
  /-- Others are told of differences of presence, if they are on the topic. -/
  others : ∀ d, d ≠ c → ∀ f ∈ offered d, f.event = presenceDiffEvent ∧ f.topic = request.topic ∧
    s.hub.topicState d request.topic = .joined

/-- A frame is met by the server as it is by the hub. -/
theorem handleFrame_eq_ok_iff {s : Server} {c : ConnectionId} {frame : Frame} :
    (s.handleFrame c frame).2 = .ok () ↔ ∃ offers, (s.hub.handle c frame).2 = .ok offers := by
  unfold handleFrame
  rcases s.hub.handle c frame with ⟨h, refusal | offers⟩ <;> simp

section
variable {s t : Server} {c : ConnectionId} {request : Frame}

theorem answered_of_refused {refusal : Refusal}
    (handled : (s.hub.handle c request).2 = .error refusal) :
    s.Answered c request t fun d => framesFor d [⟨c, request.replyError refusal⟩] := by
  have no : ¬ (s.handleFrame c request).2 = .ok () := by
    rw [handleFrame_eq_ok_iff, handled]
    simp
  have own : framesFor c [⟨c, request.replyError refusal⟩] = [request.replyError refusal] := by
    simp [framesFor]
  refine ⟨⟨_, [], own, Frame.answers_replyError request refusal no, by simp⟩, ?_, ?_, ?_⟩
  · intro j _ yes
    exact absurd yes no
  · intro _
    exact congrArg List.tail own
  · intro d other f hf
    simp [framesFor, Ne.symm other] at hf

theorem answered_of_joined {j : JoinRequest} {filters : List ChangeFilter}
    (handled : (s.hub.handle c request).2 = .ok (t.hub.joinOffers c request filters))
    (asked : Request.ofFrame request = .ok (.join j)) (opened : t.hub.connections.contains c = true)
    (each : filters.length = j.changes.length) :
    s.Answered c request t fun d => framesFor d (t.hub.joinOffers c request filters) := by
  have yes : (s.handleFrame c request).2 = .ok () := handleFrame_eq_ok_iff.2 ⟨_, handled⟩
  have own := Hub.framesFor_joinOffers t.hub c c request filters
  rw [if_pos ⟨rfl, opened⟩] at own
  refine ⟨⟨_, _, own, Frame.answers_replyOk request _ yes, ?_⟩, ?_, ?_, ?_⟩
  · intro f hf
    rcases List.mem_cons.1 hf with rfl | feed
    · exact (by decide : presenceStateEvent ≠ replyEvent)
    · exact Hub.feedFrames_no_reply t.hub request.topic filters f feed
  · intro j' asked' _
    obtain rfl : j = j' := Request.join.inj (Except.ok.inj (asked.symm.trans asked'))
    have none : filters.isEmpty = true ↔ j.changes = [] := by
      rw [List.isEmpty_iff_length_eq_zero, each, List.length_eq_zero_iff]
    simp only [own, List.tail_cons, Hub.feedFrames, none]
  · rintro (other | no)
    · rw [Frame.asksToJoin, asked] at other
      cases other
    · exact absurd yes no
  · intro d other f hf
    rw [Hub.framesFor_joinOffers, if_neg fun both => other both.1] at hf
    cases hf

theorem answered_of_met {more : List Offer}
    (handled : (s.hub.handle c request).2 = .ok (⟨c, request.replyOk (.obj [])⟩ :: more))
    (other : request.asksToJoin = false) (told : s.hub.TellsOthers c request.topic more) :
    s.Answered c request t fun d => framesFor d (⟨c, request.replyOk (.obj [])⟩ :: more) := by
  have yes : (s.handleFrame c request).2 = .ok () := handleFrame_eq_ok_iff.2 ⟨_, handled⟩
  have own : framesFor c (⟨c, request.replyOk (.obj [])⟩ :: more) = [request.replyOk (.obj [])] := by
    rw [← List.singleton_append, framesFor_append, told.framesFor_self, List.append_nil]
    simp [framesFor]
  refine ⟨⟨_, [], own, Frame.answers_replyOk request _ yes, by simp⟩, ?_, ?_, ?_⟩
  · intro j asked _
    rw [Frame.asksToJoin, asked] at other
    cases other
  · intro _
    exact congrArg List.tail own
  · intro d different f hf
    have later : f ∈ framesFor d more := by
      rw [← List.singleton_append, framesFor_append] at hf
      simpa [framesFor, Ne.symm different] using hf
    exact (told d f later).2

/-- How a request is answered settles what is offered to each connection. -/
theorem answered_of_answer {offers : List Offer}
    (answer : s.hub.Answer c request t.hub (s.hub.handle c request).2 offers) :
    s.Answered c request t fun d => framesFor d offers := by
  generalize handled : (s.hub.handle c request).2 = result at answer
  cases answer with
  | refused refusal => exact answered_of_refused handled
  | joined j filters asked opened each => exact answered_of_joined handled asked opened each
  | met other told => exact answered_of_met handled other told

end

end Server

end Gateway.Channel
