import Gateway.Proofs.Channel.Consistency
import Gateway.Proofs.Channel.Enrolment
import Gateway.Proofs.Except

/-!
# Frames that are refused

A frame that breaks the protocol is dropped without an answer; any other refusal is answered.
`Frame.BreaksProtocol` says which frames break it, and these are exactly the ones that make no request
(`breaksProtocol_of_ofFrame`, `ofFrame_of_breaksProtocol`): no request that has been read is refused as a
breach (`answerable_handle`).

Nothing is changed before a request can no longer be refused. `refused_untouched` says so of the server as
a whole: only numbers of change filters are used up.
-/

namespace Gateway.Channel

/-! ## §1 — frames that break the protocol -/

/-- The events that clients may send. -/
def clientEvents : List String :=
  [joinEvent, "join", leaveEvent, "leave", heartbeatEvent, accessTokenEvent, "identity-attach",
    presenceEvent, "presence-track", "presence-untrack"]

/-- **The frame breaks the protocol.** -/
inductive Frame.BreaksProtocol (f : Frame) : Prop where
  /-- The event is none that clients may send. -/
  | event (unknown : f.event ∉ clientEvents)
  /-- A frame about presence asks neither to track nor to untrack. -/
  | presence (envelope : f.event = presenceEvent)
      (unknown : ∀ name, f.payload.member? "event" = some (.str name) →
        name ≠ "track" ∧ name ≠ "untrack")
  /-- The payload of a join has the wrong shape. -/
  | join (asks : f.event = joinEvent ∨ f.event = "join") (given : f.payload.isNull = false)
      (malformed : JoinRequest.ofPayload? f.payload = none)

namespace Request

theorem ofJoin_eq_error_iff {payload : Json} {refusal : Refusal} :
    ofJoin payload = .error refusal ↔
      refusal = .malformedFrame ∧ payload.isNull = false ∧ JoinRequest.ofPayload? payload = none := by
  unfold ofJoin
  by_cases null : payload.isNull = true
  · simp [null]
  · cases JoinRequest.ofPayload? payload <;> simp [null, eq_comm]

theorem ofPresence_eq_error {payload : Json} {refusal : Refusal}
    (refused : ofPresence payload = .error refusal) :
    refusal.isProtocol = true ∧ ∀ name, payload.member? "event" = some (.str name) →
      name ≠ "track" ∧ name ≠ "untrack" := by
  unfold ofPresence at refused
  split at refused
  · cases refused
  · cases refused
  next notTrack notUntrack =>
    obtain rfl := Except.error.inj refused
    refine ⟨rfl, fun name given => ⟨?_, ?_⟩⟩
    · rintro rfl
      exact notTrack (by rw [given]; rfl)
    · rintro rfl
      exact notUntrack (by rw [given]; rfl)

/-- **What makes no request breaks the protocol**, and is refused as such. -/
theorem breaksProtocol_of_ofFrame {f : Frame} {refusal : Refusal}
    (refused : ofFrame f = .error refusal) : f.BreaksProtocol ∧ refusal.isProtocol = true := by
  unfold ofFrame at refused
  split at refused
  next asks =>
    obtain ⟨rfl, given, malformed⟩ := ofJoin_eq_error_iff.1 refused
    rw [Bool.or_eq_true, decide_eq_true_eq, decide_eq_true_eq] at asks
    exact ⟨.join asks given malformed, rfl⟩
  next notJoin =>
  split at refused
  · cases refused
  next notLeave =>
  split at refused
  · cases refused
  next notHeartbeat =>
  split at refused
  · cases refused
  next notAttach =>
  split at refused
  next envelope =>
    obtain ⟨protocol, unknown⟩ := ofPresence_eq_error refused
    exact ⟨.presence envelope unknown, protocol⟩
  next notPresence =>
  split at refused
  · cases refused
  next notTrack =>
  split at refused
  · cases refused
  next notUntrack =>
    obtain rfl := Except.error.inj refused
    refine ⟨.event ?_, rfl⟩
    simp only [Bool.or_eq_true, decide_eq_true_eq, not_or] at notJoin notLeave notAttach
    simp [clientEvents, notJoin, notLeave, notHeartbeat, notAttach, notPresence, notTrack, notUntrack]

/-- A frame that breaks the protocol makes no request. -/
theorem ofFrame_of_breaksProtocol {f : Frame} (breaks : f.BreaksProtocol) :
    ∃ refusal, ofFrame f = .error refusal := by
  cases breaks with
  | event unknown =>
    simp only [clientEvents, List.mem_cons, List.not_mem_nil, or_false, not_or] at unknown
    exact ⟨.unknownEvent f.event, by simp [ofFrame, unknown]⟩
  | presence envelope unknown =>
    have asked : ofFrame f = ofPresence f.payload := by
      rw [ofFrame, envelope]
      rfl
    rw [asked, ofPresence]
    split
    next track =>
      obtain ⟨value, given, text⟩ := Option.bind_eq_some_iff.1 track
      exact absurd rfl (unknown "track" (Json.str?_eq_some_iff.1 text ▸ given)).1
    next untrack =>
      obtain ⟨value, given, text⟩ := Option.bind_eq_some_iff.1 untrack
      exact absurd rfl (unknown "untrack" (Json.str?_eq_some_iff.1 text ▸ given)).2
    next => exact ⟨_, rfl⟩
  | join asks given malformed =>
    have asked : ofFrame f = ofJoin f.payload := by
      rw [ofFrame, if_pos]
      rwa [Bool.or_eq_true, decide_eq_true_eq, decide_eq_true_eq]
    exact ⟨_, asked.trans (ofJoin_eq_error_iff.2 ⟨rfl, given, malformed⟩)⟩

/-- **How a frame asks for something**: by its event, and where that is not all, by its payload. -/
inductive Asks (f : Frame) : Request → Prop where
  | join {r : Request} (event : f.event = joinEvent ∨ f.event = "join") (given : ofJoin f.payload = .ok r) :
      Asks f r
  | leave (event : f.event = leaveEvent ∨ f.event = "leave") : Asks f .leave
  | heartbeat (event : f.event = heartbeatEvent) : Asks f .heartbeat
  | attach (event : f.event = accessTokenEvent ∨ f.event = "identity-attach") :
      Asks f (.attach ((f.payload.member? "access_token").bind Json.str?))
  | presence {r : Request} (event : f.event = presenceEvent) (given : ofPresence f.payload = .ok r) :
      Asks f r
  | track (event : f.event = "presence-track") : Asks f (.track (metadata f.payload))
  | untrack (event : f.event = "presence-untrack") : Asks f .untrack

theorem asks_of_ofFrame {f : Frame} {r : Request} (asked : ofFrame f = .ok r) : Asks f r := by
  unfold ofFrame at asked
  simp only [Bool.or_eq_true, decide_eq_true_eq] at asked
  split at asked
  next event => exact .join event asked
  next =>
  split at asked
  next event => exact Except.ok.inj asked ▸ .leave event
  next =>
  split at asked
  next event => exact Except.ok.inj asked ▸ .heartbeat event
  next =>
  split at asked
  next event => exact Except.ok.inj asked ▸ .attach event
  next =>
  split at asked
  next event => exact .presence event asked
  next =>
  split at asked
  next event => exact Except.ok.inj asked ▸ .track event
  next =>
  split at asked
  next event => exact Except.ok.inj asked ▸ .untrack event
  next => cases asked

end Request

/-! ## §2 — refusals that are answered -/

/-- **A computation that fails only as what is answered**, never as a breach of the protocol. -/
abbrev Answerable {α : Type} (x : Except Refusal α) : Prop :=
  FailsOnly (fun refusal : Refusal => refusal.isProtocol = false) x

theorem ColumnFilter.answerable_read (raw : String) : Answerable (read raw) := by
  unfold read
  simp only
  split
  · exact .ok _
  · exact .error rfl

namespace ChangeFilter

theorem answerable_readOperation (event : String) : Answerable (readOperation event) := by
  unfold readOperation
  split
  · exact .ok _
  · split
    · exact .ok _
    · exact .error rfl

theorem answerable_readColumn (filter : Option String) : Answerable (readColumn filter) := by
  unfold readColumn
  split
  · exact .ok _
  next raw _ => exact (ColumnFilter.answerable_read raw).map some

theorem answerable_ofRequest (id : Nat) (r : ChangeRequest) : Answerable (ofRequest id r) :=
  (answerable_readOperation r.event).bind fun _ =>
    (answerable_readColumn r.filter).bind fun _ => .ok _

end ChangeFilter

namespace Hub

variable {h h' : Hub} {c : ConnectionId} {frame : Frame}

theorem answerable_acceptFilters (next : Nat) (requests : List ChangeRequest) :
    Answerable (acceptFilters next requests).2 := by
  induction requests generalizing next with
  | nil => exact .ok _
  | cons r rest ih =>
    rw [acceptFilters]
    cases first : ChangeFilter.ofRequest next r with
    | error refusal => exact .error (ChangeFilter.answerable_ofRequest next r refusal first)
    | ok f => exact (ih (next + 1)).map _

theorem answerable_requireSubscription (h : Hub) (c : ConnectionId) (topic : String) :
    Answerable (h.requireSubscription c topic) := by
  unfold requireSubscription
  split
  · exact .error rfl
  · split
    · exact .error rfl
    · exact .ok _

theorem answerable_enter (h : Hub) (c : ConnectionId) (topic : String) (s : Subscription) :
    Answerable (h.enter c topic s) := by
  unfold enter
  split
  · exact .error rfl
  · split
    · exact .error rfl
    · exact .ok _

theorem answerable_join (h : Hub) (c : ConnectionId) (frame : Frame) (j : JoinRequest) :
    Answerable (h.join c frame j).2 := by
  unfold join
  have accepted := answerable_acceptFilters h.nextFilter j.changes
  rcases numbered : acceptFilters h.nextFilter j.changes with ⟨next, refusal | filters⟩
  · exact .error (accepted refusal (by rw [numbered]))
  · simp only
    split
    next refusal refused => exact .error (answerable_enter _ _ _ _ refusal refused)
    next => exact .ok _

theorem answerable_leave (h : Hub) (c : ConnectionId) (frame : Frame) :
    Answerable (h.leave c frame) := by
  unfold leave
  split
  · exact .error rfl
  · split
    · exact .error rfl
    · exact .ok _

theorem answerable_track (h : Hub) (c : ConnectionId) (frame : Frame)
    (metadata : List (String × Json)) : Answerable (h.track c frame metadata) :=
  (answerable_requireSubscription h c frame.topic).bind fun _ => .ok _

theorem answerable_untrack (h : Hub) (c : ConnectionId) (frame : Frame) :
    Answerable (h.untrack c frame) := by
  apply (answerable_requireSubscription h c frame.topic).bind
  intro s
  split
  · exact .error rfl
  · exact .ok _

theorem answerable_orUnchanged {x : Except Refusal (Hub × List Offer)} (answered : Answerable x) :
    Answerable (h.orUnchanged x).2 := by
  cases x with
  | error refusal => exact .error (answered refusal rfl)
  | ok step => exact .ok _

/-- **A request that is refused is answered**: it does not break the protocol. -/
theorem answerable_handle (h : Hub) (c : ConnectionId) {request : Request}
    (asked : Request.ofFrame frame = .ok request) : Answerable (h.handle c frame).2 := by
  unfold handle
  rw [asked]
  cases request with
  | join j => exact answerable_join h c frame j
  | leave => exact answerable_orUnchanged (answerable_leave h c frame)
  | heartbeat => exact .ok _
  | attach token => exact .ok _
  | track metadata => exact answerable_orUnchanged (answerable_track h c frame metadata)
  | untrack => exact answerable_orUnchanged (answerable_untrack h c frame)

end Hub

/-! ## §3 — a refused frame changes nothing -/

namespace Hub

/-- The hub with another number for the next change filter. -/
def counting (h : Hub) (next : Nat) : Hub :=
  { h with nextFilter := next }

/-- **A refusal leaves the hub as it is**, but for numbers of change filters that are used up. -/
theorem handle_eq_of_refused {h : Hub} {c : ConnectionId} {frame : Frame} {refusal : Refusal}
    (refused : (h.handle c frame).2 = .error refusal) :
    ∃ next, h.nextFilter ≤ next ∧ h.handle c frame = (h.counting next, .error refusal) := by
  have handled := h.handled_handle c frame
  generalize h.handle c frame = step at handled refused
  obtain ⟨h', answer⟩ := step
  simp only at handled refused
  cases handled with
  | @refused next le other =>
    obtain rfl := Except.error.inj refused
    exact ⟨next, le, rfl⟩
  | joined => cases refused
  | met => cases refused

/-- **A text that is refused** leaves the hub as its frame does, and offers one error reply at most, to
its sender. -/
theorem handleText_eq_of_refused {h : Hub} {c : ConnectionId} {text : String} {frame : Frame}
    {refusal : Refusal} (read : Frame.read text = .ok frame)
    (refused : (h.handle c frame).2 = .error refusal) :
    ∃ next answers, h.nextFilter ≤ next ∧ (answers = [] ∨ answers = [frame.replyError refusal]) ∧
      (h.handleText c text).1 = h.counting next ∧
      ∀ d, framesFor d (h.handleText c text).2 = if d = c then answers else [] := by
  obtain ⟨next, le, same⟩ := handle_eq_of_refused refused
  have step : h.handleText c text = (h.counting next,
      if refusal.isProtocol then [] else (h.counting next).offerTo c (frame.replyError refusal)) := by
    rw [handleText, read]
    simp only [same]
  rw [step]
  cases refusal.isProtocol with
  | true => exact ⟨next, [], le, .inl rfl, rfl, fun d => by simp⟩
  | false =>
    cases opened : (h.counting next).connections.contains c with
    | true =>
      refine ⟨next, [frame.replyError refusal], le, .inr rfl, rfl, fun d => ?_⟩
      simp [framesFor_offerTo, opened]
    | false =>
      refine ⟨next, [], le, .inl rfl, rfl, fun d => ?_⟩
      simp [framesFor_offerTo, opened]

end Hub

namespace Server

/-- The server with another number for the next change filter. -/
def counting (s : Server) (next : Nat) : Server :=
  { s with hub := s.hub.counting next }

/-- A frame is refused by the server as it is by the hub. -/
theorem handle_of_handleFrame {s : Server} {c : ConnectionId} {frame : Frame} {refusal : Refusal}
    (refused : (s.handleFrame c frame).2 = .error refusal) :
    (s.hub.handle c frame).2 = .error refusal := by
  unfold handleFrame at refused
  split at refused
  · cases refused
  next hub other handled =>
    obtain rfl := Except.error.inj refused
    rw [handled]

/-- **A refused frame changes nothing.** Whoever sends it, afterwards the server is as it was, but for
numbers of change filters that are used up. When the frame comes as a text, its sender is offered one
error reply at most, and that is all; a text that is no frame has no effect. -/
theorem refused_untouched (s : Server) (c : ConnectionId) :
    (∀ frame refusal, (s.handleFrame c frame).2 = .error refusal →
      ∃ next, s.hub.nextFilter ≤ next ∧ (s.handleFrame c frame).1 = s.counting next) ∧
    (∀ text refusal, Frame.read text = .error refusal → s.handleText c text = s) ∧
    ∀ text frame refusal, Frame.read text = .ok frame →
      (s.handleFrame c frame).2 = .error refusal →
      ∃ next answers, s.hub.nextFilter ≤ next ∧
        (answers = [] ∨ answers = [frame.replyError refusal]) ∧
        (s.handleText c text).hub = s.hub.counting next ∧
        (s.handleText c text).queues.get? c = (s.queues.get? c).map (·.offerAll answers) ∧
        ∀ d, d ≠ c → (s.handleText c text).queues.get? d = s.queues.get? d := by
  refine ⟨fun frame refusal refused => ?_, fun text refusal unread => ?_,
    fun text frame refusal read refused => ?_⟩
  · obtain ⟨next, le, same⟩ := Hub.handle_eq_of_refused (handle_of_handleFrame refused)
    refine ⟨next, le, ?_⟩
    rw [handleFrame, same]
    rfl
  · rw [handleText, Hub.handleText, unread]
    rfl
  · obtain ⟨next, answers, le, once, hub, offered⟩ :=
      Hub.handleText_eq_of_refused read (handle_of_handleFrame refused)
    have queue (d : ConnectionId) : (s.handleText c text).queues.get? d =
        (s.queues.get? d).map (·.offerAll (if d = c then answers else [])) := by
      rw [← offered d]
      exact queue_deliver _ d _
    refine ⟨next, answers, le, once, ?_, ?_, fun d other => ?_⟩
    · rw [handleText, advance, hub_deliver, hub]
    · rw [queue, if_pos rfl]
    · rw [queue, if_neg other]
      exact Option.map_id'

/-- A join whose second filter is for no operation is refused after its first filter was numbered. -/
theorem refused_untouched_filters :
    let joining : Frame := ⟨"room", joinEvent, .null, none⟩
    let tracking : Frame := ⟨"room", "presence-track", .null, none⟩
    let request : Frame := ⟨"hall", joinEvent, .obj [("access_token", .str "token"),
      ("config", .obj [("postgres_changes", .arr [.obj [("event", .str "INSERT")],
        .obj [("event", .str "DROP")]])])], some "7"⟩
    let s := (start {} 8).run [.connect .anonymous, .connect .anonymous, .frame ⟨1⟩ joining,
      .frame ⟨1⟩ tracking, .frame ⟨2⟩ joining]
    s.handleText ⟨1⟩ "hello" = s ∧ ∃ frame, Frame.read request.text = .ok frame ∧
      (s.handleFrame ⟨1⟩ frame).2 = .error (.invalidFilter "DROP") ∧
      (∃ next, (s.handleFrame ⟨1⟩ frame).1 = s.counting next) ∧
      ∃ next answers, (answers = [] ∨ answers = [frame.replyError (.invalidFilter "DROP")]) ∧
        (s.handleText ⟨1⟩ request.text).hub = s.hub.counting next ∧
        (s.handleText ⟨1⟩ request.text).queues.get? ⟨1⟩ =
          (s.queues.get? ⟨1⟩).map (·.offerAll answers) ∧
        (s.handleText ⟨1⟩ request.text).queues.get? ⟨2⟩ = s.queues.get? ⟨2⟩ := by
  intro joining tracking request s
  obtain ⟨frames, unread, texts⟩ := s.refused_untouched ⟨1⟩
  have dropped : (Frame.read "hello").toOption.isNone = true := by decide +kernel
  have answered : (Frame.read request.text).toOption.map (fun frame => (s.handleFrame ⟨1⟩ frame).2) =
      some (.error (.invalidFilter "DROP")) := by decide +kernel
  refine ⟨?_, ?_⟩
  · cases read : Frame.read "hello" with
    | error refusal => exact unread "hello" refusal read
    | ok frame =>
      rw [read] at dropped
      cases dropped
  · cases read : Frame.read request.text with
    | error refusal =>
      rw [read] at answered
      cases answered
    | ok frame =>
      rw [read] at answered
      have refused := Option.some.inj answered
      obtain ⟨next, -, counted⟩ := frames frame _ refused
      obtain ⟨after, answers, -, offered, hub, own, others⟩ := texts _ frame _ read refused
      exact ⟨frame, rfl, refused, ⟨next, counted⟩, after, answers, offered, hub, own,
        others ⟨2⟩ (by decide)⟩

end Server

end Gateway.Channel
