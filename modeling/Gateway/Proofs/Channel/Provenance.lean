import Gateway.Proofs.Channel.Answer
import Gateway.Proofs.Channel.Isolation
import Gateway.Proofs.Channel.Refusal
import Gateway.Proofs.Json.Record

/-!
# Whom a connection speaks for

A connection speaks for the identity that it is opened with, until it presents a token of its own that
is accepted. It presents one with a frame for this purpose, or together with a join, and then only if the
join is met. Nothing else changes whom it speaks for: no frame of another connection, no token that is
refused, no request that is refused.

`Frame.token?` reads the token off the frame as it travels. `Hub.presented?` is the identity that an
action presents for a connection, and `identity?_act` says that this is all that an action does to
identities. `identity_run` follows it through a run, from the opening of the connection on.
-/

namespace Gateway.Channel

open Gateway.Auth (Identity)

/-! ## §1 — the token of a frame -/

namespace Frame

/-- The token that comes with a join: a member of its payload or, where that is an array, the second
item. -/
def joinToken? : Json → Option String
  | .arr items => items[1]?.bind Json.str?
  | payload => (payload.member? "access_token").bind Json.str?

/-- **The token that a frame carries**, if its event is one that presents tokens. -/
def token? (f : Frame) : Option String :=
  if f.event = joinEvent ∨ f.event = "join" then joinToken? f.payload
  else if f.event = accessTokenEvent ∨ f.event = "identity-attach" then
    (f.payload.member? "access_token").bind Json.str?
  else none

end Frame

/-- The token that a request presents. -/
def Request.token? : Request → Option String
  | .join j => j.accessToken
  | .attach token => token
  | _ => none

namespace JoinRequest

/-- The fields of a join. -/
def fields : List Json.Field :=
  [.any ["config"], .optionalString ["access_token"]]

theorem bears_accessToken : Json.Record.Bears fields 1 "access_token" :=
  Json.Record.bears_append [.any ["config"]] rfl (by simp [Json.Field.any])

/-- **The token of a join** is the one that its payload carries. -/
theorem accessToken_of_ofPayload? {payload : Json} {j : JoinRequest}
    (read : ofPayload? payload = some j) : j.accessToken = Frame.joinToken? payload := by
  unfold ofPayload? at read
  obtain ⟨slots, record, read⟩ := Option.bind_eq_some_iff.1 read
  split at read
  next config token =>
    obtain ⟨⟨key, changes⟩, -, read⟩ := Option.bind_eq_some_iff.1 read
    obtain rfl := Option.some.inj read
    show token.bind Json.str? = _
    cases payload with
    | obj members =>
      obtain ⟨filled, put, complete⟩ := Option.bind_eq_some_iff.1 record
      have slot := Json.Record.slotAt_putMembers bears_accessToken (by decide) put
      rw [Json.Record.complete_eq_some complete] at slot
      exact congrArg (·.bind Json.str?) slot
    | arr items => exact congrArg (·.bind Json.str?) (Json.Record.slotAt_ofItems record 1)
    | _ => cases record
  next => cases read

end JoinRequest

namespace Request

theorem token?_of_ofJoin {payload : Json} {r : Request} (asked : ofJoin payload = .ok r) :
    r.token? = Frame.joinToken? payload := by
  unfold ofJoin at asked
  split at asked
  next null =>
    obtain rfl := Except.ok.inj asked
    cases payload with
    | null => rfl
    | _ => cases null
  next =>
    split at asked
    next j read =>
      obtain rfl := Except.ok.inj asked
      exact JoinRequest.accessToken_of_ofPayload? read
    next => cases asked

theorem token?_of_ofPresence {payload : Json} {r : Request} (asked : ofPresence payload = .ok r) :
    r.token? = none := by
  unfold ofPresence at asked
  split at asked
  · exact Except.ok.inj asked ▸ rfl
  · exact Except.ok.inj asked ▸ rfl
  · cases asked

/-- **The token of a request** is the one that its frame carries. -/
theorem token?_of_ofFrame {f : Frame} {r : Request} (asked : ofFrame f = .ok r) :
    r.token? = f.token? := by
  unfold Frame.token?
  cases asks_of_ofFrame asked with
  | join event given =>
    rw [if_pos event]
    exact token?_of_ofJoin given
  | attach event =>
    have noJoin : ¬ (f.event = joinEvent ∨ f.event = "join") := by
      rcases event with same | same <;> rw [same] <;> decide
    rw [if_neg noJoin, if_pos event]
    rfl
  | presence event given =>
    rw [event]
    exact token?_of_ofPresence given
  | leave event => rcases event with same | same <;> rw [same] <;> rfl
  | heartbeat event | track event | untrack event =>
    rw [event]
    rfl

end Request

/-- The action closes a connection. -/
def Action.closes (c : ConnectionId) : Action → Bool
  | .disconnect d => d = c
  | _ => false

namespace Hub

variable {h h' : Hub} {c : ConnectionId} {a : Action} {frame : Frame}

/-! ## §2 — what an action does to identities -/

/-- The identity that a token stands for at this time, if it is accepted. -/
def accepted? (h : Hub) (token : Option String) : Option Identity :=
  token.bind fun t => (h.verifier.verify t).toOption

/-- **The identity that a connection presents** in an action: it sends a frame with a token, the frame is
met, and the token is accepted at this time. -/
def presented? (h : Hub) (c : ConnectionId) (a : Action) : Option Identity :=
  match a.request? with
  | some (sender, frame) =>
    if sender = c ∧ (h.handle sender frame).2.isOk then h.accepted? frame.token? else none
  | none => none

theorem identity?_setConnection (h : Hub) (c : ConnectionId) (x : Connection) (d : ConnectionId) :
    (h.setConnection c x).identity? d = if d = c then some x.identity else h.identity? d := by
  unfold identity? setConnection
  rw [Keyed.get?_insert]
  split <;> rfl

/-- A look up at a connection stays when nothing is set there. -/
theorem identity?_eq_ite {i : Option Identity} (same : h.identity? c = i) (d : ConnectionId) :
    h.identity? d = if d = c then i else h.identity? d := by
  split
  next here => rw [here, same]
  next => rfl

/-- Where no token is presented, the identities stay. -/
theorem identity?_of_no_token (kept : ∀ d, h'.identity? d = h.identity? d) (c d : ConnectionId) :
    h'.identity? d =
      if d = c then (h.identity? c).map ((h.accepted? none).getD ·) else h.identity? d := by
  have same : (h.identity? c).map ((h.accepted? none).getD ·) = h.identity? c := Option.map_id'
  rw [same, kept, ← identity?_eq_ite rfl d]

/-- **A connection that presents a token** speaks for the identity of the token from then on, or for the
one that it spoke for, if the token is refused. -/
theorem identity?_attach (h : Hub) (c d : ConnectionId) (token : Option String) :
    (h.attach c token).identity? d =
      if d = c then (h.identity? c).map ((h.accepted? token).getD ·) else h.identity? d := by
  cases token with
  | none => exact identity?_of_no_token (fun _ => rfl) c d
  | some t =>
    cases opened : h.connections.get? c with
    | none =>
      have closed : h.identity? c = none := by rw [identity?, opened, Option.map_none]
      simp only [attach, opened, closed, Option.map_none]
      exact identity?_eq_ite closed d
    | some x =>
      have found : h.identity? c = some x.identity := by rw [identity?, opened, Option.map_some]
      simp only [attach, opened, found, Option.map_some, accepted?, Option.bind_some]
      cases h.verifier.verify t with
      | ok identity => exact identity?_setConnection ..
      | error refusal => exact identity?_eq_ite found d

/-- What a hub says of identities lies in its connections. -/
theorem identity?_congr (same : h'.connections = h.connections) (d : ConnectionId) :
    h'.identity? d = h.identity? d := by
  rw [identity?, same, identity?]

/-- A subscription that comes or goes leaves the identities as they are. -/
theorem identity?_setSubscriptions {x : Connection} (opened : h.connections.get? c = some x)
    (subscriptions : Keyed String Subscription) (d : ConnectionId) :
    (h.setConnection c { x with subscriptions }).identity? d = h.identity? d := by
  have found : h.identity? c = some x.identity := by rw [identity?, opened, Option.map_some]
  rw [identity?_setConnection, ← identity?_eq_ite found d]

/-- **What joining does** when it is not refused: the filters are numbered, the topic is entered, and then
the token is presented. -/
theorem join_eq_ok {j : JoinRequest} {offers : List Offer} (ok : h.join c frame j = (h', .ok offers)) :
    ∃ next filters x, h.connections.get? c = some x ∧
      h' = ((h.counting next).withTopic c x ⟨frame.topic, filters, presenceKeyFor c j⟩).attach c
        j.accessToken := by
  unfold join at ok
  rcases numbered : acceptFilters h.nextFilter j.changes with ⟨next, accepted⟩
  rw [numbered] at ok
  cases accepted with
  | error refusal => cases ok
  | ok filters =>
    simp only [enter] at ok
    cases opened : h.connections.get? c with
    | none =>
      rw [opened] at ok
      cases ok
    | some x =>
      simp only [opened] at ok
      cases fresh : x.subscriptions.contains frame.topic with
      | true =>
        rw [fresh] at ok
        cases ok
      | false =>
        rw [fresh] at ok
        exact ⟨next, filters, x, rfl, (Prod.mk.inj ok).1.symm⟩

/-- **A request that is met** changes the identity of its sender alone, and only by the token that its frame
carries. -/
theorem identity?_handle {offers : List Offer} (met : h.handle c frame = (h', .ok offers))
    (d : ConnectionId) : h'.identity? d =
      if d = c then (h.identity? c).map ((h.accepted? frame.token?).getD ·) else h.identity? d := by
  unfold handle at met
  cases asked : Request.ofFrame frame with
  | error refusal =>
    rw [asked] at met
    cases met
  | ok request =>
    rw [← Request.token?_of_ofFrame asked]
    rw [asked] at met
    cases request with
    | join j =>
      obtain ⟨next, filters, x, opened, rfl⟩ := join_eq_ok met
      have entered (e : ConnectionId) :
          ((h.counting next).withTopic c x ⟨frame.topic, filters, presenceKeyFor c j⟩).identity? e =
            h.identity? e :=
        identity?_setSubscriptions (h := h.counting next) opened _ e
      rw [identity?_attach, entered, entered]
      rfl
    | attach token =>
      obtain ⟨rfl, -⟩ := Prod.mk.inj met
      exact identity?_attach ..
    | heartbeat =>
      obtain ⟨rfl, -⟩ := Prod.mk.inj met
      exact identity?_of_no_token (fun _ => rfl) c d
    | leave =>
      obtain ⟨x, s, opened, -, rfl, -⟩ := leave_eq_ok (orUnchanged_eq_ok met)
      refine identity?_of_no_token (fun e => ?_) c d
      exact (identity?_congr (connections_release ..) e).trans (identity?_setSubscriptions opened _ e)
    | track metadata =>
      obtain ⟨s, presence, diff, -, -, rfl, -⟩ := track_eq_ok (orUnchanged_eq_ok met)
      exact identity?_of_no_token (fun _ => rfl) c d
    | untrack =>
      obtain ⟨s, presence, diff, -, -, rfl, -⟩ := untrack_eq_ok (orUnchanged_eq_ok met)
      exact identity?_of_no_token (fun _ => rfl) c d

theorem identity?_disconnect (h : Hub) (c d : ConnectionId) :
    (h.disconnect c).1.identity? d = if d = c then none else h.identity? d := by
  unfold disconnect
  cases opened : h.connections.get? c with
  | none => exact identity?_eq_ite (by rw [identity?, opened, Option.map_none]) d
  | some x =>
    refine (identity?_congr (connections_releaseAll ..) d).trans ?_
    unfold identity?
    rw [Keyed.get?_erase]
    split <;> rfl

/-- An action in which a connection presents nothing that is accepted. -/
theorem identity?_of_presented?_eq_none (none : h.presented? c a = none)
    (kept : h'.identity? c = h.identity? c) :
    h'.identity? c = (h.identity? c).map ((h.presented? c a).getD ·) := by
  rw [none, kept]
  exact Option.map_id'.symm

/-- **A request changes the identity of its sender alone**, and only when it presents one. -/
theorem identity?_of_request {sender : ConnectionId} (sends : a.request? = some (sender, frame)) :
    (h.act a).1.identity? c = (h.identity? c).map ((h.presented? c a).getD ·) := by
  have presents : h.presented? c a =
      if sender = c ∧ (h.handle sender frame).2.isOk then h.accepted? frame.token? else none := by
    rw [presented?, sends]
  rw [(act_of_request h sends).1]
  cases answer : (h.handle sender frame).2 with
  | error refusal =>
    obtain ⟨next, -, same⟩ := handle_eq_of_refused answer
    refine identity?_of_presented?_eq_none ?_ ?_
    · rw [presents, answer]
      exact if_neg fun both => Bool.noConfusion both.2
    · rw [same]
      rfl
  | ok offers =>
    have met : h.handle sender frame = ((h.handle sender frame).1, .ok offers) := Prod.ext rfl answer
    by_cases same : sender = c
    · rw [identity?_handle met, presents, if_pos same.symm, if_pos ⟨same, by rw [answer]; rfl⟩, same]
    · refine identity?_of_presented?_eq_none ?_ ?_
      · rw [presents]
        exact if_neg fun both => same both.1
      · rw [identity?_handle met, if_neg (Ne.symm same)]

/-- **What an action does to the identity of a connection** that it does not open: a connection that it
closes has none any more, and any other one speaks for what it has presented, or as before. -/
theorem identity?_act (h : Hub) (other : h.opens c a = false) : (h.act a).1.identity? c =
    if a.closes c then none else (h.identity? c).map ((h.presented? c a).getD ·) := by
  cases sends : a.request? with
  | some request =>
    have stays : a.closes c = false := by
      cases a with
      | disconnect => cases sends
      | _ => rfl
    rw [stays]
    exact identity?_of_request sends
  | none =>
    have none : h.presented? c a = none := by rw [presented?, sends]
    cases a with
    | text d raw =>
      refine identity?_of_presented?_eq_none none ?_
      cases read : Frame.read raw with
      | error refusal =>
        rw [act, handleText, read]
      | ok frame =>
        rw [Action.request?, read] at sends
        cases sends
    | frame => cases sends
    | connect identity =>
      refine identity?_of_presented?_eq_none none ?_
      have elsewhere : c ≠ ⟨h.nextConnection⟩ := by simpa [opens] using other
      exact (identity?_setConnection ..).trans (if_neg elsewhere)
    | disconnect d =>
      have closes : (Action.disconnect d).closes c = decide (d = c) := rfl
      rw [act, identity?_disconnect, closes]
      by_cases same : c = d
      · rw [if_pos same, if_pos (decide_eq_true same.symm)]
      · rw [if_neg same, if_neg fun closed => same (of_decide_eq_true closed).symm, none]
        exact Option.map_id'.symm
    | publish | attachFeed | feedChanged | clock | receive | drain | closeQueue =>
      exact identity?_of_presented?_eq_none none rfl

/-- A connection is open as long as it speaks for someone. -/
theorem contains_eq_isSome (h : Hub) (c : ConnectionId) :
    h.connections.contains c = (h.identity? c).isSome :=
  (Option.isSome_map ..).symm

end Hub

/-! ## §3 — along a run -/

namespace Server

/-- The identity that a connection has last presented in the course of a run. -/
def lastPresented? (s : Server) (c : ConnectionId) : List Action → Option Identity
  | [] => none
  | a :: rest => ((s.step a).lastPresented? c rest).or (s.hub.presented? c a)

/-- **A connection that is open speaks for what it has last presented**, or for whom it spoke at first. -/
theorem identity?_run {s : Server} {c : ConnectionId} (given : c.number < s.hub.nextConnection)
    {actions : List Action} (opened : (s.run actions).hub.connections.contains c = true) :
    (s.run actions).hub.identity? c =
      (s.hub.identity? c).map ((s.lastPresented? c actions).getD ·) := by
  induction actions generalizing s with
  | nil => exact Option.map_id'.symm
  | cons a rest ih =>
    have later : c.number < (s.step a).hub.nextConnection := by
      rw [hub_step]
      exact Nat.lt_of_lt_of_le given (Hub.effect_act s.hub a).nextConnection_le
    rw [run_cons] at opened ⊢
    have step := s.hub.identity?_act (Hub.opens_eq_false given a)
    rw [← hub_step] at step
    have known := ih later opened
    rw [known, step]
    split
    next closes =>
      -- A connection that is closed stays closed, for its number is not given again.
      rw [step, if_pos closes, Option.map_none] at known
      rw [Hub.contains_eq_isSome, known] at opened
      cases opened
    next =>
      rw [Option.map_map, lastPresented?]
      congr 1
      funext first
      cases (s.step a).lastPresented? c rest <;> rfl

/-- Whoever is open was open before, or has just been opened. -/
theorem contains_of_step {s : Server} {c : ConnectionId} {a : Action}
    (opened : (s.step a).hub.connections.contains c = true) :
    s.hub.connections.contains c = true ∨ s.hub.opens c a = true := by
  cases opens : s.hub.opens c a with
  | true => exact .inr rfl
  | false =>
    rw [Hub.contains_eq_isSome, hub_step, s.hub.identity?_act opens] at opened
    split at opened
    · cases opened
    · rw [Option.isSome_map] at opened
      exact .inl (s.hub.contains_eq_isSome c ▸ opened)

/-- **Every connection was opened** in the course of the run. -/
theorem exists_connect (verifier : Auth.Verifier) (capacity : Nat) {c : ConnectionId}
    {actions : List Action}
    (opened : ((start verifier capacity).run actions).hub.connections.contains c = true) :
    ∃ before given after, actions = before ++ .connect given :: after ∧
      ((start verifier capacity).run before).hub.opens c (.connect given) = true := by
  induction actions using List.reverseRecOn with
  | nil => cases opened
  | append_singleton actions a ih =>
    rw [run_append, run_cons, run_nil] at opened
    rcases contains_of_step opened with earlier | now
    · obtain ⟨before, given, after, rfl, opens⟩ := ih earlier
      exact ⟨before, given, after ++ [a], by simp, opens⟩
    · cases a with
      | connect given => exact ⟨actions, given, [], rfl, now⟩
      | _ => cases now

/-- A connection that has just been opened speaks for whom it was opened with, and has a number. -/
theorem identity?_of_opens {s : Server} {c : ConnectionId} {before : List Action} {given : Identity}
    (opens : (s.run before).hub.opens c (.connect given) = true) :
    (s.run (before ++ [.connect given])).hub.identity? c = some given ∧
      c.number < (s.run (before ++ [.connect given])).hub.nextConnection := by
  obtain rfl : c = ⟨(s.run before).hub.nextConnection⟩ := of_decide_eq_true opens
  rw [run_append, run_cons, run_nil, hub_step]
  exact ⟨(Hub.identity?_setConnection ..).trans (if_pos rfl), Nat.lt_succ_self _⟩

/-- What is presented, and what has to hold for it. -/
theorem presented?_eq_some {s : Server} {c : ConnectionId} {a : Action} {identity : Identity}
    (presents : s.hub.presented? c a = some identity) : ∃ frame token,
      a.request? = some (c, frame) ∧ (s.handleFrame c frame).2 = .ok () ∧ frame.token? = some token ∧
        s.hub.verifier.verify token = .ok identity := by
  unfold Hub.presented? at presents
  split at presents
  next sender frame sends =>
    split at presents
    next met =>
      obtain ⟨rfl, met⟩ := met
      obtain ⟨token, carried, verified⟩ := Option.bind_eq_some_iff.1 presents
      refine ⟨frame, token, sends, handleFrame_eq_ok_iff.2 ?_, carried, ?_⟩
      · cases answer : (s.hub.handle sender frame).2 with
        | ok offers => exact ⟨offers, rfl⟩
        | error refusal =>
          rw [answer] at met
          cases met
      · cases outcome : s.hub.verifier.verify token with
        | ok other =>
          rw [outcome] at verified
          exact congrArg Except.ok (Option.some.inj verified)
        | error refusal =>
          rw [outcome] at verified
          cases verified
    next => cases presents
  next => cases presents

/-- **Whom a connection speaks for.** After every run, a connection that is open was opened in its course,
and it speaks for the identity that it has last presented since then, or else for the one that it was
opened with. In a step that does not close it, and in which it does not itself send a frame that is met
and carries a token that is accepted, it goes on to speak for whom it spoke, whatever else happens. -/
theorem identity_run (verifier : Auth.Verifier) (capacity : Nat) (actions : List Action)
    {c : ConnectionId}
    (opened : ((start verifier capacity).run actions).hub.connections.contains c = true) :
    let s := (start verifier capacity).run actions
    (∃ before given after, actions = before ++ .connect given :: after ∧
      ((start verifier capacity).run before).hub.opens c (.connect given) = true) ∧
    (∀ before given after, actions = before ++ .connect given :: after →
      ((start verifier capacity).run before).hub.opens c (.connect given) = true →
      s.hub.identity? c = some ((((start verifier capacity).run
        (before ++ [.connect given])).lastPresented? c after).getD given)) ∧
    ∀ a, a.closes c = false →
      (∀ frame token identity, a.request? = some (c, frame) → (s.handleFrame c frame).2 = .ok () →
        frame.token? = some token → s.hub.verifier.verify token ≠ .ok identity) →
      (s.step a).hub.identity? c = s.hub.identity? c := by
  intro s
  refine ⟨exists_connect verifier capacity opened, ?_, fun a stays nothing => ?_⟩
  · rintro before given after rfl opens
    have runs : s = ((start verifier capacity).run (before ++ [.connect given])).run after := by
      rw [← run_append, List.append_assoc]
      rfl
    obtain ⟨first, numbered⟩ := identity?_of_opens opens
    rw [runs, identity?_run numbered (runs ▸ opened), first]
    rfl
  · have numbered := (consistent_run (.fresh verifier) actions).numbered c opened
    have none : s.hub.presented? c a = none := by
      rw [Option.eq_none_iff_forall_ne_some]
      intro identity presents
      obtain ⟨frame, token, sends, met, carried, verified⟩ := presented?_eq_some presents
      exact nothing frame token identity sends met carried verified
    rw [hub_step, s.hub.identity?_act (Hub.opens_eq_false numbered a), stays, none]
    exact Option.map_id'

/-- Of two connections one presents the service key, first in a join that is refused, then in one that is
met; a wrong key, and what the other connection sends, change nothing. -/
theorem identity_run_key :
    let join (topic key : String) : Frame := ⟨topic, "join", .obj [("access_token", .str key)], none⟩
    let attach (key : String) : Frame := ⟨"", accessTokenEvent, .obj [("access_token", .str key)], none⟩
    let refused : List Action := [.connect .anonymous, .frame ⟨1⟩ (join "room" "none"),
      .frame ⟨1⟩ (join "room" "key"), .frame ⟨2⟩ (attach "key")]
    let met : List Action := refused ++ [.frame ⟨1⟩ (join "hall" "key"), .frame ⟨1⟩ (attach "none")]
    let verifier : Auth.Verifier := { serviceKey := some "key" }
    ((start verifier 8).run (.connect .anonymous :: met)).hub.connections.contains ⟨1⟩ = true ∧
      ((start verifier 8).run (.connect .anonymous :: met)).hub.identity? ⟨1⟩ =
        some ((((start verifier 8).run [.connect .anonymous]).lastPresented? ⟨1⟩ met).getD .anonymous) ∧
      (((start verifier 8).run [.connect .anonymous]).lastPresented? ⟨1⟩ refused).map (·.role) = none ∧
      (((start verifier 8).run [.connect .anonymous]).lastPresented? ⟨1⟩ met).map (·.role) =
        some Auth.serviceRole := by
  intro join attach refused met verifier
  have opened : ((start verifier 8).run (.connect .anonymous :: met)).hub.connections.contains ⟨1⟩ =
      true := by decide +kernel
  have speaks := (identity_run verifier 8 _ opened).2.1 [] .anonymous met rfl rfl
  exact ⟨opened, speaks, by decide +kernel, by decide +kernel⟩

end Server

end Gateway.Channel
