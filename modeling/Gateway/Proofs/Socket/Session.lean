import Gateway.Proofs.Channel.Departure
import Gateway.Proofs.Channel.Isolation
import Gateway.Socket.Session

/-!
# The life of a session

Events happen at a socket while the server does other things elsewhere. `Ends` says which event ends a
session with a given past, read off that past alone: a tick does so where the last ping is `Unanswered`.

`Session.served_follow` is the main statement, for all moments in all orders. Up to the event that ends the session
the server is handed the texts of the client, in order and among what happens elsewhere; then the connection
is closed, and nothing more is handed on. Whichever event it is, nothing of the connection is left, and the
others are told.
-/

namespace Gateway.Socket

open Gateway.Channel (ConnectionId Server)
open Gateway.Channel.Hub (contains_disconnect effect_act subscription?_of_not_contains)
open Gateway.Channel.Server (AlikeBut hub_step run_append)

/-! ## §1 — what ends a session -/

/-- **The last ping is unanswered**: at the last tick it was sent, and no pong has come since. -/
def Unanswered (past : List Event) : Prop :=
  ∃ earlier later, past = earlier ++ .tick true :: later ∧
    ∀ e ∈ later, e ≠ .pong ∧ ∀ isSent, e ≠ .tick isSent

/-- **The event ends a session** that has gone through these events. -/
def Ends (past : List Event) : Event → Prop
  | .text _ | .binary | .ping | .pong => False
  | .closed | .readFailure | .exhausted => True
  | .outbound isSent => isSent = false
  | .tick isSent => isSent = false ∨ Unanswered past
  | .signal stops => stops = true

/-- No event has ended the session. -/
def Open (past : List Event) : Prop :=
  ∀ earlier e later, past = earlier ++ e :: later → ¬ Ends earlier e

/-- An element of a list with one more at its end is that one, or one of those before. -/
theorem concat_eq_append_cons_iff {α : Type} {past earlier later : List α} {a b : α} :
    past ++ [a] = earlier ++ b :: later ↔
      (past = earlier ∧ a = b ∧ later = []) ∨
        ∃ between, past = earlier ++ b :: between ∧ later = between ++ [a] := by
  constructor
  · intro split
    rcases List.eq_nil_or_concat later with rfl | ⟨between, c, rfl⟩
    · obtain ⟨rfl, same⟩ := List.append_inj' split rfl
      exact .inl ⟨rfl, (List.cons.inj same).1, rfl⟩
    · rw [List.concat_eq_append, ← List.cons_append, ← List.append_assoc] at split
      obtain ⟨rfl, same⟩ := List.append_inj' split rfl
      obtain rfl := (List.cons.inj same).1
      exact .inr ⟨between, rfl, List.concat_eq_append⟩
  · rintro (⟨rfl, rfl, rfl⟩ | ⟨between, rfl, rfl⟩)
    · rfl
    · rw [List.append_assoc, List.cons_append]

theorem not_unanswered_nil : ¬ Unanswered [] := by
  rintro ⟨earlier, later, split, -⟩
  exact List.append_ne_nil_of_right_ne_nil _ (List.cons_ne_nil _ _) split.symm

/-- **A ping waits from a tick on**, up to the next pong or tick. -/
theorem unanswered_concat_iff {past : List Event} {e : Event} :
    Unanswered (past ++ [e]) ↔
      e = .tick true ∨ (Unanswered past ∧ e ≠ .pong ∧ ∀ isSent, e ≠ .tick isSent) := by
  constructor
  · rintro ⟨earlier, later, split, quiet⟩
    rcases concat_eq_append_cons_iff.1 split with ⟨-, same, -⟩ | ⟨between, rfl, rfl⟩
    · exact .inl same
    · refine .inr ⟨⟨earlier, between, rfl, fun f mem => quiet f (List.mem_append_left _ mem)⟩, ?_⟩
      exact quiet e (List.mem_append_right _ List.mem_cons_self)
  · rintro (rfl | ⟨⟨earlier, later, rfl, quiet⟩, last⟩)
    · exact ⟨past, [], rfl, List.forall_mem_nil _⟩
    · refine ⟨earlier, later ++ [e], by rw [List.append_assoc, List.cons_append], fun f mem => ?_⟩
      rcases List.mem_append.1 mem with mem | mem
      · exact quiet f mem
      · exact List.mem_singleton.1 mem ▸ last

theorem open_nil : Open [] :=
  fun _ _ _ split => absurd split.symm (List.append_ne_nil_of_right_ne_nil _ (List.cons_ne_nil _ _))

theorem open_concat_iff {past : List Event} {e : Event} :
    Open (past ++ [e]) ↔ Open past ∧ ¬ Ends past e := by
  constructor
  · intro all
    refine ⟨fun earlier f later split => all earlier f (later ++ [e]) ?_, all past e [] rfl⟩
    rw [split, List.append_assoc, List.cons_append]
  · rintro ⟨all, last⟩ earlier f later split
    rcases concat_eq_append_cons_iff.1 split with ⟨rfl, rfl, -⟩ | ⟨between, rfl, -⟩
    · exact last
    · exact all earlier f between rfl

/-- **One step of the heart.** The flag of a session says whether the last ping is unanswered, and an event
ends the session or leaves a flag that says so again. -/
theorem phase_step {past : List Event} {awaiting : Bool} (heart : awaiting = true ↔ Unanswered past)
    (e : Event) :
    (Ends past e ∧ (Phase.step awaiting e).1 = .ended) ∨
      (¬ Ends past e ∧ ∃ next, (Phase.step awaiting e).1 = .active next ∧
        (next = true ↔ Unanswered (past ++ [e]))) := by
  have kept {e : Event} (other : e ≠ .pong ∧ ∀ isSent, e ≠ .tick isSent) :
      awaiting = true ↔ Unanswered (past ++ [e]) := by
    rw [unanswered_concat_iff, heart, or_iff_right (other.2 true)]
    exact (and_iff_left other).symm
  cases e with
  | text | binary | ping => exact .inr ⟨id, awaiting, rfl, kept ⟨nofun, nofun⟩⟩
  | pong =>
    refine .inr ⟨id, false, rfl, iff_of_false nofun ?_⟩
    rw [unanswered_concat_iff]
    rintro (same | ⟨-, other, -⟩)
    · cases same
    · exact other rfl
  | closed | readFailure | exhausted => exact .inl ⟨trivial, rfl⟩
  | outbound isSent =>
    cases isSent with
    | false => exact .inl ⟨rfl, rfl⟩
    | true => exact .inr ⟨nofun, awaiting, rfl, kept ⟨nofun, nofun⟩⟩
  | signal stops =>
    cases stops with
    | false => exact .inr ⟨nofun, awaiting, rfl, kept ⟨nofun, nofun⟩⟩
    | true => exact .inl ⟨rfl, rfl⟩
  | tick isSent =>
    cases awaiting with
    | true => exact .inl ⟨.inr (heart.1 rfl), rfl⟩
    | false =>
      have answered : ¬ Unanswered past := fun waits => nomatch heart.2 waits
      cases isSent with
      | false => exact .inl ⟨.inl rfl, rfl⟩
      | true =>
        refine .inr ⟨fun ends => ends.elim nofun answered, true, rfl, iff_of_true rfl ?_⟩
        exact unanswered_concat_iff.2 (.inl rfl)

/-! ## §2 — a session among others -/

/-- Something that happens in the life of a session. -/
inductive Moment where
  /-- Something happens at its socket. -/
  | socket (e : Event)
  /-- Something happens to the server elsewhere. -/
  | elsewhere (a : Channel.Action)

namespace Moment

/-- The events at the socket. -/
def events (moments : List Moment) : List Event :=
  moments.filterMap fun
    | socket e => some e
    | elsewhere _ => none

/-- What happens elsewhere. -/
def others (moments : List Moment) : List Channel.Action :=
  moments.filterMap fun
    | socket _ => none
    | elsewhere a => some a

/-- What the server is handed at a moment: a text of the client, or what happens elsewhere. -/
def handed (c : ConnectionId) : Moment → List Channel.Action
  | socket (.text text) => [.text c text]
  | socket _ => []
  | elsewhere a => [a]

/-- **What the server is handed**: the texts of the client, in order and among what happens elsewhere. -/
def allHanded (c : ConnectionId) (moments : List Moment) : List Channel.Action :=
  moments.flatMap (handed c)

theorem events_concat (moments : List Moment) (m : Moment) :
    events (moments ++ [m]) = events moments ++ events [m] :=
  List.filterMap_append

theorem others_concat (moments : List Moment) (m : Moment) :
    others (moments ++ [m]) = others moments ++ others [m] :=
  List.filterMap_append

theorem allHanded_concat (c : ConnectionId) (moments : List Moment) (m : Moment) :
    allHanded c (moments ++ [m]) = allHanded c moments ++ handed c m := by
  rw [allHanded, allHanded, List.flatMap_append, List.flatMap_singleton]

end Moment

open Moment

namespace Session

variable {c : ConnectionId} {server : Server} {awaiting : Bool} {e : Event}

/-- What a moment leads to. -/
def meet (now : Server × Session) : Moment → Server × Session
  | .socket e => ((now.2.step now.1 e).1, (now.2.step now.1 e).2.1)
  | .elsewhere a => (now.1.step a, now.2)

/-- **What moments lead to**, in order. -/
def follow (now : Server × Session) (moments : List Moment) : Server × Session :=
  moments.foldl meet now

/-- Where nothing happens elsewhere, this is the run of the session. -/
theorem follow_socket (s : Session) (server : Server) (events : List Event) :
    follow (server, s) (events.map .socket) = ((s.run server events).1, (s.run server events).2.1) := by
  induction events generalizing s server with
  | nil => rfl
  | cons e rest ih => exact ih (s.step server e).2.1 (s.step server e).1

/-- The session takes frames out of its own queue only. -/
theorem alikeBut_receive (server : Server) (c : ConnectionId) :
    AlikeBut c (server.receive c).1 server := by
  unfold Server.receive
  split
  · exact .refl c server
  · exact ⟨rfl, rfl, fun d other => (Keyed.get?_insert ..).trans (if_neg other)⟩

/-- **An event hands the server a text, or nothing**, whatever it does to the queue of its connection. -/
theorem alikeBut_handle (s : Session) (server : Server) (e : Event) :
    AlikeBut s.connection (s.handle server e).1 (server.run (handed s.connection (.socket e))) := by
  cases e with
  | outbound => exact alikeBut_receive server s.connection
  | _ => exact .refl _ _

theorem step_of_ends (c : ConnectionId) (server : Server)
    (ends : (Phase.step awaiting e).1 = .ended) :
    let s : Session := ⟨c, .active awaiting⟩
    (s.step server e).1 = (s.handle server e).1.disconnect c ∧ (s.step server e).2.1 = ⟨c, .ended⟩ := by
  simp only [step, ends, settle, and_self]

theorem step_of_active (c : ConnectionId) (server : Server) {next : Bool}
    (stays : (Phase.step awaiting e).1 = .active next) :
    let s : Session := ⟨c, .active awaiting⟩
    (s.step server e).1 = (s.handle server e).1 ∧ (s.step server e).2.1 = ⟨c, .active next⟩ := by
  simp only [step, stays, settle, and_self]

/-- **Where a session stands** that began with a server, after some moments: it goes on, or one of its
events has ended it. -/
inductive Stands (c : ConnectionId) (first : Server) (moments : List Moment) : Server × Session → Prop
  | goesOn {server : Server} {awaiting : Bool} (isOpen : Open (events moments))
      (heart : awaiting = true ↔ Unanswered (events moments))
      (alike : AlikeBut c server (first.run (allHanded c moments))) :
      Stands c first moments (server, ⟨c, .active awaiting⟩)
  | isOver {server : Server} (live : List Moment) (e : Event) (rest : List Moment)
      (split : moments = live ++ .socket e :: rest) (isOpen : Open (events live))
      (ends : Ends (events live) e)
      (alike : AlikeBut c server (first.run (allHanded c live ++ .disconnect c :: others rest))) :
      Stands c first moments (server, ⟨c, .ended⟩)

/-- An event that ends a session is no text. -/
theorem handed_of_ends {past : List Event} (ends : Ends past e) : handed c (.socket e) = [] := by
  cases e with
  | text => exact ends.elim
  | _ => rfl

/-- **Every moment leads on.** -/
theorem Stands.meet {first : Server} {moments : List Moment} {now : Server × Session}
    (stands : Stands c first moments now) (m : Moment) :
    Stands c first (moments ++ [m]) (meet now m) := by
  cases stands with
  | @goesOn server awaiting isOpen heart alike =>
    cases m with
    | elsewhere a =>
      have same : events (moments ++ [.elsewhere a]) = events moments := by
        rw [events_concat]
        exact List.append_nil _
      refine .goesOn (same ▸ isOpen) (same ▸ heart) ?_
      rw [allHanded_concat, run_append]
      exact alike.step a
    | socket e =>
      have handled := alikeBut_handle ⟨c, .active awaiting⟩ server e
      rcases phase_step heart e with ⟨ends, phase⟩ | ⟨stays, next, phase, heart⟩
      · obtain ⟨left, ended⟩ := step_of_ends c server phase
        rw [Session.meet, left, ended]
        refine .isOver moments e [] rfl isOpen ends ?_
        rw [run_append]
        rw [handed_of_ends ends] at handled
        exact (handled.trans alike).step (.disconnect c)
      · obtain ⟨left, going⟩ := step_of_active c server phase
        rw [Session.meet, left, going]
        have more : events (moments ++ [.socket e]) = events moments ++ [e] := events_concat ..
        refine .goesOn (more ▸ open_concat_iff.2 ⟨isOpen, stays⟩) (more ▸ heart) ?_
        rw [allHanded_concat, run_append]
        exact handled.trans (alike.run rfl).after
  | @isOver server live last rest split isOpen ends alike =>
    have split' : moments ++ [m] = live ++ .socket last :: (rest ++ [m]) := by
      rw [split, List.append_assoc, List.cons_append]
    -- Nothing at the socket counts any more.
    cases m with
    | socket e =>
      refine .isOver live last (rest ++ [.socket e]) split' isOpen ends ?_
      rw [others_concat]
      exact (List.append_nil (others rest)).symm ▸ alike
    | elsewhere a =>
      refine .isOver live last (rest ++ [.elsewhere a]) split' isOpen ends ?_
      rw [others_concat, ← List.cons_append, ← List.append_assoc, run_append]
      exact alike.step a

/-- After all moments a session stands. -/
theorem stands_follow (c : ConnectionId) (first : Server) (moments : List Moment) :
    Stands c first moments (follow (first, { connection := c }) moments) := by
  induction moments using List.reverseRecOn with
  | nil => exact .goesOn open_nil (iff_of_false nofun not_unanswered_nil) (.refl c first)
  | append_singleton moments m ih =>
    rw [follow, List.foldl_concat]
    exact ih.meet m

/-! ## §3 — the life of a session -/

/-- **What a session owes**, after some moments of its life. -/
structure Served (c : ConnectionId) (first : Server) (moments : List Moment) (server : Server)
    (s : Session) : Prop where
  connection : s.connection = c
  /-- It is over exactly when one of its events has ended it. -/
  ended_iff : s.phase = .ended ↔ ¬ Open (events moments)
  /-- At a tick it closes the socket exactly when the last ping is unanswered; else it pings again. -/
  heartbeat : Open (events moments) → ∀ isSent,
    (Unanswered (events moments) → (s.step server (.tick isSent)).2.2 = [.close]) ∧
      (¬ Unanswered (events moments) → (s.step server (.tick isSent)).2.2 = [.ping])
  /-- Bytes and pings change nothing. -/
  ignored : s.step server .binary = (server, s, []) ∧ s.step server .ping = (server, s, [])
  /-- While it goes on, the server has been handed all texts, in order. -/
  going : Open (events moments) → AlikeBut c server (first.run (allHanded c moments))
  /-- Once it is over, it has been handed the texts up to the event that ended it, and then the connection
  was closed; the other members of its topics were told. -/
  settled : ¬ Open (events moments) → ∃ live e rest, moments = live ++ .socket e :: rest ∧
    Open (events live) ∧ Ends (events live) e ∧
    AlikeBut c server (first.run (allHanded c live ++ .disconnect c :: others rest)) ∧
    (first.run (allHanded c live)).hub.Farewell c
  /-- Once it is over, nothing of the connection is left. -/
  gone : ¬ Open (events moments) → server.hub.connections.contains c = false ∧
    ∀ topic, server.hub.Absent c topic

/-- An ended session has been open up to an event, so it is not open. -/
theorem not_open_of_ends {live : List Moment} {rest : List Moment} (ends : Ends (events live) e) :
    ¬ Open (events (live ++ .socket e :: rest)) := by
  intro all
  refine all (events live) e (events rest) ?_ ends
  rw [events, List.filterMap_append]
  rfl

theorem Stands.served {first : Server} (inv : first.hub.Consistent)
    (numbered : c.number < first.hub.nextConnection) {moments : List Moment} {now : Server × Session}
    (stands : Stands c first moments now) : Served c first moments now.1 now.2 := by
  cases stands with
  | @goesOn server awaiting isOpen heart alike =>
    refine ⟨rfl, iff_of_false nofun (not_not_intro isOpen),
      fun _ isSent => ⟨fun waits => ?_, fun answered => ?_⟩, ⟨rfl, rfl⟩, fun _ => alike,
      fun closed => absurd isOpen closed, fun closed => absurd isOpen closed⟩
    · obtain rfl := heart.2 waits
      rfl
    · obtain rfl : awaiting = false := by simpa using fun waits => answered (heart.1 waits)
      rfl
  | @isOver server live e rest split isOpen ends alike =>
    have closed : ¬ Open (events moments) := split ▸ not_open_of_ends ends
    refine ⟨rfl, iff_of_true rfl closed, fun all => absurd all closed, ⟨rfl, rfl⟩,
      fun all => absurd all closed, fun _ => ⟨live, e, rest, split, isOpen, ends, alike, ?_⟩, fun _ => ?_⟩
    · exact (Server.consistent_run inv _).farewell c
    · let after := (first.run (allHanded c live)).step (.disconnect c)
      have left : after.hub.Gone c := by
        rw [hub_step]
        have before := Nat.lt_of_lt_of_le numbered (first.nextConnection_le_run (allHanded c live))
        exact ⟨contains_disconnect _ c, Nat.lt_of_lt_of_le before (effect_act _ _).nextConnection_le⟩
      have gone := Server.gone_run left (others rest)
      have kept : (after.run (others rest)).hub.Consistent :=
        Server.consistent_run (Server.consistent_step (Server.consistent_run inv _) _) _
      have run : first.run (allHanded c live ++ .disconnect c :: others rest) =
          after.run (others rest) := run_append ..
      rw [alike.hub, run]
      exact ⟨gone.closed, fun topic => kept.absent (subscription?_of_not_contains gone.closed topic)⟩

/-- **The life of a session**: whatever a server has gone through, and whatever happens at the socket of a
new session and elsewhere, in whatever order. -/
theorem served_follow (verifier : Auth.Verifier) (capacity : Nat) (before : List Channel.Action)
    (identity : Auth.Identity) (moments : List Moment) :
    let first := start ((Server.start verifier capacity).run before) identity
    let now := follow first moments
    Served first.2.connection first.1 moments now.1 now.2 := by
  intro first now
  have ready : ((Server.start verifier capacity).run before).hub.Consistent :=
    Server.consistent_run (.fresh verifier) before
  have inv : first.1.hub.Consistent := Server.consistent_step ready (.connect identity)
  have numbered : first.2.connection.number < first.1.hub.nextConnection := Nat.lt_succ_self _
  exact (stands_follow first.2.connection first.1 moments).served inv numbered

end Session

end Gateway.Socket
