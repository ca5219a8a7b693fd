import Gateway.Proofs.Feed.Course

/-!
# What the change feed delivers

A listener runs in stretches, each from a start to the next stop (`stretches`). In a stretch it takes one
session after the other and hears of each the payloads that come before the first fault, up to the last
moment of the stretch (`Stretch.heard`); where one session is over, the next attempt begins after the
pause. None of this speaks of phases or signals.

`Timeline.deliveries` is the main statement: for any sessions and any calls, what is handed on is what
the payloads heard in the stretches say, each once and in order. Beside it stand the laws of the states:
they move along the ways of `State.Moves` only, a change is handed on while the listener listens, a
listener that runs is not started again, and a stopped one is as good as new and stays quiet.
-/

namespace Gateway.Feed

/-! ## §1 — what there is to hear -/

/-- The payloads of an open session before its first fault, each with the time at which it comes. -/
def arrivals (now : Nat) : List Item → List (Nat × String)
  | [] => []
  | item :: rest =>
    match item.content with
    | .error _ => []
    | .ok payload => (now + item.delay, payload) :: arrivals (now + item.delay) rest

/-- When an open session is over: at its first fault, or after its last item if it ends then. -/
def over? (now : Nat) (close : Close) : List Item → Option Nat
  | [] =>
    match close with
    | .ends => some now
    | .hangs => none
  | item :: rest =>
    match item.content with
    | .error _ => some (now + item.delay)
    | .ok _ => over? (now + item.delay) close rest

namespace Session

/-- The payloads of an attempt that begins now; a refused one has none. -/
def arrivals (s : Session) (now : Nat) : List (Nat × String) :=
  match s.attempt with
  | .refused _ => []
  | .opened items _ => Feed.arrivals (now + s.delay) items

/-- When an attempt that begins now is over, with its session if it opens one. -/
def over? (s : Session) (now : Nat) : Option Nat :=
  match s.attempt with
  | .refused _ => some (now + s.delay)
  | .opened items close => Feed.over? (now + s.delay) close items

end Session

/-- The attempts of a listener that goes on for ever, each with the time at which it begins. There is a
pause before each attempt but the first, and where no session is left an attempt has no outcome. -/
def attempts (pause now : Nat) : List Session → List (Nat × Option Session)
  | [] => [(now, none)]
  | s :: rest => (now, some s) :: (s.over? now).elim [] fun time => attempts pause (time + pause) rest

/-- The payloads of such a listener, each with the time at which it comes. -/
def payloads (pause now : Nat) (sessions : List Session) : List (Nat × String) :=
  (attempts pause now sessions).flatMap fun (time, s) => s.elim [] fun s => s.arrivals time

/-! ## §2 — stretches -/

/-- A stretch of time in which the listener runs. -/
structure Stretch where
  /-- When it is started. -/
  since : Nat
  /-- The last moment of the stretch; none when the listener never gets its turn. -/
  last : Option Nat
deriving DecidableEq, Repr

namespace Stretch

/-- The moment is not past the end of the stretch. -/
def covers (w : Stretch) (time : Nat) : Bool :=
  w.last.any (time ≤ ·)

/-- How many attempts begin in the stretch. -/
def begun (w : Stretch) (pause : Nat) (sessions : List Session) : Nat :=
  (attempts pause w.since sessions).countP fun begin => w.covers begin.1

/-- **What the listener hears in the stretch**: the payloads that come before its end. -/
def heard (w : Stretch) (pause : Nat) (sessions : List Session) : List String :=
  ((payloads pause w.since sessions).filter fun arrival => w.covers arrival.1).map Prod.snd

end Stretch

/-- The stretches of calls that are made from some moment on. -/
def stretches (now : Nat) (running : Option Stretch) : List Call → List Stretch
  | [] => running.toList
  | .start :: rest => stretches now (running.or (some ⟨now, none⟩)) rest
  | .stop :: rest => running.toList ++ stretches now none rest
  | .pass duration :: rest =>
    let now := now + duration
    stretches now (running.map fun w => { w with last := some now }) rest

/-- **What the listener hears in stretches**, each of which takes up where the sessions were left. -/
def heard (pause : Nat) (sessions : List Session) : List Stretch → List String
  | [] => []
  | w :: rest =>
    w.heard pause sessions ++ heard pause (sessions.drop (w.begun pause sessions)) rest

/-! ## §3 — the plan of a listener -/

/-- The signals of a session bring its payloads up to the first fault. -/
theorem payloads_itemSignals (now : Nat) (close : Close) (items : List Item) :
    (itemSignals now close items).1.filterMap
        (fun planned => planned.2.payload?.map (planned.1, ·)) = arrivals now items ∧
      (itemSignals now close items).2 = over? now close items ∧
      (itemSignals now close items).1.filter (fun planned => planned.2 = .wake) = [] := by
  induction items generalizing now with
  | nil => cases close <;> exact ⟨rfl, rfl, rfl⟩
  | cons item rest ih =>
    obtain ⟨delay, content⟩ := item
    cases content with
    | error fault => exact ⟨rfl, rfl, rfl⟩
    | ok payload =>
      obtain ⟨brought, finish, turns⟩ := ih (now + delay)
      exact ⟨congrArg ((now + delay, payload) :: ·) brought, finish, turns⟩

/-- The signals of an attempt bring the payloads of its session. -/
theorem Session.payloads_signals (s : Session) (now : Nat) :
    (s.signals now).1.filterMap
        (fun planned => planned.2.payload?.map (planned.1, ·)) = s.arrivals now ∧
      (s.signals now).2 = s.over? now ∧
      (s.signals now).1.filter (fun planned => planned.2 = .wake) = [] := by
  obtain ⟨delay, attempt⟩ := s
  cases attempt with
  | refused fault => exact ⟨rfl, rfl, rfl⟩
  | opened items close => exact payloads_itemSignals (now + delay) close items

variable (pause : Nat)

/-- A turn, the signals of the attempt that begins with it, and the plan from the end of it on. -/
theorem plan_cons (now : Nat) (s : Session) (rest : List Session) :
    plan pause now (s :: rest) = (now, .wake) :: ((s.signals now).1 ++
      (s.over? now).elim [] fun time => plan pause (time + pause) rest) := by
  rw [← s.payloads_signals now |>.2.1]
  rfl

/-- **The plan brings the payloads of the attempts**, each at its time. -/
theorem payloads_plan (now : Nat) (sessions : List Session) :
    (plan pause now sessions).filterMap (fun planned => planned.2.payload?.map (planned.1, ·)) =
      payloads pause now sessions := by
  induction sessions generalizing now with
  | nil => rfl
  | cons s rest ih =>
    obtain ⟨brought, -, -⟩ := s.payloads_signals now
    have later : ((s.over? now).elim [] fun time => plan pause (time + pause) rest).filterMap
        (fun planned => planned.2.payload?.map (planned.1, ·)) =
        ((s.over? now).elim [] fun time => attempts pause (time + pause) rest).flatMap
          fun (time, s) => s.elim [] fun s => s.arrivals time := by
      cases s.over? now with
      | none => rfl
      | some time => exact ih (time + pause)
    rw [plan_cons, List.filterMap_cons, List.filterMap_append, brought, later]
    rfl

/-- **The listener gets its turn where an attempt begins.** -/
theorem turns_plan (now : Nat) (sessions : List Session) :
    ((plan pause now sessions).filter fun planned => planned.2 = .wake).map Prod.fst =
      (attempts pause now sessions).map Prod.fst := by
  induction sessions generalizing now with
  | nil => rfl
  | cons s rest ih =>
    obtain ⟨-, -, turns⟩ := s.payloads_signals now
    have later : (((s.over? now).elim [] fun time => plan pause (time + pause) rest).filter
          fun planned => planned.2 = .wake).map Prod.fst =
        ((s.over? now).elim [] fun time => attempts pause (time + pause) rest).map Prod.fst := by
      cases s.over? now with
      | none => rfl
      | some time => exact ih (time + pause)
    rw [plan_cons, List.filter_cons_of_pos rfl, List.filter_append, turns, attempts, List.map_cons,
      List.map_cons]
    exact congrArg (now :: ·) later

/-- The signals of a session come in the phase that waits for them, and leave the listener pausing when
the session is over. -/
theorem inTurn_itemSignals (now : Nat) (close : Close) (items : List Item) :
    Phase.listening.InTurn ((itemSignals now close items).1.map Prod.snd) ∧
      ((over? now close items).isSome →
        Phase.listening.after ((itemSignals now close items).1.map Prod.snd) = .pausing) := by
  induction items generalizing now with
  | nil =>
    cases close with
    | ends => exact ⟨⟨.ended, trivial⟩, fun _ => rfl⟩
    | hangs => exact ⟨trivial, fun h => absurd h Bool.false_ne_true⟩
  | cons item rest ih =>
    obtain ⟨delay, content⟩ := item
    cases content with
    | error fault => exact ⟨⟨.interrupted fault, trivial⟩, fun _ => rfl⟩
    | ok payload =>
      obtain ⟨inTurn, ends⟩ := ih (now + delay)
      exact ⟨⟨.notified payload, inTurn⟩, ends⟩

theorem Session.inTurn_signals (s : Session) (now : Nat) :
    Phase.connecting.InTurn ((s.signals now).1.map Prod.snd) ∧
      ((s.over? now).isSome →
        Phase.connecting.after ((s.signals now).1.map Prod.snd) = .pausing) := by
  obtain ⟨delay, attempt⟩ := s
  cases attempt with
  | refused fault => exact ⟨⟨.refused fault, trivial⟩, fun _ => rfl⟩
  | opened items close =>
    obtain ⟨inTurn, ends⟩ := inTurn_itemSignals (now + delay) close items
    exact ⟨⟨.opened, inTurn⟩, ends⟩

/-- **Every signal of the plan comes in the phase that waits for it.** -/
theorem inTurn_plan {p : Phase} (ready : p.Awaits .wake) (now : Nat) (sessions : List Session) :
    p.InTurn ((plan pause now sessions).map Prod.snd) := by
  have connects : (p.step .wake).1 = .connecting := by cases ready <;> rfl
  induction sessions generalizing p now with
  | nil => exact ⟨ready, trivial⟩
  | cons s rest ih =>
    obtain ⟨inTurn, pauses⟩ := s.inTurn_signals now
    rw [plan_cons, List.map_cons, List.map_append]
    refine ⟨ready, connects ▸ Phase.inTurn_append.2 ⟨inTurn, ?_⟩⟩
    cases ended : s.over? now with
    | none => trivial
    | some time =>
      rw [pauses (ended ▸ rfl)]
      exact ih .pauseEnd (time + pause) rfl

/-! ## §4 — the times of a plan -/

/-- The signals of a session come one after the other, up to what comes when it is over. -/
theorem rising_itemSignals (now : Nat) (close : Close) (items : List Item) {later : List Nat}
    (h : ∀ time, over? now close items = some time → (time :: later).IsChain (· ≤ ·))
    (hangs : over? now close items = none → later = []) :
    (now :: ((itemSignals now close items).1.map Prod.fst ++ later)).IsChain (· ≤ ·) := by
  induction items generalizing now with
  | nil =>
    cases close with
    | ends => exact (h now rfl).cons_cons (Nat.le_refl now)
    | hangs => rw [hangs rfl]; exact List.isChain_singleton now
  | cons item rest ih =>
    obtain ⟨delay, content⟩ := item
    cases content with
    | error fault => exact (h (now + delay) rfl).cons_cons (Nat.le_add_right now delay)
    | ok payload => exact (ih (now + delay) h hangs).cons_cons (Nat.le_add_right now delay)

theorem Session.rising_signals (s : Session) (now : Nat) {later : List Nat}
    (h : ∀ time, s.over? now = some time → (time :: later).IsChain (· ≤ ·))
    (hangs : s.over? now = none → later = []) :
    (now :: ((s.signals now).1.map Prod.fst ++ later)).IsChain (· ≤ ·) := by
  obtain ⟨delay, attempt⟩ := s
  cases attempt with
  | refused fault => exact (h (now + delay) rfl).cons_cons (Nat.le_add_right now delay)
  | opened items close =>
    exact (rising_itemSignals (now + delay) close items h hangs).cons_cons (Nat.le_add_right now delay)

/-- **The signals of the plan come one after the other.** -/
theorem rising_plan (now : Nat) (sessions : List Session) :
    ((plan pause now sessions).map Prod.fst).IsChain (· ≤ ·) := by
  induction sessions generalizing now with
  | nil => exact List.isChain_singleton now
  | cons s rest ih =>
    rw [plan_cons, List.map_cons, List.map_append]
    refine s.rising_signals now (fun time ended => ?_) fun ended => by rw [ended]; rfl
    rw [ended]
    have next := ih (time + pause)
    cases rest <;> exact next.cons_cons (Nat.le_add_right time pause)

/-! ## §5 — up to some moment -/

/-- Where the first elements have a property if any has, those in front that have it are all. -/
theorem takeWhile_eq_filter {α : Type} {P : α → Bool} {l : List α}
    (first : l.Pairwise fun a b => P b = true → P a = true) : l.takeWhile P = l.filter P := by
  induction l with
  | nil => rfl
  | cons a rest ih =>
    obtain ⟨before, later⟩ := List.pairwise_cons.1 first
    cases holds : P a with
    | true => rw [List.takeWhile_cons_of_pos holds, List.filter_cons_of_pos holds, ih later]
    | false =>
      have fails : ∀ b ∈ rest, ¬ P b = true := fun b mem h =>
        Bool.false_ne_true (holds.symm.trans (before b mem h))
      have failed : ¬ P a = true := Bool.eq_false_iff.1 holds
      rw [List.takeWhile_cons_of_neg failed, List.filter_cons_of_neg failed]
      exact (List.filter_eq_nil_iff.2 fails).symm

/-- What is in front by a weaker property is what is in front by a stronger one, and what follows. -/
theorem takeWhile_of_imp {α : Type} {P Q : α → Bool} (h : ∀ a, P a = true → Q a = true) (l : List α) :
    l.takeWhile Q = l.takeWhile P ++ (l.dropWhile P).takeWhile Q ∧
      l.dropWhile Q = (l.dropWhile P).dropWhile Q := by
  induction l with
  | nil => exact ⟨rfl, rfl⟩
  | cons a rest ih =>
    by_cases holds : P a = true
    · rw [List.takeWhile_cons_of_pos (h a holds), List.takeWhile_cons_of_pos holds,
        List.dropWhile_cons_of_pos (h a holds), List.dropWhile_cons_of_pos holds, List.cons_append]
      exact ⟨congrArg (a :: ·) ih.1, ih.2⟩
    · rw [List.takeWhile_cons_of_neg holds, List.dropWhile_cons_of_neg holds]
      exact ⟨rfl, rfl⟩

namespace Stretch

variable (w : Stretch) (sessions : List Session)

/-- A moment before one of the stretch is one of the stretch, or comes before it. -/
theorem covers_of_le {earlier later : Nat} (le : earlier ≤ later) (h : w.covers later = true) :
    w.covers earlier = true := by
  obtain ⟨last, found, bound⟩ := (Option.any_eq_true ..).1 h
  rw [covers, found]
  exact decide_eq_true (Nat.le_trans le (of_decide_eq_true bound))

/-- The signals of the plan that come in the stretch. -/
def past : List (Nat × Signal) :=
  (plan pause w.since sessions).takeWhile fun planned => w.covers planned.1

theorem past_eq_filter :
    w.past pause sessions = (plan pause w.since sessions).filter fun planned => w.covers planned.1 := by
  have rising := List.isChain_iff_pairwise.1 (rising_plan pause w.since sessions)
  exact takeWhile_eq_filter ((List.pairwise_map.1 rising).imp fun le h => w.covers_of_le le h)

/-- **The signals of a stretch say what is heard in it.** -/
theorem heardOf_past :
    heardOf (w.past pause sessions) = (w.heard pause sessions).filterMap Event.read? := by
  rw [past_eq_filter, heardOf, heard, ← payloads_plan, List.filter_filterMap, List.filterMap_map,
    List.filterMap_filterMap, List.filterMap_filter]
  refine List.filterMap_congr fun planned _ => ?_
  cases planned.2.payload? with
  | none => simp
  | some payload => cases covered : w.covers planned.1 <;> simp [Option.filter, covered]

/-- In a stretch the listener gets its turn once for each attempt. -/
theorem turns_past :
    (w.past pause sessions).countP (fun planned => planned.2 = .wake) = w.begun pause sessions := by
  have turns := congrArg (List.countP w.covers) (turns_plan pause w.since sessions)
  rw [List.countP_map, List.countP_map, List.countP_filter] at turns
  rw [past_eq_filter, List.countP_filter, begun]
  refine Eq.trans (List.countP_congr fun planned _ => ?_) turns
  rw [Function.comp_apply, Bool.and_comm]

end Stretch

namespace Timeline

/-! ## §6 — a listener in a stretch -/

/-- **The listener is in a stretch**, which it began with these sessions: it has got the signals of its
plan up to the last moment of the stretch, and waits for the others. -/
structure Within (t : Timeline) (w : Stretch) (sessions : List Session) : Prop where
  running : t.phase.isRunning = true
  inTurn : t.phase.InTurn (t.planned.map Prod.snd)
  planned : t.planned = (plan t.pause w.since sessions).dropWhile fun planned => w.covers planned.1
  left : t.sessions = sessions.drop (w.begun t.pause sessions)
  past : ∀ last, w.last = some last → last ≤ t.now

/-- A start begins a stretch. -/
theorem within_start {t : Timeline} (stopped : t.phase = .stopped) :
    t.start.Within ⟨t.now, none⟩ t.sessions := by
  rw [start_of_stopped stopped]
  refine ⟨rfl, inTurn_plan _ .turn _ _, ?_, ?_, fun _ h => absurd h (by simp)⟩
  · cases plan t.pause t.now t.sessions <;> rfl
  · show t.sessions = t.sessions.drop (List.countP (fun _ => false) _)
    rw [List.countP_false]
    rfl

variable {t : Timeline} {w : Stretch} {sessions : List Session}

/-- **Time that passes prolongs the stretch**, and what is handed on meanwhile is what is heard more. -/
theorem Within.pass (h : t.Within w sessions) (duration : Nat) :
    (t.run duration).1.Within { w with last := some (t.now + duration) } sessions ∧
      (w.heard t.pause sessions).filterMap Event.read? ++ dispatched (t.run duration).2 =
        (Stretch.heard { w with last := some (t.now + duration) } t.pause sessions).filterMap
          Event.read? := by
  let longer : Stretch := { w with last := some (t.now + duration) }
  have covered : ∀ planned : Nat × Signal, w.covers planned.1 = true →
      longer.covers planned.1 = true := by
    intro planned reached
    obtain ⟨last, found, bound⟩ := (Option.any_eq_true ..).1 reached
    have le := Nat.le_trans (of_decide_eq_true bound) (h.past last found)
    exact decide_eq_true (Nat.le_trans le (Nat.le_add_right t.now duration))
  obtain ⟨front, back⟩ := takeWhile_of_imp covered (plan t.pause w.since sessions)
  have due : w.past t.pause sessions ++ t.due duration = longer.past t.pause sessions := by
    rw [Timeline.due, h.planned]
    exact front.symm
  have parts : t.planned = t.due duration ++
      t.planned.dropWhile fun planned => planned.1 ≤ t.now + duration :=
    List.takeWhile_append_dropWhile.symm
  obtain ⟨now, later⟩ : t.phase.InTurn ((t.due duration).map Prod.snd) ∧
      (t.phase.after ((t.due duration).map Prod.snd)).InTurn
        ((t.planned.dropWhile fun planned => planned.1 ≤ t.now + duration).map Prod.snd) := by
    rw [← Phase.inTurn_append, ← List.map_append, ← parts]
    exact h.inTurn
  rw [run_eq]
  refine ⟨?_, ?_⟩
  · rw [signals_fst]
    refine ⟨Phase.isRunning_after h.running now, later, ?_, ?_, ?_⟩
    · show t.planned.dropWhile _ = _
      rw [h.planned]
      exact back.symm
    · show t.sessions.drop _ = _
      rw [h.left, List.drop_drop, ← w.turns_past, ← List.countP_append, due, longer.turns_past]
    · rintro last found
      exact Nat.le_of_eq (Option.some.inj found).symm
  · show _ = (longer.heard t.pause sessions).filterMap Event.read?
    rw [dispatched_signals (by exact now), ← w.heardOf_past, ← longer.heardOf_past, ← due]
    exact List.filterMap_append.symm

/-- How the listener stands: stopped, with these sessions before it, or in a stretch that it began with
them. -/
def Stands (t : Timeline) (sessions : List Session) : Option Stretch → Prop
  | none => t.phase = .stopped ∧ t.planned = [] ∧ t.sessions = sessions
  | some w => t.Within w sessions

/-- What has been heard in the stretch that the listener is in. -/
def soFar (pause : Nat) (sessions : List Session) (running : Option Stretch) : List String :=
  running.elim [] fun w => w.heard pause sessions

/-- What is heard in the current stretch comes before what is heard in later ones, which take up where it
leaves the sessions. -/
theorem heard_append (pause : Nat) (sessions : List Session) (running : Option Stretch)
    (later : List Stretch) :
    heard pause sessions (running.toList ++ later) =
      soFar pause sessions running ++
        heard pause (sessions.drop (running.elim 0 fun w => w.begun pause sessions)) later := by
  cases running <;> rfl

variable {running : Option Stretch}

theorem Stands.start (h : t.Stands sessions running) :
    t.start.Stands sessions (running.or (some ⟨t.now, none⟩)) := by
  cases running with
  | none =>
    obtain ⟨stopped, -, rfl⟩ := h
    exact within_start stopped
  | some w =>
    have inside : t.Within w sessions := h
    rw [start_of_isRunning inside.running]
    exact inside

theorem Stands.stop (h : t.Stands sessions running) :
    t.stop.Stands (sessions.drop (running.elim 0 fun w => w.begun t.pause sessions)) none := by
  rw [stop_eq]
  refine ⟨rfl, rfl, ?_⟩
  cases running with
  | none => exact h.2.2
  | some w =>
    have inside : t.Within w sessions := h
    exact inside.left

theorem Stands.pass (h : t.Stands sessions running) (duration : Nat) :
    (t.run duration).1.Stands sessions
        (running.map fun w => { w with last := some (t.now + duration) }) ∧
      (soFar t.pause sessions running).filterMap Event.read? ++ dispatched (t.run duration).2 =
        (soFar t.pause sessions
          (running.map fun w => { w with last := some (t.now + duration) })).filterMap Event.read? := by
  cases running with
  | none =>
    obtain ⟨stopped, nothing, left⟩ := h
    have quiet : t.run duration = ({ t with now := t.now + duration }, []) := by
      rw [run_eq, due, nothing]
      rfl
    rw [quiet]
    exact ⟨⟨stopped, nothing, left⟩, rfl⟩
  | some w => exact Within.pass h duration

/-- A stretch that has just begun has heard nothing. -/
theorem soFar_start (pause now : Nat) (sessions : List Session) (running : Option Stretch) :
    soFar pause sessions (running.or (some ⟨now, none⟩)) = soFar pause sessions running := by
  cases running with
  | none =>
    show ((payloads pause now sessions).filter fun _ => false).map Prod.snd = []
    rw [List.filter_false]
    rfl
  | some w => rfl

/-! ## §7 — calls -/

theorem pause_call (t : Timeline) (c : Call) : (t.call c).1.pause = t.pause := by
  cases c with
  | start =>
    show t.start.pause = _
    unfold start
    split <;> rfl
  | stop => rfl
  | pass duration =>
    show (t.run duration).1.pause = _
    rw [run_eq, signals_fst]

theorem pause_calls (t : Timeline) (calls : List Call) : (t.calls calls).1.pause = t.pause := by
  induction calls generalizing t with
  | nil => rfl
  | cons c rest ih => exact (ih (t.call c).1).trans (t.pause_call c)

/-- **What is handed on in the course of calls is what is heard in their stretches**, however the
listener stands before them. -/
theorem dispatched_calls {t : Timeline} (h : t.Stands sessions running) (calls : List Call) :
    (soFar t.pause sessions running).filterMap Event.read? ++ dispatched (t.calls calls).2 =
      (heard t.pause sessions (stretches t.now running calls)).filterMap Event.read? := by
  induction calls generalizing t sessions running with
  | nil =>
    show _ ++ [] = (heard t.pause sessions running.toList).filterMap Event.read?
    rw [← List.append_nil running.toList, heard_append, heard, List.append_nil, List.append_nil]
  | cons c rest ih =>
    have pause := t.pause_call c
    have clock := t.now_call c
    rw [calls_cons, dispatched_append]
    cases c with
    | start =>
      have later := ih (t := (t.call .start).1) h.start
      rw [pause, clock, soFar_start] at later
      exact later
    | stop =>
      have later := ih (t := (t.call .stop).1) h.stop
      rw [pause, clock] at later
      show _ ++ dispatched ((t.call .stop).1.calls rest).2 =
        (heard t.pause sessions (running.toList ++ stretches t.now none rest)).filterMap Event.read?
      rw [heard_append, List.filterMap_append]
      exact congrArg (_ ++ ·) later
    | pass duration =>
      obtain ⟨stands, more⟩ := h.pass duration
      have later := ih (t := (t.call (.pass duration)).1) stands
      rw [pause, clock] at later
      rw [← List.append_assoc]
      exact (congrArg (· ++ _) more).trans later

/-- **A stopped listener stays as it is until it is started**: only the clock moves on, nothing is handed
on, and the state that is shown is disconnected. -/
theorem calls_of_stopped {pause : Nat} {quiet : List Call} (unstarted : .start ∉ quiet) (now : Nat)
    (sessions : List Session) :
    let t : Timeline := { pause, now, sessions }
    (∃ later, (t.calls quiet).1 = { pause, now := later, sessions }) ∧ (t.calls quiet).2 = [] ∧
      ∀ s ∈ t.history quiet, s = .disconnected := by
  induction quiet generalizing now with
  | nil => exact ⟨⟨now, rfl⟩, rfl, fun _ mem => absurd mem List.not_mem_nil⟩
  | cons c rest ih =>
    have later : .start ∉ rest := fun mem => unstarted (List.mem_cons_of_mem _ mem)
    cases c with
    | start => exact absurd List.mem_cons_self unstarted
    | stop =>
      obtain ⟨new, nothing, shown⟩ := ih later now
      exact ⟨new, nothing, List.forall_mem_cons.2 ⟨rfl, shown⟩⟩
    | pass duration => exact ih later (now + duration)

/-! ## §8 — the law of the change feed -/

/-- **The change feed delivers what its sessions announce while it runs, and nothing else.** For any
sessions and any calls: what is handed on is what the payloads heard in the stretches say, each once and
in order; the states that are shown move along the ways from disconnected to connecting to listening and
back to disconnected only; a change is handed on in the listening state. At any point, a start changes
nothing while the listener runs, and a stop leaves it as good as new: until the next start it stays
disconnected and quiet, and then all this holds of it again with the sessions that are left. -/
theorem deliveries (pause now : Nat) (sessions : List Session) (calls : List Call) :
    let new : Timeline := { pause, now, sessions }
    let t := (new.calls calls).1
    dispatched (new.calls calls).2 =
        (heard pause sessions (stretches now none calls)).filterMap Event.read? ∧
      (State.disconnected :: new.history calls).IsChain State.Follows ∧
      (∀ entry ∈ (new.calls calls).2, ∀ event, entry.action = .dispatch event →
        entry.state = .listening) ∧
      (t.phase.isRunning = true → t.call .start = (t, [])) ∧
      t.call .stop = ({ pause, now := t.now, sessions := t.sessions }, []) ∧
      ∀ quiet, .start ∉ quiet →
        (∃ later, ((t.call .stop).1.calls quiet).1 =
          { pause, now := later, sessions := t.sessions }) ∧
        ((t.call .stop).1.calls quiet).2 = [] ∧
        ∀ s ∈ (t.call .stop).1.history quiet, s = .disconnected := by
  intro new t
  have constant : t.pause = pause := new.pause_calls calls
  have stopped : (t.call .stop).1 = { pause, now := t.now, sessions := t.sessions } :=
    constant ▸ t.stop_eq
  refine ⟨?_, new.isChain_history calls, fun entry mem event done => listening_of_dispatch mem done,
    fun running => congrArg (·, []) (start_of_isRunning running), Prod.ext stopped rfl, ?_⟩
  · have stands : new.Stands sessions none := ⟨rfl, rfl, rfl⟩
    exact dispatched_calls stands calls
  · intro quiet unstarted
    rw [stopped]
    exact calls_of_stopped unstarted t.now t.sessions

/-- A notification that cannot be read, a session that breaks off, a refused attempt, and a stop in the
middle of a session. -/
theorem deliveries_interrupted :
    let payload (table : String) : Item :=
      ⟨5, .ok ("\x7b\"schema\":\"s\",\"table\":\"" ++ table ++ "\",\"type\":\"insert\"\x7d")⟩
    let sessions : List Session :=
      [⟨10, .opened [payload "a", ⟨0, .ok "no change"⟩, payload "b", ⟨5, .error (.connection "lost")⟩,
          payload "c"] .ends⟩,
        ⟨10, .refused (.connect "refused")⟩,
        ⟨0, .opened [payload "d", payload "e"] .hangs⟩,
        ⟨0, .opened [payload "f"] .ends⟩]
    let calls : List Call := [.start, .pass 142, .start, .stop, .pass 20, .start, .pass 5]
    let new : Timeline := { pause := 50, sessions }
    let t := (new.calls calls).1
    t.phase.isRunning = true ∧ t.call .start = (t, []) ∧
      (dispatched (new.calls calls).2).map Event.table = ["a", "b", "d", "f"] ∧
      .start ∉ [Call.pass 100] ∧ ((t.call .stop).1.calls [.pass 100]).2 = [] := by
  intro payload sessions calls new t
  obtain ⟨delivered, -, -, started, -, quiet⟩ := deliveries 50 0 sessions calls
  have running : t.phase.isRunning = true := by decide +kernel
  refine ⟨running, started running, ?_, by decide, (quiet [.pass 100] (by decide)).2.1⟩
  rw [delivered]
  decide +kernel

end Timeline

end Gateway.Feed
