import DebugBridge.Proofs.Rendering.Leftovers
import DebugBridge.Proofs.Session.Fleet

/-!
# The launch is tried once

Any number of sessions share the outcome of one launch, whatever is done with each of them (`Turn`). Nothing but a start
asks the shell to launch the adapter, and only the first one that gets as far as that does (`Recorded`). So there is one
launch at most, and `launches_once` says what its outcome means for everyone from then on.
-/

namespace DebugBridge

variable {σ : Type}

namespace Rendering

variable (out : Outside σ) (slot : Slot) (r : Request) (p : σ × List Doing)

/-! ## What is not logged -/

/-- Reading a slot back logs nothing. -/
theorem log_takeSlot : (takeSlot out.recorded.scope slot p).2.2 = p.2 := by
  rw [takeSlot_state]
  split <;> rfl

theorem log_answerFromSlot : (answerFromSlot out.recorded.scope slot r p).2.2 = p.2 := by
  rw [answerFromSlot_state, log_takeSlot]

theorem log_renderDirectly (subject : String) :
    (renderDirectly out.recorded.scope slot subject r p).2.2 = p.2 := by
  have logged : (out.recorded.scope.exec (slot.directCode subject) p).2.2 = p.2 := rfl
  rw [renderDirectly]
  generalize out.recorded.scope.exec (slot.directCode subject) p = outcome at logged ⊢
  obtain ⟨x | _, p'⟩ := outcome
  · exact logged
  · exact (log_answerFromSlot out slot r p').trans logged

/-- The end of a rendering logs nothing: it reads and removes globals. -/
theorem log_conclude (reply : Json) : (conclude out.recorded.scope slot r reply p).2.2 = p.2 := by
  rw [conclude]
  split
  · exact log_answerFromSlot out slot r p
  · rfl

end Rendering

namespace Session

variable (out : Outside σ) {s : Session} {p : σ × List Doing}

/-- Writing a cell's source logs nothing: no code runs on the shell for it. -/
theorem log_dumpCell (s : Session) (r : Request) (p : σ × List Doing) :
    (s.dumpCell out.recorded r p).2.2 = p.2 := by
  rw [dumpCell]
  split
  · rfl
  · next code _ =>
      have made : (out.recorded.makeDirectory s.kernel.cellDirectory p).2.2 = p.2 := rfl
      generalize out.recorded.makeDirectory s.kernel.cellDirectory p = outcome at made ⊢
      obtain ⟨e | _, p₁⟩ := outcome
      · exact made
      · have wrote : (out.recorded.writeFile (Cell.file s.kernel code) code p₁).2.2 = p₁.2 := rfl
        simp only
        generalize out.recorded.writeFile (Cell.file s.kernel code) code p₁ = outcome at wrote ⊢
        obtain ⟨e | _, p₂⟩ := outcome <;> exact wrote.trans made

/-- What a step leaves that has nothing to do with the launch: the outcome, the log, and whether a session runs, unless
it is stopped. -/
structure Aside (s : Session) (p : σ × List Doing) (after : Session × σ × List Doing) : Prop where
  launch : after.1.launch = s.launch
  worker : after.1.worker ≠ none → s.worker ≠ none
  log : after.2.2 = p.2

theorem Aside.refl (s : Session) (p : σ × List Doing) : Aside s p (s, p) :=
  ⟨rfl, id, rfl⟩

/-- What is done aside adds up. -/
theorem Aside.trans {middle after : Session × σ × List Doing} (left : Aside s p middle)
    (right : Aside middle.1 middle.2 after) : Aside s p after :=
  ⟨right.launch.trans left.launch, left.worker ∘ right.worker, right.log.trans left.log⟩

/-- What keeps a session is done aside, if it asks nothing of the outside. -/
theorem aside_of_keeps {next : Session} (keeps : Keeps s next) (p : σ × List Doing) : Aside s p (next, p) :=
  ⟨keeps.launch, mt keeps.worker_eq_none_iff.mpr, rfl⟩

/-- The end of a call is done aside. -/
theorem aside_conclude (s : Session) (call : Call) (result : Except Error Json) (p : σ × List Doing) :
    Aside s p (s.conclude out.recorded call result p).2 := by
  have log : (s.conclude out.recorded call result p).2.2.2 = p.2 := by
    simp only [conclude]
    split
    · rfl
    · rfl
    · rfl
    · split
      · rfl
      · exact Rendering.log_conclude ..
  rcases s.conclude_session out.recorded call result p with same | ⟨-, stopped⟩ | ⟨-, -, breakpoints, changed⟩
  · exact ⟨by rw [same], by rw [same]; exact id, log⟩
  · exact ⟨by rw [stopped]; rfl, by rw [stopped]; exact fun running => absurd rfl running, log⟩
  · exact ⟨by rw [changed], by rw [changed]; exact id, log⟩

/-- Passing a message on is done aside. -/
theorem aside_forward (s : Session) (header : Json) (early : List Arrival) (call : Call) (p : σ × List Doing) :
    Aside s p (s.forward out.recorded header early call p).2 := by
  have arrived := s.keeps_arrivals early
  rw [forward]
  split
  · next next passed => exact aside_of_keeps (arrived.trans (keeps_submit passed)) p
  · exact (aside_of_keeps arrived p).trans (aside_conclude out _ call _ p)

/-- What a handler makes of a request is done aside. -/
theorem aside_consult (s : Session) (r : Request) (h : Handler) (p : σ × List Doing) :
    Aside s p (s, (s.consult out.recorded r h p).2) := by
  cases h with
  | inspectVariables => exact .refl s p
  | configurationDone => exact .refl s p
  | attach => exact .refl s p
  | richInspectVariables =>
      simp only [consult]
      split
      · exact ⟨rfl, id, rfl⟩
      · exact ⟨rfl, id, Rendering.log_renderDirectly ..⟩
      · exact ⟨rfl, id, rfl⟩

/-- Considering a request starts nothing. -/
theorem aside_consider (s : Session) (r : Request) (p : σ × List Doing) :
    Aside s p (s, (s.consider out.recorded r p).2) := by
  simp only [consider]
  split
  · exact .refl s p
  · exact ⟨rfl, id, log_dumpCell out s r p⟩
  · exact .refl s p
  · exact .refl s p
  · split
    · split
      · exact .refl s p
      · exact aside_consult out s r _ p
    · exact .refl s p

/-- A request that asks for no start has nothing to do with the launch. -/
theorem aside_begin (s : Session) (header message : Json) (early : List Arrival) (p : σ × List Doing)
    (other : ¬ Asks message "initialize") : Aside s p (s.begin out.recorded header message early p).2 := by
  rw [Session.begin]
  split
  · exact .refl s p
  · next r read =>
      have noStart : r.command ≠ "initialize" := fun command => other ⟨r, read, command⟩
      have considered := aside_consider out s r p
      simp only [beginRequest, prepare, if_neg noStart]
      generalize s.consider out.recorded r p = outcome at considered ⊢
      obtain ⟨reply | call, p'⟩ := outcome
      · exact considered
      · exact considered.trans (aside_forward out s header early call p')

/-- Finishing a request is done aside. -/
theorem aside_finish (s : Session) (progress : Progress) (p : σ × List Doing) :
    Aside s p (s.finish out.recorded progress p).2 := by
  cases progress with
  | answered reply => exact .refl s p
  | waiting call => exact (aside_of_keeps (s.keeps_collect call.sent) p).trans (aside_conclude out _ call _ p)

/-! ## What is logged -/

/-- What a move adds to the log goes with what becomes of the launch, and no session runs without a launch that
succeeded. -/
structure Recorded (s : Session) (p : σ × List Doing) (after : Session × σ × List Doing) : Prop where
  logged : ∃ added, after.2.2 = p.2 ++ added ∧ Logged s after.1.launch added
  running : after.1.worker ≠ none → s.worker ≠ none ∨ after.1.launch = .started

theorem Aside.recorded {after : Session × σ × List Doing} (aside : Aside s p after) : Recorded s p after := by
  refine ⟨⟨[], by rw [aside.log, List.append_nil], ?_⟩, fun running => .inl (aside.worker running)⟩
  rw [aside.launch]
  exact .nothing

/-- What is done aside after a start keeps its record. -/
theorem Recorded.aside {middle after : Session × σ × List Doing} (recorded : Recorded s p middle)
    (aside : Aside middle.1 middle.2 after) : Recorded s p after := by
  obtain ⟨⟨added, log, logged⟩, running⟩ := recorded
  refine ⟨⟨added, aside.log.trans log, ?_⟩, fun still => ?_⟩
  · rw [aside.launch]
    exact logged
  · rw [aside.launch]
    exact running (aside.worker still)

/-- A start logs its launch, if it has to launch the adapter. -/
theorem recorded_start (s : Session) (p : σ × List Doing) : Recorded s p (s.start out.recorded p).2 := by
  refine ⟨(s.logged_start out p.1 p.2).2, fun running => ?_⟩
  cases stopped : s.worker with
  | some w => exact .inl (Option.some_ne_none w)
  | none =>
      rw [start_eq out.recorded stopped] at running ⊢
      generalize out.recorded.makeDirectory s.kernel.logDirectory p = outcome at running ⊢
      obtain ⟨e | _, p₁⟩ := outcome
      · exact absurd stopped running
      · obtain ⟨launch, transcript, p₂, launched⟩ := s.ensureLaunched_eq out.recorded p₁
        simp only [launched] at running ⊢
        split at running
        · next success =>
            rw [if_pos success]
            generalize out.recorded.makeDirectory s.kernel.cellDirectory p₂ = outcome at running ⊢
            obtain ⟨e | _, p₃⟩ := outcome
            · exact absurd stopped running
            · exact .inr ((logged_engage out { s with launch, transcript } p₃.1 p₃.2).2.1.trans success)
        · exact absurd stopped running

/-- Only a request to start has to do with the launch, and no more than a start. -/
theorem recorded_begin (s : Session) (header message : Json) (early : List Arrival) (p : σ × List Doing) :
    Recorded s p (s.begin out.recorded header message early p).2 := by
  by_cases asks : Asks message "initialize"
  · obtain ⟨r, read, command⟩ := asks
    have started := recorded_start out s p
    rw [← (s.ensureStarted_eq out.recorded p).1] at started
    simp only [Session.begin, read, beginRequest, prepare, if_pos command]
    generalize s.ensureStarted out.recorded p = outcome at started ⊢
    obtain ⟨e | _, ready, p'⟩ := outcome
    · exact started
    · simp only [consider_of_initializing out.recorded ready command]
      exact started.aside (aside_forward out ready header early _ p')
  · exact (aside_begin out s header message early p asks).recorded

/-- A move as it is in an outside that keeps a log: what else happens there is not logged. -/
def Move.logged : Move σ → Move (σ × List Doing)
  | .process header message early arrivals meanwhile =>
    .process header message early arrivals fun p => (meanwhile p.1, p.2)
  | .start => .start
  | .stop => .stop
  | .nextEvent time => .nextEvent time
  | .arrive a => .arrive a
  | .takeOutbox => .takeOutbox
  | .outside change => .outside fun p => (change p.1, p.2)
  | .elsewhere hub => .elsewhere hub

/-- Every move records what it launches. -/
theorem recorded_next (s : Session) (p : σ × List Doing) (move : Move σ) :
    Recorded s p (s.next out.recorded p move.logged) := by
  cases move with
  | process header message early arrivals meanwhile =>
      have begun := recorded_begin out s header message early p
      simp only [Move.logged, Session.next, process_eq]
      generalize s.begin out.recorded header message early p = outcome at begun ⊢
      obtain ⟨progress, next, p'⟩ := outcome
      have waited : Aside next p' (arrivals.foldl arrive next, meanwhile p'.1, p'.2) :=
        ⟨(next.keeps_arrivals arrivals).launch, mt (next.keeps_arrivals arrivals).worker_eq_none_iff.mpr, rfl⟩
      exact (begun.aside waited).aside (aside_finish out _ progress _)
  | start => exact recorded_start out s p
  | stop => exact Aside.recorded ⟨rfl, fun running => absurd rfl running, rfl⟩
  | nextEvent time => exact (aside_of_keeps (s.keeps_nextEvent time) p).recorded
  | arrive a => exact (aside_of_keeps (s.keeps_arrive a) p).recorded
  | takeOutbox => exact (aside_of_keeps s.keeps_takeOutbox p).recorded
  | outside change => exact Aside.recorded ⟨rfl, id, rfl⟩
  | elsewhere hub => exact Aside.recorded ⟨rfl, id, rfl⟩

/-! ## After a launch that failed -/

/-- A start makes a directory, and does no more. -/
theorem start_of_failed {out : Outside σ} (stopped : s.worker = none) (failed : s.launch = .failed) {o o' : σ}
    {made : Except Error Unit} (logs : out.makeDirectory s.kernel.logDirectory o = (made, o')) :
    s.start out o = (made.map fun _ => false, s, o') := by
  have noted : s.note [] = s := by
    obtain ⟨⟩ := s
    simp [note]
  have launched (o : σ) : s.ensureLaunched out o = (s, o) := by
    have same : ({ s with launch := .failed } : Session) = s := by
      rw [← failed]
    simp only [ensureLaunched, failed, Launch.ensure, reduceCtorEq, if_false, noted, same]
  rw [start_eq out stopped, logs]
  cases made with
  | error e => rfl
  | ok _ => simp only [launched, failed, reduceCtorEq, if_false, Except.map]

/-- A request to start is answered with a failure. -/
theorem initialize_of_failed {out : Outside σ} (stopped : s.worker = none) (failed : s.launch = .failed) (header : Json)
    {message : Json} (asks : Asks message "initialize") (early arrivals : List Arrival) (meanwhile : σ → σ) (o : σ) :
    (s.process out header message early arrivals meanwhile o).1.getBool? "success" = some false := by
  obtain ⟨r, read, command⟩ := asks
  obtain ⟨made, o', logs⟩ : ∃ made o', out.makeDirectory s.kernel.logDirectory o = (made, o') := ⟨_, _, rfl⟩
  have started := start_of_failed stopped failed logs
  simp only [Session.process, Session.begin, read, beginRequest, prepare, if_pos command, ensureStarted, started]
  cases made <;> exact Response.success_fail r _

end Session

/-- A launch succeeds if the shell replies, with the status `ok`. -/
theorem Launch.outcome_eq_ok_iff {reply : Except Error ShellReply} :
    outcome reply = .ok () ↔ ∃ r, reply = .ok r ∧ r.status = "ok" := by
  cases reply with
  | error e => simp [outcome]
  | ok r => by_cases ran : r.status = "ok" <;> simp [outcome, ShellReply.result, ShellReply.isOk, ran]

/-- A launch succeeds exactly if the shell's reply says so. -/
theorem Launch.ofOutcome_eq_started_iff {reply : Except Error ShellReply} :
    State.ofOutcome (outcome reply) = .started ↔ ∃ r, reply = .ok r ∧ r.status = "ok" := by
  rw [← outcome_eq_ok_iff]
  cases outcome reply with
  | error e => simp [State.ofOutcome]
  | ok _ => simp [State.ofOutcome]

/-- Once tried, a launch counts as tried whatever its outcome. -/
theorem Launch.ofOutcome_ne_notStarted (outcome : Except Error Unit) : State.ofOutcome outcome ≠ .notStarted := by
  cases outcome <;> simp [State.ofOutcome]

namespace Fleet

/-- What happens next: a session is created over the launch, or one of them moves. -/
inductive Turn (σ : Type) where
  | build (kernel : Kernel) (settings : Settings) (address : Address) (config : Config) (hub : Hub) (traced : Bool)
  | move (i : Nat) (move : Session.Move σ)

/-- A session of several, which finds the launch as all have left it. -/
def member (fleet : Fleet σ) (s : Session) : Session :=
  { s with launch := fleet.launch }

/-- The sessions after a turn. Each one has an outside of its own kind, over a state that is common to all. -/
def turn (outs : Nat → Outside σ) (fleet : Fleet σ) : Turn σ → Fleet σ
  | .build kernel settings address config hub traced =>
    match Session.create kernel settings address config fleet.launch hub traced with
    | .ok s => { fleet with sessions := fleet.sessions ++ [s] }
    | .error _ => fleet
  | .move i move =>
    match fleet.sessions[i]? with
    | none => fleet
    | some s =>
      let (next, o, log) := (fleet.member s).next (outs i).recorded (fleet.outside, fleet.log) move.logged
      ⟨next.launch, fleet.sessions.set i next, o, log⟩

variable (outs : Nat → Outside σ) {fleet : Fleet σ}

/-- The shell was asked to launch the adapter as often as the outcome tells, and sessions run only if it succeeded. -/
structure Settled (fleet : Fleet σ) : Prop where
  launched : fleet.launch = .notStarted ∧ launches fleet.log = [] ∨
    ∃ code reply, launches fleet.log = [(code, reply)] ∧ fleet.launch = .ofOutcome (Launch.outcome reply)
  running : ∀ s ∈ fleet.sessions, s.worker ≠ none → fleet.launch = .started

theorem launches_append (first second : List Doing) :
    launches (first ++ second) = launches first ++ launches second :=
  List.filterMap_append

/-- What is added to a log is the launch, if there was none, or no launch. -/
theorem launches_of_logged {s : Session} {launch : Launch.State} {added : List Doing}
    (logged : s.Logged launch added) :
    launch = s.launch ∧ launches added = [] ∨
      s.launch = .notStarted ∧
        ∃ code reply, launches added = [(code, reply)] ∧ launch = .ofOutcome (Launch.outcome reply) := by
  cases logged with
  | nothing => exact .inl ⟨rfl, rfl⟩
  | launched first => exact .inr ⟨first, _, _, rfl, rfl⟩
  | dialed earlier => exact .inl ⟨earlier.symm, rfl⟩
  | both first success => exact .inr ⟨first, _, _, rfl, by rw [success]; rfl⟩

/-- An outcome stands. -/
theorem launch_of_logged {s : Session} {launch : Launch.State} {added : List Doing} (logged : s.Logged launch added)
    (tried : s.launch ≠ .notStarted) : launch = s.launch := by
  rcases launches_of_logged logged with ⟨same, -⟩ | ⟨first, -⟩
  · exact same
  · exact absurd first tried

/-- A turn goes by what a move of one session adds to the log, or is none. -/
theorem turn_cases (t : Turn σ) :
    (fleet.turn outs t).launch = fleet.launch ∧ (fleet.turn outs t).log = fleet.log ∧
        (∀ s ∈ (fleet.turn outs t).sessions, s ∈ fleet.sessions ∨ s.worker = none) ∨
      ∃ s ∈ fleet.sessions, ∃ next, (∀ other ∈ (fleet.turn outs t).sessions, other ∈ fleet.sessions ∨ other = next) ∧
        (fleet.turn outs t).launch = next.launch ∧
          Session.Recorded (fleet.member s) (fleet.outside, fleet.log)
            (next, (fleet.turn outs t).outside, (fleet.turn outs t).log) := by
  cases t with
  | build kernel settings address config hub traced =>
      simp only [turn]
      split
      · next s created =>
          refine .inl ⟨rfl, rfl, fun other member => ?_⟩
          rcases List.mem_append.mp member with old | new
          · exact .inl old
          · rw [List.mem_singleton.mp new]
            rw [Session.create] at created
            split at created
            · cases created
            · cases created
              exact .inr rfl
      · exact .inl ⟨rfl, rfl, fun other member => .inl member⟩
  | move i move =>
      cases found : fleet.sessions[i]? with
      | none =>
          simp only [turn, found]
          exact .inl ⟨trivial, trivial, fun other member => .inl member⟩
      | some s =>
          have recorded := Session.recorded_next (outs i) (fleet.member s) (fleet.outside, fleet.log) move
          simp only [turn, found]
          exact .inr ⟨s, List.mem_of_getElem? found, _, fun other => List.mem_or_eq_of_mem_set, rfl, recorded⟩

/-- A turn keeps the log and the launch of a fleet in agreement. -/
theorem Settled.turn (settled : fleet.Settled) (t : Turn σ) : (fleet.turn outs t).Settled := by
  obtain ⟨launched, running⟩ := settled
  rcases fleet.turn_cases outs t with ⟨launch, log, sessions⟩ | ⟨s, member, next, sessions, launch, recorded⟩
  · refine ⟨?_, fun other found runs => ?_⟩
    · rw [launch, log]
      exact launched
    · rw [launch]
      exact running other ((sessions other found).resolve_right runs) runs
  · obtain ⟨⟨added, log, logged⟩, runs⟩ := recorded
    have stands (tried : fleet.launch = .started) : (fleet.turn outs t).launch = .started := by
      rw [launch, ← tried]
      exact launch_of_logged logged (by simp [Fleet.member, tried])
    refine ⟨?_, fun other found still => ?_⟩
    · simp only at log logged
      rw [log, launches_append, launch]
      rcases launches_of_logged logged with ⟨same, none⟩ | ⟨first, code, reply, one, outcome⟩
      · rw [same, none, List.append_nil]
        exact launched
      · rcases launched with ⟨-, none⟩ | ⟨code', reply', -, earlier⟩
        · rw [none]
          exact .inr ⟨code, reply, one, outcome⟩
        · exact absurd (earlier.symm.trans first) (Launch.ofOutcome_ne_notStarted _)
    · rcases sessions other found with old | rfl
      · exact stands (running other old still)
      · rcases runs still with before | success
        · exact stands (running s member before)
        · exact launch.trans success

/-- A fleet that has done nothing has logged nothing. -/
theorem settled_fresh (o : σ) : (fresh o).Settled :=
  ⟨.inl ⟨rfl, rfl⟩, fun _ member => absurd member List.not_mem_nil⟩

/-- So log and launch agree after any turns. -/
theorem settled_foldl (settled : fleet.Settled) (turns : List (Turn σ)) :
    (turns.foldl (Fleet.turn outs) fleet).Settled := by
  induction turns generalizing fleet with
  | nil => exact settled
  | cons t rest ih => exact ih (settled.turn outs t)

/-- No turn changes the outcome of a launch that was tried. -/
theorem launch_turn (tried : fleet.launch ≠ .notStarted) (t : Turn σ) :
    (fleet.turn outs t).launch = fleet.launch := by
  rcases fleet.turn_cases outs t with ⟨launch, -⟩ | ⟨s, -, next, -, launch, ⟨added, -, logged⟩, -⟩
  · exact launch
  · exact launch.trans (launch_of_logged logged tried)

/-- The outcome of a launch stands for good. -/
theorem launch_foldl (tried : fleet.launch ≠ .notStarted) (turns : List (Turn σ)) :
    (turns.foldl (Fleet.turn outs) fleet).launch = fleet.launch := by
  induction turns generalizing fleet with
  | nil => rfl
  | cons t rest ih =>
      have first := launch_turn outs tried t
      exact (ih (first ▸ tried)).trans first

/-- No launch was tried exactly if none is in the log. -/
theorem Settled.launch_eq_notStarted_iff (settled : fleet.Settled) :
    fleet.launch = .notStarted ↔ launches fleet.log = [] := by
  rcases settled.launched with ⟨untried, none⟩ | ⟨code, reply, one, outcome⟩
  · simp [untried, none]
  · simp [one, outcome, Launch.ofOutcome_ne_notStarted]

/-- The launch succeeded exactly if the one launch in the log did. -/
theorem Settled.launch_eq_started_iff (settled : fleet.Settled) :
    fleet.launch = .started ↔
      ∃ code reply, launches fleet.log = [(code, .ok reply)] ∧ reply.status = "ok" := by
  rcases settled.launched with ⟨untried, none⟩ | ⟨code, reply, one, outcome⟩
  · simp [untried, none]
  · rw [outcome, Launch.ofOutcome_eq_started_iff, one]
    constructor
    · rintro ⟨r, rfl, ran⟩
      exact ⟨code, r, rfl, ran⟩
    · rintro ⟨code', r, same, ran⟩
      cases same
      exact ⟨r, rfl, ran⟩

/-- A session's start, in an outside that keeps the log of all. -/
def start (fleet : Fleet σ) (i : Nat) (s : Session) : Except Error Bool × Session × σ × List Doing :=
  (fleet.member s).start (outs i).recorded (fleet.outside, fleet.log)

/-- A session's answer to a message, in an outside that keeps the log of all. -/
def answer (fleet : Fleet σ) (i : Nat) (s : Session) (header message : Json) (early arrivals : List Arrival)
    (meanwhile : σ → σ) : Json :=
  ((fleet.member s).process (outs i).recorded header message early arrivals (fun p => (meanwhile p.1, p.2))
    (fleet.outside, fleet.log)).1

/-- A start whose first directory cannot be made ends there. -/
theorem start_of_no_logs {i : Nat} {s : Session} {e : Error} (stopped : s.worker = none)
    (refused : ((outs i).makeDirectory s.kernel.logDirectory fleet.outside).1 = .error e) :
    ∃ o, fleet.start outs i s = (.error e, fleet.member s, o, fleet.log) := by
  refine ⟨((outs i).makeDirectory s.kernel.logDirectory fleet.outside).2, ?_⟩
  have made : (outs i).recorded.makeDirectory s.kernel.logDirectory (fleet.outside, fleet.log) =
      (.error e, ((outs i).makeDirectory s.kernel.logDirectory fleet.outside).2, fleet.log) := by
    rw [← refused]
    rfl
  rw [start, Session.start_eq (s := fleet.member s) _ stopped]
  simp only [member] at made ⊢
  rw [made]

/-- After a launch that failed no start does more than to make a directory. -/
theorem start_of_failed {i : Nat} {s : Session} (stopped : s.worker = none) (failed : fleet.launch = .failed) :
    ∃ o, fleet.start outs i s =
      (((outs i).makeDirectory s.kernel.logDirectory fleet.outside).1.map fun _ => false, fleet.member s, o,
        fleet.log) := by
  refine ⟨((outs i).makeDirectory s.kernel.logDirectory fleet.outside).2, ?_⟩
  exact Session.start_of_failed (s := fleet.member s) stopped failed rfl

/-- Over any number of sessions that share a launch and any row of turns, whatever the shells answer,

* the shell is asked to launch the adapter once at most, and the launch counts as not started until it is asked;
* the launch succeeds exactly if that one time the shell replied with the status `ok`;
* once it has been tried its outcome stands, whatever else happens;
* a start that fails for lack of the first directory leaves the outcome and the log as they were;
* if the launch failed, every start returns with the session as it was, on the same hub, and without a connection, and
  every request to start is answered with a failure. -/
theorem launches_once (o : σ) (turns : List (Turn σ)) :
    let fleet := turns.foldl (turn outs) (fresh o)
    (launches fleet.log).length ≤ 1 ∧
    (fleet.launch = .notStarted ↔ launches fleet.log = []) ∧
    (fleet.launch = .started ↔ ∃ code reply, launches fleet.log = [(code, .ok reply)] ∧ reply.status = "ok") ∧
    (fleet.launch ≠ .notStarted →
      ∀ more : List (Turn σ), (more.foldl (turn outs) fleet).launch = fleet.launch) ∧
    (∀ i s e, fleet.sessions[i]? = some s → s.worker = none →
      ((outs i).makeDirectory s.kernel.logDirectory fleet.outside).1 = .error e →
        (fleet.start outs i s).1 = .error e ∧ (fleet.turn outs (.move i .start)).launch = fleet.launch ∧
          (fleet.turn outs (.move i .start)).log = fleet.log) ∧
    (fleet.launch = .failed → ∀ i s, fleet.sessions[i]? = some s →
      (∃ o, fleet.start outs i s =
        (((outs i).makeDirectory s.kernel.logDirectory fleet.outside).1.map fun _ => false, fleet.member s, o,
          fleet.log)) ∧
      ∀ (header message : Json) (early arrivals : List Arrival) (meanwhile : σ → σ),
        Session.Asks message "initialize" →
          (fleet.answer outs i s header message early arrivals meanwhile).getBool? "success" = some false) := by
  have settled := settled_foldl outs (settled_fresh o) turns
  generalize turns.foldl (turn outs) (fresh o) = fleet at settled
  refine ⟨?_, settled.launch_eq_notStarted_iff, settled.launch_eq_started_iff, launch_foldl outs,
    fun i s e found stopped refused => ?_, fun failed i s found => ?_⟩
  · rcases settled.launched with ⟨-, none⟩ | ⟨code, reply, one, -⟩
    · simp [none]
    · simp [one]
  · obtain ⟨o, started⟩ := start_of_no_logs outs stopped refused
    have next : fleet.turn outs (.move i .start) =
        ⟨fleet.launch, fleet.sessions.set i (fleet.member s), o, fleet.log⟩ := by
      rw [start] at started
      simp only [turn, found, Session.Move.logged, Session.next, started]
      rfl
    rw [next, started]
    exact ⟨rfl, rfl, rfl⟩
  · have stopped : s.worker = none := by
      refine Classical.byContradiction fun runs => ?_
      cases failed.symm.trans (settled.running s (List.mem_of_getElem? found) runs)
    refine ⟨start_of_failed outs stopped failed, fun header message early arrivals meanwhile asks => ?_⟩
    exact Session.initialize_of_failed (s := fleet.member s) stopped failed header asks early arrivals _ _

/-- An outside whose shell cannot load the adapter. -/
def lackingShell : Outside Unit :=
  { Session.obliging with execute := fun _ _ => (.ok ⟨"error", some "ModuleNotFoundError", none, []⟩, ()) }

/-- Two sessions are created, and both are started. -/
def sampleTurns : List (Turn Unit) :=
  [.build Session.idleSample.kernel .default Session.idleSample.address .empty .empty false,
    .build Session.idleSample.kernel .default secondSample.address .empty .empty false,
    .move 0 .start, .move 1 .start]

/-- The shell is asked once for both, and the second session is not started for a request either. -/
theorem launches_once_sampleTurns :
    (sampleTurns.foldl (turn fun _ => lackingShell) (fresh ())).launch = .failed ∧
      launches (sampleTurns.foldl (turn fun _ => lackingShell) (fresh ())).log =
        [(Launch.snippet Session.idleSample.address .empty, .ok ⟨"error", some "ModuleNotFoundError", none, []⟩)] ∧
      ((sampleTurns.foldl (turn fun _ => lackingShell) (fresh ())).answer (fun _ => lackingShell) 1 secondSample .null
        (Session.bareRequest 1 "initialize") [] [] id).getBool? "success" = some false := by
  have failed : (sampleTurns.foldl (turn fun _ => lackingShell) (fresh ())).launch = .failed := rfl
  have second : (sampleTurns.foldl (turn fun _ => lackingShell) (fresh ())).sessions[1]? =
      some { secondSample with launch := .failed } := rfl
  obtain ⟨-, -, -, -, -, afterwards⟩ := launches_once (fun _ => lackingShell) () sampleTurns
  obtain ⟨-, answers⟩ := afterwards failed 1 _ second
  exact ⟨failed, rfl, answers .null (Session.bareRequest 1 "initialize") [] [] id (by decide +kernel)⟩

end Fleet
end DebugBridge
