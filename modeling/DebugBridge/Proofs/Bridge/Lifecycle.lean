import DebugBridge.Proofs.Bridge.Ended

/-!
# The lifecycle of a bridge

Four things have to agree on whether a session is started: its sockets, the endpoints that are bound, the breakpoints
and the threads. `lifecycle` says that they do between any two moves, whatever fails and whatever happens in the course
of a move, and which moves lead from one phase to the other. A worker that is left behind still tells of threads
(`stopped_thread_left`); of a session whose workers all ended in time no thread is left.
-/

namespace DebugBridge.Bridge

variable {σ : Type} {out : Outside σ} {permitted : Happening σ → Prop} {b : Bridge σ} {during : Schedule σ}

/-! ## Stopping -/

/-- Nothing that happens at a place of a call links a control socket. -/
theorem Fitted.pause (fitted : b.Fitted) (during : Schedule σ) (p : Point) : (b.pause during p).Fitted :=
  fitted.of_control (b.control_pause during p)

/-- Waiting for the worker takes it away, and changes nothing else of the control side's own. -/
theorem control_wait (b : Bridge σ) : b.wait.session.control = { b.session.control with worker := none } := by
  rw [wait]
  split
  · rfl
  · next stopped =>
      have idle := Session.isStarted_eq_false_iff.mp (Bool.eq_false_iff.mpr stopped)
      simp only [Session.control, idle]

theorem control_freeRequest (fitted : b.Fitted) :
    b.freeRequest.session.control = { b.session.control with request := none } := by
  rw [← fitted.freeRequest]
  rfl

theorem control_freeHeader (fitted : b.Fitted) :
    b.freeHeader.session.control = { b.session.control with header := none } := by
  rw [← fitted.freeHeader]
  rfl

/-- Shutting down takes the sockets and the worker from the control side, whatever happens in between. -/
theorem control_shutDown (fitted : b.Fitted) (during : Schedule σ) :
    (b.shutDown during).session.control =
      { b.session.control with request := none, header := none, worker := none } := by
  have left := fitted.pause during .leaving
  have half : (b.pause during .leaving).freeRequest.Fitted := ⟨.inl left.freeRequest, left.header⟩
  have request := (control_pause _ during .halfFree).trans (control_freeRequest left)
  have header := (control_pause _ during .waiting).trans (control_freeHeader (half.pause during .halfFree))
  refine (control_pause _ during .halfForgotten).trans ((control_wait _).trans ?_)
  rw [header, request, control_pause]

/-- Stopping frees both sockets, takes the worker away and forgets the breakpoints. -/
theorem control_stop (fitted : b.Fitted) (during : Schedule σ) :
    (b.stop during).session.control =
      { b.session.control with request := none, header := none, worker := none, breakpoints := [] } :=
  control_shutDown (b := { b with session := { b.session with breakpoints := [] } })
    ⟨fitted.request, fitted.header⟩ during

/-- What happens at a place of a call leaves every worker attended. -/
theorem attended_pause (attended : b.Attended) (during : Schedule σ) (p : Point) : (b.pause during p).Attended := by
  rw [pause]
  generalize during p = happenings
  induction happenings generalizing b with
  | nil => exact attended
  | cons h happenings ih => exact ih (attended.happen h)

/-- What was done is never forgotten. -/
theorem deeds_pause (b : Bridge σ) (during : Schedule σ) (p : Point) : b.deeds <+: (b.pause during p).deeds := by
  rw [pause]
  generalize during p = happenings
  induction happenings generalizing b with
  | nil => exact List.prefix_rfl
  | cons h happenings ih => exact (b.deeds_happen h).trans (ih (b.happen h))

/-- While no worker is at work, nothing more is learnt of threads. -/
theorem threads_pause (attended : b.Attended) (idle : b.session.worker = none) {p : Point}
    (prompt : (b.pause during p).Prompt) : (b.pause during p).session.threads = b.session.threads := by
  rw [pause] at prompt ⊢
  generalize during p = happenings at prompt ⊢
  induction happenings generalizing b with
  | nil => rfl
  | cons h happenings ih =>
      have later : (b.happen h).deeds <+: ((h :: happenings).foldl happen b).deeds :=
        deeds_pause (b.happen h) (fun _ => happenings) .logged
      have still : (b.happen h).session.worker = none := (Session.worker_of_control (b.control_happen h)).trans idle
      rw [List.foldl_cons, ih (attended.happen h) still prompt]
      exact threads_happen attended ((prompt.of_deeds later).of_deeds (b.deeds_happen h)) idle h

/-- Of a session whose workers ended in time no thread is left when it is shut down. -/
theorem threads_shutDown (attended : b.Attended) (prompt : (b.shutDown during).Prompt) :
    (b.shutDown during).session.threads = .empty := by
  have left : (b.pause during .leaving).freeRequest.Attended :=
    (attended_pause attended during .leaving).of_same List.prefix_rfl rfl rfl
  have free : ((b.pause during .leaving).freeRequest.pause during .halfFree).freeHeader.Attended :=
    (attended_pause left during .halfFree).of_same List.prefix_rfl rfl rfl
  have ended := (attended_pause free during .waiting).wait
  simp only [shutDown] at prompt ⊢
  generalize pause (freeHeader _) during .waiting = b at ended prompt ⊢
  have idle : b.wait.session.worker = none := (congrArg Session.worker b.control_wait :)
  have forgot : b.wait.forgetStopped.Attended := ended.of_same (List.prefix_append ..) rfl rfl
  have kept := threads_pause forgot idle (prompt.of_deeds (List.prefix_append ..))
  rw [forgetKnown, done, kept]
  rfl

/-! ## Starting -/

/-- Binding takes both sockets or none, whatever happens in between. -/
theorem control_bindControl (fitted : b.Fitted) (during : Schedule σ) :
    (∃ e b', b.bindControl during = (.error e, b') ∧ b'.session.control = b.session.control) ∨
      ∃ q h b', b.bindControl during = (.ok (), b') ∧
        b'.session.control = { b.session.control with
          request := some (.bound requestEndpoint q), header := some (.bound headerEndpoint h) } := by
  rw [bindControl]
  split
  · exact .inl ⟨_, b, rfl, rfl⟩
  · next session first =>
      obtain ⟨hub, taken, rfl⟩ := Session.bindRequest_eq_ok first
      obtain ⟨unbound, -⟩ := Hub.bind_eq_ok taken
      have control := control_pause { b with session := { b.session with
        hub, request := some (.bound requestEndpoint b.session.hub.channels.length) } } during .halfBound
      simp only
      generalize pause _ during .halfBound = half at control ⊢
      have request : half.session.request = some (.bound requestEndpoint b.session.hub.channels.length) :=
        (congrArg Session.request control :)
      have header : half.session.header = b.session.header := (congrArg Session.header control :)
      split
      · refine .inl ⟨_, half.freeRequest, rfl, ?_⟩
        have half : half.Fitted := ⟨.inr ⟨_, request⟩, header ▸ fitted.header⟩
        rw [control_freeRequest half, control, ← unbound]
        rfl
      · next session second =>
          obtain ⟨hub', -, rfl⟩ := Session.bindHeader_eq_ok second
          refine .inr ⟨b.session.hub.channels.length, half.session.hub.channels.length, _, rfl, ?_⟩
          have bound : ({ half.session with
              hub := hub'
              header := some (.bound headerEndpoint half.session.hub.channels.length) } : Session).control =
              { half.session.control with
                header := some (.bound headerEndpoint half.session.hub.channels.length) } := rfl
          rw [bound, control]
          rfl

/-- Asking a new worker leaves it with the control side, ready or not. -/
theorem control_startWorker (b : Bridge σ) (during : Schedule σ) :
    (b.startWorker during).2.session.control = { b.session.control with worker := some .unconnected } := by
  rw [startWorker]
  split
  · rfl
  · next asked sent =>
      obtain ⟨hub, -, rfl⟩ := send_eq_ok sent
      have control := control_pause { b.spawn with
        session := { b.spawn.session with hub }
        deeds := b.spawn.deeds ++ [.sent b.session.request askReady] } during .asked
      simp only
      split
      · exact control
      · split <;> exact control

/-- What starting on free sockets comes to for the control side: both sockets and the worker are there, or nothing is
as it was not. -/
theorem control_engage (fitted : b.Fitted) (request : b.session.request = none) (header : b.session.header = none)
    (idle : b.session.worker = none) (during : Schedule σ) :
    (∃ e b', b.engage during = (.error e, b') ∧ b'.session.control = b.session.control) ∨
      ∃ q h b', b.engage during = (.ok true, b') ∧
        b'.session.control = { b.session.control with
          request := some (.bound requestEndpoint q), header := some (.bound headerEndpoint h)
          worker := some .unconnected } := by
  rw [engage]
  rcases control_bindControl fitted during with ⟨e, b', failed, control⟩ | ⟨q, h, b', free, control⟩
  · exact .inl ⟨e, b', by rw [failed], control⟩
  · rw [free]
    have asked := b'.control_startWorker during
    rw [control] at asked
    rcases started : b'.startWorker during with ⟨e | _, b''⟩ <;> rw [started] at asked
    · have fitted : b''.Fitted := by
        have request : b''.session.request = some (.bound requestEndpoint q) := (congrArg Session.request asked :)
        have header : b''.session.header = some (.bound headerEndpoint h) := (congrArg Session.header asked :)
        exact ⟨.inr ⟨q, request⟩, .inr ⟨h, header⟩⟩
      refine .inl ⟨e, b''.shutDown during, by simp only [started], ?_⟩
      have ended := control_shutDown fitted during
      have none : ({ b.session.control with request := none, header := none, worker := none } : Session) =
          b.session.control := by
        simp only [Session.control, request, header, idle]
      rw [ended, asked, ← none]
    · exact .inr ⟨q, h, b'', by simp only [started], asked⟩

/-! ## What every stride keeps -/

/-- Between the strides of a call the sockets, the worker, the breakpoints and the threads agree. -/
structure Settled (b : Bridge σ) : Prop where
  idle : b.session.worker = none → b.session.request = none ∧ b.session.header = none ∧ b.session.breakpoints = []
  running : b.session.worker ≠ none →
    ∃ q h, b.session.request = some (.bound requestEndpoint q) ∧ b.session.header = some (.bound headerEndpoint h)
  calm : b.Prompt → b.session.worker = none → b.session.threads = .empty

/-- What the control side has decides, but for the threads. -/
theorem Settled.of_control {next : Bridge σ} (settled : b.Settled)
    (control : next.session.control = b.session.control)
    (calm : next.Prompt → next.session.worker = none → next.session.threads = .empty) : next.Settled := by
  have worker := Session.worker_of_control control
  have request := Session.request_of_control control
  have header := Session.header_of_control control
  have breakpoints := Session.breakpoints_of_control control
  refine ⟨?_, ?_, calm⟩ <;> rw [worker, request, header]
  · rw [breakpoints]
    exact settled.idle
  · exact settled.running

theorem Settled.fitted (settled : b.Settled) : b.Fitted := by
  cases running : b.session.worker with
  | none =>
      obtain ⟨request, header, -⟩ := settled.idle running
      exact ⟨.inl request, .inl header⟩
  | some w =>
      obtain ⟨q, h, request, header⟩ := settled.running (by simp [running])
      exact ⟨.inr ⟨q, request⟩, .inr ⟨h, header⟩⟩

/-- A stop leaves a settled bridge, not started. -/
theorem Settled.stop (settled : b.Settled) (attended : b.Attended) (during : Schedule σ) : (b.stop during).Settled := by
  have control := control_stop settled.fitted during
  have worker : (b.stop during).session.worker = none := (congrArg Session.worker control :)
  refine ⟨fun _ => ⟨(congrArg Session.request control :), (congrArg Session.header control :),
    (congrArg Session.breakpoints control :)⟩, fun running => absurd worker running, fun prompt _ => ?_⟩
  exact threads_shutDown (attended.of_same List.prefix_rfl rfl rfl) prompt

/-- While no worker is at work, sockets that cannot be bound change nothing about threads. -/
theorem threads_bindControl (attended : b.Attended) (idle : b.session.worker = none) {e : Error} {next : Bridge σ}
    (failed : b.bindControl during = (.error e, next)) (prompt : next.Prompt) :
    next.session.threads = b.session.threads := by
  rw [bindControl] at failed
  split at failed
  · cases failed
    rfl
  · next session first =>
      obtain ⟨hub, -, rfl⟩ := Session.bindRequest_eq_ok first
      simp only at failed
      split at failed
      · cases failed
        exact threads_pause (b := { b with session := { b.session with
          hub, request := some (.bound requestEndpoint b.session.hub.channels.length) } })
          (attended.of_same List.prefix_rfl rfl rfl) idle prompt
      · cases failed

/-- An engagement leaves a settled bridge: started with both sockets bound, or not started with both free. -/
theorem Settled.engage (out : Outside σ) (settled : b.Settled) (attended : b.Attended)
    (permits : Permits permitted during) (idle : b.session.worker = none) : (b.engage during).2.Settled := by
  obtain ⟨request, header, breakpoints⟩ := settled.idle idle
  have bound := steps_bindControl out permits b
  have threads {e : Error} {next : Bridge σ} := @threads_bindControl _ _ during attended idle e next
  have still := b.worker_bindControl during
  rcases control_engage settled.fitted request header idle during with
    ⟨e, b', failed, control⟩ | ⟨q, h, b', engaged, control⟩
  · rw [failed]
    refine settled.of_control control fun prompt _ => ?_
    rw [Bridge.engage] at failed
    split at failed
    · next unbound =>
        cases failed
        rw [unbound] at bound
        rw [threads unbound prompt]
        exact settled.calm (prompt.of_deeds (Steps.deeds bound)) idle
    · next ready free =>
        rw [free] at bound still
        have asked := bound.trans (steps_startWorker out permits (still.trans idle))
        split at failed
        · cases failed
        · next started =>
            cases failed
            rw [started] at asked
            exact threads_shutDown (Steps.attended asked attended) prompt
  · rw [engaged]
    have worker : b'.session.worker = some .unconnected := (congrArg Session.worker control :)
    refine ⟨fun idle => ?_, fun _ => ⟨q, h, (congrArg Session.request control :), (congrArg Session.header control :)⟩,
      fun _ idle => ?_⟩ <;> cases worker.symm.trans idle

/-- Every stride leaves a settled bridge. -/
theorem Settled.stride {next : Bridge σ} (settled : b.Settled) (attended : b.Attended)
    (stride : Stride out permitted b next) : next.Settled := by
  have deeds := Steps.deeds (stride.steps settled.fitted)
  cases stride with
  | happen allowed =>
      refine settled.of_control (b.control_happen _) fun prompt idle => ?_
      have still : b.session.worker = none := (Session.worker_of_control (b.control_happen _)).symm.trans idle
      rw [threads_happen attended (prompt.of_deeds deeds) still]
      exact settled.calm (prompt.of_deeds deeds) still
  | launch idle => exact ⟨settled.idle, settled.running, fun prompt => settled.calm (prompt.of_deeds deeds)⟩
  | engage permits idle => exact settled.engage out attended permits idle
  | stop permits => exact settled.stop attended _
  | send own sent =>
      obtain ⟨hub, -, rfl⟩ := send_eq_ok sent
      exact ⟨settled.idle, settled.running, fun prompt => settled.calm (prompt.of_deeds deeds)⟩
  | outside outside | take own waits => exact ⟨settled.idle, settled.running, settled.calm⟩
  | remember breakpoints bound =>
      have running : b.session.worker ≠ none := by
        intro idle
        rw [(settled.idle idle).1] at bound
        cases bound
      exact ⟨fun idle => absurd idle running, settled.running, settled.calm⟩

/-- So do any strides. -/
theorem Strides.settled {last : Bridge σ} (strides : Strides out permitted b last) (settled : b.Settled)
    (attended : b.Attended) : last.Settled := by
  have both : last.Settled ∧ last.Attended := by
    induction strides with
    | refl => exact ⟨settled, attended⟩
    | tail prior stride ih => exact ⟨ih.1.stride ih.2 stride, Steps.attended (stride.steps ih.1.fitted) ih.2⟩
  exact both.1

/-- Between the moves a bridge is always settled. -/
theorem Reachable.settled (reachable : Reachable out permitted b) : b.Settled := by
  induction reachable with
  | create created o =>
      have idle := created.sound.idle created.worker
      exact ⟨fun _ => ⟨idle.request, idle.header, idle.breakpoints⟩, fun running => absurd created.worker running,
        fun _ _ => idle.threads⟩
  | move prior move allowed ih => exact Strides.settled (strides_next out _ allowed) ih prior.reached.attended

/-! ## Which moves start and stop -/

/-- The moves that may start a session. -/
def Move.MayStart : Move σ → Prop
  | .start _ => True
  | .process _ message _ => Session.Asks message "initialize"
  | _ => False

/-- The moves that may stop a session. -/
def Move.MayStop : Move σ → Prop
  | .stop _ => True
  | .process _ message _ => Session.Asks message "disconnect"
  | _ => False

/-- A start of a started bridge does nothing. -/
theorem start_of_started (started : b.session.isStarted = true) (during : Schedule σ) :
    b.start out during = (.ok true, b) := if_pos started

/-- The end of a call stops the session if that was asked for, and else leaves the worker. -/
theorem worker_conclude (fitted : b.Fitted) (call : Call) (result : Except Error Json) (during : Schedule σ) :
    (b.conclude out call result during).2.session.worker =
      if call.purpose = .disconnect then none else b.session.worker := by
  rw [conclude]
  split
  · exact (congrArg Session.worker (control_stop fitted during) :)
  · next stays =>
      have concluded := b.session.conclude_session out call result b.outside
      simp only
      generalize b.session.conclude out call result b.outside = done at concluded ⊢
      rcases concluded with same | ⟨purpose, -⟩ | ⟨-, -, _, changed⟩
      · rw [same]
      · exact absurd purpose stays
      · rw [changed]

/-- A message that is passed on leaves the worker there, unless the session stops after it. -/
theorem worker_forward (fitted : b.Fitted) (header : Json) (call : Call) (during : Schedule σ) :
    (b.forward out header call during).2.session.worker =
      if call.purpose = .disconnect then none else b.session.worker := by
  have submitted := ((b.pause during .considered).control_submit header call.sent during).trans (b.control_pause ..)
  rw [forward]
  generalize (b.pause during .considered).submit header call.sent during = attempt at submitted ⊢
  obtain ⟨e | _, ready⟩ := attempt
  · rw [worker_conclude (fitted.of_control submitted), Session.worker_of_control submitted]
  · have waited := (ready.control_pause during .passed).trans submitted
    simp only
    generalize ready.pause during .passed = ready at waited ⊢
    have concluded := (control_pause { ready with session := (ready.session.collect call.sent).2 } during
      .collected).trans waited
    rw [worker_conclude (fitted.of_control concluded), Session.worker_of_control concluded]

/-- Answering a message starts a session only if that asks for it, and stops one only if that asks for it. -/
theorem worker_process (fitted : b.Fitted) (header message : Json) (during : Schedule σ) :
    ((b.process out header message during).2.session.worker ≠ none →
        b.session.worker ≠ none ∨ Session.Asks message "initialize") ∧
      (b.session.worker ≠ none → (b.process out header message during).2.session.worker = none →
        Session.Asks message "disconnect") := by
  rw [process]
  split
  · exact ⟨.inl, fun running idle => absurd idle running⟩
  · next r read =>
      rw [processRequest, prepare]
      by_cases command : r.command = "initialize"
      · rw [if_pos command]
        refine ⟨fun _ => .inr ⟨r, read, command⟩, fun running idle => ?_⟩
        rw [start_of_started (Session.isStarted_eq_true_iff.mpr running)] at idle
        simp only [ask, Session.consider_of_initializing out b.session command] at idle
        rw [worker_forward ⟨fitted.request, fitted.header⟩] at idle
        exact absurd idle running
      · rw [if_neg command]
        simp only [ask]
        have considered := Session.consider_cases out b.session r b.outside
        generalize b.session.consider out r b.outside = outcome at considered ⊢
        cases considered with
        | answered seq same other own => exact ⟨.inl, fun running idle => absurd idle running⟩
        | @passed call o planned =>
            have asked : Fitted { b with outside := o } := ⟨fitted.request, fitted.header⟩
            simp only
            rw [worker_forward asked]
            split
            · next purpose =>
                refine ⟨fun running => absurd rfl running, fun _ _ => ⟨r, read, ?_⟩⟩
                rcases (Session.callFor_cases planned).2 with ⟨-, rendering, -⟩ | ⟨-, -, disconnect, -⟩
                · cases purpose.symm.trans rendering
                · exact disconnect purpose
            · exact ⟨.inl, fun running idle => absurd idle running⟩

/-- A start takes no worker away. -/
theorem worker_start (started : b.session.worker ≠ none) (during : Schedule σ) :
    (b.start out during).2.session.worker ≠ none := by
  rw [start_of_started (Session.isStarted_eq_true_iff.mpr started)]
  exact started

/-- Only some moves start or stop a session. -/
theorem worker_next (fitted : b.Fitted) (move : Move σ) :
    (b.session.worker = none → (b.next out move).session.worker ≠ none → move.MayStart) ∧
      (b.session.worker ≠ none → (b.next out move).session.worker = none → move.MayStop) := by
  have stays {next : Session} {P Q : Prop} (same : next.worker = none ↔ b.session.worker = none) :
      (b.session.worker = none → next.worker ≠ none → P) ∧ (b.session.worker ≠ none → next.worker = none → Q) :=
    ⟨fun idle running => absurd (same.mpr idle) running, fun running idle => absurd (same.mp idle) running⟩
  cases move with
  | process header message during =>
      obtain ⟨started, stopped⟩ := worker_process fitted header message during
      exact ⟨fun idle running => (started running).resolve_left fun earlier => earlier idle, stopped⟩
  | start during => exact ⟨fun _ _ => trivial, fun running idle => absurd idle (worker_start running during)⟩
  | stop during =>
      have ends : (b.stop during).session.worker = none := (congrArg Session.worker (control_stop fitted during) :)
      exact ⟨fun _ running => absurd ends running, fun _ _ => trivial⟩
  | nextEvent time => exact stays (b.session.keeps_nextEvent time).worker_eq_none_iff
  | happen happening => exact stays (by rw [next, Session.worker_of_control (b.control_happen happening)])

/-! ## The lifecycle -/

/-- A socket is bound to an endpoint, and the endpoint is registered for it. -/
def Owns (hub : Hub) (socket : Socket) (e : Endpoint) : Prop :=
  ∃ q, socket = some (.bound e q) ∧ hub.registry.lookup e = some q

/-- What being started means, and what is left while a session is not. -/
structure Phased (b : Bridge σ) : Prop where
  started : b.session.isStarted = true ↔
    Owns b.session.hub b.session.request "inproc://debugger" ∧
      Owns b.session.hub b.session.header "inproc://debugger_header"
  stopped : b.session.isStarted = false →
    b.session.hub.isBound "inproc://debugger" = false ∧ b.session.hub.isBound "inproc://debugger_header" = false ∧
      b.session.breakpoints = []
  threads : b.session.isStarted = false → b.Prompt → b.session.threads.stopped = []
  publisher : Owns b.session.hub b.session.publisher "inproc://publisher"

/-- A settled bridge is started with all that this takes, or not started with nothing left of it. -/
theorem Sound.phased (sound : b.Sound) (settled : b.Settled) : b.Phased := by
  refine ⟨?_, fun stopped => ?_, fun stopped prompt => ?_, sound.publisher⟩
  · rw [Session.isStarted_eq_true_iff]
    constructor
    · intro running
      obtain ⟨q, h, request, header⟩ := settled.running running
      exact ⟨⟨q, request, sound.request.lookup_bound request⟩, ⟨h, header, sound.header.lookup_bound header⟩⟩
    · rintro ⟨⟨q, request, -⟩, -⟩ idle
      rw [(settled.idle idle).1] at request
      cases request
  · obtain ⟨request, header, breakpoints⟩ := settled.idle (Session.isStarted_eq_false_iff.mp stopped)
    exact ⟨Hub.isBound_eq_false_iff.mpr (sound.request.lookup_free request),
      Hub.isBound_eq_false_iff.mpr (sound.header.lookup_free header), breakpoints⟩
  · rw [settled.calm prompt (Session.isStarted_eq_false_iff.mp stopped)]
    rfl

/-- Stopping a session that is not started, whose workers all ended in time, changes nothing. -/
theorem stop_of_stopped (settled : b.Settled) (stopped : b.session.isStarted = false) (prompt : b.Prompt) :
    b.stop quiet = { b with deeds := b.deeds ++ [.forgotStopped, .forgotKnown] } := by
  have idle := Session.isStarted_eq_false_iff.mp stopped
  obtain ⟨request, header, breakpoints⟩ := settled.idle idle
  have threads := settled.calm prompt idle
  obtain ⟨session, couriers, outside, deeds⟩ := b
  cases session
  simp only at idle request header breakpoints threads
  subst idle request header breakpoints threads
  simp [stop, shutDown, pause, quiet, freeRequest, freeHeader, Session.unbindRequest, Session.unbindHeader, Hub.unbind,
    wait, Session.isStarted, forgetStopped, forgetKnown, done, Threads.empty]

/-- Between any two moves, whatever fails and whatever others do, also in the course of a move, whether the session is
started is told alike by its sockets and by the endpoints; while it is not, no breakpoints are left, and no threads
unless a worker was left behind. Starting a started session changes nothing, and stopping a stopped one no more than
that. No other moves than those that ask for it start or stop a session, and all leave its publisher. Others may
connect to every endpoint, but bind none of the session's. -/
theorem lifecycle (reachable : Reachable out (Allowed (fun _ _ => False)) b) :
    b.Phased ∧ (b.session.isStarted = true → ∀ during, b.start out during = (.ok true, b)) ∧
      (b.session.isStarted = false → (∀ during, (b.stop during).session.control = b.session.control) ∧
        (b.Prompt → b.stop quiet = { b with deeds := b.deeds ++ [.forgotStopped, .forgotKnown] })) ∧
      ∀ move : Move σ, move.Allowed (Allowed (fun _ _ => False)) →
        (b.session.isStarted = false → (b.next out move).session.isStarted = true → move.MayStart) ∧
          (b.session.isStarted = true → (b.next out move).session.isStarted = false → move.MayStop) ∧
          (b.next out move).session.publisher = b.session.publisher := by
  have settled := reachable.settled
  refine ⟨reachable.reached.sound.phased settled, start_of_started,
    fun stopped => ⟨fun during => ?_, stop_of_stopped settled stopped⟩, fun move allowed => ?_⟩
  · obtain ⟨request, header, breakpoints⟩ := settled.idle (Session.isStarted_eq_false_iff.mp stopped)
    rw [control_stop settled.fitted]
    simp only [Session.control, request, header, breakpoints, Session.isStarted_eq_false_iff.mp stopped]
  · obtain ⟨starts, stops⟩ := b.worker_next settled.fitted move
    simp only [Session.isStarted_eq_true_iff, Session.isStarted_eq_false_iff]
    exact ⟨starts, stops, Steps.publisher ((strides_next out b allowed).steps settled.fitted)⟩

/-- The running sample: it is started, and starting it again changes nothing. -/
theorem lifecycle_runningSample :
    runningSample.session.isStarted = true ∧ runningSample.Phased ∧
      ∀ during, runningSample.start Session.obliging during = (.ok true, runningSample) := by
  have started : runningSample.session.isStarted = true := by decide +kernel
  obtain ⟨phased, again, -⟩ := lifecycle (reachable_runningSample fun _ _ => False)
  exact ⟨started, phased, again started⟩

/-- A stop that is told of while the worker is left behind. -/
def stoppedEvent : Json :=
  Json.ofMembers [("type", .str "event"), ("event", .str "stopped"), ("body", Json.ofMembers [("threadId", .int 7)])]

/-- A run in which the worker has no turn while its end is waited for, and afterwards hears of a thread that stops. -/
def leftMoves : List (Move Unit) :=
  [.start (readies 0), .stop quiet, .happen (.turn 0 (.hear (.message stoppedEvent))),
    .happen (.turn 0 (.relay (.ok ()))), .happen (.turn 0 .act)]

/-- The bridge after that run. -/
def leftSample : Bridge Unit :=
  leftMoves.foldl (next Session.obliging) idleSample

/-- A worker that is left behind tells of a stopped thread although the session is not started. -/
theorem stopped_thread_left :
    Reachable Session.obliging (Allowed (fun _ _ => False)) leftSample ∧ leftSample.session.isStarted = false ∧
      leftSample.session.threads.stopped = [7] ∧ ¬ leftSample.Prompt := by
  have readable : (Arrival.message stoppedEvent).Readable := Session.readable_of_exact (by decide +kernel)
  have allowed : ∀ move ∈ leftMoves, move.Allowed (Allowed (fun _ _ => False)) := by
    simp only [leftMoves, List.forall_mem_cons]
    exact ⟨permits_readies _ 0, permits_quiet _, readable, trivial, trivial, List.forall_mem_nil _⟩
  have waited : .waited (.error (.timeout Session.idleSample.settings.shutdownTime)) ∈ leftSample.deeds := by
    decide +kernel
  exact ⟨Reachable.moves (.create Session.created_idleSample ()) allowed, by decide +kernel, by decide +kernel,
    fun prompt => prompt _ waited⟩

end DebugBridge.Bridge
