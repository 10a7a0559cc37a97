import DebugBridge.Proofs.Bridge.Calls
import DebugBridge.Proofs.Bridge.Lifecycle
import DebugBridge.Proofs.Bridge.Replies
import DebugBridge.Proofs.Bridge.Transcript
import DebugBridge.Proofs.Session.Traffic

/-!
# What calls pass on to workers

`passing` says, for every message of the front end, what its call sends to the worker: nothing, or a header and one
message behind it. A call sends just that (`sendings_process`), behind the question whether a worker is ready if it
starts the session.
-/

namespace DebugBridge

/-- A frame that the control side sent, and where. -/
def Deed.sending? : Deed → Option (Socket × Frame)
  | .sent s frame => some (s, frame)
  | _ => none

namespace Bridge

variable {σ : Type} {out : Outside σ} {permitted : Happening σ → Prop} {b : Bridge σ} {during : Schedule σ}

/-- All frames that the control side sent, in order. -/
def sendings (b : Bridge σ) : List (Socket × Frame) :=
  b.deeds.filterMap Deed.sending?

/-! ## Operations that send nothing -/

@[simp] theorem sendings_happen (b : Bridge σ) (h : Happening σ) : (b.happen h).sendings = b.sendings := by
  cases h with
  | outside change | elsewhere others => rfl
  | turn n turn =>
      rw [happen]
      split
      · rfl
      · rw [sendings, List.filterMap_append, List.filterMap_map]
        have none : (c : List Note) → c.filterMap (Deed.sending? ∘ Deed.courier n) = [] :=
          fun c => List.filterMap_eq_nil_iff.mpr fun _ _ => rfl
        rw [none, List.append_nil, sendings]

@[simp] theorem sendings_pause (b : Bridge σ) (during : Schedule σ) (p : Point) :
    (b.pause during p).sendings = b.sendings := by
  rw [pause]
  generalize during p = happenings
  induction happenings generalizing b with
  | nil => rfl
  | cons h happenings ih => exact (ih (b.happen h)).trans (b.sendings_happen h)

/-- A deed of another kind sends nothing. -/
theorem sendings_done (b : Bridge σ) {deed : Deed} (silent : deed.sending? = none) :
    (b.done deed).sendings = b.sendings := by
  simp [sendings, done, silent]

/-- Waiting sends nothing. -/
theorem sendings_wait (b : Bridge σ) : b.wait.sendings = b.sendings := by
  rw [wait]
  split
  · exact sendings_done _ rfl
  · rfl

/-- Shutting down sends nothing. -/
theorem sendings_shutDown (b : Bridge σ) (during : Schedule σ) : (b.shutDown during).sendings = b.sendings := by
  have left : (b.pause during .leaving).freeRequest.sendings = b.sendings := sendings_pause b during .leaving
  have free : ((b.pause during .leaving).freeRequest.pause during .halfFree).freeHeader.sendings = b.sendings :=
    (sendings_pause _ during .halfFree).trans left
  simp only [shutDown]
  rw [forgetKnown, sendings_done _ rfl]
  refine (sendings_pause _ during .halfForgotten).trans ?_
  rw [forgetStopped, sendings_done _ rfl]
  exact (sendings_wait _).trans ((sendings_pause _ during .waiting).trans free)

/-- Stopping sends nothing. -/
theorem sendings_stop (b : Bridge σ) (during : Schedule σ) : (b.stop during).sendings = b.sendings :=
  sendings_shutDown _ during

/-- Launching the adapter sends nothing over a socket. -/
theorem sendings_ensureLaunched (out : Outside σ) (b : Bridge σ) : (b.ensureLaunched out).sendings = b.sendings :=
  sendings_done _ rfl

/-- Binding endpoints sends nothing. -/
theorem sendings_bindControl (b : Bridge σ) (during : Schedule σ) : (b.bindControl during).2.sendings = b.sendings := by
  rw [bindControl]
  split
  · rfl
  · next session first =>
      have half := sendings_pause { b with session } during .halfBound
      simp only
      split <;> exact half

theorem sendings_send {s : Socket} {frame : Frame} {next : Bridge σ} (sent : b.send s frame = .ok next) :
    next.sendings = b.sendings ++ [(s, frame)] := by
  obtain ⟨hub, -, rfl⟩ := send_eq_ok sent
  rw [sendings, List.filterMap_append]
  rfl

/-- The end of a call sends nothing. -/
theorem sendings_conclude (out : Outside σ) (b : Bridge σ) (call : Call) (result : Except Error Json)
    (during : Schedule σ) : (b.conclude out call result during).2.sendings = b.sendings := by
  rw [conclude]
  split
  · exact sendings_stop b during
  · rfl

/-! ## Starting -/

/-- The frames by which a start may ask its worker whether it is ready. -/
def Asking (asking : List (Socket × Frame)) : Prop :=
  asking = [] ∨ ∃ q, asking = [(some (.bound requestEndpoint q), askReady)]

/-- A new worker is asked over the request socket, and no more is sent. -/
theorem sendings_startWorker {q : Nat} (bound : b.session.request = some (.bound requestEndpoint q))
    (during : Schedule σ) :
    (b.startWorker during).2.sendings = b.sendings ++ [(some (.bound requestEndpoint q), askReady)] := by
  rw [startWorker]
  cases sent : b.spawn.send b.session.request askReady with
  | error e =>
      rw [send, bound] at sent
      cases sent
  | ok asked =>
      have told := sendings_send sent
      rw [bound] at told
      have waited := (sendings_pause asked during .asked).trans told
      simp only
      split
      · exact waited
      · split <;> exact waited

/-- An engagement sends the question to its worker at most. -/
theorem sendings_engage (fitted : b.Fitted) (during : Schedule σ) :
    ∃ asking, Asking asking ∧ (b.engage during).2.sendings = b.sendings ++ asking := by
  have bound := sendings_bindControl b during
  rw [engage]
  rcases control_bindControl fitted during with ⟨e, b', failed, control⟩ | ⟨q, h, b', free, control⟩
  · rw [failed] at bound
    rw [failed]
    exact ⟨[], .inl rfl, bound.trans (List.append_nil _).symm⟩
  · rw [free] at bound
    rw [free]
    have request : b'.session.request = some (.bound requestEndpoint q) := (congrArg Session.request control :)
    have asked := sendings_startWorker request during
    refine ⟨_, .inr ⟨q, rfl⟩, ?_⟩
    rw [← bound]
    simp only
    rcases started : b'.startWorker during with ⟨e | _, b''⟩ <;> rw [started] at asked
    · exact (sendings_shutDown b'' during).trans asked
    · exact asked

/-- Nothing is sent before the endpoints are bound. -/
theorem sendings_readied (out : Outside σ) (b : Bridge σ) (during : Schedule σ) (o : σ) :
    (b.readied out during o).sendings = b.sendings := by
  have logged : ({ b with outside := o }.pause during .logged).sendings = b.sendings := sendings_pause _ during .logged
  exact (sendings_pause _ during .launched).trans ((sendings_ensureLaunched out _).trans logged)

/-- What a session is like that is about to be engaged: it has no sockets, and no worker. -/
theorem free_of_readied (out : Outside σ) (settled : b.Settled) (idle : b.session.worker = none)
    (during : Schedule σ) (o o' : σ) :
    let ready := { b.readied out during o with outside := o' }.pause during .staged
    ready.Fitted ∧ ready.session.request = none ∧ ready.session.header = none ∧ ready.session.worker = none := by
  obtain ⟨request, header, -⟩ := settled.idle idle
  have control := (control_pause { b.readied out during o with outside := o' } during .staged).trans
    (control_readied out b during o)
  have request' := (congrArg Session.request control :).trans request
  have header' := (congrArg Session.header control :).trans header
  exact ⟨⟨.inl request', .inl header'⟩, request', header', (congrArg Session.worker control :).trans idle⟩

/-- A start asks a worker at most, and not that if there is one. -/
theorem sendings_start (out : Outside σ) (settled : b.Settled) (during : Schedule σ) :
    ∃ asking, Asking asking ∧ (b.session.worker ≠ none → asking = []) ∧
      (b.start out during).2.sendings = b.sendings ++ asking := by
  have started := start_cases out b during
  generalize b.start out during = done at started ⊢
  have silent {next : Bridge σ} (same : next.sendings = b.sendings) :
      ∃ asking, Asking asking ∧ (b.session.worker ≠ none → asking = []) ∧ next.sendings = b.sendings ++ asking :=
    ⟨[], .inl rfl, fun _ => rfl, same.trans (List.append_nil _).symm⟩
  cases started with
  | already running => exact silent rfl
  | unlogged idle failed => exact silent rfl
  | unlaunched idle logged failed => exact silent (sendings_readied out b during _)
  | unstaged idle logged launched failed => exact silent (sendings_readied out b during _)
  | @engaged o o' idle logged launched staged =>
      obtain ⟨fitted, -⟩ := free_of_readied out settled idle during o o'
      obtain ⟨asking, shape, told⟩ := sendings_engage fitted during
      refine ⟨asking, shape, fun running => absurd idle running, ?_⟩
      rw [told, sendings_pause]
      exact congrArg (· ++ asking) (sendings_readied out b during o)

/-- A start ends well if there is a worker afterwards, and only then. -/
theorem started_iff (out : Outside σ) (settled : b.Settled) (during : Schedule σ) :
    (b.start out during).1 = .ok true ↔ (b.start out during).2.session.worker ≠ none := by
  have started := start_cases out b during
  generalize b.start out during = done at started ⊢
  have idle_of {next last : Session} (control : next.control = last.control) (idle : last.worker = none) :
      next.worker = none := (Session.worker_of_control control).trans idle
  have failed {result : Except Error Bool} {next : Bridge σ} (other : result ≠ .ok true)
      (idle : next.session.worker = none) : result = .ok true ↔ next.session.worker ≠ none :=
    iff_of_false other fun running => running idle
  cases started with
  | already running => exact iff_of_true rfl running
  | unlogged idle none => exact failed (by simp) idle
  | unlaunched idle logged none => exact failed (by simp) ((congrArg Session.worker (control_readied ..) :).trans idle)
  | unstaged idle logged launched none =>
      exact failed (by simp) ((congrArg Session.worker (control_readied ..) :).trans idle)
  | @engaged o o' idle logged launched staged =>
      obtain ⟨fitted, request, header, free⟩ := free_of_readied out settled idle during o o'
      rcases control_engage fitted request header free during with ⟨e, b', ended, control⟩ | ⟨q, h, b', ended, control⟩
      · rw [ended]
        exact failed (by simp) (idle_of control free)
      · rw [ended]
        refine iff_of_true rfl ?_
        rw [show b'.session.worker = some .unconnected from (congrArg Session.worker control :)]
        simp

/-! ## Calls -/

/-- What the adapter is to get for a message, in a state of the bridge: what is sent for it to the worker, if there is
one. -/
def passing (out : Outside σ) (b : Bridge σ) (header message : Json) : List (Socket × Frame) :=
  match b.session.controlMessageIn out message b.outside with
  | some sent =>
    if b.session.isStarted then
      [(b.session.header, Json.encode header), (b.session.request, Json.encode sent)]
    else []
  | none => []

/-- The bridge once a call has tried to start the session, if it asks for that. -/
def attempted (out : Outside σ) (b : Bridge σ) (message : Json) (during : Schedule σ) : Bridge σ :=
  match Request.ofJson? message with
  | .ok r => (b.prepare out r during).2
  | .error _ => b

/-- A header and a message behind it are sent if there is a worker, and nothing otherwise. -/
theorem sendings_submit (settled : b.Settled) (header message : Json) (during : Schedule σ) :
    (b.session.worker = none ∧ b.submit header message during = (.error .notStarted, b)) ∨
      b.session.worker ≠ none ∧ ∃ next, b.submit header message during = (.ok (), next) ∧
        next.sendings = b.sendings ++
          [(b.session.header, Json.encode header), (b.session.request, Json.encode message)] := by
  rcases eq_or_ne b.session.worker none with idle | running
  · obtain ⟨request, -⟩ := settled.idle idle
    refine .inl ⟨idle, ?_⟩
    rw [submit, request]
    rfl
  · obtain ⟨q, h, request, headerBound⟩ := settled.running running
    refine .inr ⟨running, ?_⟩
    cases first : b.send b.session.header (Json.encode header) with
    | error e =>
        rw [send, headerBound] at first
        cases first
    | ok headed =>
        have told := sendings_send first
        have control : (headed.pause during .headed).session.control = b.session.control := by
          obtain ⟨hub, -, rfl⟩ := send_eq_ok first
          exact control_pause _ during .headed
        have request' := (Session.request_of_control control).trans request
        cases second : (headed.pause during .headed).send (headed.pause during .headed).session.request
            (Json.encode message) with
        | error e =>
            rw [send, request'] at second
            cases second
        | ok next =>
            refine ⟨next, ?_, ?_⟩
            · rw [submit, request, Socket.isBound, if_pos rfl, first]
              simp only [second]
            · rw [sendings_send second, sendings_pause, told, request', request, List.append_assoc]
              rfl

/-- Readying a session for a request comes to an attempt to start it, or to nothing. -/
theorem prepare_snd (out : Outside σ) (b : Bridge σ) (r : Request) (during : Schedule σ) :
    (b.prepare out r during).2 = if r.command = "initialize" then (b.start out during).2 else b := by
  rw [prepare]
  split
  · split <;> next attempt => rw [attempt]
  · rfl

/-- A session that was to be started and could not be is idle. -/
theorem idle_of_unready (settled : b.Settled) {r : Request} {e : Error} {next : Bridge σ}
    (failed : b.prepare out r during = (.error e, next)) : next.session.worker = none := by
  have started := started_iff out settled during
  rw [prepare] at failed
  split at failed
  · split at failed
    · next attempt =>
        cases failed
        rw [attempt] at started
        by_contra running
        cases started.mpr running
    · cases failed
    · next attempt =>
        cases failed
        rw [attempt] at started
        by_contra running
        cases started.mpr running
  · cases failed

/-- The start that a message asks for sends the question to its worker at most. -/
theorem sendings_attempted (out : Outside σ) (settled : b.Settled) (message : Json) (during : Schedule σ) :
    ∃ asking, Asking asking ∧ (¬ Session.Asks message "initialize" ∨ b.session.worker ≠ none → asking = []) ∧
      (b.attempted out message during).sendings = b.sendings ++ asking := by
  rw [attempted]
  cases read : Request.ofJson? message with
  | error e => exact ⟨[], .inl rfl, fun _ => rfl, (List.append_nil _).symm⟩
  | ok r =>
      simp only
      rw [prepare_snd]
      split
      · next command =>
          obtain ⟨asking, shape, silent, told⟩ := sendings_start out settled during
          exact ⟨asking, shape, fun own => silent (own.resolve_left fun other => other ⟨r, read, command⟩), told⟩
      · exact ⟨[], .inl rfl, fun _ => rfl, (List.append_nil _).symm⟩

/-- Where a message is about to be passed on, sockets and worker agree. -/
theorem settled_considered (reachable : Reachable out permitted b) (permits : Permits permitted during) {r : Request}
    {ready : Bridge σ} (prepared : b.prepare out r during = (.ok (), ready)) (o : σ) :
    ({ ready with outside := o }.pause during .considered).Settled := by
  have strides := strides_prepare out permits b r
  rw [prepared] at strides
  have considered := (strides.tail (.outside o)).trans (strides_pause out permits _ .considered)
  exact Strides.settled considered reachable.settled reachable.reached.attended

/-- What a call passes on, once it has tried to start the session if that was asked for. -/
theorem sendings_process (reachable : Reachable out permitted b) (permits : Permits permitted during) (header : Json)
    {message : Json} (wellFormed : message.WellFormed) :
    (b.process out header message during).2.sendings =
      (b.attempted out message during).sendings ++ (b.attempted out message during).passing out header message := by
  have silent {next : Bridge σ} (idle : next.session.worker = none) : next.passing out header message = [] := by
    rw [passing, Session.isStarted_eq_false_iff.mpr idle]
    split <;> rfl
  have prepared_eq {r : Request} (read : Request.ofJson? message = .ok r) :
      b.attempted out message during = (b.prepare out r during).2 := by
    rw [attempted, read]
  have processed := b.process_cases out header message during
  generalize b.process out header message during = done at processed ⊢
  cases processed with
  | malformed refused =>
      have same : b.attempted out message during = b := by rw [attempted, refused]
      rw [same, passing, Session.controlMessageIn, Session.controlMessage, refused, List.append_nil]
  | unready read failed =>
      rw [prepared_eq read, failed, silent (idle_of_unready reachable.settled failed), List.append_nil]
  | answered read seq command other own =>
      have same : b.attempted out message during = b := by rw [prepared_eq read, prepare_snd, if_neg other]
      have nothing : b.passing out header message = [] := by
        rcases own with unplanned | idle
        · rw [passing, Session.controlMessageIn, Session.controlMessage_eq wellFormed read, unplanned]
          rfl
        · exact silent idle
      rw [same, nothing, List.append_nil]
      rfl
  | @unsent r call ready next o e read prepared planned failed =>
      rw [prepared_eq read, prepared]
      have ready_settled := settled_considered reachable permits prepared o
      rcases sendings_submit ready_settled header call.sent during with ⟨idle, submitted⟩ | ⟨-, next', submitted, -⟩
      · rw [failed] at submitted
        cases submitted
        rw [sendings_conclude, sendings_pause, silent (by simpa using idle), List.append_nil]
        rfl
      · cases failed.symm.trans submitted
  | @passed r call ready next o result session read prepared planned sent collected =>
      rw [prepared_eq read, prepared]
      have ready_settled := settled_considered reachable permits prepared o
      rcases sendings_submit ready_settled header call.sent during with
        ⟨-, submitted⟩ | ⟨running, next', submitted, told⟩
      · cases sent.symm.trans submitted
      · cases sent.symm.trans submitted
        have started : ready.session.isStarted = true := Session.isStarted_eq_true_iff.mpr (by simpa using running)
        rw [sendings_conclude, sendings_pause]
        refine (sendings_pause next during .passed).trans ?_
        rw [told, sendings_pause, passing, Session.controlMessageIn, Session.controlMessage_eq wellFormed read, planned,
          Option.map_some]
        simp only [started, if_true, header_pause, request_pause]
        rfl

/-- A call that passes nothing on, and is not to start or stop the session, leaves all as it was but for the outside,
and for what happens beside it. -/
theorem undisturbed_process (reachable : Reachable out permitted b) (permits : Permits permitted during) (header : Json)
    {message : Json} (wellFormed : message.WellFormed) (noStart : ¬ Session.Asks message "initialize")
    (noStop : ¬ Session.Asks message "disconnect") (nothing : b.passing out header message = []) :
    ∃ happenings : List (Happening σ), (b.process out header message during).2 = happenings.foldl happen b ∧
      ∀ h ∈ happenings, h ∈ during .considered ∨ ∃ change, h = .outside change := by
  have outside_alone (o : σ) : ∃ happenings : List (Happening σ),
      { b with outside := o } = happenings.foldl happen b ∧
        ∀ h ∈ happenings, h ∈ during .considered ∨ ∃ change, h = .outside change :=
    ⟨[.outside fun _ => o], rfl, fun h member => .inr ⟨_, List.mem_singleton.mp member⟩⟩
  have unprepared {r : Request} (read : Request.ofJson? message = .ok r) {result : Except Error Unit}
      {ready : Bridge σ} (prepared : b.prepare out r during = (result, ready)) : result = .ok () ∧ ready = b := by
    rw [prepare, if_neg fun command => noStart ⟨r, read, command⟩] at prepared
    cases prepared
    exact ⟨rfl, rfl⟩
  have processed := b.process_cases out header message during
  generalize b.process out header message during = done at processed ⊢
  cases processed with
  | malformed refused => exact ⟨[], rfl, List.forall_mem_nil _⟩
  | unready read failed => cases (unprepared read failed).1
  | answered read seq command other own => exact outside_alone _
  | @unsent r call ready next o e read prepared planned failed =>
      obtain ⟨-, rfl⟩ := unprepared read prepared
      have stays : call.purpose ≠ .disconnect := by
        intro purpose
        rcases (Session.callFor_cases planned).2 with ⟨-, rendering, -⟩ | ⟨-, -, disconnect, -⟩
        · cases purpose.symm.trans rendering
        · exact noStop ⟨r, read, disconnect purpose⟩
      have same : next = { ready with outside := o }.pause during .considered := by
        rcases sendings_submit (settled_considered reachable permits prepared o) header call.sent during with
          ⟨-, submitted⟩ | ⟨-, next', submitted, -⟩ <;> cases failed.symm.trans submitted
        rfl
      have kept : (next.conclude out call (.error e) during).2 =
          { next with outside := (next.session.conclude out call (.error e) next.outside).2.2 } := by
        rw [conclude, if_neg stays]
        rcases next.session.conclude_session out call (.error e) next.outside with
          still | ⟨purpose, -⟩ | ⟨-, ⟨reply, found⟩, -⟩
        · simp only [still]
        · exact absurd purpose stays
        · cases found
      generalize (next.session.conclude out call (.error e) next.outside).2.2 = o' at kept
      refine ⟨.outside (fun _ => o) :: during .considered ++ [.outside fun _ => o'], ?_, fun h member => ?_⟩
      · rw [kept, same, List.foldl_append]
        rfl
      · rcases List.mem_append.mp member with first | last
        · rcases List.mem_cons.mp first with rfl | beside
          · exact .inr ⟨_, rfl⟩
          · exact .inl beside
        · exact .inr ⟨_, List.mem_singleton.mp last⟩
  | @passed r call ready next o result session read prepared planned sent collected =>
      obtain ⟨-, rfl⟩ := unprepared read prepared
      rcases sendings_submit (settled_considered reachable permits prepared o) header call.sent during with
        ⟨-, submitted⟩ | ⟨running, -⟩
      · cases sent.symm.trans submitted
      · have started : ready.session.isStarted = true := Session.isStarted_eq_true_iff.mpr (by simpa using running)
        rw [passing, Session.controlMessageIn, Session.controlMessage_eq wellFormed read, planned,
          Option.map_some] at nothing
        simp [started] at nothing

/-! ## Workers -/

/-- No step gives the session another adapter address. -/
theorem Step.address {next : Bridge σ} (step : Step out permitted b next) :
    next.session.address = b.session.address := by
  cases step with
  | happen allowed => exact (congrArg Session.address (b.control_happen _) :)
  | bindRequest bound =>
      obtain ⟨hub, -, rfl⟩ := Session.bindRequest_eq_ok bound
      rfl
  | bindHeader bound =>
      obtain ⟨hub, -, rfl⟩ := Session.bindHeader_eq_ok bound
      rfl
  | send own sent =>
      obtain ⟨hub, -, rfl⟩ := send_eq_ok sent
      rfl
  | wait request header =>
      rw [Bridge.wait]
      split <;> rfl
  | outside outside | launch | freeRequest | freeHeader | spawn idle | take own waits | remember breakpoints
    | forgetStopped | forgetKnown => rfl

theorem Reachable.port (reachable : Reachable out permitted b) : b.session.address.port < 2 ^ 16 :=
  reachable.induct (P := fun b => b.session.address.port < 2 ^ 16) (fun _ created _ => created.port)
    fun _ _ port step => step.address ▸ port

/-- A message that is passed on arrives as it is. -/
theorem decode_controlMessage {s : Session} (port : s.address.port < 2 ^ 16) {message sent : Json} {o : σ}
    (exact : message.Exact Json.depthLimit) (planned : s.controlMessageIn out message o = some sent) :
    Json.decode (Json.encode sent) = .ok sent := by
  rw [Session.controlMessageIn] at planned
  cases read : Request.ofJson? message with
  | error e =>
      rw [Session.controlMessage, read] at planned
      cases planned
  | ok r =>
      rw [Session.controlMessage_eq exact.1.1 read] at planned
      obtain ⟨call, found, rfl⟩ := Option.map_eq_some_iff.mp planned
      exact Json.decode_encode_of_exact (Session.inherited_sent Json.inherited_exact _ exact read port found)

/-- What a worker does about what it is sent. -/
structure Forwards (b : Bridge σ) (n : Nat) (c : Courier) : Prop where
  /-- Behind the first frame, all that it takes off the binding of its request socket are requests for its relay, in
  that order. -/
  taken : ∃ greeting : List Frame, greeting.length ≤ 1 ∧ ∀ q, c.worker.request.binding? = some q →
    (b.notesOf n).filterMap (Note.got? q) = greeting ++ requestsOf (inputsOf (b.notesOf n)) ++ c.requestsAhead
  /-- For each of them the relay sets out once to write it, if it holds the adapter for alive by then. -/
  tried : ∀ before frame written after, inputsOf (b.notesOf n) = before ++ (.request frame, written) :: after →
    ∃ later, (b.notesOf n).filterMap Note.attempt? ++ c.doing.filterMap Relay.Output.attempt? =
      (Relay.start.runWith before).2.filterMap Relay.Output.attempt? ++
        (Relay.start.runWith before).1.tries written frame ++ later

/-- Every worker forwards what it takes, at any time. -/
theorem Reachable.forwards {untouched : Bridge σ → Nat → Prop} (reachable : Reachable out (Allowed untouched) b)
    {n : Nat} {c : Courier}
    (found : b.couriers[n]? = some c) : b.Forwards n c := by
  have chronicle := reachable.reached.chronicled.couriers n c found
  refine ⟨chronicle.requests, fun before frame written after split => ?_⟩
  have attempts :
      (b.notesOf n).filterMap Note.attempt? = (outputsOf (b.notesOf n)).filterMap Relay.Output.attempt? := by
    rw [outputsOf, List.filterMap_filterMap]
    congr 1
    funext note
    cases note <;> rfl
  let relay := (Relay.start.runWith before).1
  refine ⟨((relay.react written (.request frame)).1.runWith after).2.filterMap Relay.Output.attempt?, ?_⟩
  rw [attempts, ← List.filterMap_append, chronicle.outputs, split, Relay.runWith_append, Relay.runWith_cons,
    List.filterMap_append, List.filterMap_append, Relay.attempts_request, ← List.append_assoc]

/-- What the control side sent at a binding is among all that it sent. -/
theorem sentAt_eq (b : Bridge σ) (q : Nat) :
    b.sentAt q = b.sendings.filterMap fun p => if p.1.binding? = some q then some p.2 else none := by
  rw [sentAt, sendings, List.filterMap_filterMap]
  congr 1
  funext deed
  cases deed <;> simp [Deed.sent?, Deed.sending?]

/-- The start that a message asks for gives the session no other adapter address. -/
theorem address_attempted (out : Outside σ) (reachable : Reachable out permitted b) (permits : Permits permitted during)
    (message : Json) : (b.attempted out message during).session.address = b.session.address := by
  rw [attempted]
  cases Request.ofJson? message with
  | error e => rfl
  | ok r =>
      exact Steps.induct (Strides.steps (strides_prepare out permits b r) reachable.fitted)
        (P := fun next => next.session.address = b.session.address) rfl fun _ _ same step => step.address.trans same

/-- A call sends to the worker just what the adapter is to get for its message, behind the header, and nothing if that
is nothing or if there is no worker. The adapter's message arrives as it was sent. What is sent at a binding is taken
once, in the order in which it was sent, and a worker that takes a request sets out once to write it while it holds
the adapter for alive. A call that passes nothing on, and is not to start or stop the session, leaves all as it was
but for the outside, and for what happens beside it. -/
theorem control_traffic (reachable : Reachable out (Allowed controlBindings) b)
    (permits : Permits (Allowed controlBindings) during)
    (header : Json) {message : Json} (exact : message.Exact Json.depthLimit) :
    (∃ asking, Asking asking ∧
        (¬ Session.Asks message "initialize" ∨ b.session.worker ≠ none → asking = []) ∧
        (b.process out header message during).2.sendings =
          b.sendings ++ asking ++ (b.attempted out message during).passing out header message) ∧
      (∀ sent, (b.attempted out message during).session.controlMessageIn out message
        (b.attempted out message during).outside = some sent → Json.decode (Json.encode sent) = .ok sent) ∧
      (∀ q, b.controlBindings q →
        (b.sendings.filterMap fun p => if p.1.binding? = some q then some p.2 else none) =
          b.gotAt q ++ (b.session.hub.channelsOf q).toPeers) ∧
      (∀ n c, b.couriers[n]? = some c → b.Forwards n c) ∧
      (¬ Session.Asks message "initialize" → ¬ Session.Asks message "disconnect" →
        b.passing out header message = [] →
          ∃ happenings : List (Happening σ), (b.process out header message during).2 = happenings.foldl happen b ∧
            ∀ h ∈ happenings, h ∈ during .considered ∨ ∃ change, h = .outside change) := by
  obtain ⟨asking, shape, silent, told⟩ := sendings_attempted out reachable.settled message during
  refine ⟨⟨asking, shape, silent, ?_⟩, fun sent planned => ?_, fun q own => ?_, fun n c => reachable.forwards, ?_⟩
  · rw [sendings_process reachable permits header exact.1.1, told]
  · have port : (b.attempted out message during).session.address.port < 2 ^ 16 := by
      rw [address_attempted out reachable permits]
      exact reachable.port
    exact decode_controlMessage port exact planned
  · rw [← sentAt_eq]
    exact reachable.reached.conserved.sent q own
  · exact undisturbed_process reachable permits header exact.1.1

/-- The running sample passes a request on behind its header, and nothing else. -/
theorem control_traffic_runningSample :
    (runningSample.process Session.obliging .null (Session.bareRequest 3 "next") unwritten).2.sendings =
      runningSample.sendings ++ [(some (.bound headerEndpoint 2), Json.encode .null),
        (some (.bound requestEndpoint 1), Json.encode (Session.bareRequest 3 "next"))] := by
  obtain ⟨⟨asking, -, silent, told⟩, -⟩ :=
    control_traffic (reachable_runningSample controlBindings) (permits_unwritten controlBindings) .null
      (show (Session.bareRequest 3 "next").Exact Json.depthLimit by decide +kernel)
  have running : runningSample.session.worker ≠ none := by decide +kernel
  have passed : (runningSample.attempted Session.obliging (Session.bareRequest 3 "next") unwritten).passing
      Session.obliging .null (Session.bareRequest 3 "next") =
        [(some (.bound headerEndpoint 2), Json.encode .null),
        (some (.bound requestEndpoint 1), Json.encode (Session.bareRequest 3 "next"))] := by
    decide +kernel
  rw [told, silent (.inr running), List.append_nil, passed]

/-- A message need not be written even though the session is started, the worker holds the adapter for alive and takes
the message: here writing it fails. -/
theorem nothing_written :
    Reachable Session.obliging (Allowed controlBindings) runningSample ∧ runningSample.session.isStarted = true ∧
      runningSample.couriers.map (fun c => c.worker.relay.adapterAlive) = [true] ∧
      runningSample.session.controlMessageIn Session.obliging (Session.bareRequest 3 "next") () =
        some (Session.bareRequest 3 "next") ∧
      (runningSample.process Session.obliging .null (Session.bareRequest 3 "next") unwritten).2.session.outbox = [] ∧
      (runningSample.process Session.obliging .null (Session.bareRequest 3 "next") unwritten).2.attempts =
        [(Session.bareRequest 3 "next", false)] :=
  ⟨reachable_runningSample _, by decide +kernel, by decide +kernel, by decide +kernel, by decide +kernel,
    by decide +kernel⟩

end Bridge
end DebugBridge
