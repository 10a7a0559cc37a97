import DebugBridge.Proofs.Bridge.Raised
import DebugBridge.Proofs.Bridge.Restore
import DebugBridge.Proofs.Bridge.Threads

/-!
# A stop resets the session

What is left of a session that was stopped, once its workers have ended, is a past of bindings, workers and messages
that makes no difference any more. So two sessions for the same adapter go on alike after their stops, whatever came
before: the same messages of the front end, with the same doings of the new workers and of the adapter, get the same
replies, and the same is written to the adapter (`stop_resets`). A worker that has not ended when it is waited for makes
a difference (`stopped_thread_shown`).
-/

namespace DebugBridge

/-- What happens where the numbers of workers are higher. -/
def Happening.raise {σ : Type} (workers : Nat) : Happening σ → Happening σ
  | .turn n t => .turn (n + workers) t
  | .outside change => .outside change
  | .elsewhere others => .elsewhere others

/-- A schedule where the numbers of workers are higher. -/
def Schedule.raise {σ : Type} (workers : Nat) (during : Schedule σ) : Schedule σ :=
  fun p => (during p).map (Happening.raise workers)

namespace Bridge

variable {σ : Type}

/-- What a bridge has behind it: bindings, workers, and messages that were written. -/
structure Past where
  bindings : Nat
  workers : Nat
  written : List Json

/-- Of a bridge behind a past, what it is without that. -/
structure Raised (past : Past) (f b : Bridge σ) : Prop where
  session : Session.Raised past.bindings past.written f.session b.session
  count : b.couriers.length = f.couriers.length + past.workers
  couriers : ∀ n : Nat, Option.Rel (Courier.Raised past.bindings) f.couriers[n]? b.couriers[n + past.workers]?
  outside : b.outside = f.outside

/-- The same came out of two calls, and the bridges after them are so related. -/
def Alike {α : Type} (past : Past) (left right : α × Bridge σ) : Prop :=
  right.1 = left.1 ∧ Raised past left.2 right.2

namespace Raised

variable {past : Past} {f b : Bridge σ}

section Steps

variable (raised : Raised past f b)

include raised

/-- Bridges whose sessions go alike go alike, whatever deeds they remember. -/
theorem of_session {s t : Session} (session : Session.Raised past.bindings past.written s t)
    (deeds deeds' : List Deed) :
    Raised past { f with session := s, deeds } { b with session := t, deeds := deeds' } :=
  ⟨session, raised.count, raised.couriers, raised.outside⟩

theorem of_outside (outside : σ) : Raised past { f with outside } { b with outside } :=
  ⟨raised.session, raised.count, raised.couriers, rfl⟩

/-- Both have a worker, or neither. -/
theorem worker_eq : b.session.worker = f.session.worker :=
  (congrArg Session.worker raised.session.same :)

theorem isStarted_eq : b.session.isStarted = f.session.isStarted := by
  rw [Session.isStarted, Session.isStarted, raised.worker_eq]

/-- What new workers, the outside and others do to one bridge, they do to the other. -/
theorem happen {h : Happening σ} (alone : Beside h) : Raised past (f.happen h) (b.happen (h.raise past.workers)) := by
  cases h with
  | outside change => exact ⟨raised.session, raised.count, raised.couriers, congrArg change raised.outside⟩
  | elsewhere others => exact alone.elim
  | turn n turn =>
      have like := raised.couriers n
      rw [Happening.raise, Bridge.happen, Bridge.happen]
      generalize left : f.couriers[n]? = mine, right : b.couriers[n + past.workers]? = theirs at like
      cases like with
      | none => exact raised
      | @some c c' like =>
          obtain ⟨couriers, session⟩ := like.take raised.session turn
          refine ⟨session, by simpa using raised.count, fun m => ?_, raised.outside⟩
          obtain ⟨here, -⟩ := List.getElem?_eq_some_iff.mp left
          obtain ⟨there, -⟩ := List.getElem?_eq_some_iff.mp right
          rcases eq_or_ne n m with rfl | other
          · rw [List.getElem?_set_self here, List.getElem?_set_self there]
            exact .some couriers
          · rw [List.getElem?_set_ne other, List.getElem?_set_ne (by omega)]
            exact raised.couriers m

/-- So does all that happens at a place of a call. -/
theorem pause {during : Schedule σ} (alone : Permits Beside during) (p : Point) :
    Raised past (f.pause during p) (b.pause (during.raise past.workers) p) := by
  have alone := alone p
  rw [Bridge.pause, Bridge.pause, Schedule.raise]
  generalize during p = happenings at alone ⊢
  induction happenings generalizing f b with
  | nil => exact raised
  | cons h happenings ih =>
      rw [List.forall_mem_cons] at alone
      exact ih (raised.happen alone.1) alone.2

/-! ### Stopping -/

theorem freeRequest : Raised past f.freeRequest b.freeRequest := by
  obtain ⟨hub, request⟩ := raised.session.hub.unbind f.session.request (e := requestEndpoint) (by decide)
  rw [← raised.session.request] at hub request
  have session : Session.Raised past.bindings past.written f.session.unbindRequest b.session.unbindRequest :=
    ⟨hub, request, raised.session.header, raised.session.outbox,
      (congrArg (fun s => { s with hub := f.session.unbindRequest.hub, request := f.session.unbindRequest.request })
        raised.session.same :)⟩
  exact raised.of_session session f.deeds b.deeds

theorem freeHeader : Raised past f.freeHeader b.freeHeader := by
  obtain ⟨hub, header⟩ := raised.session.hub.unbind f.session.header (e := headerEndpoint) (by decide)
  rw [← raised.session.header] at hub header
  have session : Session.Raised past.bindings past.written f.session.unbindHeader b.session.unbindHeader :=
    ⟨hub, raised.session.request, header, raised.session.outbox,
      (congrArg (fun s => { s with hub := f.session.unbindHeader.hub, header := f.session.unbindHeader.header })
        raised.session.same :)⟩
  exact raised.of_session session f.deeds b.deeds

theorem of_worker (worker : Option Worker) (deeds deeds' : List Deed) :
    Raised past { f with session := { f.session with worker }, deeds }
      { b with session := { b.session with worker }, deeds := deeds' } :=
  ⟨⟨raised.session.hub, raised.session.request, raised.session.header, raised.session.outbox,
    (congrArg (fun s => { s with worker }) raised.session.same :)⟩, raised.count, raised.couriers, raised.outside⟩

theorem of_threads (change : Threads → Threads) (deeds deeds' : List Deed) :
    Raised past { f with session := { f.session with threads := change f.session.threads }, deeds }
      { b with session := { b.session with threads := change b.session.threads }, deeds := deeds' } :=
  ⟨⟨raised.session.hub, raised.session.request, raised.session.header, raised.session.outbox,
    (congrArg (fun s => { s with threads := change s.threads }) raised.session.same :)⟩, raised.count, raised.couriers,
    raised.outside⟩

theorem of_breakpoints (breakpoints : Members) :
    Raised past { f with session := { f.session with breakpoints } }
      { b with session := { b.session with breakpoints } } :=
  ⟨⟨raised.session.hub, raised.session.request, raised.session.header, raised.session.outbox,
    (congrArg (fun s => { s with breakpoints }) raised.session.same :)⟩, raised.count, raised.couriers, raised.outside⟩

/-- Both learn the same of the worker that they wait for, as it is a new one. -/
theorem wait : Raised past f.wait b.wait := by
  rw [Bridge.wait, Bridge.wait, raised.isStarted_eq]
  split
  · exact raised.of_worker none _ _
  · exact raised

theorem forgetStopped : Raised past f.forgetStopped b.forgetStopped :=
  raised.of_threads (fun threads => { threads with stopped := [] }) f.forgetStopped.deeds b.forgetStopped.deeds

theorem forgetKnown : Raised past f.forgetKnown b.forgetKnown :=
  raised.of_threads (fun threads => { threads with known := [] }) f.forgetKnown.deeds b.forgetKnown.deeds

/-- Both shut down alike. -/
theorem shutDown {during : Schedule σ} (alone : Permits Beside during) :
    Raised past (f.shutDown during) (b.shutDown (during.raise past.workers)) :=
  have half := (raised.pause alone .leaving).freeRequest.pause alone .halfFree
  have waited := half.freeHeader.pause alone .waiting
  (waited.wait.forgetStopped.pause alone .halfForgotten).forgetKnown

/-- Both stop alike. -/
theorem stop {during : Schedule σ} (alone : Permits Beside during) :
    Raised past (f.stop during) (b.stop (during.raise past.workers)) :=
  (raised.of_breakpoints []).shutDown alone

/-! ### Starting -/

theorem of_launch {launch launch' : Launch.State} (sameLaunch : launch' = launch)
    (transcript transcript' : Option (List String)) {outside outside' : σ} (sameOutside : outside' = outside)
    (deeds deeds' : List Deed) :
    Raised past { f with session := { f.session with launch, transcript }, outside, deeds }
      { b with
        session := { b.session with launch := launch', transcript := transcript' }
        outside := outside', deeds := deeds' } := by
  subst sameLaunch sameOutside
  exact ⟨⟨raised.session.hub, raised.session.request, raised.session.header, raised.session.outbox,
    (congrArg (fun s => { s with launch := launch', transcript }) raised.session.same :)⟩, raised.count,
    raised.couriers, rfl⟩

/-- The outside launches the adapter for both, or refuses both. -/
theorem ensureLaunched (out : Outside σ) : Raised past (f.ensureLaunched out) (b.ensureLaunched out) := by
  have address : b.session.address = f.session.address := (congrArg Session.address raised.session.same :)
  have config : b.session.config = f.session.config := (congrArg Session.config raised.session.same :)
  have launch : b.session.launch = f.session.launch := (congrArg Session.launch raised.session.same :)
  have same :
      Launch.ensure (out.execute (Launch.snippet b.session.address b.session.config)) b.session.launch b.outside =
      Launch.ensure (out.execute (Launch.snippet f.session.address f.session.config)) f.session.launch f.outside := by
    rw [address, config, launch, raised.outside]
  exact raised.of_launch (congrArg Prod.fst same) (f.ensureLaunched out).session.transcript
    (b.ensureLaunched out).session.transcript (congrArg Prod.snd same) (f.ensureLaunched out).deeds
    (b.ensureLaunched out).deeds

/-- The request endpoint is free for both, or taken for both. -/
theorem bindRequest :
    Both (fun s t => Session.Raised past.bindings past.written s t) f.session.bindRequest b.session.bindRequest := by
  have bound := raised.session.hub.bind f.session.request (e := requestEndpoint) (by decide)
  rw [← raised.session.request] at bound
  rw [Session.bindRequest, Session.bindRequest]
  generalize f.session.hub.bind f.session.request requestEndpoint = left,
    b.session.hub.bind b.session.request requestEndpoint = right at bound
  cases bound with
  | error e => exact .error e
  | @ok x y related =>
      obtain ⟨hub, request⟩ := related
      exact .ok ⟨hub, request, raised.session.header, raised.session.outbox,
        (congrArg (fun s => { s with hub := x.1, request := x.2 }) raised.session.same :)⟩

/-- So is the header endpoint. -/
theorem bindHeader :
    Both (fun s t => Session.Raised past.bindings past.written s t) f.session.bindHeader b.session.bindHeader := by
  have bound := raised.session.hub.bind f.session.header (e := headerEndpoint) (by decide)
  rw [← raised.session.header] at bound
  rw [Session.bindHeader, Session.bindHeader]
  generalize f.session.hub.bind f.session.header headerEndpoint = left,
    b.session.hub.bind b.session.header headerEndpoint = right at bound
  cases bound with
  | error e => exact .error e
  | @ok x y related =>
      obtain ⟨hub, header⟩ := related
      exact .ok ⟨hub, raised.session.request, header, raised.session.outbox,
        (congrArg (fun s => { s with hub := x.1, header := x.2 }) raised.session.same :)⟩

/-- Both bind their endpoints, or neither does. -/
theorem bindControl {during : Schedule σ} (alone : Permits Beside during) :
    Alike past (f.bindControl during) (b.bindControl (during.raise past.workers)) := by
  have first := raised.bindRequest
  rw [Bridge.bindControl, Bridge.bindControl]
  generalize f.session.bindRequest = left, b.session.bindRequest = right at first
  cases first with
  | error e => exact ⟨rfl, raised⟩
  | @ok s t session =>
      have half := (raised.of_session session f.deeds b.deeds).pause alone .halfBound
      have second := half.bindHeader
      simp only
      generalize Bridge.pause _ during .halfBound = f', Bridge.pause _ (during.raise past.workers) .halfBound = b'
        at half second ⊢
      generalize f'.session.bindHeader = left, b'.session.bindHeader = right at second
      cases second with
      | error e => exact ⟨rfl, half.freeRequest⟩
      | ok session => exact ⟨rfl, half.of_session session f'.deeds b'.deeds⟩

/-- A frame goes to bindings that correspond. -/
theorem send {s t : Socket} (same : t = s.raise past.bindings) (frame : Frame) :
    Both (Raised past) (f.send s frame) (b.send t frame) := by
  subst same
  have sent := raised.session.hub.send s frame
  rw [Bridge.send, Bridge.send]
  generalize f.session.hub.send s frame = left, b.session.hub.send (s.raise past.bindings) frame = right at sent
  cases sent with
  | error e => exact .error e
  | ok hub => exact .ok (raised.of_session (raised.session.of_hub hub) _ _)

/-- A new worker is new for both. -/
theorem spawn : Raised past f.spawn b.spawn := by
  obtain ⟨session, -, -, outside⟩ := raised.of_worker (some .unconnected) f.deeds b.deeds
  refine ⟨session, by simp [Bridge.spawn, raised.count]; omega, fun n => ?_, outside⟩
  have like := raised.couriers n
  have count := raised.count
  simp only [Bridge.spawn]
  rcases lt_trichotomy n f.couriers.length with old | rfl | beyond
  · rw [List.getElem?_append_left old, List.getElem?_append_left (by omega)]
    exact like
  · rw [← count, List.getElem?_concat_length, List.getElem?_concat_length]
    exact .some (Courier.raised_fresh _)
  · rw [List.getElem?_eq_none (by simp; omega), List.getElem?_eq_none (by simp; omega)]
    exact .none

/-- New workers answer both alike. -/
theorem startWorker {during : Schedule σ} (alone : Permits Beside during) :
    Alike past (f.startWorker during) (b.startWorker (during.raise past.workers)) := by
  have sent := raised.spawn.send raised.session.request askReady
  rw [Bridge.startWorker, Bridge.startWorker]
  generalize f.spawn.send f.session.request askReady = left, b.spawn.send b.session.request askReady = right at sent
  cases sent with
  | error e => exact ⟨rfl, raised.spawn⟩
  | ok asked =>
      have waited := asked.pause alone .asked
      simp only
      generalize Bridge.pause _ during .asked = f', Bridge.pause _ (during.raise past.workers) .asked = b' at waited ⊢
      have settings : b'.session.settings = f'.session.settings := (congrArg Session.settings waited.session.same :)
      have address : b'.session.address = f'.session.address := (congrArg Session.address waited.session.same :)
      have received := waited.session.hub.receiveWithin f'.session.request (congrArg Settings.handshakeTime settings)
      rw [← waited.session.request] at received
      generalize f'.session.hub.receiveWithin f'.session.request _ = left,
        b'.session.hub.receiveWithin b'.session.request _ = right at received
      cases received with
      | error e => exact ⟨rfl, waited⟩
      | @ok x y related =>
          obtain ⟨answer, hub⟩ := x
          obtain ⟨answer', hub'⟩ := y
          obtain ⟨same, hub⟩ := related
          cases same
          have taken := waited.of_session (waited.session.of_hub hub) f'.deeds b'.deeds
          simp only
          split
          · exact ⟨rfl, taken⟩
          · exact ⟨by rw [address], taken⟩

/-- Both come to the same end of a start, once their adapters were launched. -/
theorem engage {during : Schedule σ} (alone : Permits Beside during) :
    Alike past (f.engage during) (b.engage (during.raise past.workers)) := by
  have bound := raised.bindControl alone
  rw [Bridge.engage, Bridge.engage]
  generalize f.bindControl during = left, b.bindControl (during.raise past.workers) = right at bound
  obtain ⟨result, f'⟩ := left
  obtain ⟨result', b'⟩ := right
  obtain ⟨same, bound⟩ := bound
  cases same
  cases result with
  | error e => exact ⟨rfl, bound⟩
  | ok _ =>
      have started := bound.startWorker alone
      simp only at started ⊢
      generalize f'.startWorker during = left, b'.startWorker (during.raise past.workers) = right at started
      obtain ⟨result, f''⟩ := left
      obtain ⟨result', b''⟩ := right
      obtain ⟨same, started⟩ := started
      cases same
      cases result with
      | error e => exact ⟨rfl, Raised.shutDown started alone⟩
      | ok _ => exact ⟨rfl, started⟩

/-- What is asked of the outside is the same, if the question is. -/
theorem ask {α : Type} {question question' : σ → α × σ} (same : question' = question) :
    Alike past (f.ask question) (b.ask question') := by
  subst same
  rw [Bridge.ask, Bridge.ask, raised.outside]
  exact ⟨rfl, raised.of_outside _⟩

/-- Both start alike. -/
theorem start (out : Outside σ) {during : Schedule σ} (alone : Permits Beside during) :
    Alike past (f.start out during) (b.start out (during.raise past.workers)) := by
  have kernel : b.session.kernel = f.session.kernel := (congrArg Session.kernel raised.session.same :)
  have logs := raised.ask (congrArg (fun k => out.makeDirectory (Kernel.logDirectory k)) kernel)
  rw [Bridge.start, Bridge.start, raised.isStarted_eq]
  split
  · exact ⟨rfl, raised⟩
  · generalize f.ask (out.makeDirectory f.session.kernel.logDirectory) = left,
      b.ask (out.makeDirectory b.session.kernel.logDirectory) = right at logs
    obtain ⟨result, f'⟩ := left
    obtain ⟨result', b'⟩ := right
    obtain ⟨same, logged⟩ := logs
    cases same
    cases result with
    | error e => exact ⟨rfl, logged⟩
    | ok _ =>
        have launched := ((Raised.pause logged alone .logged).ensureLaunched out).pause alone .launched
        simp only at launched ⊢
        generalize Bridge.pause _ during .launched = f'',
          Bridge.pause _ (during.raise past.workers) .launched = b'' at launched ⊢
        have launch : b''.session.launch = f''.session.launch := (congrArg Session.launch launched.session.same :)
        have kernel : b''.session.kernel = f''.session.kernel := (congrArg Session.kernel launched.session.same :)
        have cells := launched.ask (congrArg (fun k => out.makeDirectory (Kernel.cellDirectory k)) kernel)
        rw [launch]
        split
        · generalize f''.ask (out.makeDirectory f''.session.kernel.cellDirectory) = left,
            b''.ask (out.makeDirectory b''.session.kernel.cellDirectory) = right at cells
          obtain ⟨result, f⟩ := left
          obtain ⟨result', b⟩ := right
          obtain ⟨same, staged⟩ := cells
          cases same
          cases result with
          | error e => exact ⟨rfl, staged⟩
          | ok _ => exact (Raised.pause staged alone .staged).engage alone
        · exact ⟨rfl, launched⟩

/-- Both are readied for a request, or both have the same reason not to be. -/
theorem prepare (out : Outside σ) (r : Request) {during : Schedule σ} (alone : Permits Beside during) :
    Alike past (f.prepare out r during) (b.prepare out r (during.raise past.workers)) := by
  have started := raised.start out alone
  rw [Bridge.prepare, Bridge.prepare]
  split
  · generalize f.start out during = left, b.start out (during.raise past.workers) = right at started
    obtain ⟨result, f'⟩ := left
    obtain ⟨result', b'⟩ := right
    obtain ⟨same, started⟩ := started
    cases same
    have launch : b'.session.launch = f'.session.launch := (congrArg Session.launch started.session.same :)
    rcases result with e | _ | _
    · exact ⟨rfl, started⟩
    · exact ⟨by simp only [launch], started⟩
    · exact ⟨rfl, started⟩
  · exact ⟨rfl, raised⟩

/-! ### Requests -/

/-- Both pass a message on, or fail for the same reason. -/
theorem submit (header message : Json) {during : Schedule σ} (alone : Permits Beside during) :
    Alike past (f.submit header message during) (b.submit header message (during.raise past.workers)) := by
  have bound : b.session.request.isBound = f.session.request.isBound := by
    rw [raised.session.request, Socket.isBound_raise]
  have first := raised.send raised.session.header (Json.encode header)
  rw [Bridge.submit, Bridge.submit, bound]
  split
  · generalize f.send f.session.header (Json.encode header) = left,
      b.send b.session.header (Json.encode header) = right at first
    cases first with
    | error e => exact ⟨rfl, raised⟩
    | ok headed =>
        have paused := headed.pause alone .headed
        simp only
        generalize Bridge.pause _ during .headed = f',
          Bridge.pause _ (during.raise past.workers) .headed = b' at paused ⊢
        have second := paused.send paused.session.request (Json.encode message)
        generalize f'.send f'.session.request (Json.encode message) = left,
          b'.send b'.session.request (Json.encode message) = right at second
        cases second with
        | error e => exact ⟨rfl, paused⟩
        | ok sent => exact ⟨rfl, sent⟩
  · exact ⟨rfl, raised⟩

/-- Both give the same reply at the end of a call, and stop or remember alike. -/
theorem conclude (out : Outside σ) (call : Call) (result : Except Error Json) {during : Schedule σ}
    (alone : Permits Beside during) :
    Alike past (f.conclude out call result during) (b.conclude out call result (during.raise past.workers)) := by
  rw [Bridge.conclude, Bridge.conclude]
  split
  · exact ⟨rfl, raised.stop alone⟩
  · next stays =>
      have breakpoints : b.session.breakpoints = f.session.breakpoints :=
        (congrArg Session.breakpoints raised.session.same :)
      rw [Session.conclude, Session.conclude, raised.outside]
      cases purpose : call.purpose with
      | answer => exact ⟨rfl, raised.of_outside _⟩
      | disconnect => exact absurd purpose stays
      | breakpoints =>
          refine ⟨rfl, ?_⟩
          simp only [Session.recordBreakpoints]
          split
          · split
            · exact raised.of_outside _
            · rw [breakpoints]
              exact (raised.of_breakpoints _).of_outside _
          · exact raised.of_outside _
      | rendering slot =>
          cases result with
          | error e => exact ⟨rfl, raised.of_outside _⟩
          | ok reply => exact ⟨rfl, raised.of_outside _⟩

/-- As the same frames wait for both, both find the same reply among them. -/
theorem collect (message : Json) :
    (b.session.collect message).1 = (f.session.collect message).1 ∧
      Session.Raised past.bindings past.written (f.session.collect message).2 (b.session.collect message).2 := by
  have settings : b.session.settings = f.session.settings := (congrArg Session.settings raised.session.same :)
  have waiting := raised.session.hub.waiting_eq f.session.request
  rw [← raised.session.request] at waiting
  have same : awaitReply message b.session.settings.forwardTime (b.session.hub.waiting b.session.request) =
      awaitReply message f.session.settings.forwardTime (f.session.hub.waiting f.session.request) := by
    rw [settings, waiting]
  refine ⟨(congrArg Prod.fst same :), raised.session.of_hub ?_⟩
  rw [same, raised.session.request]
  exact raised.session.hub.setWaiting _ _

/-- A message that both pass on gets the same reply from both. -/
theorem forward (out : Outside σ) (header : Json) (call : Call) {during : Schedule σ} (alone : Permits Beside during) :
    Alike past (f.forward out header call during) (b.forward out header call (during.raise past.workers)) := by
  have submitted := (raised.pause alone .considered).submit header call.sent alone
  rw [Bridge.forward, Bridge.forward]
  generalize (f.pause during .considered).submit header call.sent during = left,
    (b.pause (during.raise past.workers) .considered).submit header call.sent (during.raise past.workers) = right
    at submitted
  obtain ⟨result, f'⟩ := left
  obtain ⟨result', b'⟩ := right
  obtain ⟨same, submitted⟩ := submitted
  cases same
  cases result with
  | error e => exact Raised.conclude submitted out call (.error e) alone
  | ok _ =>
      have waited := Raised.pause submitted alone .passed
      simp only at waited ⊢
      generalize Bridge.pause _ during .passed = f'',
        Bridge.pause _ (during.raise past.workers) .passed = b'' at waited ⊢
      obtain ⟨same, collected⟩ := waited.collect call.sent
      rw [same]
      exact ((waited.of_session collected f''.deeds b''.deeds).pause alone .collected).conclude out call _ alone

/-- What becomes of a request is decided alike. -/
theorem consider_eq (out : Outside σ) (r : Request) : b.session.consider out r = f.session.consider out r := by
  rw [← raised.session.same]
  rfl

/-- A message is answered as it would be without the past. -/
theorem process (out : Outside σ) (header message : Json) {during : Schedule σ} (alone : Permits Beside during) :
    Alike past (f.process out header message during) (b.process out header message (during.raise past.workers)) := by
  rw [Bridge.process, Bridge.process]
  split
  · exact ⟨rfl, raised⟩
  · next r read =>
      have prepared := raised.prepare out r alone
      rw [processRequest, processRequest]
      generalize f.prepare out r during = left, b.prepare out r (during.raise past.workers) = right at prepared
      obtain ⟨result, f'⟩ := left
      obtain ⟨result', b'⟩ := right
      obtain ⟨same, ready⟩ := prepared
      cases same
      cases result with
      | error e => exact ⟨rfl, ready⟩
      | ok _ =>
          have considered := Raised.ask ready (Raised.consider_eq ready out r)
          simp only at considered ⊢
          generalize f'.ask (f'.session.consider out r) = left, b'.ask (b'.session.consider out r) = right at considered
          obtain ⟨progress, f''⟩ := left
          obtain ⟨progress', b''⟩ := right
          obtain ⟨same, asked⟩ := considered
          cases same
          cases progress with
          | answered reply => exact ⟨rfl, asked⟩
          | waiting call => exact Raised.forward asked out header call alone

end Steps

end Raised

/-! ## After a stop -/

/-- The moves that can follow where no other user of the hub does anything. Published events are left alone: those of
an earlier session may still wait. -/
def Move.Follows : Move σ → Prop
  | .process _ _ during | .start during | .stop during => Permits Beside during
  | .happen happening => Beside happening
  | .nextEvent _ => False

/-- A move where the numbers of workers are higher. -/
def Move.raise (workers : Nat) : Move σ → Move σ
  | .process header message during => .process header message (during.raise workers)
  | .start during => .start (during.raise workers)
  | .stop during => .stop (during.raise workers)
  | .happen happening => .happen (happening.raise workers)
  | .nextEvent time => .nextEvent time

/-- What the front end gets for a move. -/
def reply? (out : Outside σ) (b : Bridge σ) : Move σ → Option Json
  | .process header message during => some (b.process out header message during).1
  | _ => none

/-- What the front end gets for a row of moves. -/
def replies (out : Outside σ) (b : Bridge σ) : List (Move σ) → List Json
  | [] => []
  | move :: moves => (b.reply? out move).toList ++ replies out (b.next out move) moves

section Moves

variable {past : Past} {f b : Bridge σ} (raised : Raised past f b) (out : Outside σ)

include raised

/-- With moves that correspond both go on alike, and answer the same. -/
theorem Raised.next {move : Move σ} (follows : move.Follows) :
    b.reply? out (move.raise past.workers) = f.reply? out move ∧
      Raised past (f.next out move) (b.next out (move.raise past.workers)) := by
  cases move with
  | process header message during =>
      obtain ⟨same, processed⟩ := raised.process out header message follows
      exact ⟨congrArg some same, processed⟩
  | start during => exact ⟨rfl, (raised.start out follows).2⟩
  | stop during => exact ⟨rfl, raised.stop follows⟩
  | happen happening => exact ⟨rfl, raised.happen follows⟩
  | nextEvent time => exact follows.elim

/-- A past makes no difference to the replies, nor to what is written from then on. -/
theorem Raised.moves {moves : List (Move σ)} (follow : ∀ move ∈ moves, move.Follows) :
    replies out b (moves.map (Move.raise past.workers)) = replies out f moves ∧
      Raised past (moves.foldl (Bridge.next out) f)
        ((moves.map (Move.raise past.workers)).foldl (Bridge.next out) b) := by
  induction moves generalizing f b with
  | nil => exact ⟨rfl, raised⟩
  | cons move moves ih =>
      rw [List.forall_mem_cons] at follow
      obtain ⟨same, next⟩ := raised.next out follow.1
      obtain ⟨others, last⟩ := ih next follow.2
      exact ⟨by rw [List.map_cons, replies, replies, same, others], last⟩

end Moves

/-- Behind a bridge that is stopped there is nothing but a past. -/
def cleared (b : Bridge σ) : Bridge σ :=
  ⟨{ b.session with hub := .empty, request := none, header := none, publisher := none, outbox := []
                    transcript := none }, [], b.outside, []⟩

variable {b : Bridge σ}

/-- All that there is of a bridge whose control endpoints are free. -/
def pastOf (b : Bridge σ) : Past :=
  ⟨b.session.hub.channels.length, b.couriers.length, b.session.outbox⟩

/-- A bridge whose control sockets are free is, behind its past, the bridge without one. -/
theorem Sound.raised (sound : b.Sound) (request : b.session.request = none) (header : b.session.header = none) :
    Raised b.pastOf b.cleared b := by
  refine ⟨⟨⟨?_, fun q => ?_, fun e own => ?_, rfl, fun p found => sound.hub.inRange _ p found⟩, request, header,
    (List.append_nil _).symm, rfl⟩, (Nat.zero_add _).symm, fun n => ?_, rfl⟩
  · exact (Nat.zero_add _).symm
  · have none : b.session.hub.channels[q + b.session.hub.channels.length]? = none :=
      List.getElem?_eq_none (Nat.le_add_left ..)
    simp only [pastOf, Hub.channelsOf, List.getD_eq_getElem?_getD, none]
    rfl
  · simp only [Hub.controlEndpoints, List.mem_cons, List.not_mem_nil, or_false] at own
    rcases own with rfl | rfl
    · exact sound.request.lookup_free request
    · exact sound.header.lookup_free header
  · have none : b.couriers[n + b.couriers.length]? = none := List.getElem?_eq_none (Nat.le_add_left ..)
    rw [pastOf, none]
    exact .none

section Stopped

variable {out : Outside σ} {untouched : Bridge σ → Nat → Prop} {during : Schedule σ}
  (reachable : Reachable out (Allowed untouched) b)

include reachable

/-- A stop leaves nothing but a past. -/
theorem raised_stop (permits : Permits (Allowed untouched) during) :
    Raised (b.stop during).pastOf (b.stop during).cleared (b.stop during) := by
  have next : Reachable out (Allowed untouched) (b.stop during) := reachable.move (.stop during) permits
  have control := control_stop reachable.fitted during
  exact next.reached.sound.raised (congrArg Session.request control :) (congrArg Session.header control :)

/-- What is left is told by what the session was made with. -/
theorem cleared_stop (prompt : (b.stop during).Prompt) :
    (b.stop during).cleared =
      ⟨⟨b.session.kernel, b.session.settings, b.session.address, b.session.config, b.session.launch, .empty, none, none,
        none, none, .empty, [], [], none⟩, [], (b.stop during).outside, []⟩ := by
  have control := control_stop reachable.fitted during
  have threads : (b.stop during).session.threads = .empty :=
    threads_shutDown (reachable.reached.attended.of_same List.prefix_rfl rfl rfl) prompt
  have kernel : (b.stop during).session.kernel = b.session.kernel := (congrArg Session.kernel control :)
  have settings : (b.stop during).session.settings = b.session.settings := (congrArg Session.settings control :)
  have address : (b.stop during).session.address = b.session.address := (congrArg Session.address control :)
  have config : (b.stop during).session.config = b.session.config := (congrArg Session.config control :)
  have launch : (b.stop during).session.launch = b.session.launch := (congrArg Session.launch control :)
  have worker : (b.stop during).session.worker = none := (congrArg Session.worker control :)
  have breakpoints : (b.stop during).session.breakpoints = [] := (congrArg Session.breakpoints control :)
  simp only [cleared, kernel, settings, address, config, launch, worker, threads, breakpoints]

end Stopped

/-- Once they are stopped, and their workers have ended by then, any two bridges for the same adapter go on alike,
whatever has happened to each of them before: with the same moves of the front end and the same doings of new workers
and of the adapter, which may be any that depend on no more than what the adapter has got since, the front end gets
the same replies and the adapter the same messages. Their earlier workers do nothing any more. One of the two may have
never been started: nothing that waits from before a stop ever answers a message after it. -/
theorem stop_resets {out : Outside σ} {untouched untouched' : Bridge σ → Nat → Prop} {b₁ b₂ : Bridge σ}
    {during₁ during₂ : Schedule σ} (left : Reachable out (Allowed untouched) b₁)
    (right : Reachable out (Allowed untouched') b₂) (permits₁ : Permits (Allowed untouched) during₁)
    (permits₂ : Permits (Allowed untouched') during₂) (ended₁ : (b₁.stop during₁).Prompt)
    (ended₂ : (b₂.stop during₂).Prompt) (kernel : b₁.session.kernel = b₂.session.kernel)
    (settings : b₁.session.settings = b₂.session.settings) (address : b₁.session.address = b₂.session.address)
    (config : b₁.session.config = b₂.session.config) (launch : b₁.session.launch = b₂.session.launch)
    (outside : (b₁.stop during₁).outside = (b₂.stop during₂).outside) {moves : List (Move σ)}
    (follow : ∀ move ∈ moves, move.Follows) :
    replies out (b₁.stop during₁) (moves.map (Move.raise (b₁.stop during₁).couriers.length)) =
        replies out (b₂.stop during₂) (moves.map (Move.raise (b₂.stop during₂).couriers.length)) ∧
      ∃ written,
        ((moves.map (Move.raise (b₁.stop during₁).couriers.length)).foldl (next out) (b₁.stop during₁)).session.outbox =
          (b₁.stop during₁).session.outbox ++ written ∧
        ((moves.map (Move.raise (b₂.stop during₂).couriers.length)).foldl (next out) (b₂.stop during₂)).session.outbox =
          (b₂.stop during₂).session.outbox ++ written := by
  have same : (b₁.stop during₁).cleared = (b₂.stop during₂).cleared := by
    rw [cleared_stop left ended₁, cleared_stop right ended₂, kernel, settings, address, config,
      launch, outside]
  have first := raised_stop left permits₁
  rw [same] at first
  obtain ⟨replies₁, last₁⟩ := first.moves out follow
  obtain ⟨replies₂, last₂⟩ := (raised_stop right permits₂).moves out follow
  exact ⟨replies₁.trans replies₂.symm, _, last₁.session.outbox, last₂.session.outbox⟩

/-! ## An answer that comes too late -/

/-- Moves by which the response to a message comes when it is given up. -/
def overdueMoves : List (Move Unit) :=
  [.start (readies 0), .process .null (Session.bareRequest 10 "next") quiet, .happen (.turn 0 .fetch),
    .happen (.turn 0 (.relay (.ok ()))), .happen (.turn 0 .act),
    .happen (.turn 0 (.hear (.message (Session.bareResponse 10 "next")))), .happen (.turn 0 (.relay (.ok ()))),
    .happen (.turn 0 .act)]

/-- The bridge after them. -/
def overdueSample : Bridge Unit :=
  overdueMoves.foldl (next Session.obliging) idleSample

/-- The worker ends while its end is waited for. -/
def endsInTime : Schedule Unit
  | .waiting => [.turn 0 .fetch, .turn 0 (.relay (.ok ())), .turn 0 .finish]
  | _ => []

/-- A bridge that was just created where the adapter is launched. -/
def launchedSample : Bridge Unit :=
  ofSession { Session.idleSample with launch := .started } ()

/-- A start by a request of the front end, which the adapter answers. -/
def initializes : Schedule Unit
  | .asked => readies 0 .asked
  | .passed =>
    [.turn 0 .fetch, .turn 0 (.relay (.ok ())), .turn 0 .act,
      .turn 0 (.hear (.message (Session.bareResponse 1 "initialize"))), .turn 0 (.relay (.ok ())), .turn 0 .act]
  | _ => []

/-- The moves after the stop: the number of the message that was given up comes again. -/
def laterMoves : List (Move Unit) :=
  [.process .null (Session.bareRequest 1 "initialize") initializes,
    .process .null (Session.bareRequest 10 "next") quiet]

/-- The answer waits, but after a stop it is not given to the request that has its number. -/
theorem stop_resets_overdueSample :
    overdueSample.session.hub.waiting overdueSample.session.request =
        [Json.encode (Session.bareResponse 10 "next")] ∧
      replies Session.obliging (overdueSample.stop endsInTime)
          (laterMoves.map (Move.raise (overdueSample.stop endsInTime).couriers.length)) =
        replies Session.obliging (launchedSample.stop quiet)
          (laterMoves.map (Move.raise (launchedSample.stop quiet).couriers.length)) ∧
      (replies Session.obliging (launchedSample.stop quiet)
          (laterMoves.map (Move.raise (launchedSample.stop quiet).couriers.length))).map
        (fun reply => reply.getBool? "success") = [some true, some false] := by
  have readable : (Arrival.message (Session.bareResponse 10 "next")).Readable :=
    Session.readable_of_exact (by decide +kernel)
  have wellFormed : (Session.bareRequest 10 "next").WellFormed := by decide +kernel
  have allowed : ∀ move ∈ overdueMoves, move.Allowed (Allowed (fun _ _ => False)) := by
    simp only [overdueMoves, List.forall_mem_cons]
    exact ⟨permits_readies _ 0, ⟨wellFormed, permits_quiet _⟩, trivial, trivial, trivial, readable, trivial, trivial,
      List.forall_mem_nil _⟩
  have overdue : Reachable Session.obliging (Allowed (fun _ _ => False)) overdueSample :=
    Reachable.moves (.create Session.created_idleSample ()) allowed
  have built :
      Session.create Session.idleSample.kernel .default Session.idleSample.address .empty .started .empty false =
      .ok launchedSample.session := rfl
  have launched : Reachable Session.obliging (Allowed (fun _ _ => False)) launchedSample :=
    .create (.mk .empty (by decide) built) ()
  have ends : Permits (Allowed (σ := Unit) (fun _ _ => False)) endsInTime := by
    intro p h member
    cases p with
    | waiting =>
        simp only [endsInTime, List.mem_cons, List.not_mem_nil, or_false] at member
        rcases member with rfl | rfl | rfl <;> exact trivial
    | _ => cases member
  have same : overdueSample.session.kernel = launchedSample.session.kernel ∧
      overdueSample.session.settings = launchedSample.session.settings ∧
      overdueSample.session.address = launchedSample.session.address ∧
      overdueSample.session.config = launchedSample.session.config ∧
      overdueSample.session.launch = launchedSample.session.launch := by
    decide +kernel
  have follow : ∀ move ∈ laterMoves, move.Follows := by
    have initializes : Permits Beside initializes := by
      intro p h member
      cases p with
      | asked | passed =>
          simp only [initializes, readies, List.mem_cons, List.not_mem_nil, or_false] at member
          rcases member with rfl | rfl | rfl | rfl | rfl | rfl <;> exact trivial
      | _ => cases member
    simp only [laterMoves, List.forall_mem_cons]
    exact ⟨initializes, permits_quiet _, List.forall_mem_nil _⟩
  obtain ⟨kernel, settings, address, config, launch⟩ := same
  obtain ⟨replies, -⟩ := stop_resets overdue launched ends (permits_quiet _) (by decide +kernel) (by decide +kernel)
    kernel settings address config launch rfl follow
  exact ⟨by decide +kernel, replies, by decide +kernel⟩

/-- A worker hears of a thread that stops, and the front end asks which threads are stopped. -/
def tellingMoves : List (Move Unit) :=
  [.happen (.turn 0 (.hear (.message stoppedEvent))), .happen (.turn 0 (.relay (.ok ()))), .happen (.turn 0 .act),
    .process .null (Session.bareRequest 1 "debugInfo") quiet]

/-- Without a worker left behind no thread is shown after a stop; with one, what it tells of is. -/
theorem stopped_thread_shown :
    (replies Session.obliging (launchedSample.stop quiet) tellingMoves).map stoppedIn = [some (.arr [])] ∧
      (replies Session.obliging (runningSample.stop quiet) tellingMoves).map stoppedIn = [some (.arr [.int 7])] := by
  constructor <;> decide +kernel

end Bridge
end DebugBridge
