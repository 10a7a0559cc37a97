import DebugBridge.Proofs.Bridge.Turns
import DebugBridge.Proofs.Session.Queue
import Mathlib.Logic.Relation

/-!
# Steps of a bridge

`Move` lists what the control side is asked for and what happens beside it, and `Reachable` are the bridges that any
order of moves leads to. A call is no single step: `Step` lists what the control side does at a time and what happens
in between, and every call is a row of such steps (`steps_next`). What every step keeps holds at all times
(`Reachable.induct`).
-/

namespace DebugBridge

/-! ## What only the control side changes -/

/-- The part of a session that couriers and other users of the hub leave alone. -/
def Session.control (s : Session) : Session :=
  { s with hub := .empty, threads := .empty, outbox := [], transcript := none }

namespace Session

variable {s next : Session}

section Control

variable (same : next.control = s.control)

include same

theorem worker_of_control : next.worker = s.worker := (congrArg worker same :)

theorem request_of_control : next.request = s.request := (congrArg request same :)

theorem header_of_control : next.header = s.header := (congrArg header same :)

theorem publisher_of_control : next.publisher = s.publisher := (congrArg publisher same :)

theorem breakpoints_of_control : next.breakpoints = s.breakpoints := (congrArg breakpoints same :)

end Control

/-- Binding the request socket takes a new number. -/
theorem bindRequest_eq_ok (bound : s.bindRequest = .ok next) :
    ∃ hub, s.hub.bind s.request requestEndpoint = .ok (hub, some (.bound requestEndpoint s.hub.channels.length)) ∧
      next = { s with hub, request := some (.bound requestEndpoint s.hub.channels.length) } := by
  rw [bindRequest] at bound
  split at bound
  · cases bound
  · next taken =>
      cases bound
      obtain ⟨-, -, rfl, -⟩ := Hub.bind_eq_ok taken
      exact ⟨_, taken, rfl⟩

/-- Binding the header socket takes a new number. -/
theorem bindHeader_eq_ok (bound : s.bindHeader = .ok next) :
    ∃ hub, s.hub.bind s.header headerEndpoint = .ok (hub, some (.bound headerEndpoint s.hub.channels.length)) ∧
      next = { s with hub, header := some (.bound headerEndpoint s.hub.channels.length) } := by
  rw [bindHeader] at bound
  split at bound
  · cases bound
  · next taken =>
      cases bound
      obtain ⟨-, -, rfl, -⟩ := Hub.bind_eq_ok taken
      exact ⟨_, taken, rfl⟩

end Session

namespace Bridge

variable {σ : Type}

/-- A turn of a courier leaves the control side's part of a session as it is. -/
theorem control_take (c : Courier) (s : Session) (turn : Turn) : (c.take s turn).2.1.control = s.control := by
  have turned := c.take_cases s turn
  generalize c.take s turn = done at turned ⊢
  cases turned with
  | @acted output doing does => cases output <;> rfl
  | _ => rfl

/-- So does whatever else happens beside the control side. -/
theorem control_happen (b : Bridge σ) (h : Happening σ) : (b.happen h).session.control = b.session.control := by
  cases h with
  | turn n turn =>
      rw [happen]
      split
      · rfl
      · exact control_take _ _ _
  | outside change | elsewhere others => rfl

/-- At a place of a call nothing changes of what is the control side's own. -/
theorem control_pause (b : Bridge σ) (during : Schedule σ) (p : Point) :
    (b.pause during p).session.control = b.session.control := by
  rw [pause]
  generalize during p = happenings
  induction happenings generalizing b with
  | nil => rfl
  | cons h happenings ih => exact (ih (b.happen h)).trans (b.control_happen h)

@[simp] theorem request_freeHeader (b : Bridge σ) : b.freeHeader.session.request = b.session.request := rfl

section Pause

variable (b : Bridge σ) (during : Schedule σ) (p : Point)

@[simp] theorem kernel_pause : (b.pause during p).session.kernel = b.session.kernel :=
  (congrArg Session.kernel (b.control_pause during p) :)

@[simp] theorem settings_pause : (b.pause during p).session.settings = b.session.settings :=
  (congrArg Session.settings (b.control_pause during p) :)

@[simp] theorem address_pause : (b.pause during p).session.address = b.session.address :=
  (congrArg Session.address (b.control_pause during p) :)

@[simp] theorem config_pause : (b.pause during p).session.config = b.session.config :=
  (congrArg Session.config (b.control_pause during p) :)

@[simp] theorem launch_pause : (b.pause during p).session.launch = b.session.launch :=
  (congrArg Session.launch (b.control_pause during p) :)

@[simp] theorem request_pause : (b.pause during p).session.request = b.session.request :=
  (congrArg Session.request (b.control_pause during p) :)

@[simp] theorem header_pause : (b.pause during p).session.header = b.session.header :=
  (congrArg Session.header (b.control_pause during p) :)

@[simp] theorem publisher_pause : (b.pause during p).session.publisher = b.session.publisher :=
  (congrArg Session.publisher (b.control_pause during p) :)

@[simp] theorem worker_pause : (b.pause during p).session.worker = b.session.worker :=
  (congrArg Session.worker (b.control_pause during p) :)

@[simp] theorem breakpoints_pause : (b.pause during p).session.breakpoints = b.session.breakpoints :=
  (congrArg Session.breakpoints (b.control_pause during p) :)

end Pause

/-! ## Moves -/

/-- What can happen beside the control side: what is read from the adapter was decoded, and another user of the hub
does nothing there, or something that leaves the endpoints of the session and the untouched bindings alone. -/
def Allowed (untouched : Bridge σ → Nat → Prop) : Happening σ → Prop
  | .turn _ (.hear a) => a.Readable
  | .turn _ _ | .outside _ => True
  | .elsewhere others =>
    ∀ b, others b = b.session.hub ∨ b.session.hub.Use Session.ownEndpoints (untouched b) (others b)

/-- A schedule of things that can happen. -/
def Permits (permitted : Happening σ → Prop) (during : Schedule σ) : Prop :=
  ∀ p, ∀ h ∈ during p, permitted h

/-- A schedule by which nothing happens. -/
def quiet : Schedule σ :=
  fun _ => []

/-- Nothing is permitted by everything. -/
theorem permits_quiet (permitted : Happening σ → Prop) : Permits permitted quiet :=
  fun _ _ member => by cases member

/-- What the control side is asked for, with what happens in the course of it, and what happens in between. -/
inductive Move (σ : Type) where
  | process (header message : Json) (during : Schedule σ)
  | start (during : Schedule σ)
  | stop (during : Schedule σ)
  | nextEvent (time : Duration)
  | happen (happening : Happening σ)

/-- A bridge after a move. -/
def next (out : Outside σ) (b : Bridge σ) : Move σ → Bridge σ
  | .process header message during => (b.process out header message during).2
  | .start during => (b.start out during).2
  | .stop during => b.stop during
  | .nextEvent time => (b.nextEvent time).2
  | .happen happening => b.happen happening

/-- The moves that can be made: messages are values, and what happens is allowed. -/
def Move.Allowed (permitted : Happening σ → Prop) : Move σ → Prop
  | .process _ message during => message.WellFormed ∧ Permits permitted during
  | .start during | .stop during => Permits permitted during
  | .nextEvent _ => True
  | .happen happening => permitted happening

/-- The bridges that any order of moves leads to, from a session that was just created on. -/
inductive Reachable (out : Outside σ) (permitted : Happening σ → Prop) : Bridge σ → Prop where
  | create {s : Session} (created : Session.Created s) (o : σ) : Reachable out permitted (ofSession s o)
  | move {b : Bridge σ} (prior : Reachable out permitted b) (move : Move σ) (allowed : move.Allowed permitted) :
      Reachable out permitted (b.next out move)

/-! ## Steps -/

/-- A single thing that the control side does, or that happens. -/
inductive Step (out : Outside σ) (permitted : Happening σ → Prop) (b : Bridge σ) : Bridge σ → Prop where
  | happen {h : Happening σ} (allowed : permitted h) : Step out permitted b (b.happen h)
  | outside (outside : σ) : Step out permitted b { b with outside }
  | launch : Step out permitted b (b.ensureLaunched out)
  | bindRequest {session : Session} (bound : b.session.bindRequest = .ok session) :
      Step out permitted b { b with session }
  | bindHeader {session : Session} (bound : b.session.bindHeader = .ok session) :
      Step out permitted b { b with session }
  | freeRequest : Step out permitted b b.freeRequest
  | freeHeader : Step out permitted b b.freeHeader
  | spawn (idle : b.session.worker = none) : Step out permitted b b.spawn
  /-- A frame is sent over one of the control sockets. -/
  | send {s : Socket} {frame : Frame} {next : Bridge σ} (own : s = b.session.request ∨ s = b.session.header)
      (sent : b.send s frame = .ok next) : Step out permitted b next
  /-- Frames are taken off a socket. -/
  | take {s : Socket} {taken rest : List Frame} (own : s = b.session.request ∨ s = b.session.publisher)
      (waits : b.session.hub.waiting s = taken ++ rest) :
      Step out permitted b { b with session := { b.session with hub := b.session.hub.setWaiting s rest } }
  | remember (breakpoints : Members) : Step out permitted b { b with session := { b.session with breakpoints } }
  /-- The worker is waited for once both control sockets are free. -/
  | wait (request : b.session.request = none) (header : b.session.header = none) : Step out permitted b b.wait
  | forgetStopped : Step out permitted b b.forgetStopped
  | forgetKnown : Step out permitted b b.forgetKnown

/-- Any number of steps, one after the other. -/
abbrev Steps (out : Outside σ) (permitted : Happening σ → Prop) : Bridge σ → Bridge σ → Prop :=
  Relation.ReflTransGen (Step out permitted)

variable {out : Outside σ} {permitted : Happening σ → Prop} {b : Bridge σ}

/-- One step is a row of steps. -/
theorem Step.steps {last : Bridge σ} (step : Step out permitted b last) : Steps out permitted b last :=
  .single step

/-- What every step keeps, any number of steps keeps. -/
theorem Steps.induct {P : Bridge σ → Prop} {last : Bridge σ} (steps : Steps out permitted b last) (first : P b)
    (kept : ∀ b next, P b → Step out permitted b next → P next) : P last := by
  induction steps with
  | refl => exact first
  | tail prior step ih => exact kept _ _ ih step

/-! ## Control sockets -/

/-- A control socket has no link, or it is bound to its own endpoint. -/
structure Fitted (b : Bridge σ) : Prop where
  request : b.session.request = none ∨ ∃ q, b.session.request = some (.bound requestEndpoint q)
  header : b.session.header = none ∨ ∃ h, b.session.header = some (.bound headerEndpoint h)

/-- Freeing the endpoint of such a socket leaves it without a link. -/
theorem unbind_of_fitted {s : Socket} {e : Endpoint} (hub : Hub) (fitted : s = none ∨ ∃ q, s = some (.bound e q)) :
    (hub.unbind s e).2 = none := by
  rcases fitted with rfl | ⟨q, rfl⟩
  · rfl
  · rw [Hub.unbind_bound]

/-- A freed request socket has no link. -/
theorem Fitted.freeRequest (fitted : b.Fitted) : b.freeRequest.session.request = none :=
  unbind_of_fitted b.session.hub fitted.request

/-- A freed header socket has no link. -/
theorem Fitted.freeHeader (fitted : b.Fitted) : b.freeHeader.session.header = none :=
  unbind_of_fitted b.session.hub fitted.header

/-- Sending changes the hub alone, and is remembered. -/
theorem send_eq_ok {s : Socket} {frame : Frame} {next : Bridge σ} (sent : b.send s frame = .ok next) :
    ∃ hub, b.session.hub.send s frame = .ok hub ∧
      next = { b with session := { b.session with hub }, deeds := b.deeds ++ [.sent s frame] } := by
  rw [send] at sent
  split at sent
  · cases sent
  · next hub passed =>
      cases sent
      exact ⟨hub, passed, rfl⟩

/-- The links are the control side's own. -/
theorem Fitted.of_control {next : Bridge σ} (fitted : b.Fitted) (control : next.session.control = b.session.control) :
    next.Fitted := by
  have request := Session.request_of_control control
  have header := Session.header_of_control control
  exact ⟨request ▸ fitted.request, header ▸ fitted.header⟩

/-- No step links a control socket to anything but its own endpoint. -/
theorem Step.fitted {next : Bridge σ} (step : Step out permitted b next) (fitted : b.Fitted) : next.Fitted := by
  cases step with
  | happen allowed => exact fitted.of_control (b.control_happen _)
  | bindRequest bound =>
      obtain ⟨hub, -, rfl⟩ := Session.bindRequest_eq_ok bound
      exact ⟨.inr ⟨_, rfl⟩, fitted.header⟩
  | bindHeader bound =>
      obtain ⟨hub, -, rfl⟩ := Session.bindHeader_eq_ok bound
      exact ⟨fitted.request, .inr ⟨_, rfl⟩⟩
  | freeRequest => exact ⟨.inl fitted.freeRequest, fitted.header⟩
  | freeHeader => exact ⟨fitted.request, .inl fitted.freeHeader⟩
  | send own sent =>
      obtain ⟨hub, -, rfl⟩ := send_eq_ok sent
      exact ⟨fitted.request, fitted.header⟩
  | wait request header =>
      rw [Bridge.wait]
      split <;> exact ⟨.inl request, .inl header⟩
  | outside outside | launch | spawn idle | take own waits | remember breakpoints | forgetStopped | forgetKnown =>
      exact ⟨fitted.request, fitted.header⟩

/-- No step changes the publisher's socket. -/
theorem Step.publisher {next : Bridge σ} (step : Step out permitted b next) :
    next.session.publisher = b.session.publisher := by
  cases step with
  | happen allowed => exact Session.publisher_of_control (b.control_happen _)
  | bindRequest bound =>
      obtain ⟨hub, -, rfl⟩ := Session.bindRequest_eq_ok bound
      rfl
  | bindHeader bound =>
      obtain ⟨hub, -, rfl⟩ := Session.bindHeader_eq_ok bound
      rfl
  | send own sent =>
      obtain ⟨hub, -, rfl⟩ := send_eq_ok sent
      rfl
  | wait request header =>
      rw [Bridge.wait]
      split <;> rfl
  | outside outside | launch | freeRequest | freeHeader | spawn idle | take own waits | remember breakpoints
    | forgetStopped | forgetKnown => rfl

theorem Steps.publisher {last : Bridge σ} (steps : Steps out permitted b last) :
    last.session.publisher = b.session.publisher :=
  Steps.induct steps (P := fun last => last.session.publisher = b.session.publisher) rfl
    fun _ _ same step => step.publisher.trans same

theorem Steps.fitted {last : Bridge σ} (steps : Steps out permitted b last) (fitted : b.Fitted) : last.Fitted :=
  Steps.induct steps fitted fun _ _ fitted step => step.fitted fitted

/-- Whether the control endpoints can be bound or not, there is a worker afterwards if there was one before. -/
theorem worker_bindControl (b : Bridge σ) (during : Schedule σ) :
    (b.bindControl during).2.session.worker = b.session.worker := by
  have bindRequest_worker {s next : Session} (bound : s.bindRequest = .ok next) : next.worker = s.worker := by
    rw [Session.bindRequest] at bound
    split at bound
    · cases bound
    · cases bound
      rfl
  have bindHeader_worker {s next : Session} (bound : s.bindHeader = .ok next) : next.worker = s.worker := by
    rw [Session.bindHeader] at bound
    split at bound
    · cases bound
    · cases bound
      rfl
  rw [bindControl]
  split
  · rfl
  · next session first =>
      simp only
      split
      · exact (worker_pause ..).trans (bindRequest_worker first)
      · next second => exact (bindHeader_worker second).trans ((worker_pause ..).trans (bindRequest_worker first))

theorem worker_ensureLaunched (b : Bridge σ) : (b.ensureLaunched out).session.worker = b.session.worker := rfl

section Calls

variable (out) {during : Schedule σ} (permits : Permits permitted during)

include permits

/-- What happens at a place of a call is a row of steps. -/
theorem steps_pause (b : Bridge σ) (p : Point) : Steps out permitted b (b.pause during p) := by
  have allowed := permits p
  rw [pause]
  generalize during p = happenings at allowed ⊢
  induction happenings generalizing b with
  | nil => exact .refl
  | cons h happenings ih =>
      rw [List.forall_mem_cons] at allowed
      exact (Step.happen allowed.1).steps.trans (ih (b.happen h) allowed.2)

/-! ## Stopping -/

/-- Shutting down is a row of steps: it waits for the worker only after it has freed both endpoints. -/
theorem steps_shutDown (fitted : b.Fitted) : Steps out permitted b (b.shutDown during) := by
  have leaving : Steps out permitted b (b.pause during .leaving) := steps_pause out permits b .leaving
  have request := (Steps.fitted leaving fitted).freeRequest
  have left := (leaving.tail .freeRequest).trans (steps_pause out permits _ .halfFree)
  have header := (Steps.fitted left fitted).freeHeader
  have free := (left.tail .freeHeader).trans (steps_pause out permits _ .waiting)
  have waited := free.tail (.wait (by simpa using request) (by simpa using header))
  exact ((waited.tail .forgetStopped).trans (steps_pause out permits _ .halfForgotten)).tail .forgetKnown

/-- So is stopping. -/
theorem steps_stop (fitted : b.Fitted) : Steps out permitted b (b.stop during) :=
  (Step.remember []).steps.trans (steps_shutDown out permits ⟨fitted.request, fitted.header⟩)

/-! ## Starting -/

/-- So is binding the control endpoints, if one of them is taken as well. -/
theorem steps_bindControl (b : Bridge σ) : Steps out permitted b (b.bindControl during).2 := by
  rw [bindControl]
  split
  · exact .refl
  · next session first =>
      have half := (Step.bindRequest first).steps.trans (steps_pause out permits _ .halfBound)
      simp only
      split
      · exact half.tail .freeRequest
      · next session second => exact half.tail (.bindHeader second)

/-- So is asking a new worker. -/
theorem steps_startWorker (idle : b.session.worker = none) :
    Steps out permitted b (b.startWorker during).2 := by
  have spawned : Steps out permitted b b.spawn := (Step.spawn idle).steps
  rw [startWorker]
  split
  · exact spawned
  · next next sent =>
      have own : b.session.request = b.spawn.session.request ∨ b.session.request = b.spawn.session.header := .inl rfl
      have asked := (spawned.tail (.send own sent)).trans (steps_pause out permits next .asked)
      simp only
      split
      · exact asked
      · next answer hub received =>
          -- The answer is taken whether or not it is the one that was hoped for.
          have taken : Steps out permitted b
              { next.pause during .asked with
                session := { (next.pause during .asked).session with hub } } := by
            rw [Hub.receiveWithin] at received
            split at received
            · next read =>
                cases received
                obtain ⟨rest, waits, rfl⟩ := Hub.waiting_of_receive read
                exact asked.tail (.take (.inl rfl) (List.singleton_append ▸ waits))
            · cases received
            · cases received
          split <;> exact taken

/-- So is what is left of a start once the adapter was launched, whatever fails. -/
theorem steps_engage (fitted : b.Fitted) (idle : b.session.worker = none) :
    Steps out permitted b (b.engage during).2 := by
  have bound := steps_bindControl out permits b
  have still := b.worker_bindControl during
  rw [engage]
  split
  · next b' failed =>
      rw [failed] at bound
      exact bound
  · next b' free =>
      rw [free] at bound still
      have asked := bound.trans (steps_startWorker out permits (still.trans idle))
      split
      · next started =>
          rw [started] at asked
          exact asked
      · next started =>
          rw [started] at asked
          exact asked.trans (steps_shutDown out permits (Steps.fitted asked fitted))

end Calls

/-! ## Strides -/

/-- A whole that the control side does: an engagement or a stop, or else a step. -/
inductive Stride (out : Outside σ) (permitted : Happening σ → Prop) (b : Bridge σ) : Bridge σ → Prop where
  | happen {h : Happening σ} (allowed : permitted h) : Stride out permitted b (b.happen h)
  | outside (outside : σ) : Stride out permitted b { b with outside }
  | launch (idle : b.session.worker = none) : Stride out permitted b (b.ensureLaunched out)
  | engage {during : Schedule σ} (permits : Permits permitted during) (idle : b.session.worker = none) :
      Stride out permitted b (b.engage during).2
  | stop {during : Schedule σ} (permits : Permits permitted during) : Stride out permitted b (b.stop during)
  | send {s : Socket} {frame : Frame} {next : Bridge σ} (own : s = b.session.request ∨ s = b.session.header)
      (sent : b.send s frame = .ok next) : Stride out permitted b next
  | take {s : Socket} {taken rest : List Frame} (own : s = b.session.request ∨ s = b.session.publisher)
      (waits : b.session.hub.waiting s = taken ++ rest) :
      Stride out permitted b { b with session := { b.session with hub := b.session.hub.setWaiting s rest } }
  | remember (breakpoints : Members) (bound : b.session.request.isBound = true) :
      Stride out permitted b { b with session := { b.session with breakpoints } }

/-- Any number of strides, one after the other. -/
abbrev Strides (out : Outside σ) (permitted : Happening σ → Prop) : Bridge σ → Bridge σ → Prop :=
  Relation.ReflTransGen (Stride out permitted)

/-- A stride is a row of steps. -/
theorem Stride.steps {last : Bridge σ} (stride : Stride out permitted b last) (fitted : b.Fitted) :
    Steps out permitted b last := by
  cases stride with
  | happen allowed => exact (Step.happen allowed).steps
  | outside outside => exact (Step.outside outside).steps
  | launch idle => exact Step.launch.steps
  | engage permits idle => exact steps_engage out permits fitted idle
  | stop permits => exact steps_stop out permits fitted
  | send own sent => exact (Step.send own sent).steps
  | take own waits => exact (Step.take own waits).steps
  | remember breakpoints bound => exact (Step.remember breakpoints).steps

/-- So are several. -/
theorem Strides.steps {last : Bridge σ} (strides : Strides out permitted b last) (fitted : b.Fitted) :
    Steps out permitted b last := by
  induction strides with
  | refl => exact .refl
  | tail prior stride ih => exact ih.trans (stride.steps (Steps.fitted ih fitted))

/-- Sending leaves the control side's own part as it is. -/
theorem control_submit (b : Bridge σ) (header message : Json) (during : Schedule σ) :
    (b.submit header message during).2.session.control = b.session.control := by
  rw [submit]
  split
  · split
    · rfl
    · next headed first =>
        obtain ⟨hub, -, rfl⟩ := send_eq_ok first
        have control := control_pause { b with
          session := { b.session with hub }
          deeds := b.deeds ++ [.sent b.session.header (Json.encode header)] } during .headed
        simp only
        split
        · exact control
        · next second =>
            obtain ⟨hub', -, rfl⟩ := send_eq_ok second
            exact control
  · rfl

/-- A message is passed on only over a bound socket. -/
theorem bound_of_submit {next : Bridge σ} {header message : Json} {during : Schedule σ}
    (passed : b.submit header message during = (.ok (), next)) : next.session.request.isBound = true := by
  have control := b.control_submit header message during
  have request : next.session.request = b.session.request := by
    rw [passed] at control
    exact (congrArg Session.request control :)
  rw [submit] at passed
  split at passed
  · next bound => rwa [request]
  · cases passed

section Calls

variable (out) {during : Schedule σ} (permits : Permits permitted during)

include permits

/-- What happens at a place of a call, happens in strides. -/
theorem strides_pause (b : Bridge σ) (p : Point) : Strides out permitted b (b.pause during p) := by
  have allowed := permits p
  rw [pause]
  generalize during p = happenings at allowed ⊢
  induction happenings generalizing b with
  | nil => exact .refl
  | cons h happenings ih =>
      rw [List.forall_mem_cons] at allowed
      exact .head (.happen allowed.1) (ih (b.happen h) allowed.2)

/-- A start goes in strides. -/
theorem strides_start (b : Bridge σ) : Strides out permitted b (b.start out during).2 := by
  rw [start]
  split
  · exact .refl
  · next stopped =>
      have idle := Session.isStarted_eq_false_iff.mp (Bool.eq_false_iff.mpr stopped)
      simp only [ask]
      rcases logs : out.makeDirectory b.session.kernel.logDirectory b.outside with ⟨e | _, o⟩
      · exact .single (.outside o)
      · have asked : Strides out permitted b { b with outside := o } := .single (.outside o)
        have launched :=
          ((asked.trans (strides_pause out permits _ .logged)).tail (.launch (by simpa using idle))).trans
          (strides_pause out permits _ .launched)
        have still : (({ b with outside := o }.pause during .logged).ensureLaunched out |>.pause during
            .launched).session.worker = none := by
          simp [worker_ensureLaunched, idle]
        simp only
        generalize pause (ensureLaunched out _) during .launched = ready at launched still ⊢
        split
        · rcases cells : out.makeDirectory ready.session.kernel.cellDirectory ready.outside with ⟨e | _, o⟩
          · exact launched.tail (.outside o)
          · have staged := (launched.tail (.outside o)).trans (strides_pause out permits _ .staged)
            exact staged.tail (.engage permits (by simpa using still))
        · exact launched

/-- Sending a header and a message goes in strides, at whichever of the two it fails. -/
theorem strides_submit (b : Bridge σ) (header message : Json) :
    Strides out permitted b (b.submit header message during).2 := by
  rw [submit]
  split
  · split
    · exact .refl
    · next headed first =>
        have sent : Strides out permitted b headed := .single (.send (.inr rfl) first)
        have paused := sent.trans (strides_pause out permits headed .headed)
        simp only
        split
        · exact paused
        · next second => exact paused.tail (.send (.inl rfl) second)
  · exact .refl

/-- The end of a call goes in strides. -/
theorem strides_conclude (b : Bridge σ) (call : Call) (result : Except Error Json)
    (bound : ∀ reply, result = .ok reply → b.session.request.isBound = true) :
    Strides out permitted b (b.conclude out call result during).2 := by
  rw [conclude]
  split
  · exact .single (.stop permits)
  · next stays =>
      have concluded := b.session.conclude_session out call result b.outside
      simp only
      generalize b.session.conclude out call result b.outside = done at concluded ⊢
      obtain ⟨reply, session, outside⟩ := done
      simp only at concluded ⊢
      rcases concluded with same | ⟨purpose, -⟩ | ⟨-, ⟨reply, found⟩, breakpoints, changed⟩
      · subst same
        exact .single (.outside outside)
      · exact absurd purpose stays
      · subst changed
        exact .head (.remember breakpoints (bound _ found)) (.single (.outside outside))

/-- A message is passed on, and its reply looked for, in strides. -/
theorem strides_forward (b : Bridge σ) (header : Json) (call : Call) :
    Strides out permitted b (b.forward out header call during).2 := by
  have submitted := (strides_pause out permits b .considered).trans (strides_submit out permits _ header call.sent)
  rw [forward]
  split
  · next failed =>
      rw [failed] at submitted
      exact submitted.trans (strides_conclude out permits _ call _ (by simp))
  · next passed =>
      have bound := bound_of_submit passed
      rw [passed] at submitted
      have waited := submitted.trans (strides_pause out permits _ .passed)
      obtain ⟨taken, waits⟩ := Session.awaitReply_suffix call.sent _ _
      have collected := (waited.tail (.take (.inl rfl) waits.symm)).trans (strides_pause out permits _ .collected)
      refine collected.trans (strides_conclude out permits _ call _ fun _ _ => ?_)
      simpa using bound

/-- A bridge is readied for a request in strides. -/
theorem strides_prepare (b : Bridge σ) (r : Request) : Strides out permitted b (b.prepare out r during).2 := by
  rw [prepare]
  split
  · have started := strides_start out permits b
    split <;> next attempt => rw [attempt] at started; exact started
  · exact .refl

/-- Every call goes in strides, whatever becomes of it. -/
theorem strides_process (b : Bridge σ) (header message : Json) :
    Strides out permitted b (b.process out header message during).2 := by
  rw [process]
  split
  · exact .refl
  · next r read =>
      have prepared := strides_prepare out permits b r
      rw [processRequest]
      split
      · next attempt =>
          rw [attempt] at prepared
          exact prepared
      · next ready attempt =>
          rw [attempt] at prepared
          simp only [ask]
          rcases ready.session.consider out r ready.outside with ⟨reply | call, o⟩
          · exact prepared.tail (.outside o)
          · have considered : Strides out permitted b { ready with outside := o } := prepared.tail (.outside o)
            exact considered.trans (strides_forward out permits _ header call)

end Calls

/-- Taking an event off the publisher is a stride. -/
theorem strides_nextEvent (out) (b : Bridge σ) (time : Duration) : Strides out permitted b (b.nextEvent time).2 := by
  rw [nextEvent, Session.nextEvent]
  cases received : b.session.hub.receiveWithin b.session.publisher time with
  | error e => exact .refl
  | ok result =>
      obtain ⟨frame, hub⟩ := result
      rw [Hub.receiveWithin] at received
      split at received
      · next read =>
          cases received
          obtain ⟨rest, waits, rfl⟩ := Hub.waiting_of_receive read
          have taken : Stride out permitted b _ := .take (.inr rfl) (List.singleton_append ▸ waits)
          simp only
          split <;> exact .single taken
      · cases received
      · cases received

/-- Every move is a row of strides. -/
theorem strides_next (out) (b : Bridge σ) {move : Move σ} (allowed : move.Allowed permitted) :
    Strides out permitted b (b.next out move) := by
  cases move with
  | process header message during => exact strides_process out allowed.2 b header message
  | start during => exact strides_start out allowed b
  | stop during => exact .single (.stop allowed)
  | nextEvent time => exact strides_nextEvent out b time
  | happen happening => exact .single (.happen allowed)

/-- At any time a control socket is free, or bound to its own endpoint. -/
theorem Reachable.fitted (reachable : Reachable out permitted b) : b.Fitted := by
  induction reachable with
  | create created o =>
      obtain ⟨request, header, -⟩ := created.sound.idle created.worker
      exact ⟨.inl request, .inl header⟩
  | move prior move allowed ih => exact Steps.fitted ((strides_next out _ allowed).steps ih) ih

/-- The bridges that there are between any two steps, also within calls. -/
def Reached (out : Outside σ) (permitted : Happening σ → Prop) (b : Bridge σ) : Prop :=
  ∃ (s : Session) (o : σ), Session.Created s ∧ Steps out permitted (ofSession s o) b

/-- A bridge that moves lead to is one that steps lead to. -/
theorem Reachable.reached (reachable : Reachable out permitted b) : Reached out permitted b := by
  induction reachable with
  | @create s created o => exact ⟨s, o, created, .refl⟩
  | move prior move allowed ih =>
      obtain ⟨s, o, created, steps⟩ := ih
      exact ⟨s, o, created, steps.trans ((strides_next out _ allowed).steps prior.fitted)⟩

/-- What holds of every new bridge and is kept by every step holds between any two steps. -/
theorem Reached.induct {P : Bridge σ → Prop} (reached : Reached out permitted b)
    (first : ∀ s, Session.Created s → ∀ o : σ, P (ofSession s o))
    (kept : ∀ b next, Reached out permitted b → P b → Step out permitted b next → P next) : P b := by
  obtain ⟨s, o, created, steps⟩ := reached
  induction steps with
  | refl => exact first s created o
  | tail prior step ih => exact kept _ _ ⟨s, o, created, prior⟩ ih step

/-- Within calls as well, a control socket is free or bound to its own endpoint. -/
theorem Reached.fitted (reached : Reached out permitted b) : b.Fitted := by
  obtain ⟨s, o, created, steps⟩ := reached
  obtain ⟨request, header, -⟩ := created.sound.idle created.worker
  exact Steps.fitted steps ⟨.inl request, .inl header⟩

/-- So it holds between any two moves. -/
theorem Reachable.induct {P : Bridge σ → Prop} (reachable : Reachable out permitted b)
    (first : ∀ s, Session.Created s → ∀ o : σ, P (ofSession s o))
    (kept : ∀ b next, P b → Step out permitted b next → P next) : P b :=
  reachable.reached.induct first fun b next _ => kept b next

/-- Several moves lead on as one does. -/
theorem Reachable.moves (reachable : Reachable out permitted b) {moves : List (Move σ)}
    (allowed : ∀ move ∈ moves, move.Allowed permitted) : Reachable out permitted (moves.foldl (next out) b) := by
  induction moves generalizing b with
  | nil => exact reachable
  | cons move moves ih =>
      rw [List.forall_mem_cons] at allowed
      exact ih (.move reachable move allowed.1) allowed.2

/-! ## A bridge to look at -/

/-- A bridge as it is created on an unused hub, where everything goes well. -/
def idleSample : Bridge Unit :=
  ofSession Session.idleSample ()

/-- A worker gets ready while it is asked. -/
def readies (n : Nat) : Schedule Unit
  | .asked => [.turn n .embark, .turn n .greet, .turn n (.dial .reached), .turn n .acknowledge]
  | _ => []

/-- That bridge after its start. -/
def runningSample : Bridge Unit :=
  idleSample.next Session.obliging (.start (readies 0))

theorem permits_readies (untouched : Bridge Unit → Nat → Prop) (n : Nat) : Permits (Allowed untouched) (readies n) := by
  intro p h member
  cases p with
  | asked =>
      simp only [readies, List.mem_cons, List.not_mem_nil, or_false] at member
      rcases member with rfl | rfl | rfl | rfl <;> exact trivial
  | _ => cases member

/-- The running sample is reached by its own start. -/
theorem reachable_runningSample (untouched : Bridge Unit → Nat → Prop) :
    Reachable Session.obliging (Allowed untouched) runningSample :=
  .move (.create Session.created_idleSample ()) (.start (readies 0)) (permits_readies untouched 0)

end Bridge
end DebugBridge
