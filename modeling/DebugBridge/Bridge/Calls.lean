import DebugBridge.Bridge.Basic
import DebugBridge.Session.Call

/-!
# The operations of the control side

Starting, stopping and answering requests, as the control side does them while couriers run: what it does itself is
what `Session` says, one thing after the other, and between any two of them other things happen. A schedule says which.
-/

namespace DebugBridge.Bridge

variable {σ : Type}

/-! ## Stopping -/

/-- Frees the endpoint of the request socket. -/
def freeRequest (b : Bridge σ) : Bridge σ :=
  { b with session := b.session.unbindRequest }

/-- Frees the endpoint of the header socket. -/
def freeHeader (b : Bridge σ) : Bridge σ :=
  { b with session := b.session.unbindHeader }

/-- Waits for the end of the worker, as long as the settings say. Whatever it learns, the worker is gone for the
control side; a courier that has not ended is left behind. -/
def wait (b : Bridge σ) : Bridge σ :=
  if b.session.isStarted then
    let result := match b.couriers.getLast? with
      | some c => c.awaited b.session.settings.shutdownTime
      | none => .ok ()
    { b with session := { b.session with worker := none } }.done (.waited result)
  else b

/-- Forgets which threads are stopped. -/
def forgetStopped (b : Bridge σ) : Bridge σ :=
  { b with session := { b.session with threads := { b.session.threads with stopped := [] } } }.done .forgotStopped

/-- Forgets which threads are known. -/
def forgetKnown (b : Bridge σ) : Bridge σ :=
  { b with session := { b.session with threads := { b.session.threads with known := [] } } }.done .forgotKnown

/-- Frees the control endpoints, waits for the worker and forgets the threads, first the stopped ones and then the
known ones. -/
def shutDown (b : Bridge σ) (during : Schedule σ) : Bridge σ :=
  let b := (b.pause during .leaving).freeRequest.pause during .halfFree
  let b := b.freeHeader.pause during .waiting
  (b.wait.forgetStopped.pause during .halfForgotten).forgetKnown

/-- Stops the session. -/
def stop (b : Bridge σ) (during : Schedule σ) : Bridge σ :=
  { b with session := { b.session with breakpoints := [] } }.shutDown during

/-! ## Starting -/

/-- Launches the adapter unless that was tried before. -/
def ensureLaunched (out : Outside σ) (b : Bridge σ) : Bridge σ :=
  let lines := if b.session.launch = .notStarted then Launch.traceLines b.session.config else []
  { b with session := (b.session.ensureLaunched out b.outside).1
           outside := (b.session.ensureLaunched out b.outside).2 }.done (.launched lines)

/-- Binds both control endpoints or none. -/
def bindControl (b : Bridge σ) (during : Schedule σ) : Except Error Unit × Bridge σ :=
  match b.session.bindRequest with
  | .error e => (.error e, b)
  | .ok session =>
    let b := { b with session }.pause during .halfBound
    match b.session.bindHeader with
    | .error e => (.error e, b.freeRequest)
    | .ok session => (.ok (), { b with session })

/-- Makes a worker. -/
def spawn (b : Bridge σ) : Bridge σ :=
  { b with session := { b.session with worker := some .unconnected }, couriers := b.couriers ++ [.fresh] }

/-- Makes a worker and asks it whether it is ready. -/
def startWorker (b : Bridge σ) (during : Schedule σ) : Except Error Unit × Bridge σ :=
  match b.spawn.send b.session.request askReady with
  | .error e => (.error e, b.spawn)
  | .ok b =>
    let b := b.pause during .asked
    match b.session.hub.receiveWithin b.session.request b.session.settings.handshakeTime with
    | .error e => (.error e, b)
    | .ok (answer, hub) =>
      let b := { b with session := { b.session with hub } }
      if answer = isReady then (.ok (), b) else (.error (.adapterUnreachable b.session.address.text), b)

/-- Binds the control endpoints and makes a worker. If the worker is not ready the session is shut down. -/
def engage (b : Bridge σ) (during : Schedule σ) : Except Error Bool × Bridge σ :=
  match b.bindControl during with
  | (.error e, b) => (.error e, b)
  | (.ok (), b) =>
    match b.startWorker during with
    | (.ok (), b) => (.ok true, b)
    | (.error e, b) => (.error e, b.shutDown during)

/-- Starts the session. Gives false if the adapter could not be launched. -/
def start (out : Outside σ) (b : Bridge σ) (during : Schedule σ) : Except Error Bool × Bridge σ :=
  if b.session.isStarted then (.ok true, b)
  else
    match b.ask (out.makeDirectory b.session.kernel.logDirectory) with
    | (.error e, b) => (.error e, b)
    | (.ok (), b) =>
      let b := ((b.pause during .logged).ensureLaunched out).pause during .launched
      if b.session.launch = .started then
        match b.ask (out.makeDirectory b.session.kernel.cellDirectory) with
        | (.error e, b) => (.error e, b)
        | (.ok (), b) => (b.pause during .staged).engage during
      else (.ok false, b)

/-- Readies the session for a request. One to initialize needs it started. -/
def prepare (out : Outside σ) (b : Bridge σ) (r : Request) (during : Schedule σ) : Except Error Unit × Bridge σ :=
  if r.command = "initialize" then
    match b.start out during with
    | (.error e, b) => (.error e, b)
    | (.ok true, b) => (.ok (), b)
    | (.ok false, b) => (.error (.worker ("external debug adapter is " ++ b.session.launch.name)), b)
  else (.ok (), b)

/-! ## Requests -/

/-- Sends a header and a message to the worker. -/
def submit (b : Bridge σ) (header message : Json) (during : Schedule σ) : Except Error Unit × Bridge σ :=
  if b.session.request.isBound then
    match b.send b.session.header (Json.encode header) with
    | .error e => (.error e, b)
    | .ok b =>
      let b := b.pause during .headed
      match b.send b.session.request (Json.encode message) with
      | .error e => (.error e, b)
      | .ok b => (.ok (), b)
  else (.error .notStarted, b)

/-- What a call comes to once the adapter's response, or its absence, is known. -/
def conclude (out : Outside σ) (b : Bridge σ) (call : Call) (result : Except Error Json) (during : Schedule σ) :
    Json × Bridge σ :=
  if call.purpose = .disconnect then (call.reply result, b.stop during)
  else
    let (reply, session, outside) := b.session.conclude out call result b.outside
    (reply, { b with session, outside })

/-- Passes a message on and waits for the reply to it. -/
def forward (out : Outside σ) (b : Bridge σ) (header : Json) (call : Call) (during : Schedule σ) : Json × Bridge σ :=
  match (b.pause during .considered).submit header call.sent during with
  | (.error e, b) => b.conclude out call (.error e) during
  | (.ok (), b) =>
    let b := b.pause during .passed
    let (result, session) := b.session.collect call.sent
    ({ b with session }.pause during .collected).conclude out call result during

/-- Answers a request. -/
def processRequest (out : Outside σ) (b : Bridge σ) (header : Json) (r : Request) (during : Schedule σ) :
    Json × Bridge σ :=
  match b.prepare out r during with
  | (.error e, b) => ((Response.fail r e.message).toJson, b)
  | (.ok (), b) =>
    match b.ask (b.session.consider out r) with
    | (.answered reply, b) => (reply, b)
    | (.waiting call, b) => b.forward out header call during

/-- Answers any message of the front end, under the header of the kernel's message. -/
def process (out : Outside σ) (b : Bridge σ) (header message : Json) (during : Schedule σ) : Json × Bridge σ :=
  match Request.ofJson? message with
  | .error e => ((Response.failFor message e.message).toJson, b)
  | .ok r => b.processRequest out header r during

/-- The next published event. -/
def nextEvent (b : Bridge σ) (time : Duration) : Except Error Json × Bridge σ :=
  let (result, session) := b.session.nextEvent time
  (result, { b with session })

end DebugBridge.Bridge
