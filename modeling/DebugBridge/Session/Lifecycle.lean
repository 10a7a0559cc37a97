import DebugBridge.Session.Basic

/-!
# Starting and stopping a session

A session starts in steps: the adapter is launched, the control endpoints are bound, and the worker is asked
whether it is ready. Whatever fails, the steps before it are undone, apart from the launch, whose outcome
stands. Stopping frees the endpoints and forgets threads and breakpoints.

Here the worker ends in the time that it is given, and one that is late with its answer never gives it.
`DebugBridge.Bridge` has the same operations beside workers on threads of their own, which may do otherwise.
-/

namespace DebugBridge.Session

variable {σ : Type}

/-- Binds the request socket to its endpoint. -/
def bindRequest (s : Session) : Except Error Session :=
  match s.hub.bind s.request requestEndpoint with
  | .error e => .error e
  | .ok (hub, request) => .ok { s with hub, request }

/-- Binds the header socket to its endpoint. -/
def bindHeader (s : Session) : Except Error Session :=
  match s.hub.bind s.header headerEndpoint with
  | .error e => .error e
  | .ok (hub, header) => .ok { s with hub, header }

/-- Frees the endpoint of the request socket, if that is bound to it. -/
def unbindRequest (s : Session) : Session :=
  let (hub, request) := s.hub.unbind s.request requestEndpoint
  { s with hub, request }

/-- Frees the endpoint of the header socket, if that is bound to it. -/
def unbindHeader (s : Session) : Session :=
  let (hub, header) := s.hub.unbind s.header headerEndpoint
  { s with hub, header }

/-- Frees the control endpoints, ends the worker and forgets the threads. A worker that has not ended in time is not
left behind here, as it is by `Bridge.wait`. -/
def shutDown (s : Session) : Session :=
  { s.unbindRequest.unbindHeader with worker := none, threads := .empty }

/-- Stops a session. A stopped one stays as it is. -/
def stop (s : Session) : Session :=
  { s.shutDown with breakpoints := [] }

/-- Launches the adapter unless that was tried before. -/
def ensureLaunched (out : Outside σ) (s : Session) (o : σ) : Session × σ :=
  let (state, o) := Launch.ensure (out.execute (Launch.snippet s.address s.config)) s.launch o
  let lines := if s.launch = .notStarted then Launch.traceLines s.config else []
  ({ s.note lines with launch := state }, o)

/-- Binds both control endpoints or none. -/
def bindControl (s : Session) : Except Error Unit × Session :=
  match s.bindRequest with
  | .error e => (.error e, s)
  | .ok s =>
    match s.bindHeader with
    | .error e => (.error e, s.unbindRequest)
    | .ok s => (.ok (), s)

/-- Asks a new worker whether it is ready. On an error the endpoints stay bound. A worker that is late does not go on
here, as it may after `Bridge.startWorker`. -/
def startWorker (s : Session) (dial : Dial) : Except Error Unit × Session :=
  match Worker.connect s.hub with
  | .error e => (.error e, s)
  | .ok w =>
    match s.hub.send s.request askReady with
    | .error e => (.error e, s)
    | .ok hub =>
      let hub := match hub.receive w.request, dial with
        | .ok (some first, hub), .accepted => (w.answerReady hub first s.address true).2
        | .ok (some first, hub), .refused => (w.answerReady hub first s.address false).2
        | .ok (_, hub), _ => hub
        | .error _, _ => hub
      match hub.receiveWithin s.request s.settings.handshakeTime with
      | .error e => (.error e, { s with hub })
      | .ok (answer, hub) =>
        if answer = isReady then (.ok (), { s with hub, worker := some w })
        else (.error (.adapterUnreachable s.address.text), { s with hub })

/-- Starts a session. Gives false if the adapter could not be launched. -/
def start (out : Outside σ) (s : Session) (o : σ) : Except Error Bool × Session × σ :=
  if s.isStarted then (.ok true, s, o)
  else
    match out.makeDirectory s.kernel.logDirectory o with
    | (.error e, o) => (.error e, s, o)
    | (.ok (), o) =>
      let (s, o) := s.ensureLaunched out o
      if s.launch = .started then
        match out.makeDirectory s.kernel.cellDirectory o with
        | (.error e, o) => (.error e, s, o)
        | (.ok (), o) =>
          match s.bindControl with
          | (.error e, s) => (.error e, s, o)
          | (.ok (), s) =>
            let (dial, o) := out.dial s.address s.settings o
            match s.startWorker dial with
            | (.ok (), s) => (.ok true, s, o)
            | (.error e, s) => (.error e, s.shutDown, o)
      else (.ok false, s, o)

/-- Starts a session that a request needs started. -/
def ensureStarted (out : Outside σ) (s : Session) (o : σ) : Except Error Unit × Session × σ :=
  match s.start out o with
  | (.error e, s, o) => (.error e, s, o)
  | (.ok true, s, o) => (.ok (), s, o)
  | (.ok false, s, o) =>
    (.error (.worker ("external debug adapter is " ++ s.launch.name)), s, o)

end DebugBridge.Session
