import DebugBridge.Bridge.Calls
import DebugBridge.Proofs.Session.Frame

/-!
# What a turn does

`Courier.take_cases` lists all that a turn of a courier can come to. What follows about couriers goes through these
cases and opens no turn again.
-/

namespace DebugBridge

/-- Taking a frame that waits leaves the others. -/
theorem Hub.waiting_of_receive {hub next : Hub} {s : Socket} {frame : Frame}
    (received : hub.receive s = .ok (some frame, next)) :
    ∃ rest, hub.waiting s = frame :: rest ∧ next = hub.setWaiting s rest := by
  rcases s with _ | ⟨e, b⟩ | ⟨e, b⟩
  · cases received
  · simp only [receive] at received
    split at received
    · cases received
    · next first rest waits =>
        cases received
        exact ⟨rest, waits, rfl⟩
  · simp only [receive] at received
    split at received
    · split at received <;> cases received
    · next first rest waits =>
        cases received
        exact ⟨rest, waits, rfl⟩

/-- A worker that finds both of its endpoints is connected to what is bound there, and its relay is new. -/
theorem Worker.connect_eq_ok {hub : Hub} {w : Worker} (connected : Worker.connect hub = .ok w) :
    ∃ q h, hub.registry.lookup requestEndpoint = some q ∧ hub.registry.lookup headerEndpoint = some h ∧
      w = ⟨some (.connected requestEndpoint q), some (.connected headerEndpoint h),
        (hub.connect publisherEndpoint).toOption.join, .start⟩ := by
  simp only [Worker.connect, Hub.connect] at connected
  cases atRequest : hub.registry.lookup requestEndpoint with
  | none => simp [atRequest] at connected
  | some q =>
      cases atHeader : hub.registry.lookup headerEndpoint with
      | none => simp [atRequest, atHeader] at connected
      | some h =>
          simp only [atRequest, atHeader, Except.ok.injEq] at connected
          exact ⟨q, h, rfl, rfl, connected.symm⟩

/-- So it is tied to what is bound at the two. -/
theorem Worker.tied_of_connect {hub : Hub} (sound : hub.Sound) {w : Worker} (connected : Worker.connect hub = .ok w) :
    ∃ q h, hub.registry.lookup requestEndpoint = some q ∧ hub.registry.lookup headerEndpoint = some h ∧ w.Tied q h := by
  obtain ⟨q, h, atRequest, atHeader, rfl⟩ := connect_eq_ok connected
  refine ⟨q, h, atRequest, atHeader, rfl, rfl, ?_, ?_⟩
  · rw [Hub.connect]
    cases registered : hub.registry.lookup publisherEndpoint with
    | none => simp [Except.toOption, Socket.binding?]
    | some p =>
        rintro ⟨⟩
        exact absurd (sound.distinct _ _ _ atRequest registered) (by decide)
  · rintro rfl
    exact absurd (sound.distinct _ _ _ atRequest atHeader) (by decide)

/-- A worker at such a stage has no connection to the adapter. -/
def Stage.early : Stage → Bool
  | .new | .greeting | .dialling => true
  | .connected | .relaying | .closing _ | .ended _ => false

namespace Courier

variable {c : Courier} {s : Session}

/-- What a turn comes to: the courier and the session after it, and what is remembered. -/
inductive Turned (c : Courier) (s : Session) : Courier × Session × List Note → Prop where
  /-- Nothing was due. -/
  | still : Turned c s (c, s, [])
  /-- It has found its endpoints. -/
  | embarked {w : Worker} (new : c.stage = .new) (connected : Worker.connect s.hub = .ok w) :
      Turned c s ({ c with stage := .greeting, worker := w }, s, [])
  /-- It gives up before it is connected, and tells nobody. -/
  | failed {result : Except Error Unit} (early : c.stage.early) : Turned c s ({ c with stage := .ended result }, s, [])
  /-- It was asked whether it is ready. -/
  | greeted {hub : Hub} (greeting : c.stage = .greeting)
      (received : s.hub.receive c.worker.request = .ok (some askReady, hub)) :
      Turned c s ({ c with stage := .dialling }, { s with hub }, [.got c.worker.request.binding? askReady])
  /-- It was sent something else first, and gives up. -/
  | declined {frame : Frame} {hub : Hub} {result : Except Error Unit} (greeting : c.stage = .greeting)
      (received : s.hub.receive c.worker.request = .ok (some frame, hub)) :
      Turned c s ({ c with stage := .ended result },
        { s with hub := Worker.sendIfPossible hub c.worker.request givesUp }, [.got c.worker.request.binding? frame])
  /-- The adapter does not take the connection. -/
  | refused {result : Except Error Unit} (dialling : c.stage = .dialling) :
      Turned c s ({ c with stage := .ended result },
        { s with hub := Worker.sendIfPossible s.hub c.worker.request givesUp }, [])
  /-- The adapter takes the connection. -/
  | reached (dialling : c.stage = .dialling) :
      Turned c s ({ c with stage := .connected, listening := true, reading := true }, s, [])
  /-- It says that it is ready. -/
  | acknowledged {hub : Hub} (connected : c.stage = .connected)
      (sent : s.hub.send c.worker.request isReady = .ok hub) :
      Turned c s ({ c with stage := .relaying }, { s with hub }, [])
  /-- It cannot say so, as the control side is gone. -/
  | unheard {e : Error} (connected : c.stage = .connected) (unsent : s.hub.send c.worker.request isReady = .error e) :
      Turned c s ({ c with stage := .closing (.error e) }, s, [])
  /-- A message is read from the adapter. -/
  | heard (v : Json) (reading : c.reading = true) :
      Turned c s ({ c with inbox := c.inbox ++ [.input (.adapter v)] }, s.note [Session.receivedLine v],
        [.heard (.message v)])
  /-- The adapter is lost. -/
  | lost (reading : c.reading = true) :
      Turned c s ({ c with inbox := c.inbox ++ [.input .adapterLost], reading := false }, s, [.heard .lost])
  /-- A frame is read from the control side. -/
  | fetched {frame : Frame} {hub : Hub} (listening : c.listening = true)
      (received : s.hub.receive c.worker.request = .ok (some frame, hub)) :
      Turned c s ({ c with inbox := c.inbox ++ [.input (.request frame)] }, { s with hub },
        [.got c.worker.request.binding? frame])
  /-- The control side is gone. -/
  | gone (listening : c.listening = true) {e : Error} (received : s.hub.receive c.worker.request = .error e) :
      Turned c s ({ c with inbox := c.inbox ++ [.closed], listening := false }, s, [])
  /-- The relay learns of that. -/
  | closed {inbox : List Errand} (relaying : c.stage = .relaying) (free : c.doing = [])
      (waits : c.inbox = .closed :: inbox) : Turned c s ({ c with inbox, stage := .closing (.ok ()) }, s, [])
  /-- The relay takes an input. -/
  | accepted {i : Relay.Input} {inbox : List Errand} (written : Except Error Unit) (relaying : c.stage = .relaying)
      (free : c.doing = []) (waits : c.inbox = .input i :: inbox) :
      Turned c s (({ c with inbox }.accept s.hub written i).1,
        { s with hub := ({ c with inbox }.accept s.hub written i).2.1 }, ({ c with inbox }.accept s.hub written i).2.2)
  /-- The relay does something. -/
  | acted {output : Relay.Output} {doing : List Relay.Output} (does : c.doing = output :: doing) :
      Turned c s ({ c with doing }, { s with hub := c.worker.emit s.hub output }.record output, [.did output])
  /-- The thread ends. -/
  | finished {result : Except Error Unit} (closing : c.stage = .closing result) (deaf : c.listening = false) :
      Turned c s ({ c with stage := .ended result, reading := false }, s, [])

/-- What a worker makes of the first frame. -/
theorem greet_cases (greeting : c.stage = .greeting) : Turned c s (c.greet s) := by
  simp only [greet]
  split
  · exact .failed (by simp [greeting, Stage.early])
  · exact .still
  · next first hub received =>
      split
      · next asks =>
          subst asks
          exact .greeted greeting received
      · next other =>
          simp only [Worker.answerReady, if_neg other]
          exact .declined greeting received

/-- What it makes of how the adapter meets it. -/
theorem dial_cases (dialling : c.stage = .dialling) (met : Met) :
    Turned c s ((c.dial s met).1, (c.dial s met).2, []) := by
  cases met with
  | reached => exact .reached dialling
  | refused =>
      simp only [dial, Worker.answerReady, if_true, Bool.false_eq_true, if_false]
      exact .refused dialling
  | unusable e => exact .failed (by simp [dialling, Stage.early])

/-- What its answer to the first frame leads to. -/
theorem acknowledge_cases (connected : c.stage = .connected) :
    Turned c s ((c.acknowledge s).1, (c.acknowledge s).2, []) := by
  simp only [acknowledge, Worker.answerReady, if_true]
  cases sent : s.hub.send c.worker.request isReady with
  | error e => exact .unheard connected sent
  | ok hub => exact .acknowledged connected sent

/-- What its pump makes of the request socket. -/
theorem fetch_cases (listening : c.listening = true) : Turned c s (c.fetch s) := by
  rw [fetch]
  split
  · next e received => exact .gone listening received
  · exact .still
  · next frame hub received => exact .fetched listening received

/-- What its relay makes of what waits first. -/
theorem relay_cases (relaying : c.stage = .relaying) (free : c.doing = []) (written : Except Error Unit) :
    Turned c s (c.relay s written) := by
  rw [relay]
  split
  · exact .still
  · next inbox waits => exact .closed relaying free waits
  · next i inbox waits => exact .accepted written relaying free waits

/-- All that a turn can come to. -/
theorem take_cases (c : Courier) (s : Session) (turn : Turn) : Turned c s (c.take s turn) := by
  rw [take.eq_def]
  split
  · next new =>
      rw [embark]
      split
      · next connected => exact .embarked new connected
      · exact .failed (by simp [new, Stage.early])
  · next greeting => exact greet_cases greeting
  · next met dialling => exact dial_cases dialling met
  · next connected => exact acknowledge_cases connected
  · next a =>
      split
      · next reading =>
          cases a with
          | message v => exact .heard v reading
          | lost => exact .lost reading
      · exact .still
  · split
    · next listening => exact fetch_cases listening
    · exact .still
  · next written relaying =>
      split
      · next free => exact relay_cases relaying (List.isEmpty_iff.mp free) written
      · exact .still
  · rw [act]
    split
    · exact .still
    · next output doing does => exact .acted does
  · next result closing =>
      split
      · exact .still
      · next deaf => exact .finished closing (by simpa using deaf)
  · exact .still

/-- What the relay takes is not heard in that turn. -/
theorem heard_notMem_accept (c : Courier) (hub : Hub) (written : Except Error Unit) (i : Relay.Input) (a : Arrival) :
    .heard a ∉ (c.accept hub written i).2.2 := by
  cases i <;> simp [accept]

/-- A message is heard in a turn that reads it. -/
theorem eq_hear_of_heard {turn : Turn} {a : Arrival} (heard : .heard a ∈ (c.take s turn).2.2) : turn = .hear a := by
  rw [take.eq_def] at heard
  split at heard
  · cases heard
  · rw [greet] at heard
    split at heard
    · cases heard
    · cases heard
    · split at heard <;> simp at heard
  · cases heard
  · cases heard
  · next a' =>
      split at heard
      · cases List.mem_singleton.mp heard
        rfl
      · cases heard
  · rw [fetch] at heard
    split at heard
    · split at heard <;> simp at heard
    · cases heard
  · rw [relay] at heard
    split at heard
    · split at heard
      · cases heard
      · cases heard
      · exact (heard_notMem_accept _ _ _ _ _ heard).elim
    · cases heard
  · rw [act] at heard
    split at heard <;> simp at heard
  · split at heard <;> cases heard
  · cases heard

/-- What the relay takes of the hub before an input: the headers that wait, before a request. -/
def headersFor (c : Courier) (hub : Hub) : Relay.Input → List Frame
  | .request _ => hub.waiting c.worker.header
  | _ => []

/-- Headers as the relay takes them. -/
def asHeaders (frames : List Frame) : List (Relay.Input × Except Error Unit) :=
  frames.map fun f => (.header f, .ok ())

/-- The relay takes an input behind the headers that wait before it. -/
theorem accept_eq (c : Courier) (hub : Hub) (written : Except Error Unit) (i : Relay.Input) :
    ∃ next, hub.Moved next ∧
      (next = hub ∧ c.headersFor hub i = [] ∨
        next = hub.setWaiting c.worker.header [] ∧ c.headersFor hub i = hub.waiting c.worker.header) ∧
      c.accept hub written i =
        let inputs := asHeaders (c.headersFor hub i) ++ [(i, written)]
        ({ c with worker := { c.worker with relay := (c.worker.relay.runWith inputs).1 }
                  doing := (c.worker.relay.runWith inputs).2 }, next,
          (c.headersFor hub i).map (.got c.worker.header.binding?) ++ inputs.map fun p => .took p.1 p.2) := by
  have silent (frames : List Frame) (w : Worker) :
      frames.foldl (fun w f => { w with relay := (w.relay.step (.header f)).1 }) w =
        { w with relay := (w.relay.runWith (asHeaders frames)).1 } ∧ (w.relay.runWith (asHeaders frames)).2 = [] := by
    induction frames generalizing w with
    | nil => exact ⟨rfl, rfl⟩
    | cons f frames ih =>
        obtain ⟨relay, nothing⟩ := ih { w with relay := (w.relay.step (.header f)).1 }
        simp only [asHeaders] at relay nothing
        simp only [asHeaders, List.foldl_cons, List.map_cons, Relay.runWith_cons]
        exact ⟨relay, by simpa [Relay.react, Relay.step] using nothing⟩
  cases i with
  | request frame =>
      obtain ⟨relay, nothing⟩ := silent (hub.waiting c.worker.header) c.worker
      refine ⟨hub.setWaiting c.worker.header [], Hub.moved_setWaiting .., .inr ⟨rfl, rfl⟩, ?_⟩
      have map : (asHeaders (hub.waiting c.worker.header)).map (fun p => Note.took p.1 p.2) =
          (hub.waiting c.worker.header).map fun f => Note.took (.header f) (.ok ()) := List.map_map ..
      simp only [accept, Worker.takeHeaders, headersFor, relay, map, Relay.runWith_append, nothing, Relay.runWith_cons,
        Relay.runWith_nil, List.append_nil, List.nil_append, List.map_append, List.map_cons, List.map_nil,
        List.append_assoc]
  | header f | adapter v | adapterLost =>
      refine ⟨hub, .refl hub, .inl ⟨rfl, rfl⟩, ?_⟩
      simp [accept, headersFor, asHeaders]

/-! ## What every turn keeps -/

variable {done : Courier × Session × List Note}

/-- A turn only moves frames. -/
theorem Turned.moved (turned : Turned c s done) : s.hub.Moved done.2.1.hub := by
  cases turned with
  | greeted greeting received | declined greeting received | fetched listening received =>
      first
        | exact Hub.moved_receive received
        | exact (Hub.moved_receive received).trans (Worker.moved_sendIfPossible _ _ _)
  | refused dialling => exact Worker.moved_sendIfPossible _ _ _
  | acknowledged connected sent => exact Hub.moved_send sent
  | accepted written relaying free waits =>
      obtain ⟨next, moved, -, taken⟩ := accept_eq _ s.hub written _
      rw [taken]
      exact moved
  | @acted output doing does =>
      have moved := Worker.moved_emit c.worker s.hub output
      cases output <;> exact moved
  | still | embarked new connected | failed early | reached dialling | unheard connected unsent | heard v reading
    | lost reading | gone listening received | closed relaying free waits | finished closing deaf => exact .refl s.hub

/-- A courier keeps its sockets once it has looked for its endpoints. -/
theorem Turned.sockets (turned : Turned c s done) :
    done.1.worker.sockets = c.worker.sockets ∨ c.stage = .new ∧ Worker.connect s.hub = .ok done.1.worker := by
  cases turned with
  | embarked new connected => exact .inr ⟨new, connected⟩
  | accepted written relaying free waits =>
      obtain ⟨next, -, -, taken⟩ := accept_eq _ s.hub written _
      rw [taken]
      exact .inl rfl
  | _ => exact .inl rfl

end Courier
end DebugBridge
