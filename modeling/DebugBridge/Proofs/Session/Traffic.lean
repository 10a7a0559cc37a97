import DebugBridge.Proofs.Session.Correlation

/-!
# Messages for the adapter

`controlMessage` says, for every message of the front end, what the adapter is to get for it: nothing, or one
message. A session with a worker that keeps up writes exactly that, if the adapter is not lost, and the relay's own
messages in reply to what the adapter sends meanwhile (`outbox_process`).
-/

namespace DebugBridge

namespace Relay

/-- What the relay does with something that comes from the adapter. Nothing comes of one that is lost. -/
def hear (r : Relay) (a : Arrival) : Relay × List Output :=
  if r.adapterAlive then r.step a.input else (r, [])

/-- What the relay gives while a row of things comes from the adapter. -/
def hearAll (r : Relay) : List Arrival → List Output
  | [] => []
  | a :: arrivals => (r.hear a).2 ++ hearAll (r.hear a).1 arrivals

theorem mem_hearAll {r : Relay} {arrivals : List Arrival} {o : Output} (given : o ∈ r.hearAll arrivals) :
    ∃ a ∈ arrivals, ∃ r' : Relay, o ∈ (r'.step a.input).2 := by
  induction arrivals generalizing r with
  | nil => cases given
  | cons a arrivals ih =>
      rcases List.mem_append.mp given with here | later
      · rw [hear] at here
        split at here
        · exact ⟨a, List.mem_cons_self, r, here⟩
        · cases here
      · obtain ⟨b, member, found⟩ := ih later
        exact ⟨b, List.mem_cons_of_mem a member, found⟩

end Relay

namespace Session

/-- The message that the adapter is to get for a message of the front end, if any. `stopped` tells whether a
thread is. -/
def controlMessage (address : Address) (stopped : Bool) (slot : Slot) (message : Json) : Option Json :=
  match Request.ofJson? message with
  | .error _ => none
  | .ok r =>
    match r.command with
    | "debugInfo" | "dumpCell" | "inspectVariables" | "configurationDone" => none
    | "richInspectVariables" =>
      match stopped, (Request.argumentOf message "variableName").bind Json.asString?,
          (Request.argumentOf message "frameId").bind Json.asInt? with
      | true, some subject, some frame => some (slot.setExpression subject frame (Request.seqAfter r.seq))
      | _, _, _ => none
    | "attach" => some (Request.attachMessage address message)
    | _ => some (Request.passedOn message)

/-- What the relay writes by itself while something comes from the adapter. -/
def ownWrites (s : Session) (arrivals : List Arrival) : List Json :=
  match s.worker with
  | some w => (w.relay.hearAll arrivals).filterMap Relay.Output.written?
  | none => []

/-- Whether there is an adapter to write to. -/
def hasAdapter (s : Session) : Bool :=
  s.worker.any fun w => w.relay.adapterAlive

/-- What the relay reads of a message that is passed on, which is nothing of one that is too deep. -/
def delivered (message : Json) : Option Json :=
  (Json.decode (Json.encode message)).toOption

variable {s : Session}

/-! ## Arrivals -/

theorem arrive_worker {w : Worker} (running : s.worker = some w) (a : Arrival) :
    (s.arrive a).worker = some { w with relay := (w.relay.hear a).1 } ∧
      (s.arrive a).outbox = s.outbox ++ (w.relay.hear a).2.filterMap Relay.Output.written? := by
  rw [Relay.hear]
  cases alive : w.relay.adapterAlive with
  | false =>
      rw [arrive_of_lost running alive, if_neg Bool.false_ne_true]
      exact ⟨running, by simp⟩
  | true =>
      obtain ⟨transcript, arrived⟩ := arrive_eq running alive a
      obtain ⟨later, after⟩ := ({ s with transcript } : Session).afterWorker_eq (w.handle s.hub a.input)
      rw [arrived, after, if_pos rfl]
      exact ⟨rfl, rfl⟩

/-- What is written while something comes from the adapter is what the relay writes by itself. -/
theorem outbox_arrivals (s : Session) (arrivals : List Arrival) :
    (arrivals.foldl arrive s).outbox = s.outbox ++ s.ownWrites arrivals := by
  cases running : s.worker with
  | none => rw [arrivals_of_idle running, ownWrites, running, List.append_nil]
  | some w =>
      rw [ownWrites, running]
      simp only
      induction arrivals generalizing s w with
      | nil => simp [Relay.hearAll]
      | cons a arrivals ih =>
          obtain ⟨worker, outbox⟩ := arrive_worker running a
          rw [List.foldl_cons, ih (s.arrive a) _ worker, outbox, Relay.hearAll, List.filterMap_append,
            List.append_assoc]

/-! ## Requests -/

/-- What a message makes the relay write is what it reads of it, and nothing if the adapter is lost. Threads stay
as they are. -/
theorem submit_writes {next : Session} (sound : s.Sound) {P : Json → Prop} (queued : s.Queued P)
    {header message : Json} (passed : s.submit header message = .ok next) :
    next.outbox = s.outbox ++ (if s.hasAdapter then (delivered message).toList else []) ∧
      next.threads = s.threads := by
  rcases submit_cases sound header message with ⟨-, failed⟩ | ⟨running, -⟩
  · rw [failed] at passed
    cases passed
  · obtain ⟨w, found⟩ := Option.ne_none_iff_exists'.mp running
    obtain ⟨q, h, bound, tied⟩ := sound.running w found
    obtain ⟨hub, -, -, -, -, submitted⟩ :=
      submit_eq sound.hub found bound tied (queued.taken q bound.request) header message
    rw [submitted] at passed
    cases passed
    generalize w.relay.headers ++ ((s.hub.channelsOf h).toPeers ++ [Json.encode header]) = headers
    obtain ⟨transcript, after⟩ := s.afterWorker_eq
      (({ w with relay := { w.relay with headers } } : Worker).handle hub (.request (Json.encode message)))
    rw [after, hasAdapter, found, delivered]
    simp only [Worker.handle_eq, Option.any_some]
    rcases Relay.step_request { w.relay with headers } (Json.encode message) with
      ⟨e, unread, stays⟩ | ⟨read, decoded, -, outputs⟩
    · rw [stays, unread]
      by_cases alive : w.relay.adapterAlive = true
      · rw [if_pos alive]
        exact ⟨rfl, rfl⟩
      · rw [if_neg alive]
        exact ⟨rfl, rfl⟩
    · rw [outputs, decoded]
      simp only
      by_cases alive : w.relay.adapterAlive = true
      · rw [if_pos alive, if_pos alive]
        exact ⟨rfl, rfl⟩
      · rw [if_neg alive, if_neg alive]
        exact ⟨rfl, rfl⟩

variable {message : Json} {r : Request}

/-- What is planned for a variable depends on two arguments of the message. -/
theorem plan_eq (wellFormed : message.WellFormed) (read : Request.ofJson? message = .ok r) (stopped : Bool)
    (slot : Slot) :
    Rendering.plan stopped slot r =
      match (Request.argumentOf message "variableName").bind Json.asString? with
      | none => .refuse (.missingArgument "variableName")
      | some subject =>
        if stopped then
          match (Request.argumentOf message "frameId").bind Json.asInt? with
          | none => .refuse (.missingArgument "frameId")
          | some frame => .inFrame (slot.setExpression subject frame (Request.seqAfter r.seq))
        else .direct subject := by
  rw [Rendering.plan, Request.stringArgument, Request.intArgument,
    Request.argument?_of_ofJson? wellFormed read, Request.argument?_of_ofJson? wellFormed read]
  cases (Request.argumentOf message "variableName").bind Json.asString? with
  | none => rfl
  | some subject =>
      cases stopped with
      | false => rfl
      | true => cases (Request.argumentOf message "frameId").bind Json.asInt? <;> rfl

/-- What a request is passed on as is what the adapter is to get for its message. -/
theorem controlMessage_eq (wellFormed : message.WellFormed) (read : Request.ofJson? message = .ok r)
    (address : Address) (stopped : Bool) (slot : Slot) :
    controlMessage address stopped slot message = (callFor address stopped slot r).map Call.sent := by
  rw [controlMessage, read, callFor]
  simp only
  split
  · next command => simp [command]
  · next command => simp [command]
  · next command => simp [command]
  · next command => simp [command]
  · next command =>
      rw [plan_eq wellFormed read]
      simp only [command]
      cases (Request.argumentOf message "variableName").bind Json.asString? with
      | none => cases stopped <;> rfl
      | some subject =>
          cases stopped with
          | false => rfl
          | true => cases (Request.argumentOf message "frameId").bind Json.asInt? <;> rfl
  · next command =>
      simp [command, Request.attachTo_of_ofJson? wellFormed read]
  · next noDebugInfo noDumpCell noInspect noDone noRender noAttach =>
      rw [← Request.toJson_of_ofJson? wellFormed read]
      split <;> first | rfl | contradiction

/-- What a request is passed on as inherits what its message has. -/
theorem inherited_sent {P : Nat → Json → Prop} (inherited : Json.Inherited P) (limit : Nat)
    (held : P (limit + 3) message) (read : Request.ofJson? message = .ok r) {address : Address}
    (port : address.port < 2 ^ 16) {stopped : Bool} {slot : Slot} {call : Call}
    (planned : callFor address stopped slot r = some call) : P (limit + 3) call.sent := by
  have wellFormed := inherited.wellFormed held
  rcases (callFor_cases planned).2 with ⟨-, -, plan⟩ | ⟨-, -, -, -, sent⟩
  · rw [plan_eq wellFormed read] at plan
    split at plan
    · cases plan
    · next subject _ =>
        split at plan
        · split at plan
          · cases plan
          · next frame found =>
              obtain ⟨v, argument, number⟩ := Option.bind_eq_some_iff.mp found
              obtain ⟨arguments, given, inner⟩ := Option.bind_eq_some_iff.mp argument
              have isFrame := Json.range_of_asInt?
                (Json.wellFormed_of_get? (Json.wellFormed_of_get? wellFormed given) inner) number
              obtain ⟨-, -, least, most⟩ := Request.fields_of_ofJson? wellFormed read
              have isSeq : -2 ^ 63 ≤ Request.seqAfter r.seq ∧ Request.seqAfter r.seq < 2 ^ 64 := by
                rw [Request.seqAfter]
                split <;> omega
              rw [← Rendering.Plan.inFrame.inj plan]
              exact Request.inherited_setExpression inherited slot subject isFrame isSeq
        · cases plan
  · rw [sent]
    split
    · exact Request.inherited_attachTo inherited held read port
    · exact Request.inherited_toJson inherited held read

/-! ## Whole calls -/

variable {σ : Type} (out : Outside σ)

/-- The message that the adapter is to get for a message of the front end in a state of the session. -/
def controlMessageIn (s : Session) (message : Json) (o : σ) : Option Json :=
  controlMessage s.address s.threads.anyStopped (Slot.ofId (out.slotId o).1) message

/-- What comes from the adapter before the message is passed on to it, if it is. -/
def heard (s : Session) (message : Json) (early : List Arrival) (o : σ) : List Arrival :=
  if (s.controlMessageIn out message o).isSome then early else []

/-- The session as it is when a message is passed on, or answered at once. -/
def asked (s : Session) (message : Json) (early : List Arrival) (o : σ) : Session :=
  (s.heard out message early o).foldl arrive (s.attempted out message o)

/-- The messages written to the adapter for a message of the front end that the relay may not read as it was. -/
def controlDelivered (s : Session) (message : Json) (early : List Arrival) (o : σ) : List Json :=
  if (s.asked out message early o).hasAdapter then ((s.controlMessageIn out message o).bind delivered).toList
  else []

theorem hasAdapter_of_idle (stopped : s.worker = none) : s.hasAdapter = false := by
  rw [hasAdapter, stopped]
  rfl

/-- Nothing is written for an idle session, whatever is heard. -/
theorem asked_of_idle (early : List Arrival) {o : σ} (stopped : (s.attempted out message o).worker = none) :
    s.asked out message early o = s.attempted out message o ∧ s.controlDelivered out message early o = [] := by
  have same : s.asked out message early o = s.attempted out message o := arrivals_of_idle stopped _
  refine ⟨same, ?_⟩
  rw [controlDelivered, same, hasAdapter_of_idle stopped]
  rfl

/-- A request is begun where the session stands when it is asked: nothing else happens, or a message is passed on. -/
theorem begin_asked {o : σ} (sound : s.Sound) (header : Json) (wellFormed : message.WellFormed) (early : List Arrival) :
    ((s.begin out header message early o).2.1 = s.asked out message early o ∧
        s.controlDelivered out message early o = []) ∨
      ∃ call : Call, s.controlMessageIn out message o = some call.sent ∧
        (s.asked out message early o).submit header call.sent = .ok (s.begin out header message early o).2.1 := by
  have begun := begun out sound header message early o
  have nothing (unsent : s.controlMessageIn out message o = none) :
      s.asked out message early o = s.attempted out message o ∧ s.controlDelivered out message early o = [] := by
    simp [asked, heard, controlDelivered, unsent]
  generalize s.begin out header message early o = outcome at begun ⊢
  cases begun with
  | malformed state refused =>
      have unsent : s.controlMessageIn out message o = none := by
        rw [controlMessageIn, controlMessage, refused]
      obtain ⟨same, silent⟩ := nothing unsent
      exact .inl ⟨state.symm.trans same.symm, silent⟩
  | answered state read seq command silent =>
      obtain ⟨same, silent⟩ :
          s.asked out message early o = s.attempted out message o ∧ s.controlDelivered out message early o = [] := by
        rcases silent with unplanned | stopped
        · apply nothing
          rw [controlMessageIn, controlMessage_eq wellFormed read, unplanned]
          rfl
        · exact asked_of_idle out early (state ▸ stopped)
      exact .inl ⟨state.symm.trans same.symm, silent⟩
  | @passed r call ready next o' state read planned running passed =>
      have message_eq : s.controlMessageIn out message o = some call.sent := by
        rw [controlMessageIn, controlMessage_eq wellFormed read, planned]
        rfl
      have asked_eq : s.asked out message early o = early.foldl arrive ready := by
        rw [asked, heard, message_eq, state]
        rfl
      exact .inr ⟨call, message_eq, by rw [asked_eq, passed]⟩

/-- Beginning a request writes what the relay reads of what the adapter is to get for it, and changes no
threads. -/
theorem begin_traffic {o : σ} (sound : s.Sound) (queued : s.Queued fun _ => True) (header : Json)
    (wellFormed : message.WellFormed) (early : List Arrival) :
    (s.begin out header message early o).2.1.outbox =
        (s.asked out message early o).outbox ++ s.controlDelivered out message early o ∧
      (s.begin out header message early o).2.1.threads = (s.asked out message early o).threads := by
  have readySound := sound.attempted out message o
  have readyQueued := queued.attempted out sound message o
  rcases begin_asked out sound header wellFormed early with ⟨same, silent⟩ | ⟨call, message_eq, passed⟩
  · rw [same, silent, List.append_nil]
    exact ⟨rfl, rfl⟩
  · have arrived := readyQueued.arrivals readySound (s.heard out message early o) fun _ _ _ _ _ => trivial
    have askedSound := readySound.of_keeps (keeps_arrivals _ (s.heard out message early o))
    rw [controlDelivered, message_eq]
    exact submit_writes askedSound arrived passed

/-- Finishing a request writes nothing. -/
theorem finish_outbox (s : Session) (progress : Progress) (o : σ) :
    (s.finish out progress o).2.1.outbox = s.outbox := by
  have ended := s.finish_cases out progress o
  generalize (s.finish out progress o).2.1 = after at ended ⊢
  cases ended with
  | kept keeps outbox threads => exact outbox
  | stopped waiting purpose keeps outbox => exact outbox
  | recorded waiting purpose keeps outbox threads => exact outbox

variable {out}

/-- Starting writes nothing. -/
theorem attempted_outbox {o : σ} (sound : s.Sound) : (s.attempted out message o).outbox = s.outbox := by
  rcases attempted_cases out sound message o with same | ⟨-, started⟩
  · rw [same]
  · exact started.outbox

/-- What is written while a message of the front end is answered. -/
theorem outbox_process {o : σ} (sound : s.Sound) (queued : s.Queued fun _ => True) (header : Json)
    (wellFormed : message.WellFormed) (early arrivals : List Arrival) (meanwhile : σ → σ) :
    (s.process out header message early arrivals meanwhile o).2.1.outbox =
      s.outbox ++ (s.attempted out message o).ownWrites (s.heard out message early o) ++
        s.controlDelivered out message early o ++ (s.begin out header message early o).2.1.ownWrites arrivals := by
  obtain ⟨outbox, -⟩ := begin_traffic out sound queued header wellFormed early
  rw [process_eq, finish_outbox, outbox_arrivals, outbox, asked, outbox_arrivals, attempted_outbox sound]

end Session
end DebugBridge
