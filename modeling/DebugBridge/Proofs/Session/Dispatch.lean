import DebugBridge.Proofs.Session.Start

/-!
# How a request is dispatched

`callFor` says which requests are passed on to the adapter, and as what. `begin_cases` lists all that can become
of a message of the front end; what follows speaks of one of its cases and opens no handler again.
-/

namespace DebugBridge

/-- A handler is found by its own command. -/
theorem Handler.command_of_lookup {command : String} {h : Handler} (found : lookup command = some h) :
    command = h.command := by
  have same := List.find?_some found
  simpa using (of_decide_eq_true same).symm

theorem Handler.ne_of_lookup_eq_none {command : String} (absent : lookup command = none) (h : Handler) :
    command ≠ h.command := by
  have none := List.find?_eq_none.mp absent h (by cases h <;> decide)
  simpa [eq_comm] using none

namespace Session

/-- A message that is a request for a command. -/
def Asks (message : Json) (command : String) : Prop :=
  ∃ r, Request.ofJson? message = .ok r ∧ r.command = command

instance (message : Json) (command : String) : Decidable (Asks message command) :=
  match read : Request.ofJson? message with
  | .ok r => decidable_of_iff (r.command = command) (by simp [Asks, read])
  | .error _ => .isFalse (by simp [Asks, read])

/-- What a request is passed on as, if it is passed on. A variable is rendered by the adapter only while a
thread is stopped. -/
def callFor (address : Address) (stopped : Bool) (slot : Slot) (r : Request) : Option Call :=
  match r.command with
  | "debugInfo" | "dumpCell" | "inspectVariables" | "configurationDone" => none
  | "richInspectVariables" =>
    match Rendering.plan stopped slot r with
    | .inFrame message => some ⟨r, message, .rendering slot⟩
    | _ => none
  | "attach" => some ⟨r, (r.attachTo address).toJson, .answer⟩
  | "setBreakpoints" => some ⟨r, r.toJson, .breakpoints⟩
  | "disconnect" => some ⟨r, r.toJson, .disconnect⟩
  | _ => some ⟨r, r.toJson, .answer⟩

variable {σ : Type} (out : Outside σ)

/-- What becomes of a message of the front end at once. -/
inductive BegunAs (s : Session) (header message : Json) (early : List Arrival) (o : σ) :
    Progress × Session × σ → Prop where
  /-- It is no request. -/
  | malformed {e : Error} (refused : Request.ofJson? message = .error e) :
      BegunAs s header message early o (.answered (Response.failFor message e.message).toJson, s, o)
  /-- The bridge answers it. -/
  | answered {r : Request} {response : Response} {o' : σ} (read : Request.ofJson? message = .ok r)
      (seq : response.seq = r.seq) (command : response.command = r.command)
      (other : r.command ≠ "initialize")
      (own : callFor s.address s.threads.anyStopped (Slot.ofId (out.slotId o).1) r = none ∨ s.worker = none) :
      BegunAs s header message early o (.answered response.toJson, s, o')
  /-- It asks for a start that fails. -/
  | notStarted {r : Request} {e : Error} {next : Session} {o' : σ} (read : Request.ofJson? message = .ok r)
      (command : r.command = "initialize") (failed : s.ensureStarted out o = (.error e, next, o')) :
      BegunAs s header message early o (.answered (Response.fail r e.message).toJson, next, o')
  /-- It is passed on, after a start if it asks for one. -/
  | forwarded {r : Request} {call : Call} {ready : Session} {o' : σ} (read : Request.ofJson? message = .ok r)
      (planned : callFor s.address s.threads.anyStopped (Slot.ofId (out.slotId o).1) r = some call)
      (attempt : r.command = "initialize" ∧ s.ensureStarted out o = (.ok (), ready, o') ∨
        r.command ≠ "initialize" ∧ ready = s) :
      BegunAs s header message early o (ready.forward out header early call o')

/-- Dumping a cell answers its request, whatever fails. -/
theorem dumpCell_answers (s : Session) (r : Request) (o : σ) :
    (s.dumpCell out r o).1.seq = r.seq ∧ (s.dumpCell out r o).1.command = r.command := by
  simp only [dumpCell]
  repeat' split
  all_goals exact ⟨rfl, rfl⟩

/-- Whatever a handler's outcome is, it is told in a response to the request. -/
theorem settle_answers {r : Request} {answer : Except Error Response}
    (own : ∀ response, answer = .ok response → response.seq = r.seq ∧ response.command = r.command) :
    ∃ response : Response, settle r answer = response.toJson ∧ response.seq = r.seq ∧
      response.command = r.command := by
  cases answer with
  | error e => exact ⟨.fail r e.message, rfl, rfl, rfl⟩
  | ok response => exact ⟨response, rfl, own response rfl⟩

/-- What is read back answers the request that it is read for. -/
theorem answerFromSlot_answers (scope : Scope σ) (slot : Slot) (r : Request) (o : σ) {response : Response}
    (made : (Rendering.answerFromSlot scope slot r o).1 = .ok response) :
    response.seq = r.seq ∧ response.command = r.command := by
  rw [Rendering.answerFromSlot] at made
  split at made
  · cases made
    exact ⟨rfl, rfl⟩
  · cases made

/-- A direct rendering answers its request. -/
theorem renderDirectly_answers (scope : Scope σ) (slot : Slot) (subject : String) (r : Request) (o : σ)
    {response : Response} (made : (Rendering.renderDirectly scope slot subject r o).1 = .ok response) :
    response.seq = r.seq ∧ response.command = r.command := by
  rw [Rendering.renderDirectly] at made
  split at made
  · cases made
  · exact answerFromSlot_answers scope slot r _ made

/-- A rendering in a frame answers its request. -/
theorem conclude_answers (scope : Scope σ) (slot : Slot) (r : Request) (reply : Json) (o : σ)
    {response : Response} (made : (Rendering.conclude scope slot r reply o).1 = .ok response) :
    response.seq = r.seq ∧ response.command = r.command := by
  rw [Rendering.conclude] at made
  split at made
  · exact answerFromSlot_answers scope slot r o made
  · cases made
    exact ⟨rfl, rfl⟩

/-- What becomes of a request by its command: the bridge answers it, or it is to be passed on. -/
inductive ConsideredAs (s : Session) (r : Request) (o : σ) : Progress × σ → Prop where
  /-- The bridge answers it. -/
  | answered {response : Response} {o' : σ} (seq : response.seq = r.seq) (command : response.command = r.command)
      (other : r.command ≠ "initialize")
      (own : callFor s.address s.threads.anyStopped (Slot.ofId (out.slotId o).1) r = none ∨ s.worker = none) :
      ConsideredAs s r o (.answered response.toJson, o')
  /-- It is to be passed on. -/
  | passed {call : Call} {o' : σ}
      (planned : callFor s.address s.threads.anyStopped (Slot.ofId (out.slotId o).1) r = some call) :
      ConsideredAs s r o (.waiting call, o')

/-- What becomes of a request that a handler takes. -/
theorem consult_cases (s : Session) {r : Request} {h : Handler} (named : r.command = h.command) (o : σ) :
    ConsideredAs out s r o (s.consult out r h o) := by
  have other : r.command ≠ "initialize" := by
    rw [named]
    cases h <;> decide
  cases h with
  | inspectVariables => exact .answered rfl rfl other (.inl (by simp [callFor, named, Handler.command]))
  | configurationDone => exact .answered rfl rfl other (.inl (by simp [callFor, named, Handler.command]))
  | attach => exact .passed (by simp [callFor, named, Handler.command])
  | richInspectVariables =>
      simp only [consult]
      split
      · next e plan => exact .answered rfl rfl other (.inl (by simp [callFor, named, Handler.command, plan]))
      · next subject plan =>
          obtain ⟨response, told, seq, command⟩ := settle_answers fun _ made =>
            renderDirectly_answers out.scope (Slot.ofId (out.slotId o).1) subject r (out.slotId o).2 made
          rw [told]
          exact .answered seq command other (.inl (by simp [callFor, named, Handler.command, plan]))
      · next sent plan => exact .passed (by simp [callFor, named, Handler.command, plan])

/-- Every request is answered by the bridge or passed on, as `callFor` says. -/
theorem consider_cases (s : Session) (r : Request) (o : σ) : ConsideredAs out s r o (s.consider out r o) := by
  simp only [consider]
  split
  · next command => exact .answered rfl rfl (by rw [command]; decide) (.inl (by simp [callFor, command]))
  · next command =>
      obtain ⟨seq, same⟩ := dumpCell_answers out s r o
      exact .answered seq same (by rw [command]; decide) (.inl (by simp [callFor, command]))
  · next command => exact .passed (by simp [callFor, command])
  · next command => exact .passed (by simp [callFor, command])
  · next notDebugInfo notDumpCell notSetBreakpoints notDisconnect =>
      split
      · next h found =>
          have named := Handler.command_of_lookup found
          split
          · next refused =>
              have stopped : s.isStarted = false := by simpa using (Bool.and_eq_true_iff.mp refused).2
              refine .answered rfl rfl ?_ (.inr (isStarted_eq_false_iff.mp stopped))
              rw [named]
              cases h <;> decide
          · exact consult_cases out s named o
      · next absent =>
          have other := Handler.ne_of_lookup_eq_none absent
          have noInspect : r.command ≠ "inspectVariables" := other .inspectVariables
          have noRender : r.command ≠ "richInspectVariables" := other .richInspectVariables
          have noAttach : r.command ≠ "attach" := other .attach
          have noDone : r.command ≠ "configurationDone" := other .configurationDone
          refine .passed ?_
          rw [callFor]
          split <;> first | rfl | contradiction

/-- A request to initialize is passed on as it is, whatever the session's state. -/
theorem callFor_of_initializing {r : Request} (command : r.command = "initialize") (address : Address) (stopped : Bool)
    (slot : Slot) : callFor address stopped slot r = some ⟨r, r.toJson, .answer⟩ := by
  simp [callFor, command]

/-- A request to initialize is passed on as it is. -/
theorem consider_of_initializing (s : Session) {r : Request} (command : r.command = "initialize") (o : σ) :
    s.consider out r o = (.waiting ⟨r, r.toJson, .answer⟩, o) := by
  have absent : Handler.lookup "initialize" = none := by decide
  simp [consider, command, absent]

/-- A request that a handler takes is the handler's, if it is allowed in the session's state. -/
theorem consider_of_handler (s : Session) {r : Request} (h : Handler) (named : r.command = h.command)
    (allowed : h.isUserFacing = true → s.isStarted = true) (o : σ) : s.consider out r o = s.consult out r h o := by
  have found : Handler.lookup h.command = some h := by cases h <;> decide
  have free : (h.isUserFacing && !s.isStarted) = false := by
    cases facing : h.isUserFacing with
    | false => rfl
    | true => rw [allowed facing]; rfl
  simp only [consider]
  split
  · next command => exact absurd (named.symm.trans command) (by cases h <;> decide)
  · next command => exact absurd (named.symm.trans command) (by cases h <;> decide)
  · next command => exact absurd (named.symm.trans command) (by cases h <;> decide)
  · next command => exact absurd (named.symm.trans command) (by cases h <;> decide)
  · rw [named, found]
    simp only [free, Bool.false_eq_true, if_false]

/-- What the bridge answers at once leaves the session as it is. -/
theorem begin_of_answered {s : Session} {message : Json} {r : Request} (read : Request.ofJson? message = .ok r)
    (other : r.command ≠ "initialize") {reply : Json} {o o' : σ}
    (considered : s.consider out r o = (.answered reply, o')) (header : Json) (early : List Arrival) :
    s.begin out header message early o = (.answered reply, s, o') := by
  simp only [Session.begin, read, beginRequest, prepare, if_neg other, considered]

/-- What is to be passed on is forwarded. -/
theorem begin_of_passed {s : Session} {message : Json} {r : Request} (read : Request.ofJson? message = .ok r)
    (other : r.command ≠ "initialize") {call : Call} {o o' : σ}
    (considered : s.consider out r o = (.waiting call, o')) (header : Json) (early : List Arrival) :
    s.begin out header message early o = s.forward out header early call o' := by
  simp only [Session.begin, read, beginRequest, prepare, if_neg other, considered]

/-- What becomes of any message of the front end at once. -/
theorem begin_cases (s : Session) (header message : Json) (early : List Arrival) (o : σ) :
    BegunAs out s header message early o (s.begin out header message early o) := by
  rw [Session.begin]
  split
  · next e refused => exact .malformed refused
  · next r read =>
      simp only [beginRequest, prepare]
      by_cases command : r.command = "initialize"
      · rw [if_pos command]
        split
        · next e next o' failed => exact .notStarted read command failed
        · next ready o' started =>
            rw [consider_of_initializing out ready command]
            exact .forwarded read (callFor_of_initializing command _ _ _) (.inl ⟨command, started⟩)
      · rw [if_neg command]
        have considered := consider_cases out s r o
        simp only
        generalize s.consider out r o = outcome at considered ⊢
        cases considered with
        | answered seq same other own => exact .answered read seq same other own
        | passed planned => exact .forwarded read planned (.inr ⟨command, rfl⟩)

/-! ## Calls -/

/-- What a call is passed on for: a rendering goes to the adapter as a message of its own, everything else
under the number and the command of the request. -/
theorem callFor_cases {address : Address} {stopped : Bool} {slot : Slot} {r : Request} {call : Call}
    (planned : callFor address stopped slot r = some call) :
    call.request = r ∧
      ((r.command = "richInspectVariables" ∧ call.purpose = .rendering slot ∧
          Rendering.plan stopped slot r = .inFrame call.sent) ∨
        (r.command ≠ "richInspectVariables" ∧ (∀ slot, call.purpose ≠ .rendering slot) ∧
          (call.purpose = .disconnect → r.command = "disconnect") ∧
          (call.purpose = .breakpoints → r.command = "setBreakpoints") ∧
          call.sent = if r.command = "attach" then (r.attachTo address).toJson else r.toJson)) := by
  rw [callFor] at planned
  split at planned
  · cases planned
  · cases planned
  · cases planned
  · cases planned
  · next command =>
      split at planned
      · next message plan =>
          cases planned
          exact ⟨rfl, .inl ⟨command, rfl, plan⟩⟩
      · cases planned
  · next command =>
      cases planned
      exact ⟨rfl, .inr ⟨by rw [command]; decide, nofun, nofun, nofun, by rw [if_pos command]⟩⟩
  · next command =>
      cases planned
      exact ⟨rfl, .inr ⟨by rw [command]; decide, nofun, nofun, fun _ => command,
        by rw [if_neg (by rw [command]; decide)]⟩⟩
  · next command =>
      cases planned
      exact ⟨rfl, .inr ⟨by rw [command]; decide, nofun, fun _ => command, nofun,
        by rw [if_neg (by rw [command]; decide)]⟩⟩
  · next noRender noAttach _ _ =>
      cases planned
      exact ⟨rfl, .inr ⟨noRender, nofun, nofun, nofun, by rw [if_neg noAttach]⟩⟩

/-- Breakpoints are remembered after a success only. -/
theorem recordBreakpoints_cases (s : Session) (r : Request) (reply : Json) :
    s.recordBreakpoints r reply = s ∨
      reply.getBool? "success" = some true ∧ ∃ breakpoints, s.recordBreakpoints r reply = { s with breakpoints } := by
  rw [recordBreakpoints]
  split
  · next success =>
      split
      · exact .inl rfl
      · exact .inr ⟨success, _, rfl⟩
  · exact .inl rfl

/-- The state of the session after a call's end. -/
theorem conclude_session (s : Session) (call : Call) (result : Except Error Json) (o : σ) :
    (s.conclude out call result o).2.1 = s ∨
      call.purpose = .disconnect ∧ (s.conclude out call result o).2.1 = s.stop ∨
      call.purpose = .breakpoints ∧ (∃ reply, result = .ok reply) ∧
        ∃ breakpoints, (s.conclude out call result o).2.1 = { s with breakpoints } := by
  cases purpose : call.purpose with
  | answer => exact .inl (by simp only [Session.conclude, purpose])
  | disconnect => exact .inr (.inl ⟨rfl, by simp only [Session.conclude, purpose]⟩)
  | rendering slot =>
      refine .inl ?_
      cases result <;> simp only [Session.conclude, purpose]
  | breakpoints =>
      cases result with
      | error e =>
          rcases s.recordBreakpoints_cases call.request (Response.fail call.request e.message).toJson with
            same | ⟨success, -⟩
          · exact .inl (by simp only [Session.conclude, purpose, Call.reply, same])
          · rw [Response.success_fail] at success
            cases success
      | ok reply =>
          rcases s.recordBreakpoints_cases call.request reply with same | ⟨-, breakpoints, changed⟩
          · exact .inl (by simp only [Session.conclude, purpose, Call.reply, same])
          · exact .inr (.inr ⟨rfl, ⟨reply, rfl⟩, breakpoints,
              by simp only [Session.conclude, purpose, Call.reply, changed]⟩)

/-- The answer at a call's end: the adapter's response as it is, unless a rendering was asked for, or a
response of the bridge to the request. -/
theorem conclude_answer (s : Session) (call : Call) (result : Except Error Json) (o : σ) :
    (∃ reply, result = .ok reply ∧ (∀ slot, call.purpose ≠ .rendering slot) ∧
        (s.conclude out call result o).1 = reply) ∨
      ∃ response : Response, (s.conclude out call result o).1 = response.toJson ∧
        response.seq = call.request.seq ∧ response.command = call.request.command := by
  cases result with
  | error e =>
      refine .inr ⟨.fail call.request e.message, ?_, rfl, rfl⟩
      simp only [Session.conclude]
      split <;> rfl
  | ok reply =>
      simp only [Session.conclude]
      split
      · next purpose => exact .inl ⟨reply, rfl, by rw [purpose]; exact nofun, rfl⟩
      · next purpose => exact .inl ⟨reply, rfl, by rw [purpose]; exact nofun, rfl⟩
      · next purpose => exact .inl ⟨reply, rfl, by rw [purpose]; exact nofun, rfl⟩
      · next slot purpose =>
          obtain ⟨response, told, seq, command⟩ := settle_answers fun _ made =>
            conclude_answers out.scope slot call.request reply o made
          exact .inr ⟨response, told, seq, command⟩

end Session
end DebugBridge
