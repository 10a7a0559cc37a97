import DebugBridge.Proofs.Bridge.Calls
import DebugBridge.Proofs.Bridge.History
import DebugBridge.Proofs.Bridge.Lifecycle
import DebugBridge.Proofs.Session.Dispatch
import DebugBridge.Proofs.Threads.Tracking

/-!
# Threads over a run of a bridge

Which threads are stopped is told by the events that relays made known since the threads were last forgotten. They are
forgotten in two steps, first those that are stopped and then those that are known, and an event may fall between them
if a worker was left behind. `Hearsay` keeps apart what was told between the two steps and what was told since; where
nothing was told between them, the list of a `debugInfo` reply is exact (`stopped_threads`).
-/

namespace DebugBridge

/-! ## What relays make known -/

namespace Relay

/-- The event of the adapter that an input is. -/
def Input.event? : Input → Option Json
  | .adapter message => if Kind.of? message = some .event then some message else none
  | _ => none

/-- Of an input the relay makes known what is an event of the adapter. -/
theorem events_react (r : Relay) (written : Except Error Unit) (i : Input) :
    (r.react written i).2.filterMap Output.event? = i.event?.toList := by
  cases i with
  | header frame | adapterLost => rfl
  | request frame =>
      rcases r.react_request written frame with
        ⟨e, -, done⟩ | ⟨message, read, ⟨lost, done⟩ | ⟨alive, phase, done⟩⟩
      · rw [done]
        rfl
      · rw [done]
        rfl
      · rw [done]
        cases written <;> rfl
  | adapter message =>
      simp only [react, onMessage]
      split
      · next kind =>
          simp only [onEvent, Input.event?, kind, if_true]
          split
          · split
            · cases written <;> rfl
            · rfl
          · rfl
      · next kind =>
          simp only [onResponse, Input.event?, kind]
          split <;> rfl
      · next kind =>
          simp only [Input.event?, kind]
          cases written <;> rfl
      · next kind =>
          simp only [Input.event?, kind]
          rfl

/-- A run makes known the events among its inputs, in order. -/
theorem events_runWith (r : Relay) (inputs : List (Input × Except Error Unit)) :
    (r.runWith inputs).2.filterMap Output.event? = inputs.filterMap fun p => p.1.event? := by
  induction inputs generalizing r with
  | nil => rfl
  | cons p inputs ih =>
      obtain ⟨i, written⟩ := p
      rw [runWith_cons, List.filterMap_append, ih, events_react]
      cases given : i.event? <;> simp [given]

/-- Whatever is published was made known before, and nothing but a message to be written comes between. -/
def Heralded (outputs : List Output) : Prop :=
  ∀ before header event after, outputs = before ++ .publish header event :: after →
    ∃ earlier between, before = earlier ++ .observe event :: between ∧ ∀ o ∈ between, ∃ m, o.tried? = some m

/-- Rows in which every event is made known before it is published can be joined. -/
theorem Heralded.append {first second : List Output} (left : Heralded first) (right : Heralded second) :
    Heralded (first ++ second) := by
  intro before header event after shape
  rcases List.append_eq_append_iff.mp shape with ⟨more, rfl, rest⟩ | ⟨more, rfl, rest⟩
  · obtain ⟨earlier, between, rfl, quiet⟩ := right _ _ _ _ rest
    exact ⟨first ++ earlier, between, by simp, quiet⟩
  · cases more with
    | nil =>
        obtain ⟨earlier, between, none, -⟩ := right [] _ _ _ rest.symm
        cases earlier <;> cases none
    | cons o more =>
        obtain ⟨rfl, -⟩ := List.cons_eq_cons.mp rest
        exact left _ _ _ _ rfl

/-- Such a row may be cut short anywhere. -/
theorem Heralded.of_prefix {first second : List Output} (heralded : Heralded (first ++ second)) : Heralded first := by
  rintro before header event after rfl
  exact heralded before header event (after ++ second) (by simp)

/-- A row without published events is such a row. -/
theorem heralded_of_unpublished {outputs : List Output} (none : ∀ header event, .publish header event ∉ outputs) :
    Heralded outputs := by
  rintro before header event after rfl
  exact absurd (List.mem_append_right before List.mem_cons_self) (none header event)

/-- Trying to write is not publishing. -/
theorem publish_ne_attempt (written : Except Error Unit) (header event message : Json) :
    Output.publish header event ≠ attempt written message := by
  cases written <;> exact Output.noConfusion

/-- The relay makes an event known before it publishes it. -/
theorem heralded_react (r : Relay) (written : Except Error Unit) (i : Input) : Heralded (r.react written i).2 := by
  cases i with
  | header frame | adapterLost => exact heralded_of_unpublished fun header event => List.not_mem_nil
  | request frame =>
      apply heralded_of_unpublished
      intro header event
      rcases r.react_request written frame with
        ⟨e, -, done⟩ | ⟨message, read, ⟨lost, done⟩ | ⟨alive, phase, done⟩⟩
      · simp [done]
      · simp [done]
      · cases written <;> simp [done]
  | adapter message =>
      have done := r.react_adapter written message
      generalize (r.react written (.adapter message)).2 = outputs at done ⊢
      cases done with
      | nothing | passedBack kind | refused =>
          exact heralded_of_unpublished fun header event => by simp [publish_ne_attempt]
      | published header =>
          intro before header' event after shape
          match before with
          | [] => cases shape
          | [first] =>
              cases shape
              exact ⟨[], [], rfl, List.forall_mem_nil _⟩
          | _ :: _ :: _ => simp at shape
      | completed seq header =>
          intro before header' event after shape
          match before with
          | [] => cases shape
          | [first] =>
              simp only [List.cons_append, List.nil_append, List.cons.injEq] at shape
              exact (publish_ne_attempt _ _ _ _ shape.2.1.symm).elim
          | [first, second] =>
              cases shape
              exact ⟨[], [attempt written (configurationDone seq)], rfl, by simp⟩
          | _ :: _ :: _ :: _ => simp at shape

/-- So it does in the course of any inputs. -/
theorem heralded_runWith (r : Relay) (inputs : List (Input × Except Error Unit)) : Heralded (r.runWith inputs).2 := by
  induction inputs generalizing r with
  | nil =>
      intro before header event after shape
      cases before <;> cases shape
  | cons p inputs ih =>
      rw [runWith_cons]
      exact (heralded_react r p.2 p.1).append (ih _)

end Relay

/-! ## What was told of threads -/

/-- The threads after something was done. -/
def Threads.after (threads : Threads) : Deed → Threads
  | .courier _ (.did (.observe event)) => threads.observe event
  | .forgotStopped => { threads with stopped := [] }
  | .forgotKnown => { threads with known := [] }
  | _ => threads

/-- What was told of threads: between the two steps in which they were last forgotten, and since. `half` is so while the
second step has not been taken. -/
structure Hearsay where
  between : List Json
  since : List Json
  half : Bool
deriving DecidableEq, Repr

namespace Hearsay

/-- Nothing was told. -/
def none : Hearsay := ⟨[], [], false⟩

/-- What was told after something was done. -/
def add (h : Hearsay) : Deed → Hearsay
  | .courier _ (.did (.observe event)) => { h with since := h.since ++ [event] }
  | .forgotStopped => ⟨[], [], true⟩
  | .forgotKnown => ⟨h.between ++ h.since, [], false⟩
  | _ => h

/-- Threads are what was told of them since they were forgotten, if nothing was told between the two steps of that. -/
structure Fits (h : Hearsay) (threads : Threads) : Prop where
  whole : h.half = false → h.between = [] → threads = h.since.foldl Threads.observe .empty
  half : h.half = true → h.since = [] → threads.stopped = []

/-- A deed changes what is told as it changes the threads. -/
theorem fits_add {h : Hearsay} {threads : Threads} (fits : h.Fits threads) (deed : Deed) :
    (h.add deed).Fits (threads.after deed) := by
  have kept {h' : Hearsay} {threads' : Threads} (same : h' = h) (still : threads' = threads) : h'.Fits threads' :=
    same ▸ still ▸ fits
  cases deed with
  | courier n note =>
      rcases note with _ | _ | _ | ⟨_ | _ | _ | event | _⟩ <;> try exact kept rfl rfl
      refine ⟨fun whole apart => ?_, fun _ none => ?_⟩
      · rw [add, List.foldl_append, ← fits.whole whole apart]
        rfl
      · simp [add] at none
  | forgotStopped =>
      refine ⟨fun whole => ?_, fun _ _ => rfl⟩
      cases whole
  | forgotKnown =>
      refine ⟨fun _ apart => ?_, fun half => ?_⟩
      · obtain ⟨before, nothing⟩ := List.append_eq_nil_iff.mp apart
        have stopped : threads.stopped = [] := by
          cases half : h.half with
          | false => rw [fits.whole half before, nothing]; rfl
          | true => exact fits.half half nothing
        simp [Threads.after, add, stopped, Threads.empty]
      · cases half
  | launched lines | sent binding frame | waited result => exact kept rfl rfl

/-- So what is told and the threads stay in step over any deeds. -/
theorem fits_foldl (deeds : List Deed) {h : Hearsay} {threads : Threads} (fits : h.Fits threads) :
    (deeds.foldl add h).Fits (deeds.foldl Threads.after threads) := by
  induction deeds generalizing h threads with
  | nil => exact fits
  | cons deed deeds ih => exact ih (fits_add fits deed)

end Hearsay

/-- A deed keeps the list of stopped threads ascending. -/
theorem Threads.Ascending.after {threads : Threads} (ascending : threads.Ascending) (deed : Deed) :
    (threads.after deed).Ascending := by
  cases deed with
  | courier n note =>
      rcases note with _ | _ | _ | ⟨_ | _ | _ | event | _⟩ <;> try exact ascending
      exact ascending.observe event
  | forgotStopped => exact ⟨.nil, ascending.known⟩
  | forgotKnown => exact ⟨ascending.stopped, .nil⟩
  | launched lines | sent binding frame | waited result => exact ascending

theorem Threads.Ascending.foldl {threads : Threads} (ascending : threads.Ascending) (deeds : List Deed) :
    (deeds.foldl Threads.after threads).Ascending := by
  induction deeds generalizing threads with
  | nil => exact ascending
  | cons deed deeds ih => exact ih (ascending.after deed)

namespace Courier

variable {c : Courier} {s : Session} {done : Courier × Session × List Note}

/-- What a turn makes known changes the threads. -/
theorem Turned.threads (turned : Turned c s done) (n : Nat) :
    done.2.1.threads = (done.2.2.map (Deed.courier n)).foldl Threads.after s.threads := by
  cases turned with
  | @accepted i inbox written relaying free waits =>
      have silent : ∀ note ∈ ({ c with inbox }.accept s.hub written i).2.2, ∀ o, note ≠ .did o := by
        cases i <;> simp [accept, or_imp, forall_and]
      generalize ({ c with inbox }.accept s.hub written i).2.2 = notes at silent ⊢
      simp only
      generalize s.threads = threads
      induction notes with
      | nil => rfl
      | cons note notes ih =>
          obtain ⟨here, others⟩ := List.forall_mem_cons.mp silent
          cases note with
          | did o => exact absurd rfl (here o)
          | _ => exact ih others
  | @acted output doing does => cases output <;> rfl
  | _ => rfl

end Courier

namespace Bridge

variable {σ : Type} {out : Outside σ} {untouched : Bridge σ → Nat → Prop} {b : Bridge σ} {during : Schedule σ}

/-- What was told of threads. -/
def hearsay (b : Bridge σ) : Hearsay :=
  b.deeds.foldl Hearsay.add .none

/-- The threads follow from the deeds, and from nothing else. -/
theorem Reachable.threads (reachable : Reachable out (Allowed untouched) b) :
    b.session.threads = b.deeds.foldl Threads.after .empty := by
  refine reachable.induct (P := fun b => b.session.threads = b.deeds.foldl Threads.after .empty)
    (fun s created o => ?_) fun b next same step => ?_
  · exact (created.sound.idle created.worker).threads
  · have added {next : Bridge σ} (deed : Deed) (deeds : next.deeds = b.deeds ++ [deed])
        (threads : next.session.threads = b.session.threads.after deed) :
        next.session.threads = next.deeds.foldl Threads.after .empty := by
      rw [deeds, List.foldl_append, ← same, threads]
      rfl
    cases step with
    | @happen h allowed =>
        cases h with
        | outside change | elsewhere others => exact same
        | turn n turn =>
            rw [Bridge.happen]
            cases found : b.couriers[n]? with
            | none => exact same
            | some c =>
                have told := (c.take_cases b.session turn).threads n
                simp only
                rw [List.foldl_append, ← same]
                exact told
    | bindRequest bound =>
        obtain ⟨hub, -, rfl⟩ := Session.bindRequest_eq_ok bound
        exact same
    | bindHeader bound =>
        obtain ⟨hub, -, rfl⟩ := Session.bindHeader_eq_ok bound
        exact same
    | send own sent =>
        obtain ⟨hub, -, rfl⟩ := send_eq_ok sent
        exact added _ rfl rfl
    | wait request header =>
        rw [Bridge.wait]
        split
        · exact added _ rfl rfl
        · exact same
    | launch | forgetStopped | forgetKnown => exact added _ rfl rfl
    | outside outside | freeRequest | freeHeader | spawn idle | take own waits | remember breakpoints => exact same

/-! ## Between the moves -/

/-- The threads are not forgotten meanwhile. -/
def Recalls (b next : Bridge σ) : Prop :=
  next.hearsay.half = b.hearsay.half ∧ next.hearsay.between = b.hearsay.between

theorem Recalls.trans {next last : Bridge σ} (first : b.Recalls next) (second : next.Recalls last) : b.Recalls last :=
  ⟨second.1.trans first.1, second.2.trans first.2⟩

/-- As long as no threads are forgotten, all that was told is recalled. -/
theorem recalls_of_deeds {next : Bridge σ} {added : List Deed} (deeds : next.deeds = b.deeds ++ added)
    (none : ∀ deed ∈ added, deed ≠ .forgotStopped ∧ deed ≠ .forgotKnown) : b.Recalls next := by
  rw [Recalls, hearsay, hearsay, deeds, List.foldl_append]
  generalize b.deeds.foldl Hearsay.add .none = h
  clear deeds
  induction added generalizing h with
  | nil => exact ⟨rfl, rfl⟩
  | cons deed added ih =>
      obtain ⟨⟨notStopped, notKnown⟩, others⟩ := List.forall_mem_cons.mp none
      obtain ⟨half, between⟩ := ih others (h.add deed)
      have same : (h.add deed).half = h.half ∧ (h.add deed).between = h.between := by
        cases deed with
        | courier n note => rcases note with _ | _ | _ | ⟨_ | _ | _ | _ | _⟩ <;> exact ⟨rfl, rfl⟩
        | forgotStopped => exact absurd rfl notStopped
        | forgotKnown => exact absurd rfl notKnown
        | launched lines | sent binding frame | waited result => exact ⟨rfl, rfl⟩
      exact ⟨half.trans same.1, between.trans same.2⟩

theorem recalls_of_same {next : Bridge σ} (deeds : next.deeds = b.deeds) : b.Recalls next :=
  recalls_of_deeds (deeds.trans (List.append_nil _).symm) (List.forall_mem_nil _)

/-- Whatever happens beside the control side, it forgets no threads. -/
theorem recalls_happen (b : Bridge σ) (h : Happening σ) : b.Recalls (b.happen h) := by
  cases h with
  | outside change | elsewhere others => exact recalls_of_same rfl
  | turn n turn =>
      rw [happen]
      split
      · exact recalls_of_same rfl
      · refine recalls_of_deeds rfl fun deed among => ?_
        obtain ⟨note, -, rfl⟩ := List.mem_map.mp among
        exact ⟨Deed.noConfusion, Deed.noConfusion⟩

/-- So nothing at a place of a call does. -/
theorem recalls_pause (b : Bridge σ) (during : Schedule σ) (p : Point) : b.Recalls (b.pause during p) := by
  rw [pause]
  generalize during p = happenings
  induction happenings generalizing b with
  | nil => exact ⟨rfl, rfl⟩
  | cons h happenings ih => exact (b.recalls_happen h).trans (ih (b.happen h))

theorem recalls_send {s : Socket} {frame : Frame} {next : Bridge σ} (sent : b.send s frame = .ok next) :
    b.Recalls next := by
  obtain ⟨hub, -, rfl⟩ := send_eq_ok sent
  exact recalls_of_deeds rfl (by simp)

/-- Binding endpoints forgets no threads. -/
theorem recalls_bindControl (b : Bridge σ) (during : Schedule σ) : b.Recalls (b.bindControl during).2 := by
  rw [bindControl]
  split
  · exact recalls_of_same rfl
  · next session first =>
      have half : b.Recalls ({ b with session }.pause during .halfBound) :=
        (recalls_of_same rfl : b.Recalls { b with session }).trans (recalls_pause _ during .halfBound)
      simp only
      split <;> exact half.trans (recalls_of_same rfl)

/-- Asking a worker forgets no threads. -/
theorem recalls_startWorker (b : Bridge σ) (during : Schedule σ) : b.Recalls (b.startWorker during).2 := by
  have spawned : b.Recalls b.spawn := recalls_of_same rfl
  rw [startWorker]
  split
  · exact spawned
  · next next sent =>
      have asked := (spawned.trans (recalls_send sent)).trans (recalls_pause next during .asked)
      simp only
      split
      · exact asked
      · split <;> exact asked.trans (recalls_of_same rfl)

/-- While no worker is at work nothing is done beside the control side. -/
theorem deeds_pause_of_idle (attended : b.Attended) (idle : b.session.worker = none) {p : Point}
    (prompt : (b.pause during p).Prompt) : (b.pause during p).deeds = b.deeds := by
  rw [pause] at prompt ⊢
  generalize during p = happenings at prompt ⊢
  induction happenings generalizing b with
  | nil => rfl
  | cons h happenings ih =>
      have later : (b.happen h).deeds <+: ((h :: happenings).foldl happen b).deeds :=
        deeds_pause (b.happen h) (fun _ => happenings) .logged
      have still : (b.happen h).session.worker = none := (Session.worker_of_control (b.control_happen h)).trans idle
      have now : b.Prompt := (prompt.of_deeds later).of_deeds (b.deeds_happen h)
      rw [List.foldl_cons, ih (attended.happen h) still prompt]
      cases h with
      | outside change | elsewhere others => rfl
      | turn n turn =>
          rw [turn_of_ended fun c found => attended.done now idle found]

/-- The threads are forgotten as a whole, unless a worker that was left behind tells of one in between. -/
structure Whole (b : Bridge σ) : Prop where
  whole : b.hearsay.half = false
  apart : b.Prompt → b.hearsay.between = []

/-- What forgets no threads leaves none half forgotten. -/
theorem Whole.of_recalls {next : Bridge σ} (whole : b.Whole) (recalls : b.Recalls next)
    (deeds : b.deeds <+: next.deeds) : next.Whole :=
  ⟨recalls.1.trans whole.whole, fun prompt => recalls.2.trans (whole.apart (prompt.of_deeds deeds))⟩

/-- Once a session is shut down its threads are forgotten as a whole, unless a worker that was left behind tells of
one in between. -/
theorem whole_shutDown (attended : b.Attended) (during : Schedule σ) : (b.shutDown during).Whole := by
  have left : (b.pause during .leaving).freeRequest.Attended :=
    (attended_pause attended during .leaving).of_same List.prefix_rfl rfl rfl
  have free : ((b.pause during .leaving).freeRequest.pause during .halfFree).freeHeader.Attended :=
    (attended_pause left during .halfFree).of_same List.prefix_rfl rfl rfl
  have ended := (attended_pause free during .waiting).wait
  simp only [shutDown]
  generalize pause (freeHeader _) during .waiting = b at ended ⊢
  have idle : b.wait.session.worker = none := (congrArg Session.worker b.control_wait :)
  have forgot : b.wait.forgetStopped.Attended := ended.of_same (List.prefix_append ..) rfl rfl
  have forgotten : b.wait.forgetStopped.hearsay = ⟨[], [], true⟩ := by
    rw [hearsay, forgetStopped, done, List.foldl_append]
    rfl
  have recalls := recalls_pause b.wait.forgetStopped during .halfForgotten
  have quiet {p : Point} := @deeds_pause_of_idle _ _ during forgot idle p
  rw [Recalls, forgotten] at recalls
  generalize later : pause b.wait.forgetStopped during .halfForgotten = half at recalls
  have known : half.forgetKnown.hearsay = ⟨half.hearsay.between ++ half.hearsay.since, [], false⟩ := by
    rw [hearsay, forgetKnown, done, List.foldl_append]
    rfl
  refine ⟨by rw [known], fun prompt => ?_⟩
  have deeds := quiet (by rw [later]; exact prompt.of_deeds (List.prefix_append ..))
  rw [later] at deeds
  rw [known, hearsay, deeds]
  change b.wait.forgetStopped.hearsay.between ++ b.wait.forgetStopped.hearsay.since = []
  rw [forgotten]
  rfl

/-- A stride that forgets threads forgets them as a whole. -/
theorem Whole.stride {next : Bridge σ} (whole : b.Whole) (settled : b.Settled) (attended : b.Attended)
    (stride : Stride out (Allowed untouched) b next) : next.Whole := by
  have deeds := Steps.deeds (stride.steps settled.fitted)
  cases stride with
  | happen allowed => exact whole.of_recalls (b.recalls_happen _) deeds
  | launch idle => exact whole.of_recalls (recalls_of_deeds rfl (by simp)) deeds
  | send own sent => exact whole.of_recalls (recalls_send sent) deeds
  | outside outside | take own waits | remember breakpoints bound => exact whole.of_recalls (recalls_of_same rfl) deeds
  | @stop during permits =>
      have cleared : Attended { b with session := { b.session with breakpoints := [] } } :=
        attended.of_same List.prefix_rfl rfl rfl
      exact whole_shutDown cleared during
  | @engage during permits idle =>
      have bound := steps_bindControl out permits b
      have recalls := b.recalls_bindControl during
      have still := b.worker_bindControl during
      rw [Bridge.engage] at deeds ⊢
      split
      · next failed =>
          rw [failed] at deeds recalls
          exact whole.of_recalls recalls deeds
      · next ready free =>
          rw [free] at deeds bound recalls still
          have asked := bound.trans (steps_startWorker out permits (still.trans idle))
          have told := recalls.trans (ready.recalls_startWorker during)
          simp only at deeds ⊢
          split
          · next started =>
              rw [started] at asked told
              exact whole.of_recalls told (Steps.deeds asked)
          · next started =>
              rw [started] at asked
              exact whole_shutDown (Steps.attended asked attended) during

/-- Between the moves, threads have always been forgotten as a whole. -/
theorem Reachable.whole (reachable : Reachable out (Allowed untouched) b) : b.Whole := by
  induction reachable with
  | create created o => exact ⟨rfl, fun _ => rfl⟩
  | @move b prior move allowed ih =>
      have strides := strides_next out b allowed
      have all : (b.next out move).Whole ∧ (b.next out move).Settled ∧ (b.next out move).Attended := by
        generalize b.next out move = last at strides
        induction strides with
        | refl => exact ⟨ih, prior.settled, prior.reached.attended⟩
        | tail before stride kept =>
            obtain ⟨whole, settled, attended⟩ := kept
            exact ⟨whole.stride settled attended stride, settled.stride attended stride,
              Steps.attended (stride.steps settled.fitted) attended⟩
      exact all.1

/-! ## What is listed -/

/-- The list of stopped threads in a reply. -/
def stoppedIn (reply : Json) : Option Json :=
  (reply.get? "body").bind fun body => body.get? "stoppedThreads"

/-- A `debugInfo` reply lists the stopped threads as they are. -/
theorem stoppedIn_debugInfo (s : Session) (r : Request) :
    stoppedIn (s.debugInfo r).toJson = some (.arr (s.threads.stopped.map .int)) := by
  simp [stoppedIn, Session.debugInfo, Response.succeed, Response.toJson, Json.get?_ofMembers]

/-- A `debugInfo` reply lists the threads that are stopped as the call begins. -/
theorem stoppedIn_process (out : Outside σ) (b : Bridge σ) (header : Json) {message : Json} (during : Schedule σ)
    (asks : Session.Asks message "debugInfo") :
    stoppedIn (b.process out header message during).1 = some (.arr (b.session.threads.stopped.map .int)) := by
  obtain ⟨r, read, command⟩ := asks
  simp only [process, read, processRequest, prepare, ask, Session.consider, command]
  exact stoppedIn_debugInfo b.session r

/-- The event that was read from the adapter. -/
def eventIn? (a : Arrival) : Option Json :=
  a.input.event?

/-- A relay makes known the events that were read, in their order, and nothing else. -/
theorem Reachable.known (reachable : Reachable out (Allowed untouched) b) (n : Nat) :
    (outputsOf (b.notesOf n)).filterMap Relay.Output.event? <+: (heardOf (b.notesOf n)).filterMap eventIn? := by
  have chronicled := reachable.reached.chronicled
  rcases Nat.lt_or_ge n b.couriers.length with inside | outside
  · have chronicle := chronicled.couriers n _ (List.getElem?_eq_getElem inside)
    have did : outputsOf (b.notesOf n) <+: (Relay.start.runWith (inputsOf (b.notesOf n))).2 :=
      ⟨_, chronicle.outputs⟩
    have events : (inputsOf (b.notesOf n)).filterMap (fun p => p.1.event?) =
        (arrivalsOf (inputsOf (b.notesOf n))).filterMap eventIn? := by
      rw [arrivalsOf, List.filterMap_filterMap]
      congr 1
      funext p
      rcases p with ⟨_ | _ | _ | _, _⟩ <;> rfl
    refine (did.filterMap Relay.Output.event?).trans ?_
    rw [Relay.events_runWith, events, chronicle.arrivals, List.filterMap_append]
    exact List.prefix_append ..
  · rw [chronicled.unborn n outside]
    exact List.prefix_rfl

/-- An event was made known by a relay before the relay publishes it, and in between the relay writes at most. -/
theorem Reachable.heralded (reachable : Reachable out (Allowed untouched) b) {n : Nat} {before after : List Deed}
    {header event : Json} (published : b.deeds = before ++ .courier n (.did (.publish header event)) :: after) :
    ∃ earlier between, before = earlier ++ .courier n (.did (.observe event)) :: between ∧
      ∀ o, .courier n (.did o) ∈ between → ∃ m, o.tried? = some m := by
  have chronicled := reachable.reached.chronicled
  have member : .did (.publish header event) ∈ b.notesOf n := by
    rw [notesOf, published]
    exact List.mem_filterMap.mpr ⟨_, List.mem_append_right _ List.mem_cons_self, by simp [Deed.note?]⟩
  have inside : n < b.couriers.length := by
    by_contra outside
    rw [chronicled.unborn n (Nat.le_of_not_lt outside)] at member
    cases member
  have chronicle := chronicled.couriers n _ (List.getElem?_eq_getElem inside)
  -- The outputs of one courier, read off the deeds.
  let did (deed : Deed) : Option Relay.Output := (deed.note? n).bind Note.did?
  have outputs : outputsOf (b.notesOf n) = before.filterMap did ++ .publish header event :: after.filterMap did := by
    rw [outputsOf, notesOf, List.filterMap_filterMap, published, List.filterMap_append]
    simp [did, Deed.note?, Note.did?]
  have heralded := Relay.heralded_runWith .start (inputsOf (b.notesOf n))
  rw [← chronicle.outputs] at heralded
  obtain ⟨first, second, split, quiet⟩ := heralded.of_prefix _ _ _ _ outputs
  obtain ⟨earlier, rest, rfl, -, told⟩ := List.filterMap_eq_append_iff.mp split
  obtain ⟨skipped, deed, between, rfl, none, known, others⟩ := List.filterMap_eq_cons_iff.mp told
  have same : deed = .courier n (.did (.observe event)) := by
    cases deed with
    | courier m note =>
        simp only [did, Deed.note?] at known
        split at known
        · next same =>
            subst same
            cases note <;> cases known
            rfl
        · cases known
    | _ => cases known
  refine ⟨earlier ++ skipped, between, by rw [same, List.append_assoc], fun o among => quiet o ?_⟩
  rw [← others]
  exact List.mem_filterMap.mpr ⟨_, among, by simp [did, Deed.note?, Note.did?]⟩

/-- What the front end is told of threads at any point of a run: a `debugInfo` reply lists, in ascending order, the
threads that are stopped by the events that were made known since the session was last stopped, unless one was made
known while the threads were being forgotten, which takes a worker that was left behind. Every event that is read is
made known once, in its order, and before it is published. Messages that are no event of the five names, or lack the
number that such an event needs, change nothing. -/
theorem stopped_threads (reachable : Reachable out (Allowed untouched) b) :
    (∀ (header message : Json) (during : Schedule σ), Session.Asks message "debugInfo" →
      ∃ ids : List Int, stoppedIn (b.process out header message during).1 = some (.arr (ids.map .int)) ∧
        ids.Pairwise (· < ·) ∧
          (b.hearsay.between = [] → ∀ t, t ∈ ids ↔ Threads.StoppedAfter t b.hearsay.since)) ∧
      (b.Prompt → b.hearsay.between = []) ∧
      (∀ n, (outputsOf (b.notesOf n)).filterMap Relay.Output.event? <+: (heardOf (b.notesOf n)).filterMap eventIn?) ∧
      (∀ n before header event after, b.deeds = before ++ .courier n (.did (.publish header event)) :: after →
        ∃ earlier between, before = earlier ++ .courier n (.did (.observe event)) :: between ∧
          ∀ o, .courier n (.did o) ∈ between → ∃ m, o.tried? = some m) ∧
      ∀ (threads : Threads) (message : Json), (∀ t, ¬ Threads.Announces t message ∧ ¬ Threads.Resumes t message) →
        ¬ (Threads.IsEvent "stopped" message ∧ Threads.Flagged "allThreadsStopped" message) →
          threads.observe message = threads := by
  have whole := reachable.whole
  have threads := reachable.threads
  refine ⟨fun header message during asks => ?_, whole.apart, reachable.known,
    fun n before header event after => reachable.heralded, fun threads message => threads.observe_of_silent⟩
  have ascending : b.session.threads.Ascending := by
    rw [threads]
    exact Threads.Ascending.foldl ⟨.nil, .nil⟩ b.deeds
  refine ⟨b.session.threads.stopped, b.stoppedIn_process out header during asks, ascending.stopped, fun apart t => ?_⟩
  have fits : Hearsay.none.Fits .empty := ⟨fun _ _ => rfl, fun half => by cases half⟩
  have told := (Hearsay.fits_foldl b.deeds fits).whole whole.whole apart
  rw [threads, told]
  exact (Threads.tracks b.hearsay.since).2.2 t

/-- An event that tells of threads. -/
def threadEvent (name : String) (body : List (String × Json)) : Json :=
  Json.ofMembers [("type", .str "event"), ("event", .str name), ("body", Json.ofMembers body)]

/-- A thread is started, another one stops together with all, and goes on alone. -/
def sampleEvents : List Json :=
  [threadEvent "thread" [("threadId", .int 2), ("reason", .str "started")],
    threadEvent "stopped" [("threadId", .int 1), ("allThreadsStopped", .bool true)],
    threadEvent "continued" [("threadId", .int 1)]]

/-- A worker hears of an event and tells of it. -/
def tells (n : Nat) (event : Json) : List (Happening Unit) :=
  [.turn n (.hear (.message event)), .turn n (.relay (.ok ())), .turn n .act, .turn n .act]

theorem allowed_tells (untouched : Bridge Unit → Nat → Prop) (n : Nat) {event : Json}
    (exact : event.Exact Json.depthLimit) : ∀ h ∈ tells n event, Allowed untouched h := by
  simp only [tells, List.forall_mem_cons]
  exact ⟨Session.readable_of_exact exact, trivial, trivial, trivial, List.forall_mem_nil _⟩

/-- The running sample after these events. -/
def threadedSample : Bridge Unit :=
  ((sampleEvents.flatMap (tells 0)).map Move.happen).foldl (next Session.obliging) runningSample

/-- Two threads stop and one goes on: the reply lists the other. -/
theorem stopped_threads_threadedSample :
    stoppedIn (threadedSample.process Session.obliging .null (Session.bareRequest 7 "debugInfo") quiet).1 =
        some (.arr [.int 2]) ∧
      Threads.StoppedAfter 2 sampleEvents ∧ ¬ Threads.StoppedAfter 1 sampleEvents := by
  have listed : stoppedIn (threadedSample.process Session.obliging .null (Session.bareRequest 7 "debugInfo") quiet).1 =
      some (.arr [.int 2]) := by decide +kernel
  have hearsay : threadedSample.hearsay = ⟨[], sampleEvents, false⟩ := by decide +kernel
  have exact : ∀ event ∈ sampleEvents, event.Exact Json.depthLimit := by decide +kernel
  have reachable : Reachable Session.obliging (Allowed (fun _ _ => False)) threadedSample := by
    refine Reachable.moves (reachable_runningSample _) fun move member => ?_
    obtain ⟨h, among, rfl⟩ := List.mem_map.mp member
    obtain ⟨event, given, told⟩ := List.mem_flatMap.mp among
    exact allowed_tells _ 0 (exact event given) h told
  obtain ⟨ids, reply, -, stopped⟩ :=
    (stopped_threads reachable).1 .null (Session.bareRequest 7 "debugInfo") quiet (by decide +kernel)
  rw [hearsay] at stopped
  have same : ids = [2] := by
    have rows := Json.arr.inj (Option.some.inj (reply.symm.trans listed))
    match ids with
    | [] => cases rows
    | [n] => cases rows; rfl
    | _ :: _ :: _ => cases rows
  rw [same] at stopped
  exact ⟨listed, (stopped rfl 2).mp (by decide), fun other => absurd ((stopped rfl 1).mpr other) (by decide)⟩

/-- A worker that is left behind tells of a stopped thread while the threads are being forgotten. -/
def stopsBetween : Schedule Unit
  | .halfForgotten => tells 0 stoppedEvent
  | _ => []

/-- The running sample after it is stopped so. -/
def halfForgottenSample : Bridge Unit :=
  runningSample.next Session.obliging (.stop stopsBetween)

/-- That thread is listed after the stop although nothing was told of threads since, and it is not even known. -/
theorem stopped_while_forgotten :
    Reachable Session.obliging (Allowed (fun _ _ => False)) halfForgottenSample ∧
      halfForgottenSample.hearsay.since = [] ∧
      halfForgottenSample.session.threads = ⟨[7], []⟩ := by
  have permits : Permits (Allowed (fun _ _ => False)) stopsBetween := by
    intro p h member
    cases p with
    | halfForgotten => exact allowed_tells _ 0 (by decide +kernel) h member
    | _ => cases member
  exact ⟨.move (reachable_runningSample _) (.stop stopsBetween) permits, by decide +kernel, by decide +kernel⟩

end Bridge
end DebugBridge
