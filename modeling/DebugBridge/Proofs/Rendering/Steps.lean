import DebugBridge.Proofs.Rendering.Paths

/-!
# The steps of a rendering

A call of `richInspectVariables` touches the interpreter when it has its code run and when it reads its slot back. The
adapter touches it once more for the call when it evaluates the message, which may be after the call has given up.
`Progress.advance` takes these steps apart; one after another they are `inspect` again (`advance_inOrder`). Whatever
else is done to the interpreter between them, a step leaves all globals alone but the two of the call's own slot
(`Sound.object_advance`), and what these hold is the call's own until it is read back (`Sound.advance`).
-/

namespace DebugBridge

namespace Interpreter

variable {σ Object : Type} {interpreter : Interpreter σ Object} {slot : Slot} {name : String} {s : σ}

/-- Reading a slot back leaves other names as they are. -/
theorem Lawful.object_takeSlot (law : interpreter.Lawful) (other : name ∉ slot.names) (s : σ) :
    interpreter.object name (Rendering.takeSlot interpreter.toScope slot s).2 = interpreter.object name s := by
  obtain ⟨data, metadata⟩ : name ≠ slot.data ∧ name ≠ slot.metadata := by simpa [Slot.names] using other
  rw [Rendering.takeSlot_state]
  cases (interpreter.take slot.data s).1 with
  | error x => rw [law.object_take, if_neg data]
  | ok rendered => rw [law.object_take, if_neg metadata, law.object_take, if_neg data]

/-- Nothing comes into a slot by taking it out. -/
theorem Lawful.parts_takeSlot_empty (law : interpreter.Lawful) (empty : interpreter.parts slot s = (none, none)) :
    interpreter.parts slot (Rendering.takeSlot interpreter.toScope slot s).2 = (none, none) := by
  obtain ⟨data, -⟩ := Prod.mk.injEq .. ▸ empty
  rw [Rendering.takeSlot_state, law.taken, data]
  simp [parts, law.object_take]

end Interpreter

namespace Rendering

/-- A call of `richInspectVariables`: the number of its slot, whether it finds a thread stopped, and its request. -/
structure Call where
  id : BitVec 128
  stopped : Bool
  request : Request

namespace Call

abbrev slot (call : Call) : Slot := .ofId call.id

abbrev plan (call : Call) : Plan := Rendering.plan call.stopped call.slot call.request

/-- The two names of a call's slot differ. -/
theorem distinct (call : Call) : call.slot.metadata ≠ call.slot.data := Slot.metadata_ne_data call.id

end Call

/-- How far a call has come. -/
inductive Stage where
  /-- It has not begun. -/
  | idle
  /-- It waits for the adapter. -/
  | waiting
  /-- Its evaluation is known to have succeeded. -/
  | ready
  /-- It has returned without a look at its slot. -/
  | returned (outcome : Except Error Response)
  /-- It has returned what it found in its slot, after its own assignment or not. -/
  | readBack (assigned : Bool) (outcome : Except Error Response)

/-- What a call has returned. -/
def Stage.outcome? : Stage → Option (Except Error Response)
  | .idle | .waiting | .ready => none
  | .returned outcome | .readBack _ outcome => some outcome

/-- What has become of the assignment of a call. -/
inductive Duty where
  /-- Nobody was asked for it. -/
  | unasked
  /-- The adapter has a message that asks for it. -/
  | owed (message : Json)
  /-- It was made, or has failed. -/
  | done
deriving DecidableEq

/-- How far a call and its assignment have come. -/
structure Progress where
  stage : Stage
  duty : Duty

/-- What a call does, or is done for it. -/
inductive Action where
  | start
  | evaluate
  | answer (outcome : Except Error Json)
  | readBack

namespace Progress

variable {σ Object : Type} (interpreter : Interpreter σ Object) (call : Call) (p : Progress) (s : σ)

/-- The call looks at its request, and has its code run or its message sent. -/
def start : Progress × σ :=
  match p.stage with
  | .idle =>
    match call.plan with
    | .refuse e => (⟨.returned (.error e), p.duty⟩, s)
    | .direct subject =>
      match interpreter.exec (call.slot.directCode subject) s with
      | (.error x, s) => (⟨.returned (.error (.interpreter x)), .done⟩, s)
      | (.ok (), s) => (⟨.ready, .done⟩, s)
    | .inFrame message => (⟨.waiting, .owed message⟩, s)
  | _ => (p, s)

/-- The adapter evaluates the message of the call, whether or not the call still waits. -/
def evaluate : Progress × σ :=
  match p.duty with
  | .owed message => (⟨p.stage, .done⟩, interpreter.obey message s)
  | _ => (p, s)

/-- The call gets an answer of the adapter, or gives up. -/
def answer (outcome : Except Error Json) : Progress :=
  match p.stage, outcome with
  | .waiting, .error e => ⟨.returned (.error e), p.duty⟩
  | .waiting, .ok reply =>
    if reply.getBool? "success" = some true then ⟨.ready, p.duty⟩
    else ⟨.returned (.ok (.fail call.request ((reply.getString? "message").getD noReason))), p.duty⟩
  | _, _ => p

/-- The call reads its slot back. -/
def readBack : Progress × σ :=
  match p.stage with
  | .ready =>
    let (outcome, s) := answerFromSlot interpreter.toScope call.slot call.request s
    (⟨.readBack (p.duty = .done) outcome, p.duty⟩, s)
  | _ => (p, s)

/-- One action. What cannot happen now has no effect. -/
def advance : Action → Progress × σ
  | .start => start interpreter call p s
  | .evaluate => evaluate interpreter p s
  | .answer outcome => (answer call p outcome, s)
  | .readBack => readBack interpreter call p s

/-- One action after another. -/
def advanceAll : List Action → Progress → σ → Progress × σ
  | [], p, s => (p, s)
  | action :: actions, p, s =>
    advanceAll actions (p.advance interpreter call s action).1 (p.advance interpreter call s action).2

end Progress

section Call

variable {σ Object : Type} {interpreter : Interpreter σ Object} {reads : String → List String} {call : Call}
  {origin s : σ} {p : Progress} {subject : String} {names : List String} {message : Json}
  {parts : Option Object × Option Object}

/-- A call whose steps come one after another is `inspect`, with an adapter that evaluates before it answers. -/
theorem advance_inOrder (interpreter : Interpreter σ Object) (call : Call) (reply : Except Error Json) (s : σ) :
    let finished := Progress.advanceAll interpreter call [.start, .evaluate, .answer reply, .readBack]
      ⟨.idle, .unasked⟩ s
    let outcome := inspect interpreter.toScope (fun message s => (reply, interpreter.obey message s)) call.stopped
      call.slot call.request s
    finished.1.stage.outcome? = some outcome.1 ∧ finished.2 = outcome.2 := by
  simp only [Progress.advanceAll, Progress.advance, Progress.start, Call.plan, inspect]
  cases plan call.stopped call.slot call.request with
  | refuse e => exact ⟨rfl, rfl⟩
  | direct subject =>
      simp only [renderDirectly]
      obtain ⟨returned, after⟩ := interpreter.exec (call.slot.directCode subject) s
      cases returned <;> exact ⟨rfl, rfl⟩
  | inFrame message =>
      simp only [Progress.evaluate]
      cases reply with
      | error e => exact ⟨rfl, rfl⟩
      | ok reply =>
          by_cases success : reply.getBool? "success" = some true
          · simp [Progress.answer, Progress.readBack, conclude, success, Stage.outcome?]
          · simp [Progress.answer, Progress.readBack, conclude, success, Stage.outcome?]

/-- The parts are those that a call's own evaluation gives, and are answered as when the call is alone. -/
structure Owns (interpreter : Interpreter σ Object) (call : Call) (origin : σ) (parts : Option Object × Option Object) :
    Prop where
  alone (forward : Forward σ) (obliges : interpreter.Obliges forward) :
    (inspect interpreter.toScope forward call.stopped call.slot call.request origin).1 =
      interpreter.answerParts call.slot call.request parts
  rendered : ∃ subject, call.request.stringArgument "variableName" = .ok subject ∧
    parts = Evaluator.given (interpreter.evaluate (Slot.expression subject) origin).1

/-- A success is made of what the evaluation of the call's own variable gives. -/
theorem Owns.rendered_of_ok (owns : Owns interpreter call origin parts) {response : Response}
    (answered : interpreter.answerParts call.slot call.request parts = .ok response) :
    ∃ subject values, call.request.stringArgument "variableName" = .ok subject ∧
      (interpreter.evaluate (Slot.expression subject) origin).1 = .ok values ∧
      interpreter.answerParts call.slot call.request values = .ok response := by
  obtain ⟨subject, named, given⟩ := owns.rendered
  cases evaluated : (interpreter.evaluate (Slot.expression subject) origin).1 with
  | error x =>
      rw [given, evaluated, Evaluator.given, Interpreter.answerParts_empty] at answered
      cases answered
  | ok values =>
      rw [given, evaluated, Evaluator.given] at answered
      exact ⟨subject, values, named, evaluated, answered⟩

/-- What may be said of the stage that a call has come to, if none had begun in a state before. -/
def Fair (interpreter : Interpreter σ Object) (call : Call) (origin : σ) : Stage → Prop
  | .readBack true outcome => ∃ parts, Owns interpreter call origin parts ∧
      outcome = interpreter.answerParts call.slot call.request parts
  | .readBack false outcome => call.stopped = true ∧ outcome = .error (.slotMissing call.slot.data)
  | .returned outcome => (∀ response, outcome = .ok response → response.success = false) ∧
      (call.stopped = false → ∀ forward,
        (inspect interpreter.toScope forward call.stopped call.slot call.request origin).1 = outcome)
  | .idle | .waiting | .ready => True

/-- The slot of a call is empty before its assignment, and holds what is the call's own from then until it is read
back. -/
structure Sound (interpreter : Interpreter σ Object) (call : Call) (origin : σ) (p : Progress) (s : σ) : Prop where
  idle : p.stage = .idle → p.duty = .unasked
  waiting : p.stage = .waiting → call.stopped = true
  ready : p.stage = .ready → p.duty = .done ∨ call.stopped = true
  owed {message : Json} : p.duty = .owed message → call.plan = .inFrame message
  empty : p.duty ≠ .done → interpreter.parts call.slot s = (none, none)
  filled : p.duty = .done → p.stage = .waiting ∨ p.stage = .ready →
    Owns interpreter call origin (interpreter.parts call.slot s)
  fair : Fair interpreter call origin p.stage

/-- What a call knows of its slot depends on the slot alone. -/
theorem Sound.congr (sound : Sound interpreter call origin p s) {t : σ}
    (same : interpreter.parts call.slot t = interpreter.parts call.slot s) : Sound interpreter call origin p t :=
  { sound with empty := same ▸ sound.empty, filled := same ▸ sound.filled }

/-- A call that has not begun knows its slot for empty. -/
theorem Sound.idle_unasked (alone : interpreter.parts call.slot origin = (none, none)) :
    Sound interpreter call origin ⟨.idle, .unasked⟩ origin where
  idle _ := rfl
  waiting := by simp
  ready := by simp
  owed := by simp
  empty _ := alone
  filled := by simp
  fair := trivial

/-- A call that has returned has no more to do than to leave its slot empty until its assignment. -/
theorem Sound.of_outcome {outcome : Except Error Response} (returned : p.stage.outcome? = some outcome)
    (owed : ∀ {message : Json}, p.duty = .owed message → call.plan = .inFrame message)
    (empty : p.duty ≠ .done → interpreter.parts call.slot s = (none, none))
    (fair : Fair interpreter call origin p.stage) : Sound interpreter call origin p s := by
  have idle : p.stage ≠ .idle := fun same => by simp [same, Stage.outcome?] at returned
  have waiting : p.stage ≠ .waiting := fun same => by simp [same, Stage.outcome?] at returned
  have ready : p.stage ≠ .ready := fun same => by simp [same, Stage.outcome?] at returned
  exact {
    idle := fun same => absurd same idle
    waiting := fun same => absurd same waiting
    ready := fun same => absurd same ready
    owed := owed
    empty := empty
    filled := fun _ under => absurd under (not_or_intro waiting ready)
    fair := fair }

/-- A call that is answered leaves its slot as it is. -/
theorem Sound.answer (sound : Sound interpreter call origin p s) (outcome : Except Error Json) :
    Sound interpreter call origin (p.answer call outcome) s := by
  obtain ⟨stage, duty⟩ := p
  cases stage with
  | waiting =>
      have stopped := sound.waiting rfl
      have gone {outcome : Except Error Response}
          (failed : ∀ response, outcome = .ok response → response.success = false) :
          Sound interpreter call origin ⟨.returned outcome, duty⟩ s :=
        .of_outcome rfl sound.owed sound.empty ⟨failed, by simp [stopped]⟩
      cases outcome with
      | error e => exact gone (by simp)
      | ok reply =>
          by_cases success : reply.getBool? "success" = some true
          · simp only [Progress.answer, success, if_true]
            exact {
              idle := by simp
              waiting := by simp
              ready := fun _ => .inr stopped
              owed := sound.owed
              empty := sound.empty
              filled := fun made _ => sound.filled made (.inl rfl)
              fair := trivial }
          · simp only [Progress.answer, success, if_false]
            exact gone (by simp [Response.fail])
  | idle | ready | returned outcome | readBack assigned outcome => exact sound

variable (law : interpreter.Lawful)
include law

/-- A call that reads its slot back answers by what it found there. -/
theorem Sound.readBack (sound : Sound interpreter call origin p s) :
    Sound interpreter call origin (p.readBack interpreter call s).1 (p.readBack interpreter call s).2 := by
  obtain ⟨stage, duty⟩ := p
  cases stage with
  | ready =>
      have outcome := law.answerFromSlot_eq call.distinct call.request s
      have state : (answerFromSlot interpreter.toScope call.slot call.request s).2 = _ := answerFromSlot_state
      refine .of_outcome rfl sound.owed (fun due => ?_) ?_
      · exact state ▸ law.parts_takeSlot_empty (sound.empty due)
      · by_cases made : duty = .done
        · simp only [Progress.readBack, made, decide_true]
          exact ⟨_, sound.filled made (.inr rfl), outcome⟩
        · rw [sound.empty made, Interpreter.answerParts_empty] at outcome
          simpa [Progress.readBack, Fair, made] using ⟨(sound.ready rfl).resolve_left made, outcome⟩
  | idle | waiting | returned outcome | readBack assigned outcome => exact sound

/-- What the interpreter's own evaluation gives is the call's own, if it has succeeded. -/
theorem Owns.of_direct (renders : interpreter.Renders subject names) (planned : call.plan = .direct subject)
    (alone : interpreter.parts call.slot origin = (none, none))
    (succeeded : (interpreter.evaluate (Slot.expression subject) origin).1 = .ok parts) :
    Owns interpreter call origin parts where
  alone forward _ := by
    rw [law.inspect_direct_ok planned succeeded, law.answerFromSlot_eq call.distinct,
      renders.parts_perform law call.distinct alone, succeeded, Evaluator.given]
  rendered := ⟨subject, (Interpreter.plan_eq_direct_iff.mp planned).2, by rw [succeeded, Evaluator.given]⟩

/-- So is what the adapter's evaluation gives, even if it has failed. -/
theorem Owns.of_inFrame (renders : interpreter.Renders subject names) (planned : call.plan = .inFrame message)
    (named : call.request.stringArgument "variableName" = .ok subject)
    (alone : interpreter.parts call.slot origin = (none, none)) :
    Owns interpreter call origin (Evaluator.given (interpreter.evaluate (Slot.expression subject) origin).1) where
  alone forward obliges := by
    obtain ⟨-, other, frame, same, -, rfl⟩ := Interpreter.plan_eq_inFrame_iff.mp planned
    obtain rfl : subject = other := by simpa [named] using same
    rw [obliges.inspect_inFrame planned, Interpreter.obey_setExpression, law.answerFromSlot_eq call.distinct,
      renders.parts_perform law call.distinct alone]
  rendered := ⟨subject, named, rfl⟩

variable (renders : ∀ subject, call.request.stringArgument "variableName" = .ok subject →
    interpreter.Renders subject (reads subject))
  (alone : interpreter.parts call.slot origin = (none, none))
  (unread : ∀ subject, call.request.stringArgument "variableName" = .ok subject →
    ∀ name ∈ reads subject, interpreter.object name s = interpreter.object name origin)
include renders alone unread

/-- A call begins in an empty slot. -/
theorem Sound.start (sound : Sound interpreter call origin p s) :
    Sound interpreter call origin (p.start interpreter call s).1 (p.start interpreter call s).2 := by
  obtain ⟨stage, duty⟩ := p
  cases stage with
  | idle =>
      obtain rfl : duty = .unasked := sound.idle rfl
      have empty := sound.empty (by simp)
      simp only [Progress.start]
      cases planned : call.plan with
      | refuse e =>
          have refused (forward : Forward σ) :
              (inspect interpreter.toScope forward call.stopped call.slot call.request origin).1 = .error e := by
            simp only [inspect, planned]
          exact .of_outcome rfl (by simp) (fun _ => empty) ⟨by simp, fun _ => refused⟩
      | inFrame message =>
          have stopped := (Interpreter.plan_eq_inFrame_iff.mp planned).1
          exact {
            idle := by simp
            waiting := fun _ => stopped
            ready := by simp
            owed := fun due => planned.trans (congrArg Plan.inFrame (Duty.owed.inj due))
            empty := fun _ => empty
            filled := by simp
            fair := trivial }
      | direct subject =>
          have named := (Interpreter.plan_eq_direct_iff.mp planned).2
          have outcome := (renders subject named).outcome (unread subject named)
          have left : interpreter.parts call.slot (interpreter.perform (call.slot.rendering subject) s).2 = _ :=
            (renders subject named).parts_perform law call.distinct empty
          cases evaluated : (interpreter.evaluate (Slot.expression subject) s).1 with
          | error x =>
              have failed (forward : Forward σ) :
                  (inspect interpreter.toScope forward call.stopped call.slot call.request origin).1 =
                    .error (.interpreter x) := by
                rw [law.inspect_direct_error planned (outcome ▸ evaluated)]
              simp only [law.exec_error evaluated]
              exact .of_outcome rfl (by simp) (fun undone => absurd rfl undone) ⟨by simp, fun _ => failed⟩
          | ok parts =>
              simp only [law.exec_ok evaluated]
              have owns := Owns.of_direct law (renders subject named) planned alone (outcome ▸ evaluated)
              rw [evaluated] at left
              exact {
                idle := by simp
                waiting := by simp
                ready := fun _ => .inl rfl
                owed := by simp
                empty := fun undone => absurd rfl undone
                filled := fun _ _ => left ▸ owns
                fair := trivial }
  | waiting | ready | returned outcome | readBack assigned outcome => exact sound

/-- The adapter evaluates what the call has asked for. -/
theorem Sound.evaluate (sound : Sound interpreter call origin p s) :
    Sound interpreter call origin (p.evaluate interpreter s).1 (p.evaluate interpreter s).2 := by
  obtain ⟨stage, duty⟩ := p
  cases duty with
  | owed message =>
      have planned := sound.owed rfl
      obtain ⟨-, subject, frame, named, -, rfl⟩ := Interpreter.plan_eq_inFrame_iff.mp planned
      have outcome := (renders subject named).outcome (unread subject named)
      have owns := Owns.of_inFrame law (renders subject named) planned named alone
      have left : interpreter.parts call.slot (interpreter.perform (call.slot.rendering subject) s).2 = _ :=
        (renders subject named).parts_perform law call.distinct (sound.empty (by simp))
      rw [outcome] at left
      simp only [Progress.evaluate, Interpreter.obey_setExpression]
      exact {
        idle := fun begun => absurd (sound.idle begun) (by simp)
        waiting := sound.waiting
        ready := fun _ => .inl rfl
        owed := by simp
        empty := fun undone => absurd rfl undone
        filled := fun _ _ => left ▸ owns
        fair := sound.fair }
  | unasked | done => exact sound

/-- Whatever a call does next keeps what is known of it. -/
theorem Sound.advance (sound : Sound interpreter call origin p s) (action : Action) :
    Sound interpreter call origin (p.advance interpreter call s action).1 (p.advance interpreter call s action).2 := by
  cases action with
  | start => exact sound.start law renders alone unread
  | evaluate => exact sound.evaluate law renders alone unread
  | answer outcome => exact sound.answer outcome
  | readBack => exact sound.readBack law

omit alone unread in
/-- An action touches no global but those of the call's own slot. -/
theorem Sound.object_advance (sound : Sound interpreter call origin p s) {name : String}
    (other : name ∉ call.slot.names) (action : Action) :
    interpreter.object name (p.advance interpreter call s action).2 = interpreter.object name s := by
  obtain ⟨stage, duty⟩ := p
  cases action with
  | answer outcome => rfl
  | start =>
      cases stage with
      | idle =>
          simp only [Progress.advance, Progress.start]
          cases planned : call.plan with
          | refuse e => rfl
          | inFrame message => rfl
          | direct subject =>
              have named := (Interpreter.plan_eq_direct_iff.mp planned).2
              have kept : interpreter.object name (interpreter.perform (call.slot.rendering subject) s).2 = _ :=
                (renders subject named).object_perform law other s
              cases evaluated : (interpreter.evaluate (Slot.expression subject) s).1 with
              | error x => simpa only [law.exec_error evaluated] using kept
              | ok parts => simpa only [law.exec_ok evaluated] using kept
      | waiting | ready | returned outcome | readBack assigned outcome => rfl
  | evaluate =>
      cases duty with
      | owed message =>
          obtain ⟨-, subject, frame, named, -, rfl⟩ := Interpreter.plan_eq_inFrame_iff.mp (sound.owed rfl)
          simp only [Progress.advance, Progress.evaluate]
          rw [Interpreter.obey_setExpression]
          exact (renders subject named).object_perform law other s
      | unasked | done => rfl
  | readBack =>
      cases stage with
      | ready =>
          have state : (answerFromSlot interpreter.toScope call.slot call.request s).2 = _ := answerFromSlot_state
          simp only [Progress.advance, Progress.readBack]
          rw [state]
          exact law.object_takeSlot other s
      | idle | waiting | returned outcome | readBack assigned outcome => rfl

end Call

end Rendering
end DebugBridge
