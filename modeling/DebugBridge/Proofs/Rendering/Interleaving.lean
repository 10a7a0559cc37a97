import DebugBridge.Proofs.Rendering.Steps

/-!
# Renderings at the same time

Calls of `richInspectVariables` share the interpreter, one at a time. However the steps of any number of them come
between each other, evaluations of messages after their calls have given up included, no call notices the others
(`slots_unshared`): every step keeps to the globals of its call's own slot, and those of different numbers are
different.
-/

namespace DebugBridge.Rendering

/-- Calls and the interpreter that they share. -/
structure System (ι σ : Type) where
  progress : ι → Progress
  state : σ

namespace System

variable {ι σ Object : Type} [DecidableEq ι] (interpreter : Interpreter σ Object) (calls : ι → Call)

/-- An action of one of the calls. -/
def step (system : System ι σ) (event : ι × Action) : System ι σ :=
  let (p, s) := (system.progress event.1).advance interpreter (calls event.1) system.state event.2
  ⟨Function.update system.progress event.1 p, s⟩

/-- The calls and the interpreter after any row of actions, from a state in which no call has begun. -/
def run (schedule : List (ι × Action)) (s : σ) : System ι σ :=
  schedule.foldl (step interpreter calls) ⟨fun _ => ⟨.idle, .unasked⟩, s⟩

variable {interpreter calls} {reads : String → List String} {origin : σ} {system : System ι σ}

/-- Every call has its own slot as it should be, and what is in no slot is as it was. -/
structure Steady (interpreter : Interpreter σ Object) (calls : ι → Call) (origin : σ) (system : System ι σ) : Prop where
  rest (name : String) (apart : ∀ i, name ∉ (calls i).slot.names) :
    interpreter.object name system.state = interpreter.object name origin
  sound (i : ι) : Sound interpreter (calls i) origin (system.progress i) system.state

variable (law : interpreter.Lawful)
  (renders : ∀ i subject, (calls i).request.stringArgument "variableName" = .ok subject →
    interpreter.Renders subject (reads subject))
  (distinct : Function.Injective fun i => (calls i).id)
  (unread : ∀ i subject, (calls i).request.stringArgument "variableName" = .ok subject →
    ∀ name ∈ reads subject, ∀ j, name ∉ (calls j).slot.names)
  (fresh : ∀ i, ∀ name ∈ (calls i).slot.names, name ∉ interpreter.names origin)
include law renders distinct unread fresh

theorem Steady.step (steady : Steady interpreter calls origin system) (event : ι × Action) :
    Steady interpreter calls origin (step interpreter calls system event) := by
  obtain ⟨i, action⟩ := event
  have kept {name : String} (other : name ∉ (calls i).slot.names) :=
    (steady.sound i).object_advance law (renders i) other action
  refine ⟨fun name apart => (kept (apart i)).trans (steady.rest name apart), fun j => ?_⟩
  by_cases same : j = i
  · subst same
    have advanced := (steady.sound j).advance law (renders j) (law.parts_fresh (fresh j))
      (fun subject named name read => steady.rest name (unread j subject named name read)) action
    simpa [System.step] using advanced
  · have apart := Slot.names_disjoint fun equal => same (distinct equal)
    have untouched := (steady.sound j).congr (Interpreter.parts_congr fun name own => kept (apart own))
    simpa [System.step, Function.update_of_ne same] using untouched

theorem steady_run (schedule : List (ι × Action)) :
    Steady interpreter calls origin (run interpreter calls schedule origin) := by
  -- Induction over the row from its end, as a step adds to what was run before.
  induction schedule using List.reverseRecOn with
  | nil => exact ⟨fun _ _ => rfl, fun i => .idle_unasked (law.parts_fresh (fresh i))⟩
  | append_singleton schedule event ih =>
      rw [run, List.foldl_append]
      exact ih.step law renders distinct unread fresh event

end System

/-- What a call has returned is the call's own. -/
structure Unshared {σ Object : Type} (interpreter : Interpreter σ Object) (call : Call) (origin : σ) (stage : Stage) :
    Prop where
  /-- A call that reads back after its assignment returns what it returns when it is alone. -/
  alone {outcome : Except Error Response} (returned : stage = .readBack true outcome) (forward : Forward σ)
    (obliges : interpreter.Obliges forward) :
    outcome = (inspect interpreter.toScope forward call.stopped call.slot call.request origin).1
  /-- So does every call that finds no thread stopped. -/
  direct {outcome : Except Error Response} (running : call.stopped = false) (returned : stage.outcome? = some outcome)
    (forward : Forward σ) (obliges : interpreter.Obliges forward) :
    outcome = (inspect interpreter.toScope forward call.stopped call.slot call.request origin).1
  /-- A success is that of a call that reads back after its assignment. -/
  assigned {response : Response} (returned : stage.outcome? = some (.ok response)) (success : response.success = true) :
    stage = .readBack true (.ok response)
  /-- A success is made of the rendering of the call's own variable. -/
  rendered {response : Response} (returned : stage.outcome? = some (.ok response)) (success : response.success = true) :
    ∃ subject parts, call.request.stringArgument "variableName" = .ok subject ∧
      (interpreter.evaluate (Slot.expression subject) origin).1 = .ok parts ∧
      interpreter.answerParts call.slot call.request parts = .ok response

/-- What is known of a stage is what was promised of its call. -/
theorem Fair.unshared {σ Object : Type} {interpreter : Interpreter σ Object} {call : Call} {origin : σ} {stage : Stage}
    (fair : Fair interpreter call origin stage) : Unshared interpreter call origin stage := by
  cases stage with
  | idle | waiting | ready =>
      exact ⟨by simp, by simp [Stage.outcome?], by simp [Stage.outcome?], by simp [Stage.outcome?]⟩
  | returned outcome =>
      obtain ⟨failed, alone⟩ := fair
      have never {response : Response} (returned : (Stage.returned outcome).outcome? = some (.ok response)) :
          response.success = false := failed response (Option.some.inj returned)
      refine ⟨by simp, ?_, fun returned success => ?_, fun returned success => ?_⟩
      · intro _ running returned forward _
        rw [← Option.some.inj returned, alone running forward]
      · simp [never returned] at success
      · simp [never returned] at success
  | readBack assigned outcome =>
      cases assigned with
      | false =>
          obtain ⟨stopped, rfl⟩ := fair
          exact ⟨by simp, by simp [stopped], by simp [Stage.outcome?], by simp [Stage.outcome?]⟩
      | true =>
          obtain ⟨parts, owns, rfl⟩ := fair
          refine ⟨?_, ?_, fun returned _ => ?_, fun returned _ => ?_⟩
          · intro _ returned forward obliges
            rw [← (Stage.readBack.inj returned).2, owns.alone forward obliges]
          · intro _ _ returned forward obliges
            rw [← Option.some.inj returned, owns.alone forward obliges]
          · rw [Option.some.inj returned]
          · exact owns.rendered_of_ok (Option.some.inj returned)

/-- However the steps of calls with different numbers come between each other, none of them notices another. -/
theorem slots_unshared {ι σ Object : Type} [DecidableEq ι] {interpreter : Interpreter σ Object} {calls : ι → Call}
    {reads : String → List String} {origin : σ} (law : interpreter.Lawful)
    (renders : ∀ i subject, (calls i).request.stringArgument "variableName" = .ok subject →
      interpreter.Renders subject (reads subject))
    (distinct : Function.Injective fun i => (calls i).id)
    (unread : ∀ i subject, (calls i).request.stringArgument "variableName" = .ok subject →
      ∀ name ∈ reads subject, ∀ j, name ∉ (calls j).slot.names)
    (fresh : ∀ i, ∀ name ∈ (calls i).slot.names, name ∉ interpreter.names origin)
    (schedule : List (ι × Action)) (i : ι) :
    Unshared interpreter (calls i) origin ((System.run interpreter calls schedule origin).progress i).stage :=
  ((System.steady_run law renders distinct unread fresh schedule).sound i).fair.unshared

section Sample

open Interpreter

/-- Two calls for the sample variable, of which one finds a thread stopped. -/
def sampleCalls (stopped : Bool) : Call :=
  ⟨if stopped then 1 else 0, stopped, sampleRequest⟩

/-- The call that finds a thread stopped gives up, and its message is evaluated while the other is under way. -/
def sampleSchedule : List (Bool × Action) :=
  [(true, .start), (true, .answer (.error (.timeout (.ofMillis 5000)))), (false, .start), (true, .evaluate),
    (false, .readBack)]

/-- The other call comes to its end all the same, if its own evaluation succeeds. -/
theorem outcome_sampleSchedule {σ Object : Type} {interpreter : Interpreter σ Object} {calls : Bool → Call} {s : σ}
    {subject : String} {message : Json} {parts : Option Object × Option Object} (law : interpreter.Lawful)
    (direct : (calls false).plan = .direct subject) (inFrame : (calls true).plan = .inFrame message)
    (succeeded : (interpreter.evaluate (Slot.expression subject) s).1 = .ok parts) :
    ((System.run interpreter calls sampleSchedule s).progress false).stage.outcome?.isSome := by
  have executed := law.exec_ok succeeded (calls false).id
  simp [System.run, System.step, sampleSchedule, Progress.advance, Progress.start, Progress.answer, Progress.evaluate,
    Progress.readBack, direct, inFrame, executed, Stage.outcome?]

theorem outcome_sampleCall {stage : Stage} (unshared : Unshared dictionary (sampleCalls false) plainGlobals stage)
    (ended : stage.outcome?.isSome) : stage.outcome? = some (.ok plainAnswer) := by
  obtain ⟨outcome, returned⟩ := Option.isSome_iff_exists.mp ended
  rw [returned, unshared.direct rfl returned dictionary.obliging dictionary.obliges_obliging]
  exact congrArg some (inspect_plainGlobals dictionary.obliging)

/-- It renders the sample variable. -/
theorem slots_unshared_sampleCalls :
    Unshared dictionary (sampleCalls false) plainGlobals
      ((System.run dictionary sampleCalls sampleSchedule plainGlobals).progress false).stage ∧
    ((System.run dictionary sampleCalls sampleSchedule plainGlobals).progress false).stage.outcome? =
      some (.ok plainAnswer) := by
  have renders (i : Bool) (subject : String)
      (_ : (sampleCalls i).request.stringArgument "variableName" = .ok subject) := renders_dictionary subject
  have unshared : Unshared dictionary (sampleCalls false) plainGlobals
      ((System.run dictionary sampleCalls sampleSchedule plainGlobals).progress false).stage := by
    refine slots_unshared lawful_dictionary renders (by decide +kernel) ?_
      (fun i => fresh_plainGlobals (sampleCalls i).id)
      sampleSchedule false
    intro i subject found name read j
    obtain rfl : "v" = subject := Except.ok.inj (named_sampleRequest.symm.trans found)
    rw [List.mem_singleton.mp read]
    exact sample_not_mem_names (sampleCalls j).id
  have framed : (sampleCalls true).request.intArgument "frameId" = .ok 2 := by decide +kernel
  have ended := outcome_sampleSchedule lawful_dictionary
    (plan_eq_direct_iff.mpr ⟨rfl, named_sampleRequest⟩ : (sampleCalls false).plan = .direct "v")
    (plan_eq_inFrame_iff.mpr ⟨rfl, "v", 2, named_sampleRequest, framed, rfl⟩) evaluate_plainGlobals
  exact ⟨unshared, outcome_sampleCall unshared ended⟩

end Sample

end DebugBridge.Rendering
