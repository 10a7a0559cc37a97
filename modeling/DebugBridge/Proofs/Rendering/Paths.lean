import DebugBridge.Proofs.Rendering.Interpreter

/-!
# The two paths of a rendering

A variable is rendered by the interpreter itself, or by the adapter while a thread is stopped. An adapter that carries
out what it is asked for leaves the same in the slot as the interpreter does, so both paths come to the same answer
(`paths_agree`). A rendering that fails is noticed at once on one path, and on the other when the slot turns out
to be empty.
-/

namespace DebugBridge.Interpreter

variable {σ Object : Type} {interpreter : Interpreter σ Object} {rename : Equiv.Perm String} {s t : σ}

/-! ## States with the same globals -/

/-- Two states have the same globals, if the names of the one are read as names of the other. -/
structure SameGlobals (interpreter : Interpreter σ Object) (rename : Equiv.Perm String) (s t : σ) : Prop where
  names : interpreter.names t = (interpreter.names s).map rename
  object (name : String) : interpreter.object (rename name) t = interpreter.object name s

namespace SameGlobals

/-- A state has the same globals as itself if none of them is read as another. -/
theorem of_unmoved (law : interpreter.Lawful) (unmoved : ∀ name ∈ interpreter.names s, rename name = name) :
    interpreter.SameGlobals rename s s where
  names := by rw [List.map_congr_left unmoved, List.map_id']
  object name := by
    by_cases same : rename name = name
    · rw [same]
    · have absent : name ∉ interpreter.names s := fun present => same (unmoved name present)
      have absent' : rename name ∉ interpreter.names s :=
        fun present => same (rename.injective (unmoved (rename name) present))
      rw [law.object_eq_none.mpr absent, law.object_eq_none.mpr absent']

variable (law : interpreter.Lawful) (same : interpreter.SameGlobals rename s t)
include law same

/-- The same object is bound to names that correspond. -/
theorem bind (name : String) (o : Object) :
    interpreter.SameGlobals rename (interpreter.bind name o s) (interpreter.bind (rename name) o t) where
  names := by
    have present : rename name ∈ interpreter.names t ↔ name ∈ interpreter.names s := by
      rw [same.names, List.mem_map_of_injective rename.injective]
    rw [law.names_bind, law.names_bind]
    by_cases there : name ∈ interpreter.names s
    · rw [if_pos there, if_pos (present.mpr there), same.names]
    · rw [if_neg there, if_neg (mt present.mp there), same.names, List.map_append, List.map_singleton]
  object other := by
    simp only [law.object_bind, rename.injective.eq_iff, same.object]

/-- The same part is stored under names that correspond. -/
theorem store (name : String) (part : Option Object) :
    interpreter.SameGlobals rename (interpreter.store name part s) (interpreter.store (rename name) part t) := by
  cases part with
  | none => exact same
  | some o => exact same.bind law name o

/-- What is taken away is taken away under both names. -/
theorem take (name : String) : interpreter.SameGlobals rename (interpreter.take name s).2
    (interpreter.take (rename name) t).2 where
  names := by
    rw [law.names_take, law.names_take, same.names, List.filter_map]
    simp [Function.comp_def, rename.injective.eq_iff]
  object other := by
    simp only [law.object_take, rename.injective.eq_iff, same.object]

/-- What is not there can be taken out of one of the states alone. -/
theorem take_absent {name : String} (absent : interpreter.object name t = none) :
    interpreter.SameGlobals rename s (interpreter.take name t).2 where
  names := by
    have others : ∀ other ∈ interpreter.names t, decide (other ≠ name) = true := by
      intro other present
      refine decide_eq_true fun found => ?_
      exact law.object_eq_none.mp absent (found ▸ present)
    rw [law.names_take, List.filter_eq_self.mpr others, same.names]
  object other := by
    rw [law.object_take]
    split
    · next found => rw [← same.object, found, absent]
    · exact same.object other

/-- The same comes of taking it. -/
theorem taken (name : String) : (interpreter.take (rename name) t).1 = (interpreter.take name s).1 := by
  rw [law.taken, law.taken, same.object]

/-- Reading slots back that correspond leaves globals that do. -/
theorem takeSlot {slot other : Slot} (data : rename slot.data = other.data)
    (metadata : rename slot.metadata = other.metadata) :
    interpreter.SameGlobals rename (Rendering.takeSlot interpreter.toScope slot s).2
      (Rendering.takeSlot interpreter.toScope other t).2 := by
  have first := same.take law slot.data
  have outcome := same.taken law slot.data
  rw [Rendering.takeSlot_state, Rendering.takeSlot_state, ← data, ← metadata, outcome]
  cases (interpreter.take slot.data s).1 with
  | error x => exact first
  | ok rendered => exact first.take law slot.metadata

omit law in
/-- Slots that correspond hold the same. -/
theorem parts {slot other : Slot} (data : rename slot.data = other.data)
    (metadata : rename slot.metadata = other.metadata) :
    interpreter.parts other t = interpreter.parts slot s := by
  rw [Interpreter.parts, Interpreter.parts, ← data, ← metadata, same.object, same.object]

omit same in
/-- The same rendering into two slots leaves the same globals. -/
theorem perform {slot other : Slot} {subject : String} {s : σ}
    (same : interpreter.SameGlobals rename (interpreter.evaluate (Slot.expression subject) s).2
      (interpreter.evaluate (Slot.expression subject) s).2)
    (data : rename slot.data = other.data) (metadata : rename slot.metadata = other.metadata) :
    interpreter.SameGlobals rename (interpreter.perform (slot.rendering subject) s).2
      (interpreter.perform (other.rendering subject) s).2 := by
  rw [interpreter.perform_state, interpreter.perform_state, Slot.rendering, Slot.rendering, ← data, ← metadata]
  exact (same.store law _ _).store law _ _

/-- An empty slot can be emptied in one of the states alone. -/
theorem takeSlot_empty {slot : Slot} (empty : interpreter.parts slot t = (none, none)) :
    interpreter.SameGlobals rename s (Rendering.takeSlot interpreter.toScope slot t).2 := by
  obtain ⟨data, metadata⟩ := Prod.mk.injEq .. ▸ empty
  have first := same.take_absent law data
  rw [Rendering.takeSlot_state, law.taken, data]
  refine first.take_absent law ?_
  rw [law.object_take, metadata, ite_self]

end SameGlobals

variable {id other : BitVec 128} {stopped : Bool} {slot : Slot} {r : Request} {subject : String} {frame : Int}
  {message : Json} {forward : Rendering.Forward σ}

/-! ## The paths -/

/-- A variable is rendered directly exactly if no thread is stopped and its name is given. -/
theorem plan_eq_direct_iff : Rendering.plan stopped slot r = .direct subject ↔
    stopped = false ∧ r.stringArgument "variableName" = .ok subject := by
  rw [Rendering.plan]
  cases r.stringArgument "variableName" with
  | error e => simp
  | ok named =>
      cases stopped with
      | false => simp
      | true => cases r.intArgument "frameId" <;> simp

/-- It is rendered in a frame exactly if a thread is stopped and both arguments are given. -/
theorem plan_eq_inFrame_iff : Rendering.plan stopped slot r = .inFrame message ↔
    stopped = true ∧ ∃ subject frame, r.stringArgument "variableName" = .ok subject ∧
      r.intArgument "frameId" = .ok frame ∧ slot.setExpression subject frame (Request.seqAfter r.seq) = message := by
  rw [Rendering.plan]
  cases r.stringArgument "variableName" with
  | error e => simp
  | ok named =>
      cases stopped with
      | false => simp
      | true => cases r.intArgument "frameId" <;> simp

/-- An adapter that obeys the bridge's `setExpression` makes the assignment that it asks for. -/
theorem obey_setExpression (interpreter : Interpreter σ Object) (id : BitVec 128) (subject : String) (frame seq : Int)
    (s : σ) : interpreter.obey ((Slot.ofId id).setExpression subject frame seq) s =
      (interpreter.perform ((Slot.ofId id).rendering subject) s).2 := by
  rw [Evaluator.obey, Assignment.ofRequest?_setExpression]

/-- An adapter carries out what it is asked to assign, as the interpreter would, and says that it has succeeded. -/
def Obliges (interpreter : Interpreter σ Object) (forward : Rendering.Forward σ) : Prop :=
  ∀ (message : Json) (s : σ), (Assignment.ofRequest? message).isSome →
    ∃ reply, forward message s = (.ok reply, interpreter.obey message s) ∧ reply.getBool? "success" = some true

/-- Every interpreter could have such an adapter. -/
def obliging (interpreter : Interpreter σ Object) : Rendering.Forward σ := fun message s =>
  (.ok (Json.ofMembers [("success", .bool true)]), interpreter.obey message s)

/-- An obliging adapter obliges. -/
theorem obliges_obliging (interpreter : Interpreter σ Object) : interpreter.Obliges interpreter.obliging :=
  fun _ _ _ => ⟨_, rfl, by decide +kernel⟩

/-- Where the value cannot be evaluated, the direct code raises what the evaluation raises. -/
theorem Lawful.exec_error (law : interpreter.Lawful) {x : Raised}
    (failed : (interpreter.evaluate (Slot.expression subject) s).1 = .error x) (id : BitVec 128) :
    interpreter.exec ((Slot.ofId id).directCode subject) s =
      (.error x, (interpreter.perform ((Slot.ofId id).rendering subject) s).2) :=
  (law.exec (Assignment.ofCode?_directCode id subject) s).trans (Evaluator.perform_error failed)

/-- Where it can, the direct code makes the assignment and raises nothing. -/
theorem Lawful.exec_ok (law : interpreter.Lawful) {parts : Option Object × Option Object}
    (succeeded : (interpreter.evaluate (Slot.expression subject) s).1 = .ok parts) (id : BitVec 128) :
    interpreter.exec ((Slot.ofId id).directCode subject) s =
      (.ok (), (interpreter.perform ((Slot.ofId id).rendering subject) s).2) :=
  (law.exec (Assignment.ofCode?_directCode id subject) s).trans (Evaluator.perform_ok succeeded)

/-- While the program runs, an assignment that fails is the answer. -/
theorem Lawful.inspect_direct_error (law : interpreter.Lawful)
    (planned : Rendering.plan stopped (Slot.ofId id) r = .direct subject) {x : Raised}
    (failed : (interpreter.evaluate (Slot.expression subject) s).1 = .error x) (forward : Rendering.Forward σ) :
    Rendering.inspect interpreter.toScope forward stopped (Slot.ofId id) r s =
      (.error (.interpreter x), (interpreter.perform ((Slot.ofId id).rendering subject) s).2) := by
  simp only [Rendering.inspect, planned, Rendering.renderDirectly, law.exec_error failed]

/-- Otherwise the answer is made of what it has left. -/
theorem Lawful.inspect_direct_ok (law : interpreter.Lawful)
    (planned : Rendering.plan stopped (Slot.ofId id) r = .direct subject) {parts : Option Object × Option Object}
    (succeeded : (interpreter.evaluate (Slot.expression subject) s).1 = .ok parts) (forward : Rendering.Forward σ) :
    Rendering.inspect interpreter.toScope forward stopped (Slot.ofId id) r s =
      Rendering.answerFromSlot interpreter.toScope (Slot.ofId id) r
        (interpreter.perform ((Slot.ofId id).rendering subject) s).2 := by
  simp only [Rendering.inspect, planned, Rendering.renderDirectly, law.exec_ok succeeded]

/-- While a thread is stopped, the answer is made of what the assignment has left in any case. -/
theorem Obliges.inspect_inFrame (obliges : interpreter.Obliges forward)
    (planned : Rendering.plan stopped (Slot.ofId id) r = .inFrame message) (s : σ) :
    Rendering.inspect interpreter.toScope forward stopped (Slot.ofId id) r s =
      Rendering.answerFromSlot interpreter.toScope (Slot.ofId id) r (interpreter.obey message s) := by
  have asks : (Assignment.ofRequest? message).isSome := by
    obtain ⟨-, subject, frame, -, -, rfl⟩ := plan_eq_inFrame_iff.mp planned
    rw [Assignment.ofRequest?_setExpression]
    rfl
  obtain ⟨reply, answered, success⟩ := obliges message s asks
  simp only [Rendering.inspect, planned, answered, Rendering.conclude, success, if_true]

/-- Two outcomes come to the same: the same success or two failures, and the same globals. -/
structure SameOutcome (interpreter : Interpreter σ Object) (rename : Equiv.Perm String)
    (left right : Except Error Response × σ) : Prop where
  reply : (∃ response, left.1 = .ok response ∧ right.1 = .ok response ∧ response.success = true) ∨
    (∃ e, left.1 = .error e) ∧ ∃ e, right.1 = .error e
  globals : interpreter.SameGlobals rename left.2 right.2

/-- An empty slot is answered with the reason that its data is missing. -/
theorem answerParts_empty (interpreter : Interpreter σ Object) (slot : Slot) (r : Request) :
    interpreter.answerParts slot r (none, none) = .error (.slotMissing slot.data) := rfl

/-- Which slot the parts were in matters to no answer but a failure. -/
theorem answerParts_cases (interpreter : Interpreter σ Object) (slot other : Slot) (r : Request)
    (parts : Option Object × Option Object) :
    (∃ response, interpreter.answerParts slot r parts = .ok response ∧
      interpreter.answerParts other r parts = .ok response ∧ response.success = true) ∨
    (∃ e, interpreter.answerParts slot r parts = .error e) ∧ ∃ e, interpreter.answerParts other r parts = .error e := by
  simp only [answerParts, readParts]
  cases parts.1.elim (.ok none) interpreter.convert with
  | error x => exact .inr ⟨⟨_, rfl⟩, ⟨_, rfl⟩⟩
  | ok data =>
      cases parts.2.elim (.ok none) interpreter.convert with
      | error x => exact .inr ⟨⟨_, rfl⟩, ⟨_, rfl⟩⟩
      | ok metadata =>
          cases data with
          | none => exact .inr ⟨⟨_, rfl⟩, ⟨_, rfl⟩⟩
          | some data => exact .inl ⟨_, rfl, rfl, rfl⟩

/-- If neither slot is there once the variable is rendered, both paths come to the same, whatever stands for the
variable and whatever becomes of the assignment. -/
theorem paths_agree (law : interpreter.Lawful) (obliges : interpreter.Obliges forward)
    (named : r.stringArgument "variableName" = .ok subject) (framed : r.intArgument "frameId" = .ok frame)
    (fresh : ∀ name ∈ (Slot.ofId id).names ++ (Slot.ofId other).names,
      name ∉ interpreter.names (interpreter.evaluate (Slot.expression subject) s).2) :
    interpreter.SameOutcome (Slot.exchange (Slot.ofId id) (Slot.ofId other))
      (Rendering.inspect interpreter.toScope forward false (Slot.ofId id) r s)
      (Rendering.inspect interpreter.toScope forward true (Slot.ofId other) r s) := by
  have direct : Rendering.plan false (Slot.ofId id) r = .direct subject := plan_eq_direct_iff.mpr ⟨rfl, named⟩
  have inFrame : Rendering.plan true (Slot.ofId other) r = .inFrame _ :=
    plan_eq_inFrame_iff.mpr ⟨rfl, subject, frame, named, framed, rfl⟩
  have data := Slot.exchange_data id other
  have metadata := Slot.exchange_metadata id other
  have unmoved : ∀ name ∈ interpreter.names (interpreter.evaluate (Slot.expression subject) s).2,
      Slot.exchange (Slot.ofId id) (Slot.ofId other) name = name := fun name present =>
    Slot.exchange_other (fun own => fresh name (by simp [own]) present) fun own => fresh name (by simp [own]) present
  have performed := (SameGlobals.of_unmoved law unmoved).perform law data metadata
  rw [obliges.inspect_inFrame inFrame, obey_setExpression]
  cases evaluated : (interpreter.evaluate (Slot.expression subject) s).1 with
  | error x =>
      have empty : interpreter.parts (Slot.ofId other)
          (interpreter.perform ((Slot.ofId other).rendering subject) s).2 = (none, none) := by
        rw [interpreter.perform_state, Slot.rendering, evaluated]
        exact law.parts_fresh fun name own => fresh name (by simp [own])
      rw [law.inspect_direct_error direct evaluated]
      refine ⟨.inr ⟨⟨_, rfl⟩, .slotMissing (Slot.ofId other).data, ?_⟩, ?_⟩
      · rw [law.answerFromSlot_eq (Slot.metadata_ne_data other), empty, answerParts_empty]
      · rw [Rendering.answerFromSlot_state]
        exact performed.takeSlot_empty law empty
  | ok values =>
      rw [law.inspect_direct_ok direct evaluated]
      constructor
      · rw [law.answerFromSlot_eq (Slot.metadata_ne_data id), law.answerFromSlot_eq (Slot.metadata_ne_data other),
          performed.parts data metadata]
        exact answerParts_cases ..
      · rw [Rendering.answerFromSlot_state, Rendering.answerFromSlot_state]
        exact performed.takeSlot law data metadata

section Sample

open Rendering

/-- The sample variable with a value that can be converted. -/
def plainGlobals : Globals := [("v", .ok (.int 5))]

/-- What is answered for it. -/
def plainAnswer : Response :=
  .succeed sampleRequest (some (Json.ofMembers
    [("data", Json.ofMembers [("text/plain", .int 5)]), ("metadata", Json.ofMembers [])]))

theorem evaluate_plainGlobals :
    (dictionary.evaluate (Slot.expression "v") plainGlobals).1 = .ok (plainly (.ok (.int 5))) :=
  evaluate_dictionary "v" plainGlobals

theorem answerParts_plainly :
    dictionary.answerParts (Slot.ofId 0) sampleRequest (plainly (.ok (.int 5))) = .ok plainAnswer := by
  decide +kernel

theorem sample_not_mem_names (id : BitVec 128) : "v" ∉ (Slot.ofId id).names := by
  intro member
  simp only [Slot.names, List.mem_cons, List.not_mem_nil, or_false] at member
  obtain same | same := member
  all_goals
    have lengths := congrArg (fun name : String => name.toList.length) same
    simp [Slot.toList_data, Slot.toList_metadata] at lengths

theorem fresh_plainGlobals (id : BitVec 128) :
    ∀ name ∈ (Slot.ofId id).names, name ∉ dictionary.names plainGlobals := by
  intro name own found
  obtain rfl : name = "v" := List.mem_singleton.mp found
  exact sample_not_mem_names id own

theorem named_sampleRequest : sampleRequest.stringArgument "variableName" = .ok "v" := by decide +kernel

/-- The sample variable is rendered. -/
theorem inspect_plainGlobals (forward : Forward Globals) :
    (inspect dictionary.toScope forward false (Slot.ofId 0) sampleRequest plainGlobals).1 = .ok plainAnswer := by
  rw [lawful_dictionary.inspect_direct_ok (plan_eq_direct_iff.mpr ⟨rfl, named_sampleRequest⟩) evaluate_plainGlobals,
    lawful_dictionary.answerFromSlot_eq (Slot.metadata_ne_data 0),
    (renders_dictionary "v").parts_perform lawful_dictionary (Slot.metadata_ne_data 0)
      (lawful_dictionary.parts_fresh (fresh_plainGlobals 0)), evaluate_plainGlobals]
  exact answerParts_plainly

/-- Both paths render the value of the sample variable. -/
theorem paths_agree_plainGlobals :
    dictionary.SameOutcome (Slot.exchange (Slot.ofId 0) (Slot.ofId 1))
      (inspect dictionary.toScope dictionary.obliging false (Slot.ofId 0) sampleRequest plainGlobals)
      (inspect dictionary.toScope dictionary.obliging true (Slot.ofId 1) sampleRequest plainGlobals) ∧
    (inspect dictionary.toScope dictionary.obliging false (Slot.ofId 0) sampleRequest plainGlobals).1 =
      .ok plainAnswer := by
  have framed : sampleRequest.intArgument "frameId" = .ok 2 := by decide +kernel
  have fresh : ∀ name ∈ (Slot.ofId 0).names ++ (Slot.ofId 1).names, name ∉ dictionary.names plainGlobals := by
    intro name own
    exact (List.mem_append.mp own).elim (fresh_plainGlobals 0 name) (fresh_plainGlobals 1 name)
  exact ⟨paths_agree lawful_dictionary dictionary.obliges_obliging named_sampleRequest framed fresh,
    inspect_plainGlobals dictionary.obliging⟩

end Sample

end DebugBridge.Interpreter
