import DebugBridge.Proofs.Scope.Listing
import DebugBridge.Rendering.Inspect

/-!
# What a rendering leaves behind

The interpreter leaves a rendering in the two globals of a slot, and both would be shown among the variables. They are
taken out again when the rendering is read back, but only then, and the metadata only if the data could be converted:
`leaves` gives the exact condition for each of the two to stay, and with it for a listing of the variables to change.
-/

namespace DebugBridge

namespace Slot

/-- Both globals of a slot begin with this. -/
def front : String := "__nbdap_rich_"

theorem toList_data (id : BitVec 128) :
    (ofId id).data.toList = front.toList ++ ((digits id).toList ++ "_data".toList) := by
  simp [ofId, front]

theorem toList_metadata (id : BitVec 128) :
    (ofId id).metadata.toList = front.toList ++ ((digits id).toList ++ "_metadata".toList) := by
  simp [ofId, front]

/-- The two names of a slot differ. -/
theorem metadata_ne_data (id : BitVec 128) : (ofId id).metadata ≠ (ofId id).data := by
  intro same
  have ends := congrArg String.toList same
  rw [toList_data, toList_metadata, List.append_right_inj, List.append_right_inj] at ends
  exact absurd ends (by decide)

/-- The names of slots are not hidden from a listing. -/
theorem isVisible_of_front {name : String} {rest : List Char} (shape : name.toList = front.toList ++ rest) :
    isVisible name = true := by
  have listed : name ∉ excludedNames := by
    intro excluded
    have others : ∀ e ∈ excludedNames, ¬ front.toList <+: e.toList := by decide
    exact others name excluded ⟨rest, shape.symm⟩
  have begins : front.toList = '_' :: '_' :: "nbdap_rich_".toList := by decide
  have noDigit : digitValue? '_' = none := by decide
  simp [isVisible, isInputHistory, isOutputCache, shape, begins, noDigit, listed]

/-- Nothing hides the globals of a slot from a listing. -/
theorem isVisible_ofId (id : BitVec 128) :
    isVisible (ofId id).data = true ∧ isVisible (ofId id).metadata = true :=
  ⟨isVisible_of_front (toList_data id), isVisible_of_front (toList_metadata id)⟩

/-- What the evaluation of a rendering assigns to: the slot, and the function that the interpreter renders with. -/
def assigned (slot : Slot) : List String :=
  [slot.data, slot.metadata, "get_ipython"]

theorem forall_shown_assigned_iff (id : BitVec 128) {P : String → Prop} :
    (∀ name ∈ (ofId id).assigned, isVisible name = true → P name) ↔ P (ofId id).data ∧ P (ofId id).metadata := by
  obtain ⟨data, metadata⟩ := isVisible_ofId id
  have hidden : isVisible "get_ipython" = false := by decide
  simp [assigned, data, metadata, hidden]

end Slot

namespace Rendering

variable {σ : Type} {scope : Scope σ}

section Emptying

variable {slot : Slot} {s : σ}

/-- The metadata is not taken out of a slot whose data cannot be converted. -/
theorem takeSlot_state : (takeSlot scope slot s).2 =
    match (scope.take slot.data s).1 with
    | .error _ => (scope.take slot.data s).2
    | .ok _ => (scope.take slot.metadata (scope.take slot.data s).2).2 := by
  rw [takeSlot]
  obtain ⟨outcome, s⟩ := scope.take slot.data s
  cases outcome with
  | error x => rfl
  | ok data =>
      dsimp only
      obtain ⟨outcome, s⟩ := scope.take slot.metadata s
      cases outcome with
      | error x => rfl
      | ok metadata => cases data <;> rfl

/-- Reading a slot back touches its two names alone. -/
theorem agree_takeSlot (law : scope.TakesOut) : scope.Agree [slot.data, slot.metadata] s (takeSlot scope slot s).2 := by
  have data : scope.Agree [slot.data, slot.metadata] s (scope.take slot.data s).2 :=
    (law.others slot.data s).mono (by simp)
  rw [takeSlot_state]
  cases (scope.take slot.data s).1 with
  | error x => exact data
  | ok rendered => exact data.trans ((law.others slot.metadata _).mono (by simp))

/-- The data is gone once a slot was read back. -/
theorem data_takeSlot (law : scope.TakesOut) (distinct : slot.metadata ≠ slot.data) :
    slot.data ∉ scope.names (takeSlot scope slot s).2 := by
  rw [takeSlot_state]
  cases (scope.take slot.data s).1 with
  | error x => exact law.gone slot.data s
  | ok rendered =>
      rw [(law.others slot.metadata _).mem_names_iff (by simpa using distinct.symm)]
      exact law.gone slot.data s

/-- The metadata stays exactly if the data could not be read. -/
theorem metadata_takeSlot (law : scope.TakesOut) (distinct : slot.metadata ≠ slot.data) :
    slot.metadata ∈ scope.names (takeSlot scope slot s).2 ↔
      slot.metadata ∈ scope.names s ∧ ∃ x, (scope.take slot.data s).1 = .error x := by
  rw [takeSlot_state]
  cases (scope.take slot.data s).1 with
  | error x => simpa using (law.others slot.data s).mem_names_iff (by simpa using distinct)
  | ok rendered => simpa using law.gone slot.metadata _

end Emptying

section Call

variable (scope : Scope σ) (forward : Forward σ) (stopped : Bool) (slot : Slot) (r : Request) (s : σ)

/-- The evaluation that a request asks for, by the interpreter or by the adapter: whether it is known to have
succeeded, and the state that it leaves. -/
def evaluate : Bool × σ :=
  match plan stopped slot r with
  | .refuse _ => (false, s)
  | .direct subject =>
    match scope.exec (slot.directCode subject) s with
    | (.ok (), s) => (true, s)
    | (.error _, s) => (false, s)
  | .inFrame message =>
    match forward message s with
    | (.ok reply, s) => (reply.getBool? "success" == some true, s)
    | (.error _, s) => (false, s)

/-- The state after a request. -/
def stateAfter : σ := (inspect scope forward stopped slot r s).2

variable {scope forward stopped slot r s}

/-- The answer is made from what was read back. -/
theorem answerFromSlot_state : (answerFromSlot scope slot r s).2 = (takeSlot scope slot s).2 := by
  rw [answerFromSlot]
  obtain ⟨outcome, s⟩ := takeSlot scope slot s
  cases outcome <;> rfl

/-- The slot is emptied after an evaluation that is known to have succeeded, and after no other. -/
theorem stateAfter_eq : stateAfter scope forward stopped slot r s =
    match evaluate scope forward stopped slot r s with
    | (true, s) => (takeSlot scope slot s).2
    | (false, s) => s := by
  rw [stateAfter, inspect, evaluate]
  cases plan stopped slot r with
  | refuse e => rfl
  | direct subject =>
      simp only [renderDirectly]
      obtain ⟨outcome, s⟩ := scope.exec (slot.directCode subject) s
      cases outcome with
      | error x => rfl
      | ok => exact answerFromSlot_state
  | inFrame message =>
      simp only
      obtain ⟨outcome, s⟩ := forward message s
      cases outcome with
      | error e => rfl
      | ok reply =>
          by_cases success : reply.getBool? "success" = some true
          · simp [conclude, success, answerFromSlot_state]
          · simp [conclude, success, beq_eq_false_iff_ne.mpr success]

/-- After the evaluation nothing changes but the slot. -/
theorem agree_stateAfter (law : scope.TakesOut) :
    scope.Agree [slot.data, slot.metadata] (evaluate scope forward stopped slot r s).2
      (stateAfter scope forward stopped slot r s) := by
  rw [stateAfter_eq]
  obtain ⟨succeeded, left⟩ := evaluate scope forward stopped slot r s
  cases succeeded with
  | false => exact .refl _ left
  | true => exact agree_takeSlot law

/-- The data stays behind exactly if the evaluation left it there and did not succeed. -/
theorem data_stateAfter (law : scope.TakesOut) (distinct : slot.metadata ≠ slot.data) :
    slot.data ∈ scope.names (stateAfter scope forward stopped slot r s) ↔
      slot.data ∈ scope.names (evaluate scope forward stopped slot r s).2 ∧
        (evaluate scope forward stopped slot r s).1 = false := by
  rw [stateAfter_eq]
  obtain ⟨succeeded, left⟩ := evaluate scope forward stopped slot r s
  cases succeeded with
  | false => simp
  | true => simpa using data_takeSlot law distinct

/-- The metadata stays behind exactly if the evaluation left it there, and did not succeed or gave data that cannot be
read. -/
theorem metadata_stateAfter (law : scope.TakesOut) (distinct : slot.metadata ≠ slot.data) :
    slot.metadata ∈ scope.names (stateAfter scope forward stopped slot r s) ↔
      slot.metadata ∈ scope.names (evaluate scope forward stopped slot r s).2 ∧
        ((evaluate scope forward stopped slot r s).1 = false ∨
          ∃ x, (scope.take slot.data (evaluate scope forward stopped slot r s).2).1 = .error x) := by
  rw [stateAfter_eq]
  obtain ⟨succeeded, left⟩ := evaluate scope forward stopped slot r s
  cases succeeded with
  | false => simp
  | true => simpa using metadata_takeSlot law distinct

variable (scope forward stopped slot r s)

/-- What is left of the slot after a request, and what a listing of the variables shows of that. -/
structure Leaves : Prop where
  /-- Nothing changes but what the evaluation assigns to. -/
  others : scope.Agree slot.assigned s (stateAfter scope forward stopped slot r s)
  /-- After the evaluation nothing changes but the slot. -/
  own : scope.Agree [slot.data, slot.metadata] (evaluate scope forward stopped slot r s).2
    (stateAfter scope forward stopped slot r s)
  /-- The data stays after an evaluation that has left it, but is not known to have succeeded. -/
  data : slot.data ∈ scope.names (stateAfter scope forward stopped slot r s) ↔
    slot.data ∈ scope.names (evaluate scope forward stopped slot r s).2 ∧
      (evaluate scope forward stopped slot r s).1 = false
  /-- The metadata stays after such an evaluation, and after any whose data cannot be converted. -/
  metadata : slot.metadata ∈ scope.names (stateAfter scope forward stopped slot r s) ↔
    slot.metadata ∈ scope.names (evaluate scope forward stopped slot r s).2 ∧
      ((evaluate scope forward stopped slot r s).1 = false ∨
        ∃ x, (scope.take slot.data (evaluate scope forward stopped slot r s).2).1 = .error x)
  /-- The variables are listed as before exactly if neither stays. -/
  listing (q : Request) : scope.inspect q (stateAfter scope forward stopped slot r s) = scope.inspect q s ↔
    slot.data ∉ scope.names (stateAfter scope forward stopped slot r s) ∧
      slot.metadata ∉ scope.names (stateAfter scope forward stopped slot r s)

end Call

/-- What a request leaves of a slot that was not there before, if its evaluation assigns to nothing else. -/
theorem leaves (law : scope.TakesOut) (forward : Forward σ) (stopped : Bool) (id : BitVec 128) (r : Request) {s : σ}
    (fresh : (Slot.ofId id).data ∉ scope.names s ∧ (Slot.ofId id).metadata ∉ scope.names s)
    (assigns : scope.Agree (Slot.ofId id).assigned s (evaluate scope forward stopped (Slot.ofId id) r s).2) :
    Leaves scope forward stopped (Slot.ofId id) r s := by
  have distinct := Slot.metadata_ne_data id
  have own : scope.Agree [(Slot.ofId id).data, (Slot.ofId id).metadata] _
      (stateAfter scope forward stopped (Slot.ofId id) r s) := agree_stateAfter law
  have others := assigns.trans (own.mono (by simp [Slot.assigned]))
  refine ⟨others, own, data_stateAfter law distinct, metadata_stateAfter law distinct, ?_⟩
  -- The globals of the slot are the only ones in sight that may have come.
  intro q
  rw [Scope.inspect_eq_iff others ((Slot.forall_shown_assigned_iff id).mpr fresh), Slot.forall_shown_assigned_iff id]

section Sample

/-- The globals of a small interpreter by name, with their values as far as they can be converted. -/
abbrev Globals := List (String × Except Raised Json)

/-- What is told of a global that is not there. -/
def undefined (name : String) : Raised :=
  .plain "NameError" ("name " ++ name ++ " is not defined")

/-- A value that cannot be converted. -/
def unconvertible : Except Raised Json :=
  .error (.plain "TypeError" "Object is not JSON serializable")

def sampleSlot : Slot := Slot.ofId 0

/-- The globals before the sample variable is rendered. -/
def sampleGlobals : Globals := [("v", unconvertible)]

/-- What the rendering of the sample variable assigns: its data cannot be converted. -/
def sampleRendering : Globals :=
  [(sampleSlot.data, unconvertible), (sampleSlot.metadata, .ok (Json.ofMembers []))]

/-- An interpreter that can render the sample variable, and shows all objects alike. -/
def sampleScope : Scope Globals where
  names s := s.map Prod.fst
  value name s := (s.lookup name).getD (.error (undefined name))
  display name s := (s.lookup name).elim (.error (undefined name)) fun _ => .ok "<object>"
  displayType name s := (s.lookup name).elim (.error (undefined name)) fun _ => .ok "<class 'object'>"
  exec code s :=
    if code = sampleSlot.directCode "v" then (.ok (), s ++ sampleRendering)
    else (.error (.plain "SyntaxError" "invalid syntax"), s)
  take name s :=
    ((s.lookup name).elim (.ok none) fun value => value.map some, s.filter fun global => global.1 ≠ name)

theorem agree_sampleScope {apart : List String} {s t : Globals}
    (names : (sampleScope.names t).filter (· ∉ apart) = (sampleScope.names s).filter (· ∉ apart))
    (found : ∀ name ∉ apart, t.lookup name = s.lookup name) : sampleScope.Agree apart s t where
  names := names
  value name other := by simp only [sampleScope, found name other]
  display name other := by simp only [sampleScope, found name other]
  displayType name other := by simp only [sampleScope, found name other]

/-- What the sample scope gives out it forgets. -/
theorem takesOut_sampleScope : sampleScope.TakesOut where
  gone name s := by simp [sampleScope]
  others name s := by
    apply agree_sampleScope
    · simp [sampleScope, List.filter_map, List.filter_filter, Function.comp_def]
    · intro other apart
      simp only [sampleScope]
      rw [Members.lookup_filter (fun key => decide (key ≠ name)), if_pos (by simpa using apart)]

/-- The request to render the sample variable. -/
def sampleRequest : Request :=
  ⟨5, "richInspectVariables", .obj [("frameId", .int 2), ("variableName", .str "v")], []⟩

/-- No adapter is there, and none is asked while the program runs. -/
def noAdapter : Forward Globals := fun _ s => (.error .notStarted, s)

/-- The globals of the sample after that request. -/
def sampleAfter : Globals :=
  stateAfter sampleScope noAdapter false sampleSlot sampleRequest sampleGlobals

theorem evaluate_sample : evaluate sampleScope noAdapter false sampleSlot sampleRequest sampleGlobals =
    (true, sampleGlobals ++ sampleRendering) := by
  have planned : plan false sampleSlot sampleRequest = .direct "v" := by decide +kernel
  simp [evaluate, planned, sampleScope]

theorem assigns_sample : sampleScope.Agree sampleSlot.assigned sampleGlobals (sampleGlobals ++ sampleRendering) := by
  refine agree_sampleScope (by decide +kernel) fun name other => ?_
  simp only [Slot.assigned, List.mem_cons, not_or] at other
  obtain ⟨data, metadata, -⟩ := other
  simp [List.lookup_append, sampleRendering, List.lookup, beq_eq_false_iff_ne.mpr data,
    beq_eq_false_iff_ne.mpr metadata]

/-- The sample keeps the metadata of what could not be converted, and lists it from then on. -/
theorem leaves_sample :
    Leaves sampleScope noAdapter false sampleSlot sampleRequest sampleGlobals ∧
      sampleSlot.metadata ∈ sampleScope.names sampleAfter ∧
      sampleScope.inspect sampleRequest sampleAfter ≠ sampleScope.inspect sampleRequest sampleGlobals := by
  have left : Leaves sampleScope noAdapter false sampleSlot sampleRequest sampleGlobals :=
    leaves takesOut_sampleScope noAdapter false 0 sampleRequest (by decide +kernel)
      (by rw [← sampleSlot, evaluate_sample]; exact assigns_sample)
  have stays : sampleSlot.metadata ∈ sampleScope.names sampleAfter := by
    refine left.metadata.mpr ?_
    rw [evaluate_sample]
    exact ⟨by decide +kernel, .inr ⟨_, rfl⟩⟩
  exact ⟨left, stays, fun same => ((left.listing sampleRequest).mp same).2 stays⟩

end Sample

end Rendering
end DebugBridge
