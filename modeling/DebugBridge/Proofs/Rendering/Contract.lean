import DebugBridge.Proofs.Message.Response
import DebugBridge.Proofs.Rendering.Leftovers
import DebugBridge.Session.Call

/-!
# What a rendering does, and what it answers

A rendering uses the interpreter or the adapter, and never both for the same step. `recorded` keeps a record of every
use, `inspect_cases` gives for each way in which a rendering can end its answer together with that record, and
`inspect_contract` is what a caller may rely on: which uses are made at all, when the answer is a success, and what it
then holds.
-/

namespace DebugBridge

namespace Request

variable {r : Request}

/-- An argument is there as a string, or it is missing. -/
theorem stringArgument_cases (r : Request) (name : String) :
    (∃ text, r.argument? name = some (.str text) ∧ r.stringArgument name = .ok text) ∨
      (∀ text, r.argument? name ≠ some (.str text)) ∧ r.stringArgument name = .error (.missingArgument name) := by
  rw [stringArgument]
  cases r.argument? name with
  | none => exact .inr ⟨nofun, rfl⟩
  | some v =>
      cases v with
      | str text => exact .inl ⟨text, rfl, rfl⟩
      | null | bool b | int n | float bits | arr items | obj members => exact .inr ⟨nofun, rfl⟩

/-- An argument is there as an integer that fits a signed word, or it is missing. -/
theorem intArgument_cases (wellFormed : r.arguments.WellFormed) (name : String) :
    (∃ n, r.argument? name = some (.int n) ∧ -2 ^ 63 ≤ n ∧ n < 2 ^ 63 ∧ r.intArgument name = .ok n) ∨
      (∀ n, -2 ^ 63 ≤ n → n < 2 ^ 63 → r.argument? name ≠ some (.int n)) ∧
        r.intArgument name = .error (.missingArgument name) := by
  rw [intArgument]
  cases found : r.argument? name with
  | none => exact .inr ⟨by simp, rfl⟩
  | some v =>
      cases v with
      | int n =>
          by_cases small : n < 9223372036854775808
          · have least : -2 ^ 63 ≤ n := (Json.wellFormed_of_get? wellFormed found).1
            exact .inl ⟨n, rfl, least, small, by simp [Json.asInt?, small]⟩
          · refine .inr ⟨fun m _ most same => small ?_, by simp [Json.asInt?, small]⟩
            cases same
            exact most
      | null | bool b | str s | float bits | arr items | obj members => exact .inr ⟨by simp, rfl⟩

end Request

namespace Rendering

variable {σ : Type}

/-! ## The record of what is used -/

/-- One use of the interpreter or of the adapter. -/
inductive Use where
  | executed (code : String)
  | took (name : String)
  | forwarded (message : Json)
deriving DecidableEq, Repr

/-- An operation that keeps a record of its uses. -/
def recorded {α β : Type} (use : α → Use) (operation : α → σ → β × σ) (a : α) (s : σ × List Use) : β × σ × List Use :=
  ((operation a s.1).1, (operation a s.1).2, s.2 ++ [use a])

/-- A scope that keeps a record of all that may change it. -/
def recordedScope (scope : Scope σ) : Scope (σ × List Use) where
  names s := scope.names s.1
  value name s := scope.value name s.1
  display name s := scope.display name s.1
  displayType name s := scope.displayType name s.1
  exec := recorded .executed scope.exec
  take := recorded .took scope.take

/-! ## How a rendering ends -/

section Ends

variable (scope : Scope σ) (forward : Forward σ) (stopped : Bool) (slot : Slot) (r : Request) (s : σ)

/-- The slot is read back: the answer, the state that is left and the uses. -/
inductive ReadsBack (s : σ) : Except Error Response → σ → List Use → Prop where
  /-- The data cannot be converted. The metadata stays. -/
  | dataRaised {x : Raised} {t : σ} (data : scope.take slot.data s = (.error x, t)) :
      ReadsBack s (.error (.interpreter x)) t [.took slot.data]
  /-- The metadata cannot be converted. -/
  | metadataRaised {x : Raised} {found : Option Json} {t u : σ} (data : scope.take slot.data s = (.ok found, t))
      (metadata : scope.take slot.metadata t = (.error x, u)) :
      ReadsBack s (.error (.interpreter x)) u [.took slot.data, .took slot.metadata]
  /-- The data is not there. -/
  | missing {held : Option Json} {t u : σ} (data : scope.take slot.data s = (.ok none, t))
      (metadata : scope.take slot.metadata t = (.ok held, u)) :
      ReadsBack s (.error (.slotMissing slot.data)) u [.took slot.data, .took slot.metadata]
  /-- The data is there, and perhaps the metadata. -/
  | present {found : Json} {held : Option Json} {t u : σ} (data : scope.take slot.data s = (.ok (some found), t))
      (metadata : scope.take slot.metadata t = (.ok held, u)) :
      ReadsBack s (.ok (.succeed r (some (Representation.assemble found (held.getD .null)).toJson))) u
        [.took slot.data, .took slot.metadata]

/-- What is missing for a rendering. -/
inductive Lacks : Error → Prop where
  | unnamed (absent : ∀ subject, r.argument? "variableName" ≠ some (.str subject)) :
      Lacks (.missingArgument "variableName")
  | unframed {subject : String} (held : stopped = true) (named : r.argument? "variableName" = some (.str subject))
      (absent : ∀ frame, -2 ^ 63 ≤ frame → frame < 2 ^ 63 → r.argument? "frameId" ≠ some (.int frame)) :
      Lacks (.missingArgument "frameId")

/-- The use that renders the variable into the slot. -/
inductive Begins : Use → Prop where
  | direct {subject : String} (running : stopped = false) (named : r.argument? "variableName" = some (.str subject)) :
      Begins (.executed (slot.directCode subject))
  | inFrame {subject : String} {frame : Int} (held : stopped = true)
      (named : r.argument? "variableName" = some (.str subject))
      (framed : r.argument? "frameId" = some (.int frame)) (least : -2 ^ 63 ≤ frame) (most : frame < 2 ^ 63) :
      Begins (.forwarded (slot.setExpression subject frame (Request.seqAfter r.seq)))

/-- The variable is rendered into the slot, which leaves a state. -/
inductive Performs : Use → σ → Prop where
  | direct {code : String} {t : σ} (begins : Begins stopped slot r (.executed code))
      (executed : scope.exec code s = (.ok (), t)) : Performs (.executed code) t
  | inFrame {message reply : Json} {t : σ} (begins : Begins stopped slot r (.forwarded message))
      (replied : forward message s = (.ok reply, t)) (success : reply.getBool? "success" = some true) :
      Performs (.forwarded message) t

/-- All ways in which a rendering can end: its answer, the state that it leaves and its uses. -/
inductive Ends : Except Error Response → σ → List Use → Prop where
  /-- It does not begin. -/
  | refused {e : Error} (lacks : Lacks stopped r e) : Ends (.error e) s []
  /-- The code fails. -/
  | raised {code : String} {x : Raised} {t : σ} (begins : Begins stopped slot r (.executed code))
      (executed : scope.exec code s = (.error x, t)) : Ends (.error (.interpreter x)) t [.executed code]
  /-- The adapter gives no reply. -/
  | unanswered {message : Json} {e : Error} {t : σ} (begins : Begins stopped slot r (.forwarded message))
      (replied : forward message s = (.error e, t)) : Ends (.error e) t [.forwarded message]
  /-- The adapter's reply is not a success. -/
  | failed {message reply : Json} {t : σ} (begins : Begins stopped slot r (.forwarded message))
      (replied : forward message s = (.ok reply, t)) (failure : reply.getBool? "success" ≠ some true) :
      Ends (.ok (.fail r ((reply.getString? "message").getD noReason))) t [.forwarded message]
  /-- The variable is rendered, and the slot is read back. -/
  | performed {use : Use} {t u : σ} {answer : Except Error Response} {takes : List Use}
      (performs : Performs scope forward stopped slot r s use t) (reads : ReadsBack scope slot r t answer u takes) :
      Ends answer u (use :: takes)

variable {scope forward stopped slot r s}

/-- Reading back takes the data first and the metadata only if there was data. -/
theorem answerFromSlot_cases (scope : Scope σ) (slot : Slot) (r : Request) (s : σ) (past : List Use) :
    ∃ answer t takes, answerFromSlot scope slot r s = (answer, t) ∧
      answerFromSlot (recordedScope scope) slot r (s, past) = (answer, t, past ++ takes) ∧
      ReadsBack scope slot r s answer t takes := by
  rcases data : scope.take slot.data s with ⟨x | found, t⟩
  · refine ⟨_, _, _, ?_, ?_, .dataRaised data⟩ <;> simp [answerFromSlot, takeSlot, recordedScope, recorded, data]
  · rcases metadata : scope.take slot.metadata t with ⟨x | held, u⟩
    · refine ⟨_, _, _, ?_, ?_, .metadataRaised data metadata⟩ <;>
        simp [answerFromSlot, takeSlot, recordedScope, recorded, data, metadata]
    · cases found with
      | none =>
          refine ⟨_, _, _, ?_, ?_, .missing data metadata⟩ <;>
            simp [answerFromSlot, takeSlot, recordedScope, recorded, data, metadata]
      | some found =>
          refine ⟨_, _, _, ?_, ?_, .present data metadata⟩ <;>
            simp [answerFromSlot, takeSlot, recordedScope, recorded, data, metadata]

/-- A plan refuses what lacks something, and else tells what a rendering begins with. -/
theorem plan_cases (stopped : Bool) (slot : Slot) (wellFormed : r.arguments.WellFormed) :
    (∃ e, plan stopped slot r = .refuse e ∧ Lacks stopped r e) ∨
      (∃ subject, plan stopped slot r = .direct subject ∧
        Begins stopped slot r (.executed (slot.directCode subject))) ∨
      ∃ message, plan stopped slot r = .inFrame message ∧ Begins stopped slot r (.forwarded message) := by
  rw [plan]
  rcases r.stringArgument_cases "variableName" with ⟨subject, named, read⟩ | ⟨absent, missing⟩
  · rw [read]
    cases stopped with
    | false => exact .inr (.inl ⟨subject, rfl, .direct rfl named⟩)
    | true =>
        rcases r.intArgument_cases wellFormed "frameId" with ⟨frame, framed, least, most, given⟩ | ⟨absent, missing⟩
        · rw [given]
          exact .inr (.inr ⟨_, rfl, .inFrame rfl named framed least most⟩)
        · rw [missing]
          exact .inl ⟨_, rfl, .unframed rfl named absent⟩
  · rw [missing]
    exact .inl ⟨_, rfl, .unnamed absent⟩

/-- The use that a rendering begins with is the planned one. -/
theorem Begins.planned {use : Use} (begins : Begins stopped slot r use) :
    (∃ subject, use = .executed (slot.directCode subject) ∧ plan stopped slot r = .direct subject) ∨
      ∃ message, use = .forwarded message ∧ plan stopped slot r = .inFrame message := by
  cases begins with
  | direct running named =>
      refine .inl ⟨_, rfl, ?_⟩
      simp [plan, Request.stringArgument, named, Json.asString?, running]
  | @inFrame subject frame held named framed least most =>
      refine .inr ⟨_, rfl, ?_⟩
      have small : frame < 9223372036854775808 := most
      simp [plan, Request.stringArgument, Request.intArgument, named, framed, Json.asString?, Json.asInt?, held, small]

/-- Every rendering ends in one of the ways, and a record changes nothing about it. -/
theorem inspect_cases (scope : Scope σ) (forward : Forward σ) (stopped : Bool) (slot : Slot) (s : σ)
    (wellFormed : r.arguments.WellFormed) :
    ∃ answer t uses, inspect scope forward stopped slot r s = (answer, t) ∧
      inspect (recordedScope scope) (recorded .forwarded forward) stopped slot r (s, []) = (answer, t, uses) ∧
      Ends scope forward stopped slot r s answer t uses := by
  rcases plan_cases stopped slot wellFormed with
    ⟨e, planned, lacks⟩ | ⟨subject, planned, begins⟩ | ⟨message, planned, begins⟩
  · exact ⟨_, s, [], by simp [inspect, planned], by simp [inspect, planned], .refused lacks⟩
  · rcases executed : scope.exec (slot.directCode subject) s with ⟨x | ⟨⟩, t⟩
    · refine ⟨_, _, _, ?_, ?_, .raised begins executed⟩ <;>
        simp [inspect, planned, renderDirectly, recordedScope, recorded, executed]
    · obtain ⟨answer, u, takes, plainly, onRecord, reads⟩ :=
        answerFromSlot_cases scope slot r t [.executed (slot.directCode subject)]
      refine ⟨answer, u, _, ?_, ?_, .performed (.direct begins executed) reads⟩
      · simp [inspect, planned, renderDirectly, executed, plainly]
      · simpa [inspect, planned, renderDirectly, recordedScope, recorded, executed] using onRecord
  · rcases replied : forward message s with ⟨e | reply, t⟩
    · refine ⟨_, _, _, ?_, ?_, .unanswered begins replied⟩ <;> simp [inspect, planned, recorded, replied]
    · by_cases success : reply.getBool? "success" = some true
      · obtain ⟨answer, u, takes, plainly, onRecord, reads⟩ :=
          answerFromSlot_cases scope slot r t [.forwarded message]
        refine ⟨answer, u, _, ?_, ?_, .performed (.inFrame begins replied success) reads⟩
        · simp [inspect, planned, replied, conclude, success, plainly]
        · simpa [inspect, planned, recorded, replied, conclude, success] using onRecord
      · refine ⟨_, _, _, ?_, ?_, .failed begins replied success⟩ <;>
          simp [inspect, planned, recorded, replied, conclude, success]

/-! ## What a caller may rely on -/

variable (scope forward stopped slot r s)

/-- The variable is rendered into the slot, and both globals are read back from there; the data must be there. -/
def Rendered (data : Json) (metadata : Option Json) : Prop :=
  ∃ use t u v, Performs scope forward stopped slot r s use t ∧ scope.take slot.data t = (.ok (some data), u) ∧
    scope.take slot.metadata u = (.ok metadata, v)

variable {scope forward stopped slot r s}

/-- What was rendered is the answer. -/
theorem Rendered.answer {data : Json} {metadata : Option Json}
    (rendered : Rendered scope forward stopped slot r s data metadata) :
    (inspect scope forward stopped slot r s).1 =
      .ok (.succeed r (some (Representation.assemble data (metadata.getD .null)).toJson)) := by
  obtain ⟨use, t, u, v, performs, first, second⟩ := rendered
  have readBack : (answerFromSlot scope slot r t).1 =
      .ok (.succeed r (some (Representation.assemble data (metadata.getD .null)).toJson)) := by
    simp [answerFromSlot, takeSlot, first, second]
  cases performs with
  | direct begins executed =>
      rcases begins.planned with ⟨subject, ⟨⟩, planned⟩ | ⟨message, ⟨⟩, -⟩
      simpa [inspect, planned, renderDirectly, executed] using readBack
  | inFrame begins replied success =>
      rcases begins.planned with ⟨subject, ⟨⟩, -⟩ | ⟨message, ⟨⟩, planned⟩
      simpa [inspect, planned, replied, conclude, success] using readBack

/-- A call ends with the rendered parts or without success. -/
theorem Ends.rendered_or {answer : Except Error Response} {t : σ} {uses : List Use}
    (ends : Ends scope forward stopped slot r s answer t uses) :
    (∃ data metadata, Rendered scope forward stopped slot r s data metadata) ∨
      (Session.settle r answer).getBool? "success" = some false := by
  cases ends with
  | refused lacks => exact .inr (Response.success_fail r _)
  | raised begins executed => exact .inr (Response.success_fail r _)
  | unanswered begins replied => exact .inr (Response.success_fail r _)
  | failed begins replied failure => exact .inr (Response.success_fail r _)
  | performed performs reads =>
      cases reads with
      | dataRaised data => exact .inr (Response.success_fail r _)
      | metadataRaised data metadata => exact .inr (Response.success_fail r _)
      | missing data metadata => exact .inr (Response.success_fail r _)
      | present data metadata => exact .inl ⟨_, _, _, _, _, _, performs, data, metadata⟩

/-- A message asks for an assignment of a rendered variable to both globals of a slot, in a frame. -/
structure AsksFor (slot : Slot) (subject : String) (frame seq : Int) (message : Json) : Prop where
  type : message.get? "type" = some (.str "request")
  command : message.get? "command" = some (.str "setExpression")
  seq : message.get? "seq" = some (.int seq)
  target : Request.argumentOf message "expression" = some (.str (slot.data ++ "," ++ slot.metadata))
  value : Request.argumentOf message "value" = some (.str (Slot.expression subject))
  frame : Request.argumentOf message "frameId" = some (.int frame)

/-- The hidden request asks for what it is made of. -/
theorem asksFor_setExpression (slot : Slot) (subject : String) (frame seq : Int) :
    AsksFor slot subject frame seq (slot.setExpression subject frame seq) := by
  constructor <;> simp [Slot.setExpression, Slot.target, Request.argumentOf, Json.get?_ofMembers, List.lookup]

variable (scope forward stopped slot r s)

/-- What a caller may rely on: the uses that a rendering makes, and what it answers. -/
structure Contract (answer : Except Error Response) (t : σ) (uses : List Use) : Prop where
  /-- Without the name of a variable nothing is used. -/
  unnamed (absent : ∀ subject, r.argument? "variableName" ≠ some (.str subject)) :
    answer = .error (.missingArgument "variableName") ∧ t = s ∧ uses = []
  /-- While the program runs one code is executed, and then the slot may be read back. -/
  direct {subject : String} (running : stopped = false) (named : r.argument? "variableName" = some (.str subject)) :
    ∃ takes, uses = .executed (slot.directCode subject) :: takes ∧
      takes <+: [.took slot.data, .took slot.metadata]
  /-- While a thread is stopped nothing is used without a frame. -/
  unframed {subject : String} (held : stopped = true) (named : r.argument? "variableName" = some (.str subject))
    (absent : ∀ frame, -2 ^ 63 ≤ frame → frame < 2 ^ 63 → r.argument? "frameId" ≠ some (.int frame)) :
    answer = .error (.missingArgument "frameId") ∧ t = s ∧ uses = []
  /-- With a frame one message is forwarded, and then the slot may be read back. -/
  inFrame {subject : String} {frame : Int} (held : stopped = true)
    (named : r.argument? "variableName" = some (.str subject)) (framed : r.argument? "frameId" = some (.int frame))
    (least : -2 ^ 63 ≤ frame) (most : frame < 2 ^ 63) :
    ∃ message takes, AsksFor slot subject frame (Request.seqAfter r.seq) message ∧ uses = .forwarded message :: takes ∧
      takes <+: [.took slot.data, .took slot.metadata]
  /-- The answer is a success exactly if the variable is rendered and read back, and else a failure. -/
  success : (Session.settle r answer).getBool? "success" = some true ↔
    ∃ data metadata, Rendered scope forward stopped slot r s data metadata
  failure : (Session.settle r answer).getBool? "success" = some false ↔
    ¬ ∃ data metadata, Rendered scope forward stopped slot r s data metadata
  /-- A success holds the data, and the metadata of what is data. -/
  body {data : Json} {metadata : Option Json} (rendered : Rendered scope forward stopped slot r s data metadata) :
    ∃ kept, (Session.settle r answer).get? "body" =
        some (Json.ofMembers [("data", .obj data.membersD), ("metadata", .obj kept)]) ∧
      kept.Sublist (metadata.getD .null).membersD ∧
      ∀ key, kept.lookup key = if (data.get? key).isSome then (metadata.getD .null).get? key else none

variable {scope forward stopped slot r s}

section Kept

variable {answer : Except Error Response} {t : σ} {uses : List Use} {subject : String} {frame : Int}

/-- What is taken is the data, or the data and then the metadata. -/
theorem ReadsBack.inOrder {u : σ} {takes : List Use} (reads : ReadsBack scope slot r t answer u takes) :
    takes <+: [.took slot.data, .took slot.metadata] := by
  cases reads with
  | dataRaised data => exact ⟨[.took slot.metadata], rfl⟩
  | metadataRaised data metadata | missing data metadata | present data metadata => exact ⟨[], rfl⟩

variable (ends : Ends scope forward stopped slot r s answer t uses)
include ends

/-- Either something is missing and nothing is used, or a rendering is begun and goes on to the slot at most. -/
theorem Ends.uses_cases :
    (∃ e, Lacks stopped r e ∧ answer = .error e ∧ t = s ∧ uses = []) ∨
      ∃ use takes, Begins stopped slot r use ∧ uses = use :: takes ∧
        takes <+: [.took slot.data, .took slot.metadata] := by
  cases ends with
  | refused lacks => exact .inl ⟨_, lacks, rfl, rfl, rfl⟩
  | raised begins executed => exact .inr ⟨_, [], begins, rfl, _, rfl⟩
  | unanswered begins replied => exact .inr ⟨_, [], begins, rfl, _, rfl⟩
  | failed begins replied failure => exact .inr ⟨_, [], begins, rfl, _, rfl⟩
  | performed performs reads =>
      cases performs with
      | direct begins executed => exact .inr ⟨_, _, begins, rfl, reads.inOrder⟩
      | inFrame begins replied success => exact .inr ⟨_, _, begins, rfl, reads.inOrder⟩

/-- Without the name of a variable nothing is done. -/
theorem Ends.of_unnamed (absent : ∀ subject, r.argument? "variableName" ≠ some (.str subject)) :
    answer = .error (.missingArgument "variableName") ∧ t = s ∧ uses = [] := by
  rcases ends.uses_cases with ⟨e, lacks, rfl, rfl, rfl⟩ | ⟨use, takes, begins, -⟩
  · cases lacks with
    | unnamed => exact ⟨rfl, rfl, rfl⟩
    | unframed held named => exact absurd named (absent _)
  · cases begins with
    | direct running named => exact absurd named (absent _)
    | inFrame held named => exact absurd named (absent _)

/-- Without a stopped thread the code runs in the interpreter and nothing is forwarded. -/
theorem Ends.of_direct (running : stopped = false) (named : r.argument? "variableName" = some (.str subject)) :
    ∃ takes, uses = .executed (slot.directCode subject) :: takes ∧
      takes <+: [.took slot.data, .took slot.metadata] := by
  rcases ends.uses_cases with ⟨e, lacks, -⟩ | ⟨use, takes, begins, rfl, taken⟩
  · cases lacks with
    | unnamed absent => exact absurd named (absent _)
    | unframed held => cases running.symm.trans held
  · cases begins with
    | direct _ same =>
        cases named.symm.trans same
        exact ⟨takes, rfl, taken⟩
    | inFrame held => cases running.symm.trans held

/-- With a stopped thread and without a frame nothing is done. -/
theorem Ends.of_unframed (held : stopped = true) (named : r.argument? "variableName" = some (.str subject))
    (absent : ∀ frame, -2 ^ 63 ≤ frame → frame < 2 ^ 63 → r.argument? "frameId" ≠ some (.int frame)) :
    answer = .error (.missingArgument "frameId") ∧ t = s ∧ uses = [] := by
  rcases ends.uses_cases with ⟨e, lacks, rfl, rfl, rfl⟩ | ⟨use, takes, begins, -⟩
  · cases lacks with
    | unnamed none => exact absurd named (none _)
    | unframed => exact ⟨rfl, rfl, rfl⟩
  · cases begins with
    | direct running => cases running.symm.trans held
    | inFrame _ _ framed least most => exact absurd framed (absent _ least most)

/-- With a stopped thread and a frame one request is forwarded, and no code runs in the interpreter. -/
theorem Ends.of_framed (held : stopped = true) (named : r.argument? "variableName" = some (.str subject))
    (framed : r.argument? "frameId" = some (.int frame)) (least : -2 ^ 63 ≤ frame) (most : frame < 2 ^ 63) :
    ∃ takes, uses = .forwarded (slot.setExpression subject frame (Request.seqAfter r.seq)) :: takes ∧
      takes <+: [.took slot.data, .took slot.metadata] := by
  rcases ends.uses_cases with ⟨e, lacks, -⟩ | ⟨use, takes, begins, rfl, taken⟩
  · cases lacks with
    | unnamed absent => exact absurd named (absent _)
    | unframed _ _ absent => exact absurd framed (absent _ least most)
  · cases begins with
    | direct running => cases running.symm.trans held
    | inFrame _ same alike =>
        cases named.symm.trans same
        cases framed.symm.trans alike
        exact ⟨takes, rfl, taken⟩

end Kept

/-- The metadata of a representation is what there is for the keys of its data. -/
theorem lookup_assemble (data metadata : Json) (key : String) :
    (Representation.assemble data metadata).metadata.lookup key =
      if (data.get? key).isSome then metadata.get? key else none := by
  rw [Representation.assemble, Members.lookup_filter (fun k => (data.membersD.lookup k).isSome), Json.lookup_membersD,
    Json.lookup_membersD]

/-- Whatever the interpreter and the adapter do, a rendering keeps to its contract. -/
theorem inspect_contract (scope : Scope σ) (forward : Forward σ) (stopped : Bool) (slot : Slot) {r : Request}
    (wellFormed : r.arguments.WellFormed) (s : σ) :
    ∃ answer t uses, inspect scope forward stopped slot r s = (answer, t) ∧
      inspect (recordedScope scope) (recorded .forwarded forward) stopped slot r (s, []) = (answer, t, uses) ∧
      Contract scope forward stopped slot r s answer t uses := by
  obtain ⟨answer, t, uses, plainly, onRecord, ends⟩ := inspect_cases scope forward stopped slot s wellFormed
  refine ⟨answer, t, uses, plainly, onRecord, ?_⟩
  have given {data : Json} {metadata : Option Json} (rendered : Rendered scope forward stopped slot r s data metadata) :
      answer = .ok (.succeed r (some (Representation.assemble data (metadata.getD .null)).toJson)) := by
    rw [← rendered.answer, plainly]
  have succeeds (rendered : ∃ data metadata, Rendered scope forward stopped slot r s data metadata) :
      (Session.settle r answer).getBool? "success" = some true := by
    obtain ⟨data, metadata, rendered⟩ := rendered
    rw [given rendered]
    exact (Response.fields_succeed r _).1
  constructor
  case unnamed => exact ends.of_unnamed
  case direct => exact fun running named => ends.of_direct running named
  case unframed => exact fun held named absent => ends.of_unframed held named absent
  case inFrame =>
    intro subject frame held named framed least most
    obtain ⟨takes, made, taken⟩ := ends.of_framed held named framed least most
    exact ⟨_, takes, asksFor_setExpression slot subject frame _, made, taken⟩
  case success =>
    refine ⟨fun success => ends.rendered_or.resolve_right fun failure => ?_, succeeds⟩
    cases success.symm.trans failure
  case failure =>
    refine ⟨fun failure rendered => ?_, ends.rendered_or.resolve_left⟩
    cases failure.symm.trans (succeeds rendered)
  case body =>
    intro data metadata rendered
    rw [given rendered]
    exact ⟨_, (Response.fields_succeed r _).2, List.filter_sublist, lookup_assemble data _⟩

end Ends

section Sample

/-- What an adapter renders for the sample variable: text, and metadata of that and of an image that is not there. -/
def renderedText : Globals :=
  [(sampleSlot.data, .ok (Json.ofMembers [("text/plain", .str "V")])),
    (sampleSlot.metadata, .ok (Json.ofMembers [("image/png", .int 1), ("text/plain", .int 2)]))]

/-- An adapter that leaves this in the slot. -/
def textAdapter : Forward Globals := fun _ s =>
  (.ok (Json.ofMembers [("success", .bool true)]), s ++ renderedText)

/-- While a thread is stopped the sample is rendered by one message, and the metadata of the image is dropped. -/
theorem inspect_contract_sampleRequest :
    ∃ answer t uses, inspect (recordedScope sampleScope) (recorded .forwarded textAdapter) true sampleSlot sampleRequest
        (sampleGlobals, []) = (answer, t, uses) ∧
      Contract sampleScope textAdapter true sampleSlot sampleRequest sampleGlobals answer t uses ∧
      (Session.settle sampleRequest answer).get? "body" = some (Json.ofMembers
        [("data", Json.ofMembers [("text/plain", .str "V")]), ("metadata", Json.ofMembers [("text/plain", .int 2)])]) ∧
      uses = [.forwarded (sampleSlot.setExpression "v" 2 6), .took sampleSlot.data, .took sampleSlot.metadata] := by
  obtain ⟨answer, t, uses, -, onRecord, contract⟩ :=
    inspect_contract sampleScope textAdapter true sampleSlot (r := sampleRequest) (by decide +kernel) sampleGlobals
  refine ⟨answer, t, uses, onRecord, contract, ?_, ?_⟩
  · have made : answer = (inspect (recordedScope sampleScope) (recorded .forwarded textAdapter) true sampleSlot
        sampleRequest (sampleGlobals, [])).1 := by rw [onRecord]
    rw [made]
    decide +kernel
  · have made : uses = (inspect (recordedScope sampleScope) (recorded .forwarded textAdapter) true sampleSlot
        sampleRequest (sampleGlobals, [])).2.2 := by rw [onRecord]
    rw [made]
    decide +kernel

/-- The sample request under the greatest number. -/
def lastRequest : Request :=
  { sampleRequest with seq := 9223372036854775807 }

/-- While a thread is stopped the message for a request with the greatest number has the least one, and not the number
that is one more. -/
theorem inspect_after_greatest :
    (inspect (recordedScope sampleScope) (recorded .forwarded textAdapter) true sampleSlot lastRequest
        (sampleGlobals, [])).2.2 =
      [.forwarded (sampleSlot.setExpression "v" 2 (-9223372036854775808)), .took sampleSlot.data,
        .took sampleSlot.metadata] ∧
      ¬ ∃ message takes, AsksFor sampleSlot "v" 2 (lastRequest.seq + 1) message ∧
        (inspect (recordedScope sampleScope) (recorded .forwarded textAdapter) true sampleSlot lastRequest
          (sampleGlobals, [])).2.2 = .forwarded message :: takes := by
  have made : (inspect (recordedScope sampleScope) (recorded .forwarded textAdapter) true sampleSlot lastRequest
      (sampleGlobals, [])).2.2 = [.forwarded (sampleSlot.setExpression "v" 2 (-9223372036854775808)),
        .took sampleSlot.data, .took sampleSlot.metadata] := by decide +kernel
  refine ⟨made, fun ⟨message, takes, asks, same⟩ => ?_⟩
  rw [made] at same
  injection same with first
  injection first with first
  have seq := asks.seq
  rw [← first, (asksFor_setExpression ..).seq] at seq
  exact absurd seq (by decide)

end Sample

end Rendering
end DebugBridge
