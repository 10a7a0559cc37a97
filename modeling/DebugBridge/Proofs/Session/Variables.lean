import DebugBridge.Proofs.Session.Run
import DebugBridge.Proofs.Text.Trim

/-!
# What the front end is shown of the globals

Each visible global has one row in the answer to `inspectVariables`: its name, its type and its value, or what stands
for them where the interpreter cannot give them. `inspect_lists` says which globals are visible and what is in a row,
and that a session answers so at any time.
-/

namespace DebugBridge

/-! ## Names -/

/-- Names of globals that are not shown. -/
inductive Hidden (name : String) : Prop where
  | input (front : "_i".toList <+: name.toList) : Hidden name
  | output {digit : Char} {rest : List Char} (decimal : digit.isDigit = true)
      (shape : name.toList = '_' :: digit :: rest) :
      Hidden name
  | excluded (member : name ∈ excludedNames) : Hidden name

/-- Names of the input history begin with `_i`. -/
theorem isInputHistory_iff {name : String} : isInputHistory name = true ↔ "_i".toList <+: name.toList := by
  have front : "_i".toList = ['_', 'i'] := rfl
  rw [isInputHistory, front]
  split
  · next rest shape => simp [shape]
  · next other =>
      simp only [Bool.false_eq_true, false_iff]
      rintro ⟨rest, shape⟩
      exact other rest shape.symm

theorem isSome_digitValue? (c : Char) : (digitValue? c).isSome = c.isDigit := by
  rw [digitValue?, Char.isDigit]
  split <;> simp_all [Char.le_def]

/-- Names of the output cache begin with an underscore and a digit. -/
theorem isOutputCache_iff {name : String} :
    isOutputCache name = true ↔ ∃ digit rest, digit.isDigit = true ∧ name.toList = '_' :: digit :: rest := by
  rw [isOutputCache]
  split
  · next c rest shape => simp [shape, isSome_digitValue?]
  · next other =>
      simp only [Bool.false_eq_true, false_iff]
      rintro ⟨digit, rest, -, shape⟩
      exact other digit rest shape

/-- A name is visible if nothing hides it. -/
theorem isVisible_iff {name : String} : isVisible name = true ↔ ¬ Hidden name := by
  simp only [isVisible, Bool.and_eq_true, Bool.not_eq_true', ← Bool.not_eq_true, isInputHistory_iff,
    isOutputCache_iff, List.contains_iff_mem]
  constructor
  · rintro ⟨⟨noInput, noOutput⟩, notExcluded⟩ hidden
    cases hidden with
    | input front => exact noInput front
    | output decimal shape => exact noOutput ⟨_, _, decimal, shape⟩
    | excluded member => exact notExcluded member
  · intro shown
    exact ⟨⟨fun front => shown (.input front), fun ⟨_, _, decimal, shape⟩ => shown (.output decimal shape)⟩,
      fun member => shown (.excluded member)⟩

instance : DecidablePred Hidden := fun name =>
  decidable_of_iff (isVisible name = false) (by rw [← Bool.not_eq_true, isVisible_iff, Classical.not_not])

/-! ## Types -/

/-- A type's text in its decoration. -/
def decorated (type : String) : String :=
  "<class '" ++ type ++ "'>"

theorem toList_decorated (type : String) :
    (decorated type).toList = "<class '".toList ++ (type.toList ++ "'>".toList) := by
  simp only [decorated, String.toList_append, List.append_assoc]

/-- Front and end are both taken off, or neither is. The front may share its quote with the end, and does not count
then. -/
theorem shortTypeName_cases (text : String) :
    text = decorated (shortTypeName text) ∨ (∀ type, text ≠ decorated type) ∧ shortTypeName text = text := by
  have ending {rest inner : List Char} : afterFront? "'>".toList.reverse rest.reverse = some inner ↔
      rest = inner.reverse ++ "'>".toList := by
    rw [afterFront?_eq_some_iff, ← List.reverse_inj]
    simp only [List.reverse_append, List.reverse_reverse]
  unfold shortTypeName
  cases front : afterFront? "<class '".toList text.toList with
  | none =>
      refine .inr ⟨fun type same => ?_, rfl⟩
      rw [same, toList_decorated, afterFront?_append] at front
      cases front
  | some rest =>
      have shape := afterFront?_eq_some_iff.mp front
      dsimp only
      cases back : afterFront? "'>".toList.reverse rest.reverse with
      | none =>
          refine .inr ⟨fun type same => ?_, rfl⟩
          rw [same, toList_decorated] at shape
          obtain rfl := List.append_cancel_left shape
          have found := ending.mpr (by rw [List.reverse_reverse] : _ = type.toList.reverse.reverse ++ "'>".toList)
          cases found.symm.trans back
      | some inner =>
          have kept : (String.ofList inner.reverse).toList = inner.reverse := String.toList_ofList
          refine .inl (String.toList_inj.mp ?_)
          dsimp only
          rw [shape, ending.mp back, toList_decorated, kept]

namespace Scope

variable {σ : Type}

/-- The text that stands for the type of a global. -/
inductive TypeText (scope : Scope σ) (s : σ) (name : String) : String → Prop where
  | decorated {type : String} (shown : scope.displayType name s = .ok (decorated type)) : TypeText scope s name type
  | plain {text : String} (shown : scope.displayType name s = .ok text)
      (bare : ∀ type, text ≠ DebugBridge.decorated type) :
      TypeText scope s name text
  | unknown {x : Raised} (failed : scope.displayType name s = .error x) : TypeText scope s name ""

/-- What stands for the value of a global. -/
inductive Value (scope : Scope σ) (s : σ) (name : String) : Json → Prop where
  | converted {v : Json} (given : scope.value name s = .ok v) : Value scope s name v
  | displayed {x : Raised} {text : String} (failed : scope.value name s = .error x)
      (shown : scope.display name s = .ok text) : Value scope s name (.str text)
  | unavailable {x y : Raised} (failed : scope.value name s = .error x) (hidden : scope.display name s = .error y) :
      Value scope s name (.str "<unavailable>")

/-- The row of a global. It refers to no further variables, and has no other members. -/
def Row (scope : Scope σ) (s : σ) (name : String) (row : Json) : Prop :=
  ∃ type value, scope.TypeText s name type ∧ scope.Value s name value ∧
    row = .obj [("name", .str name), ("type", .str type), ("value", value), ("variablesReference", .int 0)]

/-- The type in a row is the one that the interpreter shows, or what stands for it. -/
theorem typeText_listedType (scope : Scope σ) (s : σ) (name : String) :
    scope.TypeText s name (scope.listedType name s) := by
  rw [listedType]
  cases shown : scope.displayType name s with
  | error x => exact .unknown shown
  | ok text =>
      dsimp only
      rcases shortTypeName_cases text with whole | ⟨bare, same⟩
      · exact .decorated (shown.trans (congrArg Except.ok whole))
      · rw [same]
        exact .plain shown bare

/-- The value in a row is the one that the interpreter shows, or what stands for it. -/
theorem value_listedValue (scope : Scope σ) (s : σ) (name : String) :
    scope.Value s name (scope.listedValue name s) := by
  rw [listedValue]
  cases given : scope.value name s with
  | ok v => exact .converted given
  | error x =>
      cases shown : scope.display name s with
      | ok text => exact .displayed given shown
      | error y => exact .unavailable given shown

/-- Every entry is a row for its name. -/
theorem row_entry (scope : Scope σ) (s : σ) (name : String) : scope.Row s name (scope.entry s name) := by
  have keys : ["name", "type", "value", "variablesReference"].Pairwise (· < ·) := by decide
  refine ⟨_, _, scope.typeText_listedType s name, scope.value_listedValue s name, congrArg Json.obj ?_⟩
  exact Members.ofList_eq_self (List.pairwise_map.mp keys)

/-- The rows are those of the names that are not hidden, one for each and in their order. -/
theorem rows_entries (scope : Scope σ) (s : σ) :
    List.Forall₂ (scope.Row s) ((scope.names s).filter (¬ Hidden ·)) (scope.entries s) := by
  have visible : (scope.names s).filter (¬ Hidden ·) = (scope.names s).filter isVisible := by
    refine List.filter_congr fun name _ => ?_
    simp [← isVisible_iff]
  rw [visible, entries, List.forall₂_map_right_iff, List.forall₂_same]
  exact fun name _ => scope.row_entry s name

end Scope

/-! ## The answer -/

namespace Session

variable {σ : Type} (out : Outside σ)

/-- A session lists the variables itself, whether or not it is started. -/
theorem process_inspection {s : Session} {message : Json} {r : Request} (read : Request.ofJson? message = .ok r)
    (isInspection : r.command = "inspectVariables") (header : Json) (early arrivals : List Arrival) (meanwhile : σ → σ)
    (o : σ) : s.process out header message early arrivals meanwhile o =
      ((out.scope.inspect r o).toJson, arrivals.foldl arrive s, meanwhile o) := by
  have begun : s.begin out header message early o = (.answered (out.scope.inspect r o).toJson, s, o) := by
    refine begin_of_answered out read (by rw [isInspection]; decide) ?_ header early
    exact consider_of_handler out s .inspectVariables isInspection nofun o
  rw [process_eq, begun]
  rfl

/-- Whatever the globals are, and whichever of them the interpreter cannot convert or show, the answer to
`inspectVariables` is a success, and it holds one row for each name that is not hidden, in the interpreter's order. A
session gives this answer in every state, over an interpreter that it leaves as it is. -/
theorem inspect_lists (r : Request) (o : σ) :
    (∃ rows, (out.scope.inspect r o).toJson.get? "success" = some (.bool true) ∧
      (out.scope.inspect r o).toJson.get? "body" = some (.obj [("variables", .arr rows)]) ∧
      List.Forall₂ (out.scope.Row o) ((out.scope.names o).filter (¬ Hidden ·)) rows) ∧
    ∀ (s : Session) header message early arrivals meanwhile, Request.ofJson? message = .ok r →
      r.command = "inspectVariables" → s.process out header message early arrivals meanwhile o =
        ((out.scope.inspect r o).toJson, arrivals.foldl arrive s, meanwhile o) := by
  have body : Json.ofMembers [("variables", .arr (out.scope.entries o))] =
      .obj [("variables", .arr (out.scope.entries o))] := rfl
  refine ⟨⟨_, ?_, ?_, out.scope.rows_entries o⟩, fun s header message early arrivals meanwhile read command => ?_⟩
  · simp [Scope.inspect, Response.succeed, Response.toJson, Json.get?_ofMembers, List.lookup]
  · simp [Scope.inspect, Response.succeed, Response.toJson, Json.get?_ofMembers, body]
  · exact process_inspection out read command header early arrivals meanwhile o

/-- Globals of which two are hidden, and one can be neither converted nor shown. -/
def sampleGlobals : Scope Unit where
  names _ := ["_1", "x", "__name__", "broken"]
  value name _ := if name = "broken" then .error ⟨"TypeError", "no JSON", []⟩ else .ok (.int 1)
  display _ _ := .error ⟨"RuntimeError", "no text", []⟩
  displayType name _ := if name = "broken" then .error ⟨"RuntimeError", "no type", []⟩ else .ok (decorated "int")
  exec _ _ := (.ok (), ())
  take _ _ := (.ok none, ())

theorem inspect_lists_sampleGlobals :
    ∃ r rows, Request.ofJson? (bareRequest 4 "inspectVariables") = .ok r ∧
      (idleSample.process { obliging with scope := sampleGlobals } .null (bareRequest 4 "inspectVariables") [] []
        id ()).1.get?
        "body" = some (.obj [("variables", .arr rows)]) ∧
      List.Forall₂ (sampleGlobals.Row ()) ["x", "broken"] rows := by
  have read : Request.ofJson? (bareRequest 4 "inspectVariables") = .ok _ := rfl
  obtain ⟨⟨rows, -, body, listed⟩, answers⟩ := inspect_lists { obliging with scope := sampleGlobals }
    ⟨4, "inspectVariables", .null, []⟩ ()
  have shown : (sampleGlobals.names ()).filter (¬ Hidden ·) = ["x", "broken"] := by decide
  refine ⟨_, rows, read, ?_, shown ▸ listed⟩
  rw [answers idleSample .null (bareRequest 4 "inspectVariables") [] [] id read rfl]
  exact body

end Session
end DebugBridge
