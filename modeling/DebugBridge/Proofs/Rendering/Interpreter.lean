import DebugBridge.Proofs.Rendering.Assignment

/-!
# An interpreter that renders

The interpreter belongs to the kernel. What the renderings rely on of it is that its globals are a dictionary of
objects, that code which makes an assignment performs it, and that a global is taken out with its object
(`Interpreter.Lawful`). Nothing is said of what evaluating an expression does to the globals.
-/

namespace DebugBridge

/-- Evaluates expressions and assigns what they give, over states `σ`. -/
structure Evaluator (σ Object : Type) where
  /-- The two parts of the value of an expression, each of which may be missing. -/
  evaluate : String → σ → Except Raised (Option Object × Option Object) × σ
  /-- Makes a global hold an object. -/
  bind : String → Object → σ → σ

namespace Evaluator

variable {σ Object : Type} (evaluator : Evaluator σ Object)

/-- Assigns a part, if it is there. -/
def store (name : String) (part : Option Object) (s : σ) : σ :=
  part.elim s fun o => evaluator.bind name o s

/-- Performs an assignment. If its value cannot be had, nothing is assigned. -/
def perform (a : Assignment) (s : σ) : Except Raised Unit × σ :=
  match evaluator.evaluate a.value s with
  | (.error x, s) => (.error x, s)
  | (.ok (first, second), s) => (.ok (), evaluator.store a.second second (evaluator.store a.first first s))

/-- The parts that an evaluation has for an assignment. -/
def given : Except Raised (Option Object × Option Object) → Option Object × Option Object
  | .ok parts => parts
  | .error _ => (none, none)

variable {evaluator} in
/-- An assignment whose value cannot be evaluated raises what the evaluation raises. -/
theorem perform_error {a : Assignment} {s : σ} {x : Raised} (failed : (evaluator.evaluate a.value s).1 = .error x) :
    evaluator.perform a s = (.error x, (evaluator.perform a s).2) := by
  rw [perform]
  cases evaluated : evaluator.evaluate a.value s with
  | mk outcome rendered =>
      rw [evaluated] at failed
      cases failed
      rfl

variable {evaluator} in
/-- An assignment whose value can be evaluated raises nothing. -/
theorem perform_ok {a : Assignment} {s : σ} {parts : Option Object × Option Object}
    (succeeded : (evaluator.evaluate a.value s).1 = .ok parts) :
    evaluator.perform a s = (.ok (), (evaluator.perform a s).2) := by
  rw [perform]
  cases evaluated : evaluator.evaluate a.value s with
  | mk outcome rendered =>
      rw [evaluated] at succeeded
      cases succeeded
      rfl

/-- Either way, what the evaluation gives is stored under both names. -/
theorem perform_state (a : Assignment) (s : σ) : (evaluator.perform a s).2 =
    evaluator.store a.second (given (evaluator.evaluate a.value s).1).2
      (evaluator.store a.first (given (evaluator.evaluate a.value s).1).1 (evaluator.evaluate a.value s).2) := by
  rw [perform]
  obtain ⟨outcome, s⟩ := evaluator.evaluate a.value s
  cases outcome <;> rfl

/-- Carries out a request to assign. -/
def obey (request : Json) (s : σ) : σ :=
  match Assignment.ofRequest? request with
  | some a => (evaluator.perform a s).2
  | none => s

end Evaluator

/-- An interpreter as renderings see it. -/
structure Interpreter (σ Object : Type) extends Scope σ, Evaluator σ Object where
  /-- The object that a global holds. -/
  object : String → σ → Option Object
  /-- The conversion of an object that is taken out. -/
  convert : Object → Except Raised (Option Json)

namespace Interpreter

variable {σ Object : Type}

/-- The globals are a dictionary, and code that makes an assignment performs it. -/
structure Lawful (interpreter : Interpreter σ Object) : Prop where
  /-- The import that may stand before the assignment brings what every kernel has. -/
  exec {code : String} {a : Assignment} (makes : Assignment.ofCode? code = some a) (s : σ) :
    interpreter.exec code s = interpreter.perform a s
  object_eq_none {name : String} {s : σ} : interpreter.object name s = none ↔ name ∉ interpreter.names s
  names_bind (name : String) (o : Object) (s : σ) : interpreter.names (interpreter.bind name o s) =
    if name ∈ interpreter.names s then interpreter.names s else interpreter.names s ++ [name]
  object_bind (name : String) (o : Object) (s : σ) (other : String) :
    interpreter.object other (interpreter.bind name o s) = if other = name then some o else interpreter.object other s
  taken (name : String) (s : σ) :
    (interpreter.take name s).1 = (interpreter.object name s).elim (.ok none) interpreter.convert
  names_take (name : String) (s : σ) :
    interpreter.names (interpreter.take name s).2 = (interpreter.names s).filter (· ≠ name)
  object_take (name : String) (s : σ) (other : String) :
    interpreter.object other (interpreter.take name s).2 = if other = name then none else interpreter.object other s

/-- Rendering what stands for a variable looks at some of the globals only, and changes none. -/
structure Renders (interpreter : Interpreter σ Object) (subject : String) (reads : List String) : Prop where
  outcome {s t : σ} (same : ∀ name ∈ reads, interpreter.object name t = interpreter.object name s) :
    (interpreter.evaluate (Slot.expression subject) t).1 = (interpreter.evaluate (Slot.expression subject) s).1
  object (name : String) (s : σ) :
    interpreter.object name (interpreter.evaluate (Slot.expression subject) s).2 = interpreter.object name s

variable {interpreter : Interpreter σ Object} {s : σ}

/-- Storing under a name changes that name alone. -/
theorem Lawful.object_store (law : interpreter.Lawful) (name : String) (part : Option Object) (s : σ) (other : String) :
    interpreter.object other (interpreter.store name part s) =
      if other = name then part.or (interpreter.object name s) else interpreter.object other s := by
  cases part with
  | none => by_cases same : other = name <;> simp [Evaluator.store, same]
  | some o => simp [Evaluator.store, law.object_bind]

/-- The representation that is read back from the two objects of a slot. -/
def readParts (interpreter : Interpreter σ Object) (slot : Slot) (parts : Option Object × Option Object) :
    Except Error Representation :=
  match parts.1.elim (.ok none) interpreter.convert with
  | .error x => .error (.interpreter x)
  | .ok data =>
    match parts.2.elim (.ok none) interpreter.convert with
    | .error x => .error (.interpreter x)
    | .ok metadata =>
      match data with
      | none => .error (.slotMissing slot.data)
      | some data => .ok (Representation.assemble data (metadata.getD .null))

/-- What the two globals of a slot hold. -/
def parts (interpreter : Interpreter σ Object) (slot : Slot) (s : σ) : Option Object × Option Object :=
  (interpreter.object slot.data s, interpreter.object slot.metadata s)

/-- What a slot holds depends on its own names alone. -/
theorem parts_congr {slot : Slot} {t : σ}
    (same : ∀ name ∈ slot.names, interpreter.object name t = interpreter.object name s) :
    interpreter.parts slot t = interpreter.parts slot s :=
  Prod.ext (same slot.data (by simp [Slot.names])) (same slot.metadata (by simp [Slot.names]))

/-- A slot whose names are not in use is empty. -/
theorem Lawful.parts_fresh (law : interpreter.Lawful) {slot : Slot}
    (fresh : ∀ name ∈ slot.names, name ∉ interpreter.names s) :
    interpreter.parts slot s = (none, none) :=
  Prod.ext (law.object_eq_none.mpr (fresh slot.data (by simp [Slot.names])))
    (law.object_eq_none.mpr (fresh slot.metadata (by simp [Slot.names])))

/-- What is read back depends on the two objects of the slot alone. -/
theorem Lawful.takeSlot_eq (law : interpreter.Lawful) {slot : Slot} (distinct : slot.metadata ≠ slot.data) (s : σ) :
    (Rendering.takeSlot interpreter.toScope slot s).1 = interpreter.readParts slot (interpreter.parts slot s) := by
  have data := law.taken slot.data s
  have metadata := law.taken slot.metadata (interpreter.take slot.data s).2
  rw [law.object_take, if_neg distinct] at metadata
  rw [Rendering.takeSlot, readParts, parts, ← data, ← metadata]
  obtain ⟨outcome, s⟩ := interpreter.take slot.data s
  cases outcome with
  | error x => rfl
  | ok data =>
      dsimp only
      obtain ⟨outcome, s⟩ := interpreter.take slot.metadata s
      cases outcome with
      | error x => rfl
      | ok metadata => cases data <;> rfl

/-- The answer that is made of the two objects of a slot. -/
def answerParts (interpreter : Interpreter σ Object) (slot : Slot) (r : Request)
    (parts : Option Object × Option Object) : Except Error Response :=
  (interpreter.readParts slot parts).map fun representation => .succeed r (some representation.toJson)

/-- The answer depends on what the slot holds, and on nothing else. -/
theorem Lawful.answerFromSlot_eq (law : interpreter.Lawful) {slot : Slot} (distinct : slot.metadata ≠ slot.data)
    (r : Request) (s : σ) : (Rendering.answerFromSlot interpreter.toScope slot r s).1 =
      interpreter.answerParts slot r (interpreter.parts slot s) := by
  rw [answerParts, ← law.takeSlot_eq distinct, Rendering.answerFromSlot]
  obtain ⟨outcome, s⟩ := Rendering.takeSlot interpreter.toScope slot s
  cases outcome <;> rfl

section Renders

variable {subject name : String} {reads : List String} {slot : Slot}
  (law : interpreter.Lawful) (renders : interpreter.Renders subject reads)
include law renders

/-- A rendering leaves all names but its slot's as they are. -/
theorem Renders.object_perform (other : name ∉ slot.names) (s : σ) :
    interpreter.object name (interpreter.perform (slot.rendering subject) s).2 = interpreter.object name s := by
  obtain ⟨data, metadata⟩ : name ≠ slot.data ∧ name ≠ slot.metadata := by simpa [Slot.names] using other
  rw [interpreter.perform_state, Slot.rendering, law.object_store, if_neg metadata, law.object_store, if_neg data,
    renders.object]

/-- A rendering leaves what it evaluated in its empty slot. -/
theorem Renders.parts_perform (distinct : slot.metadata ≠ slot.data) (empty : interpreter.parts slot s = (none, none)) :
    interpreter.parts slot (interpreter.perform (slot.rendering subject) s).2 =
      Evaluator.given (interpreter.evaluate (Slot.expression subject) s).1 := by
  obtain ⟨data, metadata⟩ := Prod.mk.injEq .. ▸ empty
  rw [interpreter.perform_state, Slot.rendering, parts]
  simp [law.object_store, renders.object, distinct, distinct.symm, data, metadata]

end Renders

section Dictionary

open Rendering

/-- Makes a global hold a value: in its place if it is there, else behind all others. -/
def put (name : String) (value : Except Raised Json) : Globals → Globals
  | [] => [(name, value)]
  | g :: globals => if g.1 = name then (name, value) :: globals else g :: put name value globals

theorem map_fst_put (name : String) (value : Except Raised Json) (globals : Globals) :
    (put name value globals).map Prod.fst =
      if name ∈ globals.map Prod.fst then globals.map Prod.fst else globals.map Prod.fst ++ [name] := by
  induction globals with
  | nil => simp [put]
  | cons g globals ih =>
      by_cases here : g.1 = name
      · simp [put, here]
      · by_cases there : name ∈ globals.map Prod.fst <;> simp_all [put, Ne.symm here]

theorem lookup_put (name : String) (value : Except Raised Json) (globals : Globals) (other : String) :
    (put name value globals).lookup other = if other = name then some value else globals.lookup other := by
  have differs {a b : String} (h : ¬ a = b) : (a == b) = false := beq_eq_false_iff_ne.mpr h
  induction globals with
  | nil => by_cases same : other = name <;> simp [put, List.lookup_cons, same, differs]
  | cons g globals ih =>
      obtain ⟨key, held⟩ := g
      by_cases here : key = name
      · subst here
        by_cases same : other = key <;> simp [put, List.lookup_cons, same, differs]
      · by_cases same : other = key
        · simp [put, same, here]
        · simp [put, here, List.lookup_cons, differs same, ih]

/-- The rendering of a value as plain text, without metadata. What cannot be converted has none that can. -/
def plainly (value : Except Raised Json) : Option (Except Raised Json) × Option (Except Raised Json) :=
  (some (value.map fun v => Json.ofMembers [("text/plain", v)]), some (.ok (Json.ofMembers [])))

/-- Evaluates the rendering of a global, and nothing else. -/
def dictionaryEvaluator : Evaluator Globals (Except Raised Json) where
  evaluate value s := (((s.map fun g => (Slot.expression g.1, g.2)).lookup value).elim (.error (undefined value))
    fun held => .ok (plainly held), s)
  bind := put

/-- Runs code that makes an assignment, and no other. -/
def execAssignment (code : String) (s : Globals) : Except Raised Unit × Globals :=
  match Assignment.ofCode? code with
  | some a => dictionaryEvaluator.perform a s
  | none => (.error (.plain "SyntaxError" "invalid syntax"), s)

/-- A dictionary of values, of which each is rendered as plain text. -/
def dictionary : Interpreter Globals (Except Raised Json) where
  toScope := { sampleScope with exec := execAssignment }
  toEvaluator := dictionaryEvaluator
  object name s := s.lookup name
  convert held := held.map some

/-- The dictionary is a lawful interpreter. -/
theorem lawful_dictionary : dictionary.Lawful where
  exec makes s := by simp only [dictionary, execAssignment, makes]
  object_eq_none := by
    intro name s
    have absent : (∀ g ∈ s, ¬ name = g.1) ↔ name ∉ s.map Prod.fst := by
      simp only [List.mem_map, not_exists, not_and, eq_comm]
    simpa [dictionary, sampleScope, List.lookup_eq_none_iff] using absent
  names_bind := map_fst_put
  object_bind := lookup_put
  taken _ _ := rfl
  names_take name s := by simp [dictionary, sampleScope, List.filter_map, Function.comp_def]
  object_take name s other := by
    have left := Members.lookup_filter (fun key => decide (key ≠ name)) other s
    by_cases same : other = name <;> simpa [dictionary, sampleScope, same] using left

/-- Different subjects are rendered by different expressions. -/
theorem expression_injective : Function.Injective Slot.expression := by
  intro subject other same
  obtain ⟨front, shape⟩ : ∃ front, ∀ subject, Slot.expression subject = front ++ subject ++ ")" :=
    ⟨"get_ipython().display_formatter.format(", fun _ => rfl⟩
  have texts := congrArg String.toList same
  exact String.toList_inj.mp (by simpa [shape] using texts)

theorem lookup_map_keys {α : Type} {f : String → String} (injective : Function.Injective f) (key : String)
    (rows : List (String × α)) : (rows.map fun row => (f row.1, row.2)).lookup (f key) = rows.lookup key := by
  induction rows with
  | nil => rfl
  | cons row rows ih =>
      obtain ⟨k, v⟩ := row
      by_cases same : key = k
      · simp [same]
      · simp [List.lookup_cons, ih, beq_eq_false_iff_ne.mpr same, beq_eq_false_iff_ne.mpr (injective.ne same)]

theorem evaluate_dictionary (subject : String) (s : Globals) :
    (dictionary.evaluate (Slot.expression subject) s).1 =
      (s.lookup subject).elim (.error (undefined (Slot.expression subject))) fun held => .ok (plainly held) := by
  simp only [dictionary, dictionaryEvaluator, lookup_map_keys expression_injective]

/-- The dictionary renders a variable from its own value alone. -/
theorem renders_dictionary (subject : String) : dictionary.Renders subject [subject] where
  outcome {s t} same := by
    have held : t.lookup subject = s.lookup subject := same subject (List.mem_singleton.mpr rfl)
    rw [evaluate_dictionary, evaluate_dictionary, held]
  object _ _ := rfl

end Dictionary

end Interpreter
end DebugBridge
