import DebugBridge.Proofs.Rendering.Slots
import DebugBridge.Proofs.Text.Trim

/-!
# The assignment of a rendering

A rendering reaches its slot by an assignment of one expression to two globals. The code for the interpreter has it
as a statement behind an import, the request to the adapter has its two sides apart. Either way it is the same
assignment, whatever text stands for the variable: no name of a slot has a comma or an `=`, so what the text has of
them comes too late to be taken for those of the assignment.
-/

namespace DebugBridge

/-- An assignment of the two parts of a value to two globals. -/
structure Assignment where
  first : String
  second : String
  value : String
deriving DecidableEq, Repr

namespace Assignment

/-- Whether a text is a name: letters, digits and underscores, of which a digit does not come first. -/
def isName : List Char → Bool
  | [] => false
  | c :: cs => (c.isAlpha || c == '_') && cs.all fun c => c.isAlphanum || c == '_'

/-- The assignment of a value to a target, if the target is two names with a comma between them. -/
def ofSides? (target value : List Char) : Option Assignment :=
  match target.span (· != ',') with
  | (_, []) => none
  | (first, _ :: second) =>
    if isName (trimBlank first) && isName (trimBlank second) then
      some ⟨String.ofList (trimBlank first), String.ofList (trimBlank second), String.ofList (trimBlank value)⟩
    else none

/-- What may stand before an assignment in code. -/
def importFront : String := "from IPython import get_ipython;"

/-- The assignment that code makes. Its sides are those of the first `=`. -/
def ofCode? (code : String) : Option Assignment :=
  match ((afterFront? importFront.toList code.toList).getD code.toList).span (· != '=') with
  | (_, []) => none
  | (target, _ :: value) => ofSides? target value

/-- The assignment that a request asks the adapter for. -/
def ofRequest? (request : Json) : Option Assignment := do
  let arguments ← request.get? "arguments"
  let target ← arguments.getString? "expression"
  let value ← arguments.getString? "value"
  if request.getString? "command" = some "setExpression" then ofSides? target.toList value.toList else none

end Assignment

namespace Slot

/-- The assignment that renders a variable into a slot. -/
def rendering (slot : Slot) (subject : String) : Assignment :=
  ⟨slot.data, slot.metadata, expression subject⟩

/-- A character of a name is no mark and no blank. -/
def IsPlain (c : Char) : Prop :=
  c.isAlphanum = true ∨ c = '_'

/-- The names of a slot are made of plain characters. -/
theorem plain_of_mem_names {id : BitVec 128} {name : String} (member : name ∈ (ofId id).names) :
    ∀ c ∈ name.toList, IsPlain c := by
  have others : ∀ part ∈ [front, "_data", "_metadata"], part.toList.all (fun c => c.isAlphanum || c == '_') = true := by
    decide
  have fixed {part : String} (known : part ∈ [front, "_data", "_metadata"]) {c : Char} (within : c ∈ part.toList) :
      IsPlain c := by simpa [IsPlain] using List.all_eq_true.mp (others part known) c within
  intro c within
  simp only [names, List.mem_cons, List.not_mem_nil, or_false] at member
  obtain rfl | rfl := member
  all_goals
    simp only [toList_data, toList_metadata, List.mem_append] at within
    obtain within | within | within := within
    · exact fixed (by simp) within
    · exact .inl (isAlphanum_of_mem_digits within)
    · exact fixed (by simp) within

/-- The names of a slot are names. -/
theorem isName_of_mem_names {id : BitVec 128} {name : String} (member : name ∈ (ofId id).names) :
    Assignment.isName name.toList = true := by
  have plain := plain_of_mem_names member
  have begins : ∃ rest, name.toList = '_' :: rest := by
    have front : front.toList = '_' :: "_nbdap_rich_".toList := by decide
    simp only [names, List.mem_cons, List.not_mem_nil, or_false] at member
    obtain rfl | rfl := member
    · exact ⟨_, by rw [toList_data, front]; rfl⟩
    · exact ⟨_, by rw [toList_metadata, front]; rfl⟩
  obtain ⟨rest, shape⟩ := begins
  rw [shape] at plain ⊢
  simpa [Assignment.isName, IsPlain] using (List.forall_mem_cons.mp plain).2

theorem IsPlain.not_blank {c : Char} (plain : IsPlain c) : isBlank c = false := by
  obtain alphanum | rfl := plain
  · have range : 48 ≤ c.toNat ∧ c.toNat ≤ 57 ∨ 65 ≤ c.toNat ∧ c.toNat ≤ 90 ∨ 97 ≤ c.toNat ∧ c.toNat ≤ 122 := by
      simp only [Char.isAlphanum, Char.isAlpha, Char.isUpper, Char.isLower, Char.isDigit, Bool.or_eq_true,
        Bool.and_eq_true, decide_eq_true_eq, UInt32.le_iff_toNat_le, ge_iff_le] at alphanum
      change (65 ≤ c.toNat ∧ c.toNat ≤ 90 ∨ 97 ≤ c.toNat ∧ c.toNat ≤ 122) ∨ 48 ≤ c.toNat ∧ c.toNat ≤ 57 at alphanum
      omega
    simp only [isBlank, Bool.or_eq_false_iff, Bool.and_eq_false_iff, decide_eq_false_iff_not, beq_eq_false_iff_ne]
    omega
  · decide

/-- A slot's global is not trimmed. -/
theorem trimBlank_of_mem_names {id : BitVec 128} {name : String} (member : name ∈ (ofId id).names) :
    trimBlank name.toList = name.toList := by
  have some : name.toList ≠ [] := by
    intro none
    simpa [none, Assignment.isName] using isName_of_mem_names member
  refine (trimBlank_eq_iff some fun c within => (plain_of_mem_names member c within).not_blank).mpr ⟨[], [], ?_⟩
  simp

theorem not_mem_of_not_plain {id : BitVec 128} {name : String} (member : name ∈ (ofId id).names) {mark : Char}
    (odd : ¬ IsPlain mark) : mark ∉ name.toList :=
  fun within => odd (plain_of_mem_names member mark within)

/-- The expression begins and ends with characters of its own, so nothing of a variable's text is trimmed. -/
theorem trimBlank_expression {blanks : List Char} (blank : ∀ c ∈ blanks, isBlank c = true) (subject : String) :
    trimBlank (blanks ++ (expression subject).toList) = (expression subject).toList := by
  obtain ⟨front, inner, starts, shape⟩ : ∃ (front : String) (inner : List Char),
      front.toList = 'g' :: inner ∧ expression subject = front ++ subject ++ ")" :=
    ⟨"get_ipython().display_formatter.format(", _, rfl, rfl⟩
  have whole : (expression subject).toList = 'g' :: (inner ++ subject.toList ++ [')']) := by simp [shape, starts]
  rw [whole]
  exact trimBlank_between blank (by decide) (by decide)

end Slot

namespace Assignment

/-- A text is split at the first mark in it. -/
theorem span_mark {mark : Char} {before : List Char} (apart : mark ∉ before) (after : List Char) :
    (before ++ mark :: after).span (· != mark) = (before, mark :: after) := by
  have others : ∀ c ∈ before, (c != mark) = true := fun c member => by
    simpa using ne_of_mem_of_not_mem member apart
  rw [List.span_eq_takeWhile_dropWhile, List.takeWhile_append_of_pos others, List.dropWhile_append_of_pos others,
    List.takeWhile_cons_of_neg (by simp), List.dropWhile_cons_of_neg (by simp), List.append_nil]

variable (id : BitVec 128) (subject : String)

/-- The two sides of the hidden request make the rendering. -/
theorem ofSides?_target {blanks : List Char} (blank : ∀ c ∈ blanks, isBlank c = true) :
    ofSides? (Slot.ofId id).target.toList (blanks ++ (Slot.expression subject).toList) =
      some ((Slot.ofId id).rendering subject) := by
  have data : (Slot.ofId id).data ∈ (Slot.ofId id).names := by simp [Slot.names]
  have metadata : (Slot.ofId id).metadata ∈ (Slot.ofId id).names := by simp [Slot.names]
  have target : (Slot.ofId id).target.toList = (Slot.ofId id).data.toList ++ ',' :: (Slot.ofId id).metadata.toList := by
    simp [Slot.target]
  have apart : ',' ∉ (Slot.ofId id).data.toList :=
    Slot.not_mem_of_not_plain data (by simp [Slot.IsPlain])
  rw [ofSides?, target, span_mark apart]
  simp [Slot.trimBlank_of_mem_names data, Slot.trimBlank_of_mem_names metadata, Slot.isName_of_mem_names data,
    Slot.isName_of_mem_names metadata, Slot.trimBlank_expression blank, Slot.rendering]

/-- The code for the interpreter makes the assignment of the rendering. -/
theorem ofCode?_directCode : ofCode? ((Slot.ofId id).directCode subject) = some ((Slot.ofId id).rendering subject) := by
  have code : ((Slot.ofId id).directCode subject).toList =
      importFront.toList ++ ((Slot.ofId id).target.toList ++ '=' :: ([' '] ++ (Slot.expression subject).toList)) := by
    have sides : (Slot.ofId id).directCode subject =
        importFront ++ (Slot.ofId id).target ++ "= " ++ Slot.expression subject := rfl
    simp [sides]
  have apart : '=' ∉ (Slot.ofId id).target.toList := by
    have odd : ¬ Slot.IsPlain '=' := by simp [Slot.IsPlain]
    have names : ∀ name ∈ (Slot.ofId id).names, '=' ∉ name.toList :=
      fun name member => Slot.not_mem_of_not_plain member odd
    simpa [Slot.target, Slot.names] using names
  rw [ofCode?, code, afterFront?_append, Option.getD_some, span_mark apart]
  exact ofSides?_target id subject (List.forall_mem_singleton.mpr (by decide))

/-- So does the request to the adapter, in whatever frame and under whatever number. -/
theorem ofRequest?_setExpression (frame seq : Int) :
    ofRequest? ((Slot.ofId id).setExpression subject frame seq) = some ((Slot.ofId id).rendering subject) := by
  have sides := @ofSides?_target id subject [] (by simp)
  simpa [ofRequest?, Slot.setExpression, Json.getString?, Json.get?_ofMembers, Json.asString?, List.lookup] using sides

end Assignment
end DebugBridge
