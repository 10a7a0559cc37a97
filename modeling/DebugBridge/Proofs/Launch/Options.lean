import DebugBridge.Launch.Config
import DebugBridge.Proofs.Json.RoundTrip

/-!
# Options of the adapter

A configuration keeps every option that the kernel hands over. Only the path of the interpreter is taken out of the
value, and writing the configuration puts it back, so nothing is lost but a path that is null. A value that cannot be
read counts as a whole as the empty configuration. What is read from a written configuration is that configuration
again, and the text in the diagnostic file stands for it as well.
-/

namespace DebugBridge

namespace Members

/-- Erasing a member leaves the others. -/
theorem lookup_erase (key other : String) (members : Members) :
    (erase key members).lookup other = if other = key then none else members.lookup other := by
  have kept := lookup_filter (fun k => decide (k ≠ key)) other members
  by_cases same : other = key
  · simpa [erase, same] using kept
  · simpa [erase, same] using kept

theorem sorted_erase (key : String) {members : Members} (sorted : Sorted members) : Sorted (erase key members) :=
  sorted_filter _ sorted

end Members

namespace Json

/-- The text of members in any order is read as the object that they make. -/
theorem decode_encode_members {members : Members} (values : ∀ m ∈ members, Exact 126 m.2) :
    decode (encode (.obj members)) = .ok (ofMembers members) := by
  have inner : ∀ m ∈ members, Reads (readValue 126) m.2 := fun m member =>
    reads_value m.2 (values m member).1.1 (values m member).1.2
  have read := reads_obj members inner [] EndsNumber.nil
  have formed : WellFormedMembers members := wellFormedMembers_iff.mpr fun m member => (values m member).1.1
  have floatFree : FloatFreeMembers members := floatFreeMembers_iff.mpr fun m member => (values m member).2
  rw [List.append_nil, reread, rereadMembers_eq_self formed floatFree] at read
  rw [decode, decodeWithin, depthLimit, readValue, read]
  rfl

end Json

namespace Config

/-! ## Reading -/

/-- The members of a value give a path: none if there is no such member or it is null, else the text that is there. -/
inductive Gives (members : Members) : Option String → Prop
  | absent (missing : members.lookup pythonName = none) : Gives members none
  | null (held : members.lookup pythonName = some .null) : Gives members none
  | text {path : String} (held : members.lookup pythonName = some (.str path)) : Gives members (some path)

/-- An object that gives a path is read as the path and the other members. -/
theorem ofJson_obj {members : Members} {path : Option String} (gives : Gives members path) :
    ofJson (.obj members) = ⟨path, members.erase pythonName⟩ := by
  cases gives with
  | absent missing =>
      simp only [ofJson, missing]
      rfl
  | null held =>
      simp only [ofJson, held]
      rfl
  | text held =>
      simp only [ofJson, held]
      rfl

/-- Any other value is read as the empty configuration. -/
theorem ofJson_eq_empty {v : Json} (unread : ¬ ∃ members path, v = .obj members ∧ Gives members path) :
    ofJson v = empty := by
  cases v with
  | null | bool b | int n | float bits | str s | arr items => rfl
  | obj members =>
      cases held : members.lookup pythonName with
      | none => exact absurd ⟨members, none, rfl, .absent held⟩ unread
      | some w =>
          cases w with
          | null => exact absurd ⟨members, none, rfl, .null held⟩ unread
          | str path => exact absurd ⟨members, some path, rfl, .text held⟩ unread
          | bool b | int n | float bits | arr items | obj inner => simp only [ofJson, held]

/-! ## Writing -/

/-- The options are sorted, and the path is not among them. -/
structure Regular (c : Config) : Prop where
  sorted : Members.Sorted c.options
  apart : c.options.lookup pythonName = none

theorem regular_empty : empty.Regular :=
  ⟨List.Pairwise.nil, rfl⟩

theorem regular_erase {members : Members} (sorted : Members.Sorted members) (path : Option String) :
    Regular ⟨path, members.erase pythonName⟩ :=
  ⟨Members.sorted_erase pythonName sorted, by rw [Members.lookup_erase, if_pos rfl]⟩

/-- What is read is regular. -/
theorem regular_ofJson {v : Json} (wellFormed : v.WellFormed) : (ofJson v).Regular := by
  by_cases read : ∃ members path, v = .obj members ∧ Gives members path
  · obtain ⟨members, path, rfl, gives⟩ := read
    rw [ofJson_obj gives]
    exact regular_erase wellFormed.1 path
  · rw [ofJson_eq_empty read]
    exact regular_empty

/-- What stands under a key in a written configuration: the path under its own name, else the option. -/
theorem Regular.lookup_toJson {c : Config} (regular : c.Regular) (key : String) :
    (Members.ofList c.members).lookup key =
      if key = pythonName then c.python.map Json.str else c.options.lookup key := by
  obtain ⟨python, options⟩ := c
  rw [Members.lookup_ofList, members, List.reverse_append, List.lookup_append,
    Members.lookup_reverse_of_sorted regular.sorted]
  by_cases path : key = pythonName
  · subst path
    rw [if_pos rfl, regular.apart, Option.none_or]
    cases python with
    | none => rfl
    | some path => simp
  · have differs : (key == pythonName) = false := by simpa using path
    rw [if_neg path]
    cases python with
    | none => simp
    | some path => simp [List.lookup, differs]

/-- What is read from a written configuration is that configuration. -/
theorem Regular.ofJson_toJson {c : Config} (regular : c.Regular) : ofJson c.toJson = c := by
  have held := regular.lookup_toJson pythonName
  rw [if_pos rfl] at held
  have gives : Gives (Members.ofList c.members) c.python := by
    cases path : c.python with
    | none => exact .absent (by rw [held, path]; rfl)
    | some text => exact .text (by rw [held, path]; rfl)
  have options : (Members.ofList c.members).erase pythonName = c.options := by
    apply (Members.sorted_erase pythonName (Members.sorted_ofList c.members)).ext regular.sorted
    intro key
    rw [Members.lookup_erase, regular.lookup_toJson]
    by_cases path : key = pythonName
    · rw [if_pos path, path, regular.apart]
    · rw [if_neg path, if_neg path]
  rw [toJson, Json.ofMembers, ofJson_obj gives, options]

/-- The path and the options that were taken apart make up the members again. -/
theorem ofList_members {members : Members} {path : Option String} (sorted : Members.Sorted members)
    (held : members.lookup pythonName = path.map Json.str) :
    Members.ofList (Config.members ⟨path, members.erase pythonName⟩) = members := by
  have regular : Regular ⟨path, members.erase pythonName⟩ := regular_erase sorted path
  apply (Members.sorted_ofList _).ext sorted
  intro key
  rw [regular.lookup_toJson, Members.lookup_erase]
  by_cases atPath : key = pythonName
  · rw [if_pos atPath, atPath, held]
  · rw [if_neg atPath, if_neg atPath]

/-- Reading and writing gives back all members but a path that is null. -/
theorem toJson_ofJson {members : Members} {path : Option String} (sorted : Members.Sorted members)
    (gives : Gives members path) : (ofJson (.obj members)).toJson =
      .obj (if members.lookup pythonName = some .null then members.erase pythonName else members) := by
  rw [ofJson_obj gives, toJson, Json.ofMembers]
  congr 1
  cases gives with
  | null held =>
      rw [if_pos held]
      exact Members.ofList_eq_self (Members.sorted_erase pythonName sorted)
  | absent missing =>
      rw [if_neg (by simp [missing])]
      exact ofList_members sorted missing
  | text held =>
      rw [if_neg (by simp [held])]
      exact ofList_members sorted held

/-! ## Text -/

/-- Options come through if the value does. -/
theorem exact_members_ofJson {v : Json} (exact : v.Exact Json.depthLimit) :
    ∀ m ∈ (ofJson v).members, Json.Exact 126 m.2 := by
  intro m member
  by_cases read : ∃ members path, v = .obj members ∧ Gives members path
  · obtain ⟨members, path, rfl, gives⟩ := read
    rw [ofJson_obj gives, Config.members, List.mem_append] at member
    rcases member with given | option
    · obtain ⟨path, -, rfl⟩ := Option.map_eq_some_iff.mp (Option.mem_toList.mp given)
      exact Json.inherited_exact.text 126 path
    · exact (Json.inherited_exact.obj_iff.mp exact).2 m (List.mem_of_mem_filter option)
  · rw [ofJson_eq_empty read] at member
    exact absurd member List.not_mem_nil

/-- The text of a configuration is read as its value. -/
theorem decode_text {v : Json} (exact : v.Exact Json.depthLimit) :
    Json.decode (Utf8.encode (ofJson v).text) = .ok (ofJson v).toJson := by
  have bytes : Utf8.encode (ofJson v).text = Json.encode (.obj (ofJson v).members) := by
    rw [text, Json.text, Utf8.encode, String.toList_ofList, Json.encode]
  rw [bytes, Json.decode_encode_members (exact_members_ofJson exact), toJson]

/-- A configuration has the path that the value gives and every other member of it as an option, each once, and writes
the value back but for a path that is null. A value that gives no path, or is no object, makes the empty configuration.
Reading what was written changes nothing, and the text of the diagnostic file says the same. -/
theorem options_survive {v : Json} (wellFormed : v.WellFormed) :
    (∀ members path, v = .obj members → Gives members path →
        (ofJson v).python = path ∧
          (∀ key, (ofJson v).options.lookup key = if key = pythonName then none else members.lookup key) ∧
          Members.Sorted (ofJson v).options ∧
          (members.lookup pythonName ≠ some .null → (ofJson v).toJson = v) ∧
          (members.lookup pythonName = some .null → (ofJson v).toJson = .obj (Members.erase pythonName members))) ∧
      ((¬ ∃ members path, v = .obj members ∧ Gives members path) →
        ofJson v = empty ∧ (ofJson v).toJson = .obj [] ∧ (ofJson v).text = "\x7b\x7d") ∧
      ofJson (ofJson v).toJson = ofJson v ∧
      (v.Exact Json.depthLimit → Json.decode (Utf8.encode (ofJson v).text) = .ok (ofJson v).toJson) := by
  refine ⟨?_, ?_, (regular_ofJson wellFormed).ofJson_toJson, decode_text⟩
  · rintro members path rfl gives
    have written := toJson_ofJson wellFormed.1 gives
    refine ⟨?_, fun key => ?_, (regular_ofJson wellFormed).sorted, fun other => ?_, fun null => ?_⟩
    · rw [ofJson_obj gives]
    · rw [ofJson_obj gives, Members.lookup_erase]
    · rw [written, if_neg other]
    · rw [written, if_pos null]
  · intro unread
    rw [ofJson_eq_empty unread]
    exact ⟨rfl, rfl, rfl⟩

/-- Options within options, around what is given as the path. -/
def sampleValue (path : Json) : Json :=
  .obj [("justMyCode", .bool false), ("pathMappings", .arr [.obj [("python", .int 1)], .null]), ("python", path),
    ("redirectOutput", .str "é\n")]

theorem options_survive_nested :
    (ofJson (sampleValue (.str "/opt/python"))).toJson = sampleValue (.str "/opt/python") ∧
      (ofJson (sampleValue .null)).python = none ∧
      (ofJson (sampleValue .null)).options.lookup "pathMappings" = some (.arr [.obj [("python", .int 1)], .null]) ∧
      Json.decode (Utf8.encode (ofJson (sampleValue .null)).text) = .ok (ofJson (sampleValue .null)).toJson ∧
      ofJson (sampleValue (.int 1)) = empty := by
  have given : (sampleValue (.str "/opt/python")).WellFormed := by decide
  have null : (sampleValue .null).Exact Json.depthLimit := by decide
  have number : (sampleValue (.int 1)).WellFormed := by decide
  obtain ⟨-, -, -, back, -⟩ := (options_survive given).1 _ (some "/opt/python") rfl (.text (by decide))
  obtain ⟨path, options, -⟩ := (options_survive null.1.1).1 _ _ rfl (.null (by decide))
  have unread : ¬ ∃ members path, sampleValue (.int 1) = .obj members ∧ Gives members path := by
    rintro ⟨members, path, shape, gives⟩
    cases shape
    cases gives with
    | absent missing => exact absurd missing (by decide)
    | null other => exact absurd other (by decide)
    | text other => cases other
  exact ⟨back (by decide), path, options "pathMappings", (options_survive null.1.1).2.2.2 null,
    ((options_survive number).2.1 unread).1⟩

end Config
end DebugBridge
