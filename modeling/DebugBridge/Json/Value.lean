/-!
# JSON values

An integer is kept apart from a number with a fraction or an exponent. An object is a list of members;
a well-formed value has its members sorted by key, each key once, and its integers in the range that
the reader produces.
-/

namespace DebugBridge

/-- A JSON value. A `float` holds the bit pattern of a binary64 number. -/
inductive Json where
  | null
  | bool (b : Bool)
  | int (n : Int)
  | float (bits : UInt64)
  | str (s : String)
  | arr (items : List Json)
  | obj (members : List (String × Json))
deriving Repr, Inhabited

/-- The members of an object, in key order. -/
abbrev Members := List (String × Json)

namespace Members

/-- Adds a member in key order, or replaces the value of its key. -/
def insert (key : String) (value : Json) : Members → Members
  | [] => [(key, value)]
  | (k, v) :: rest =>
    if key = k then (key, value) :: rest
    else if key < k then (key, value) :: (k, v) :: rest
    else (k, v) :: insert key value rest

/-- The members without a key. -/
def erase (key : String) (members : Members) : Members :=
  members.filter fun m => m.1 ≠ key

/-- Sorted members from members in any order; the last of several values of a key stands. -/
def ofList (members : List (String × Json)) : Members :=
  members.foldl (fun sorted m => insert m.1 m.2 sorted) []

/-- The keys rise strictly, so each occurs once. -/
def Sorted (members : Members) : Prop :=
  members.Pairwise fun a b => a.1 < b.1

instance (members : Members) : Decidable (Sorted members) :=
  inferInstanceAs (Decidable (List.Pairwise _ _))

/-- An added member is found under its key, and every other key has the value that it had. -/
theorem lookup_insert (key other : String) (value : Json) (members : Members) :
    (insert key value members).lookup other =
      if other = key then some value else members.lookup other := by
  have differs {a b : String} (h : ¬ a = b) : (a == b) = false := by simpa using h
  induction members with
  | nil => by_cases h : other = key <;> simp [insert, List.lookup_cons, h, differs]
  | cons m rest ih =>
    obtain ⟨k, v⟩ := m
    by_cases same : key = k
    · subst same
      by_cases h : other = key <;> simp [insert, List.lookup_cons, h, differs]
    · by_cases before : key < k
      · by_cases h : other = key <;> simp [insert, same, before, List.lookup_cons, h, differs]
      · by_cases atHead : other = k
        · subst atHead
          simp [insert, before, same, Ne.symm same]
        · simp [insert, same, before, List.lookup_cons, differs atHead, ih]

end Members

namespace Json

/-- The least integer that is written without a fraction, `-2 ^ 63`. -/
def minInt : Int := -9223372036854775808

/-- The first integer above those that are written without a fraction, `2 ^ 64`. -/
def maxInt : Int := 18446744073709551616

/-- An object with the given members, in any order. -/
def ofMembers (members : List (String × Json)) : Json :=
  .obj (Members.ofList members)

/-- The value of a key, if the value is an object that has it. -/
def get? (key : String) : Json → Option Json
  | .obj members => members.lookup key
  | _ => none

/-- The text of a string value. -/
def asString? : Json → Option String
  | .str s => some s
  | _ => none

/-- The truth value of a boolean. -/
def asBool? : Json → Option Bool
  | .bool b => some b
  | _ => none

/-- An integer that fits a signed word of 64 bits: it is below `2 ^ 63`. -/
def asInt? : Json → Option Int
  | .int n => if n < 9223372036854775808 then some n else none
  | _ => none

/-- The members of an object. -/
def asMembers? : Json → Option Members
  | .obj members => some members
  | _ => none

/-- The members of an object, and none of any other value. -/
def membersD (v : Json) : Members :=
  v.asMembers?.getD []

/-- The string under a key. -/
def getString? (key : String) (v : Json) : Option String :=
  (v.get? key).bind asString?

/-- The integer under a key. -/
def getInt? (key : String) (v : Json) : Option Int :=
  (v.get? key).bind asInt?

/-- The truth value under a key. -/
def getBool? (key : String) (v : Json) : Option Bool :=
  (v.get? key).bind asBool?

mutual

/-- Decides whether two values are the same. -/
def decEq : (a b : Json) → Decidable (a = b)
  | .null, .null => .isTrue rfl
  | .bool a, .bool b =>
    if h : a = b then .isTrue (h ▸ rfl) else .isFalse fun e => h (Json.bool.inj e)
  | .int a, .int b =>
    if h : a = b then .isTrue (h ▸ rfl) else .isFalse fun e => h (Json.int.inj e)
  | .float a, .float b =>
    if h : a = b then .isTrue (h ▸ rfl) else .isFalse fun e => h (Json.float.inj e)
  | .str a, .str b =>
    if h : a = b then .isTrue (h ▸ rfl) else .isFalse fun e => h (Json.str.inj e)
  | .arr as, .arr bs =>
    match decEqItems as bs with
    | .isTrue h => .isTrue (h ▸ rfl)
    | .isFalse h => .isFalse fun e => h (Json.arr.inj e)
  | .obj as, .obj bs =>
    match decEqMembers as bs with
    | .isTrue h => .isTrue (h ▸ rfl)
    | .isFalse h => .isFalse fun e => h (Json.obj.inj e)
  | .null, .bool _ | .null, .int _ | .null, .float _ | .null, .str _ | .null, .arr _
  | .null, .obj _ | .bool _, .null | .bool _, .int _ | .bool _, .float _ | .bool _, .str _
  | .bool _, .arr _ | .bool _, .obj _ | .int _, .null | .int _, .bool _ | .int _, .float _
  | .int _, .str _ | .int _, .arr _ | .int _, .obj _ | .float _, .null | .float _, .bool _
  | .float _, .int _ | .float _, .str _ | .float _, .arr _ | .float _, .obj _ | .str _, .null
  | .str _, .bool _ | .str _, .int _ | .str _, .float _ | .str _, .arr _ | .str _, .obj _
  | .arr _, .null | .arr _, .bool _ | .arr _, .int _ | .arr _, .float _ | .arr _, .str _
  | .arr _, .obj _ | .obj _, .null | .obj _, .bool _ | .obj _, .int _ | .obj _, .float _
  | .obj _, .str _ | .obj _, .arr _ => .isFalse nofun

/-- Decides whether two lists of values are the same. -/
def decEqItems : (as bs : List Json) → Decidable (as = bs)
  | [], [] => .isTrue rfl
  | [], _ :: _ | _ :: _, [] => .isFalse nofun
  | a :: as, b :: bs =>
    match decEq a b, decEqItems as bs with
    | .isTrue h, .isTrue t => .isTrue (h ▸ t ▸ rfl)
    | .isFalse h, _ => .isFalse fun e => h (List.cons.inj e).1
    | _, .isFalse t => .isFalse fun e => t (List.cons.inj e).2

/-- Decides whether two lists of members are the same. -/
def decEqMembers : (as bs : List (String × Json)) → Decidable (as = bs)
  | [], [] => .isTrue rfl
  | [], _ :: _ | _ :: _, [] => .isFalse nofun
  | (k, a) :: as, (l, b) :: bs =>
    if hk : k = l then
      match decEq a b, decEqMembers as bs with
      | .isTrue h, .isTrue t => .isTrue (hk ▸ h ▸ t ▸ rfl)
      | .isFalse h, _ => .isFalse fun e => h (Prod.mk.inj (List.cons.inj e).1).2
      | _, .isFalse t => .isFalse fun e => t (List.cons.inj e).2
    else .isFalse fun e => hk (Prod.mk.inj (List.cons.inj e).1).1

end

instance : DecidableEq Json := decEq

mutual

/-- Containers around the deepest value, the value itself included. -/
def depth : Json → Nat
  | .arr items => depthItems items + 1
  | .obj members => depthMembers members + 1
  | _ => 0

/-- The greatest depth of a list of values. -/
def depthItems : List Json → Nat
  | [] => 0
  | v :: rest => max (depth v) (depthItems rest)

/-- The greatest depth of a list of members. -/
def depthMembers : List (String × Json) → Nat
  | [] => 0
  | (_, v) :: rest => max (depth v) (depthMembers rest)

end

mutual

/-- Integers are in range and members are sorted, at every level. -/
def WellFormed : Json → Prop
  | .int n => minInt ≤ n ∧ n < maxInt
  | .arr items => WellFormedItems items
  | .obj members => Members.Sorted members ∧ WellFormedMembers members
  | _ => True

/-- Every value of a list is well formed. -/
def WellFormedItems : List Json → Prop
  | [] => True
  | v :: rest => WellFormed v ∧ WellFormedItems rest

/-- Every value of a list of members is well formed. -/
def WellFormedMembers : List (String × Json) → Prop
  | [] => True
  | (_, v) :: rest => WellFormed v ∧ WellFormedMembers rest

end

mutual

/-- No number with a fraction or an exponent occurs. -/
def FloatFree : Json → Prop
  | .float _ => False
  | .arr items => FloatFreeItems items
  | .obj members => FloatFreeMembers members
  | _ => True

/-- No value of a list has a number with a fraction or an exponent. -/
def FloatFreeItems : List Json → Prop
  | [] => True
  | v :: rest => FloatFree v ∧ FloatFreeItems rest

/-- No value of a list of members has a number with a fraction or an exponent. -/
def FloatFreeMembers : List (String × Json) → Prop
  | [] => True
  | (_, v) :: rest => FloatFree v ∧ FloatFreeMembers rest

end

end Json
end DebugBridge
