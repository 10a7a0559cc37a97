import Mathlib
import DebugBridge.Json.Value

/-!
# Members of objects

`Members.ofList` sorts members and keeps the last value of each key. A row of sorted members is determined
by what is found under each key (`Sorted.ext`), so equations between objects reduce to lookups. What holds
of every value of a row of members holds of the sorted row as well.
-/

namespace DebugBridge.Members

variable {key other : String} {value : Json} {members left right : Members}

theorem sorted_cons_iff {m : String × Json} :
    Sorted (m :: members) ↔ (∀ n ∈ members, m.1 < n.1) ∧ Sorted members :=
  List.pairwise_cons

/-- Inserting brings in the new member and no other. -/
theorem mem_insert {m : String × Json} (found : m ∈ insert key value members) :
    m = (key, value) ∨ m ∈ members := by
  induction members with
  | nil => simpa [insert] using found
  | cons head rest ih =>
      obtain ⟨k, v⟩ := head
      simp only [insert] at found
      split at found
      · rcases List.mem_cons.mp found with rfl | found
        · exact .inl rfl
        · exact .inr (List.mem_cons_of_mem _ found)
      · split at found
        · exact List.mem_cons.mp found
        · rcases List.mem_cons.mp found with rfl | found
          · exact .inr List.mem_cons_self
          · exact (ih found).imp_right (List.mem_cons_of_mem _)

/-- Inserting keeps the order of the keys. -/
theorem sorted_insert (key : String) (value : Json) (sorted : Sorted members) :
    Sorted (insert key value members) := by
  induction members with
  | nil => simp [insert, Sorted]
  | cons head rest ih =>
      obtain ⟨k, v⟩ := head
      obtain ⟨least, restSorted⟩ := sorted_cons_iff.mp sorted
      simp only [insert]
      split
      · next same => exact sorted_cons_iff.mpr ⟨by simpa [same] using least, restSorted⟩
      · split
        · next before =>
            refine sorted_cons_iff.mpr ⟨fun n member => ?_, sorted⟩
            rcases List.mem_cons.mp member with rfl | member
            · exact before
            · exact String.lt_trans before (least n member)
        · next differs notBefore =>
            have after : k < key := by
              have atMost : k ≤ key := notBefore
              rcases Std.le_iff_lt_or_eq.mp atMost with after | same
              · exact after
              · exact absurd same.symm differs
            refine sorted_cons_iff.mpr ⟨fun n member => ?_, ih restSorted⟩
            rcases mem_insert member with rfl | member
            · exact after
            · exact least n member

private theorem sorted_foldl_insert (members : List (String × Json)) (sorted : Sorted left) :
    Sorted (members.foldl (fun row m => insert m.1 m.2 row) left) := by
  induction members generalizing left with
  | nil => exact sorted
  | cons m rest ih => exact ih (sorted_insert m.1 m.2 sorted)

/-- Members in any order become sorted. -/
theorem sorted_ofList (members : List (String × Json)) : Sorted (ofList members) :=
  sorted_foldl_insert members List.Pairwise.nil

private theorem mem_foldl_insert {m : String × Json} {members : List (String × Json)}
    (found : m ∈ members.foldl (fun row m => insert m.1 m.2 row) left) :
    m ∈ left ∨ m ∈ members := by
  induction members generalizing left with
  | nil => exact .inl found
  | cons head rest ih =>
      rcases ih found with inserted | later
      · rcases mem_insert inserted with rfl | before
        · exact .inr List.mem_cons_self
        · exact .inl before
      · exact .inr (List.mem_cons_of_mem _ later)

/-- Sorting brings in no member. -/
theorem mem_of_mem_ofList {m : String × Json} {members : List (String × Json)}
    (found : m ∈ ofList members) : m ∈ members := by
  rcases mem_foldl_insert found with none | found
  · exact absurd none List.not_mem_nil
  · exact found

private theorem lookup_foldl_insert (members : List (String × Json)) :
    (members.foldl (fun row m => insert m.1 m.2 row) left).lookup key =
      (members.reverse.lookup key).or (left.lookup key) := by
  induction members generalizing left with
  | nil => simp
  | cons m rest ih =>
      obtain ⟨k, v⟩ := m
      rw [List.foldl_cons, ih, lookup_insert, List.reverse_cons, List.lookup_append]
      by_cases same : key = k
      · simp [same]
      · have differs : (key == k) = false := by simpa using same
        simp [same, List.lookup, differs]

/-- Under each key stands the last of its values. -/
theorem lookup_ofList (key : String) (members : List (String × Json)) :
    (ofList members).lookup key = members.reverse.lookup key := by
  simp [ofList, lookup_foldl_insert]

/-- A key before all others is none of them. -/
theorem lookup_eq_none_of_lt (least : ∀ n ∈ members, key < n.1) : members.lookup key = none := by
  rw [List.lookup_eq_none_iff]
  intro n member
  have before := least n member
  simp only [bne_iff_ne, ne_eq]
  rintro rfl
  exact String.lt_irrefl _ before

/-- Sorted rows in which the same is found under each key are the same. -/
theorem Sorted.ext (leftSorted : Sorted left) (rightSorted : Sorted right)
    (same : ∀ key, left.lookup key = right.lookup key) : left = right := by
  induction left generalizing right with
  | nil =>
      cases right with
      | nil => rfl
      | cons n rest =>
          have found := same n.1
          simp [List.lookup] at found
  | cons m leftRest ih =>
      cases right with
      | nil =>
          have found := same m.1
          simp [List.lookup] at found
      | cons n rightRest =>
          obtain ⟨k, v⟩ := m
          obtain ⟨l, w⟩ := n
          obtain ⟨leftLeast, leftRestSorted⟩ := sorted_cons_iff.mp leftSorted
          obtain ⟨rightLeast, rightRestSorted⟩ := sorted_cons_iff.mp rightSorted
          -- The lesser of the two first keys would be missing on the other side.
          have keys : k = l := by
            rcases Std.lt_trichotomy k l with before | same' | after
            · have absent : ((l, w) :: rightRest).lookup k = none := by
                apply lookup_eq_none_of_lt
                intro n member
                rcases List.mem_cons.mp member with rfl | member
                · exact before
                · exact String.lt_trans before (rightLeast n member)
              have found := same k
              simp [absent] at found
            · exact same'
            · have absent : ((k, v) :: leftRest).lookup l = none := by
                apply lookup_eq_none_of_lt
                intro n member
                rcases List.mem_cons.mp member with rfl | member
                · exact after
                · exact String.lt_trans after (leftLeast n member)
              have found := same l
              simp [absent] at found
          subst keys
          have values : v = w := by simpa using same k
          subst values
          congr 1
          apply ih leftRestSorted rightRestSorted
          intro key
          by_cases head : key = k
          · subst head
            rw [lookup_eq_none_of_lt leftLeast, lookup_eq_none_of_lt rightLeast]
          · have differs : (key == k) = false := by simpa using head
            simpa [List.lookup, differs] using same key

/-- The key of sorted members occurs once, so it does not matter from which end it is looked for. -/
theorem lookup_reverse_of_sorted (sorted : Sorted members) (key : String) :
    members.reverse.lookup key = members.lookup key := by
  induction members with
  | nil => rfl
  | cons m rest ih =>
      obtain ⟨k, v⟩ := m
      obtain ⟨least, restSorted⟩ := sorted_cons_iff.mp sorted
      rw [List.reverse_cons, List.lookup_append, ih restSorted]
      by_cases head : key = k
      · subst head
        simp [lookup_eq_none_of_lt least]
      · have differs : (key == k) = false := by simpa using head
        simp [List.lookup, differs]

/-- Sorting changes nothing about sorted members. -/
theorem ofList_eq_self (sorted : Sorted members) : ofList members = members := by
  apply (sorted_ofList members).ext sorted
  intro key
  rw [lookup_ofList, lookup_reverse_of_sorted sorted]

/-- Leaving members out keeps the order of the keys. -/
theorem sorted_filter (p : String × Json → Bool) (sorted : Sorted members) :
    Sorted (members.filter p) :=
  List.Pairwise.filter p sorted

/-- Leaving rows out by their keys leaves what stands under the other keys. -/
theorem lookup_filter {α : Type} (p : String → Bool) (key : String) (rows : List (String × α)) :
    (rows.filter fun m => p m.1).lookup key = if p key then rows.lookup key else none := by
  induction rows with
  | nil => simp
  | cons m rest ih =>
      obtain ⟨k, v⟩ := m
      by_cases head : key = k
      · subst head
        cases kept : p key <;> simp [kept, ih]
      · have differs : (key == k) = false := by simpa using head
        cases kept : p k <;> simp [kept, List.lookup, differs, ih]

/-- What is found under a key is a member. -/
theorem mem_of_lookup_eq_some (found : members.lookup key = some value) :
    (key, value) ∈ members := by
  obtain ⟨before, after, shape, -⟩ := List.lookup_eq_some_iff.mp found
  simp [shape]

/-- A member of sorted members is found under its key. -/
theorem lookup_eq_some_of_mem (sorted : Sorted members) (member : (key, value) ∈ members) :
    members.lookup key = some value := by
  induction members with
  | nil => exact absurd member List.not_mem_nil
  | cons m rest ih =>
      obtain ⟨k, v⟩ := m
      obtain ⟨least, restSorted⟩ := sorted_cons_iff.mp sorted
      rcases List.mem_cons.mp member with head | later
      · cases head
        simp
      · have differs : (key == k) = false := by
          simp only [beq_eq_false_iff_ne, ne_eq]
          rintro rfl
          exact String.lt_irrefl _ (least (key, value) later)
        simpa [List.lookup, differs] using ih restSorted later

end DebugBridge.Members

namespace DebugBridge.Json

/-- A mapped outcome is a value exactly if there was one to map. -/
theorem ok_of_map {ε α β : Type} {f : α → β} {outcome : Except ε α} {b : β} (mapped : outcome.map f = .ok b) :
    ∃ a, outcome = .ok a ∧ f a = b := by
  cases outcome with
  | error e => cases mapped
  | ok a => exact ⟨a, rfl, Except.ok.inj mapped⟩

variable {items : List Json} {members : Members}

/-- A row is well formed if its items are. -/
theorem wellFormedItems_iff : WellFormedItems items ↔ ∀ v ∈ items, WellFormed v := by
  induction items with
  | nil => simp [WellFormedItems]
  | cons v rest ih => simp [WellFormedItems, ih]

theorem wellFormedMembers_iff : WellFormedMembers members ↔ ∀ m ∈ members, WellFormed m.2 := by
  induction members with
  | nil => simp [WellFormedMembers]
  | cons m rest ih => simp [WellFormedMembers, ih]

theorem floatFreeMembers_iff : FloatFreeMembers members ↔ ∀ m ∈ members, FloatFree m.2 := by
  induction members with
  | nil => simp [FloatFreeMembers]
  | cons m rest ih => simp [FloatFreeMembers, ih]

/-- A row is as deep as its deepest item. -/
theorem depthItems_le_iff {n : Nat} : depthItems items ≤ n ↔ ∀ v ∈ items, depth v ≤ n := by
  induction items with
  | nil => simp [depthItems]
  | cons v rest ih => simp only [depthItems, Nat.max_le, ih, List.forall_mem_cons]

theorem depthMembers_le_iff {n : Nat} : depthMembers members ≤ n ↔ ∀ m ∈ members, depth m.2 ≤ n := by
  induction members with
  | nil => simp [depthMembers]
  | cons m rest ih => simp only [depthMembers, Nat.max_le, ih, List.forall_mem_cons]

mutual

/-- Decides whether a value is well formed. -/
def decideWellFormed : (v : Json) → Decidable (WellFormed v)
  | .int n => inferInstanceAs (Decidable (minInt ≤ n ∧ n < maxInt))
  | .arr items => decideWellFormedItems items
  | .obj members =>
    have := decideWellFormedMembers members
    inferInstanceAs (Decidable (Members.Sorted members ∧ WellFormedMembers members))
  | .null | .bool _ | .float _ | .str _ => isTrue trivial

/-- Decides whether every value of a list is well formed. -/
def decideWellFormedItems : (items : List Json) → Decidable (WellFormedItems items)
  | [] => isTrue trivial
  | v :: rest =>
    have := decideWellFormed v
    have := decideWellFormedItems rest
    inferInstanceAs (Decidable (WellFormed v ∧ WellFormedItems rest))

/-- Decides whether every value of a list of members is well formed. -/
def decideWellFormedMembers : (members : List (String × Json)) → Decidable (WellFormedMembers members)
  | [] => isTrue trivial
  | (_, v) :: rest =>
    have := decideWellFormed v
    have := decideWellFormedMembers rest
    inferInstanceAs (Decidable (WellFormed v ∧ WellFormedMembers rest))

end

instance : DecidablePred WellFormed := decideWellFormed

mutual

/-- Decides whether a number with a fraction or an exponent occurs. -/
def decideFloatFree : (v : Json) → Decidable (FloatFree v)
  | .float _ => isFalse id
  | .arr items => decideFloatFreeItems items
  | .obj members => decideFloatFreeMembers members
  | .null | .bool _ | .int _ | .str _ => isTrue trivial

/-- Decides whether a value of a list has a number with a fraction or an exponent. -/
def decideFloatFreeItems : (items : List Json) → Decidable (FloatFreeItems items)
  | [] => isTrue trivial
  | v :: rest =>
    have := decideFloatFree v
    have := decideFloatFreeItems rest
    inferInstanceAs (Decidable (FloatFree v ∧ FloatFreeItems rest))

/-- Decides whether a value of a list of members has a number with a fraction or an exponent. -/
def decideFloatFreeMembers : (members : List (String × Json)) → Decidable (FloatFreeMembers members)
  | [] => isTrue trivial
  | (_, v) :: rest =>
    have := decideFloatFree v
    have := decideFloatFreeMembers rest
    inferInstanceAs (Decidable (FloatFree v ∧ FloatFreeMembers rest))

end

instance : DecidablePred FloatFree := decideFloatFree

/-- A value as the reader makes it, within a limit of depth. -/
def Shaped (limit : Nat) (v : Json) : Prop :=
  WellFormed v ∧ depth v ≤ limit

/-- A value that its own text gives back: nothing in it is rounded. -/
def Exact (limit : Nat) (v : Json) : Prop :=
  Shaped limit v ∧ FloatFree v

instance (limit : Nat) : DecidablePred (Shaped limit) :=
  fun v => inferInstanceAs (Decidable (WellFormed v ∧ depth v ≤ limit))

instance (limit : Nat) : DecidablePred (Exact limit) :=
  fun v => inferInstanceAs (Decidable (Shaped limit v ∧ FloatFree v))

/-- An object has a shape one level deeper than its members. -/
theorem shaped_obj_iff {limit : Nat} :
    Shaped (limit + 1) (.obj members) ↔ Members.Sorted members ∧ ∀ m ∈ members, Shaped limit m.2 := by
  constructor
  · rintro ⟨⟨sorted, values⟩, shallow⟩
    have inner := depthMembers_le_iff.mp (Nat.le_of_succ_le_succ shallow)
    exact ⟨sorted, fun m member => ⟨wellFormedMembers_iff.mp values m member, inner m member⟩⟩
  · rintro ⟨sorted, values⟩
    exact ⟨⟨sorted, wellFormedMembers_iff.mpr fun m member => (values m member).1⟩,
      Nat.succ_le_succ (depthMembers_le_iff.mpr fun m member => (values m member).2)⟩

/-- An object comes through exactly if its members do, one level deeper. -/
theorem exact_obj_iff {limit : Nat} :
    Exact (limit + 1) (.obj members) ↔ Members.Sorted members ∧ ∀ m ∈ members, Exact limit m.2 := by
  constructor
  · rintro ⟨shaped, floatFree⟩
    obtain ⟨sorted, values⟩ := shaped_obj_iff.mp shaped
    exact ⟨sorted, fun m member => ⟨values m member, floatFreeMembers_iff.mp floatFree m member⟩⟩
  · rintro ⟨sorted, values⟩
    exact ⟨shaped_obj_iff.mpr ⟨sorted, fun m member => (values m member).1⟩,
      floatFreeMembers_iff.mpr fun m member => (values m member).2⟩

/-- A property of values, within a limit of depth or without one, that an object has exactly if its members have it
one level further down. -/
structure Inherited (P : Nat → Json → Prop) : Prop where
  wellFormed : ∀ {limit v}, P limit v → WellFormed v
  obj_iff : ∀ {limit members}, P (limit + 1) (.obj members) ↔ Members.Sorted members ∧ ∀ m ∈ members, P limit m.2
  text : ∀ limit s, P limit (.str s)
  bool : ∀ limit b, P limit (.bool b)
  int : ∀ limit {n}, minInt ≤ n → n < maxInt → P limit (.int n)

/-- Members of a well-formed value are well formed. -/
theorem inherited_wellFormed : Inherited fun _ v => WellFormed v where
  wellFormed := id
  obj_iff := and_congr_right fun _ => wellFormedMembers_iff
  text := fun _ _ => trivial
  bool := fun _ _ => trivial
  int := fun _ _ least most => ⟨least, most⟩

/-- Members have a shape one level less deep. -/
theorem inherited_shaped : Inherited Shaped where
  wellFormed := fun shaped => shaped.1
  obj_iff := shaped_obj_iff
  text := fun limit _ => ⟨trivial, Nat.zero_le limit⟩
  bool := fun limit _ => ⟨trivial, Nat.zero_le limit⟩
  int := fun limit _ least most => ⟨⟨least, most⟩, Nat.zero_le limit⟩

/-- Members of a value that comes through come through. -/
theorem inherited_exact : Inherited Exact where
  wellFormed := fun exact => exact.1.1
  obj_iff := exact_obj_iff
  text := fun limit _ => ⟨⟨trivial, Nat.zero_le limit⟩, trivial⟩
  bool := fun limit _ => ⟨⟨trivial, Nat.zero_le limit⟩, trivial⟩
  int := fun limit _ least most => ⟨⟨⟨least, most⟩, Nat.zero_le limit⟩, trivial⟩

section Inherited

variable {P : Nat → Json → Prop} (inherited : Inherited P) {limit : Nat}

include inherited

/-- An object made of members in any order has what its members have. -/
theorem Inherited.ofMembers {members : List (String × Json)} (values : ∀ m ∈ members, P limit m.2) :
    P (limit + 1) (Json.ofMembers members) :=
  inherited.obj_iff.mpr
    ⟨Members.sorted_ofList members, fun m member => values m (Members.mem_of_mem_ofList member)⟩

/-- What a value inherits it keeps when a member of the kind is put in. -/
theorem Inherited.insert {key : String} {value : Json} (added : P limit value) (held : P (limit + 1) (.obj members)) :
    P (limit + 1) (.obj (Members.insert key value members)) := by
  obtain ⟨sorted, values⟩ := inherited.obj_iff.mp held
  refine inherited.obj_iff.mpr ⟨Members.sorted_insert key value sorted, fun m member => ?_⟩
  rcases Members.mem_insert member with rfl | earlier
  · exact added
  · exact values m earlier

end Inherited

theorem lookup_membersD (v : Json) (key : String) : v.membersD.lookup key = v.get? key := by
  cases v <;> rfl

theorem sorted_membersD {v : Json} (wellFormed : v.WellFormed) : Members.Sorted v.membersD := by
  cases v with
  | obj members => exact wellFormed.1
  | null | bool b | int n | float bits | str s | arr items => exact List.Pairwise.nil

/-- Of several members with one key the last one counts. -/
theorem get?_ofMembers (key : String) (members : List (String × Json)) :
    (ofMembers members).get? key = members.reverse.lookup key :=
  Members.lookup_ofList key members

/-- A small integer of a well-formed value is within a signed word. -/
theorem range_of_asInt? {v : Json} {n : Int} (wellFormed : v.WellFormed) (found : v.asInt? = some n) :
    -2 ^ 63 ≤ n ∧ n < 2 ^ 63 := by
  cases v with
  | int m =>
      simp only [Json.asInt?] at found
      split at found
      · next small =>
          cases found
          exact ⟨wellFormed.1, small⟩
      · cases found
  | null | bool b | float bits | str s | arr items | obj members => cases found

/-- What is found in a well-formed value is well formed. -/
theorem wellFormed_of_get? {v w : Json} {key : String} (wellFormed : v.WellFormed)
    (found : v.get? key = some w) : w.WellFormed := by
  cases v with
  | obj members => exact wellFormedMembers_iff.mp wellFormed.2 _ (Members.mem_of_lookup_eq_some found)
  | null | bool b | int n | float bits | str s | arr items => cases found

theorem get?_of_getString? {v : Json} {key s : String} (found : v.getString? key = some s) :
    v.get? key = some (.str s) := by
  obtain ⟨w, held, text⟩ := Option.bind_eq_some_iff.mp found
  cases w with
  | str t =>
      cases text
      exact held
  | null | bool b | int n | float bits | arr items | obj members => cases text

theorem get?_of_getInt? {v : Json} {key : String} {n : Int} (found : v.getInt? key = some n) :
    v.get? key = some (.int n) := by
  obtain ⟨w, held, number⟩ := Option.bind_eq_some_iff.mp found
  cases w with
  | int m =>
      simp only [asInt?] at number
      split at number
      · cases number
        exact held
      · cases number
  | null | bool b | float bits | str s | arr items | obj members => cases number

end DebugBridge.Json
