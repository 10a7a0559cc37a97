import DebugBridge.Proofs.Json.Members
import DebugBridge.Proofs.Json.Numbers
import DebugBridge.Proofs.Json.Strings

/-!
# Reading written values

`decode_encode` says what the text of a value is read as. A value without fractions and exponents comes
back as it was (`decode_encode_of_exact`), up to the depth that the reader allows. A number with a
fraction or an exponent comes back as one of that kind or is refused, and nothing else about a value
changes: `reread` is the value that comes back.
-/

namespace DebugBridge.Json

mutual

/-- What the text of a value is read as. -/
def reread : Json → Except ReadError Json
  | .float bits => (readValue 0 (encode (.float bits))).map Prod.fst
  | .arr items => (rereadItems items).map .arr
  | .obj members => (rereadMembers members).map ofMembers
  | v => .ok v

/-- What the texts of items are read as. -/
def rereadItems : List Json → Except ReadError (List Json)
  | [] => .ok []
  | v :: rest =>
    match reread v with
    | .error e => .error e
    | .ok v => (rereadItems rest).map fun vs => v :: vs

/-- What the texts of members are read as. -/
def rereadMembers : List (String × Json) → Except ReadError (List (String × Json))
  | [] => .ok []
  | (k, v) :: rest =>
    match reread v with
    | .error e => .error e
    | .ok v => (rereadMembers rest).map fun ms => (k, v) :: ms

end

/-! ## Single values -/

/-- A byte that is no space is not skipped. -/
theorem skipSpace_cons {b : UInt8} (noSpace : isSpace b = false) (rest : Bytes) :
    skipSpace (b :: rest) = b :: rest := by
  simp [skipSpace, noSpace]

/-- A minus begins a number. -/
theorem readAny_negative (inner : Option (Bytes → Reading Json)) (rest : Bytes) :
    readAny inner (45 :: rest) = readNumber true rest := by
  rw [readAny, skipSpace_cons rfl]
  rfl

/-- A digit begins a number. -/
theorem readAny_digit (inner : Option (Bytes → Reading Json)) {d : Nat} (small : d < 10) (rest : Bytes) :
    readAny inner (digitByte d :: rest) = readNumber false (digitByte d :: rest) := by
  match d, small with
  | 0, _ | 1, _ | 2, _ | 3, _ | 4, _ | 5, _ | 6, _ | 7, _ | 8, _ | 9, _ =>
    rw [readAny, skipSpace_cons rfl]
    rfl

/-- An integer of the range that the reader produces is read back. -/
theorem readAny_int (inner : Option (Bytes → Reading Json)) {n : Int} (inRange : WellFormed (.int n))
    {rest : Bytes} (ends : EndsNumber rest) :
    readAny inner (encode (.int n) ++ rest) = .ok (.int n, rest) := by
  obtain ⟨least, most⟩ := inRange
  simp only [minInt, maxInt] at least most
  by_cases negative : n < 0
  · have text : encode (.int n) = 45 :: Utf8.encodeChars (decimal n.natAbs) := by
      simp only [encode, chars, signedDecimal, if_pos negative, Utf8.encodeChars_cons]
      rfl
    have value : integer true n.natAbs = .int n := by
      have magnitude : (n.natAbs : Int) = -n := by omega
      have fits : 0 < n.natAbs ∧ n.natAbs ≤ 9223372036854775808 := by omega
      rw [integer, if_pos rfl, if_pos fits, magnitude, Int.neg_neg]
    rw [text, List.cons_append, readAny_negative, readNumber_decimal true (by omega) ends, value]
  · have text : encode (.int n) = Utf8.encodeChars (decimal n.natAbs) := by
      simp only [encode, chars, signedDecimal, if_neg negative]
    have value : integer false n.natAbs = .int n := by
      have magnitude : (n.natAbs : Int) = n := by omega
      rw [integer, if_neg nofun, magnitude]
    have front : ∃ d after, d < 10 ∧ Utf8.encodeChars (decimal n.natAbs) = digitByte d :: after := by
      obtain ⟨d, digits, shape, -⟩ := digitsOf_eq_cons n.natAbs
      have small : ∀ e ∈ d :: digits, e < 10 := fun e member => lt_of_mem_digitsOf (shape ▸ member)
      exact ⟨d, digits.map digitByte, small d List.mem_cons_self, by
        rw [decimal_eq, shape, encodeChars_digits small, List.map_cons]⟩
    obtain ⟨d, after, small, shape⟩ := front
    have dispatch : readAny inner (encode (.int n) ++ rest) =
        readNumber false (Utf8.encodeChars (decimal n.natAbs) ++ rest) := by
      rw [text, shape, List.cons_append, readAny_digit inner small]
    rw [dispatch, readNumber_decimal false (by omega) ends, value]

/-- A number with a fraction or an exponent is read as such a number or refused, by its text alone. -/
theorem readsFloat_encode (bits : UInt64) :
    ∃ outcome : Except ReadError UInt64, ∀ inner rest, EndsNumber rest →
      readAny inner (encode (.float bits) ++ rest) = outcome.map fun b => (.float b, rest) := by
  obtain ⟨text, shape, written⟩ := floatText_render bits
  have bytes : encode (.float bits) = (if Decimal.isNegative bits then [45] else []) ++ text := written
  obtain ⟨d, after, small, front⟩ : ∃ d after, d < 10 ∧ text = digitByte d :: after := by
    cases shape with
    | point small _ _ | whole small _ _ => exact ⟨_, _, small _ List.mem_cons_self, rfl⟩
  obtain ⟨outcome, reads⟩ := shape.readsFloat (Decimal.isNegative bits)
  refine ⟨outcome, fun inner rest ends => ?_⟩
  rw [← reads rest ends, bytes]
  cases Decimal.isNegative bits with
  | true => exact readAny_negative inner (text ++ rest)
  | false =>
      rw [front]
      exact readAny_digit inner small (after ++ rest)

/-! ## Containers -/

theorem exists_less {n fuel : Nat} (enough : n + 1 ≤ fuel) : ∃ less, fuel = less + 1 ∧ n ≤ less :=
  ⟨fuel - 1, by omega, by omega⟩

theorem endsNumber_cons {b : UInt8} (ends : isDigit b = false ∧ b ≠ 46 ∧ b ≠ 101 ∧ b ≠ 69)
    (rest : Bytes) : EndsNumber (b :: rest) := by
  intro c after front
  cases front
  exact ends

/-- No value begins with white space or with a closing bracket. -/
theorem encode_eq_cons (v : Json) :
    ∃ b after, encode v = b :: after ∧ isSpace b = false ∧ b ≠ 93 := by
  have digitFront {d : Nat} (small : d < 10) : isSpace (digitByte d) = false ∧ digitByte d ≠ 93 := by
    match d, small with
    | 0, _ | 1, _ | 2, _ | 3, _ | 4, _ | 5, _ | 6, _ | 7, _ | 8, _ | 9, _ => decide
  cases v with
  | null => exact ⟨110, _, rfl, by decide, by decide⟩
  | bool b =>
      cases b with
      | true => exact ⟨116, _, rfl, by decide, by decide⟩
      | false => exact ⟨102, _, rfl, by decide, by decide⟩
  | int n =>
      obtain ⟨d, digits, shape, -⟩ := digitsOf_eq_cons n.natAbs
      have small : ∀ e ∈ d :: digits, e < 10 := fun e member => lt_of_mem_digitsOf (shape ▸ member)
      have written : Utf8.encodeChars (decimal n.natAbs) = digitByte d :: digits.map digitByte := by
        rw [decimal_eq, shape, encodeChars_digits small, List.map_cons]
      by_cases negative : n < 0
      · refine ⟨45, Utf8.encodeChars (decimal n.natAbs), ?_, by decide, by decide⟩
        simp only [encode, chars, signedDecimal, if_pos negative, Utf8.encodeChars_cons]
        rfl
      · refine ⟨digitByte d, digits.map digitByte, ?_, digitFront (small d List.mem_cons_self)⟩
        simp only [encode, chars, signedDecimal, if_neg negative, written]
  | float bits =>
      obtain ⟨text, shape, written⟩ := floatText_render bits
      have bytes : encode (.float bits) = (if Decimal.isNegative bits then [45] else []) ++ text := written
      cases sign : Decimal.isNegative bits with
      | true => exact ⟨45, text, by rw [bytes, sign]; rfl, by decide, by decide⟩
      | false =>
          rw [bytes, sign]
          cases shape with
          | point small _ _ | whole small _ _ =>
              exact ⟨_, _, rfl, digitFront (small _ List.mem_cons_self)⟩
  | str s => exact ⟨34, _, encodeChars_quote s, by decide, by decide⟩
  | arr items => exact ⟨91, _, rfl, by decide, by decide⟩
  | obj members => exact ⟨123, _, rfl, by decide, by decide⟩

/-- A row ends after its last item. -/
theorem encode_items_single (v : Json) :
    Utf8.encodeChars (charsItems [v]) = encode v ++ [93] := by
  simp only [charsItems, Utf8.encodeChars_append]
  rfl

/-- A comma stands between two items. -/
theorem encode_items_cons (v w : Json) (rest : List Json) :
    Utf8.encodeChars (charsItems (v :: w :: rest)) =
      encode v ++ 44 :: Utf8.encodeChars (charsItems (w :: rest)) := by
  simp only [charsItems, Utf8.encodeChars_append, Utf8.encodeChars_cons]
  rfl

/-- The bytes of a key, its colon included, after the opening quote. -/
def keyBytes (key : String) : Bytes :=
  Utf8.encodeChars (key.toList.flatMap escape) ++ [34, 58]

/-- An object ends after its last member. -/
theorem encode_members_single (k : String) (v : Json) :
    Utf8.encodeChars (charsMembers [(k, v)]) = 34 :: (keyBytes k ++ (encode v ++ [125])) := by
  simp only [charsMembers, Utf8.encodeChars_append, Utf8.encodeChars_cons, encodeChars_quote, keyBytes,
    List.append_assoc, List.cons_append]
  rfl

/-- A comma stands between two members. -/
theorem encode_members_cons (k : String) (v : Json) (m : String × Json) (rest : List (String × Json)) :
    Utf8.encodeChars (charsMembers ((k, v) :: m :: rest)) =
      34 :: (keyBytes k ++ (encode v ++ 44 :: Utf8.encodeChars (charsMembers (m :: rest)))) := by
  simp only [charsMembers, Utf8.encodeChars_append, Utf8.encodeChars_cons, encodeChars_quote, keyBytes,
    List.append_assoc, List.cons_append]
  rfl

/-- A row has no more items than bytes, so there is fuel for all of them. -/
theorem length_le_encode_items (items : List Json) :
    items.length ≤ (Utf8.encodeChars (charsItems items)).length := by
  induction items with
  | nil => simp
  | cons v rest ih =>
      cases rest with
      | nil =>
          rw [encode_items_single]
          simp
      | cons w rest =>
          rw [encode_items_cons]
          simp only [List.length_cons, List.length_append] at ih ⊢
          omega

/-- An object has no more members than bytes. -/
theorem length_le_encode_members (members : List (String × Json)) :
    members.length ≤ (Utf8.encodeChars (charsMembers members)).length := by
  induction members with
  | nil => simp
  | cons m rest ih =>
      obtain ⟨k, v⟩ := m
      cases rest with
      | nil =>
          rw [encode_members_single]
          simp
      | cons n rest =>
          rw [encode_members_cons]
          simp only [List.length_cons, List.length_append] at ih ⊢
          omega

/-- A written key is read with its colon. -/
theorem readKey_keyBytes (key : String) (rest : Bytes) :
    readKey (34 :: (keyBytes key ++ rest)) = .ok (key, rest) := by
  have read := readString_quote key (58 :: rest)
  have shape : keyBytes key ++ rest =
      Utf8.encodeChars (key.toList.flatMap escape) ++ 34 :: 58 :: rest := by simp [keyBytes]
  rw [readKey, skipSpace_cons rfl]
  simp only [if_true, shape, read, skipSpace_cons (b := 58) rfl]

/-- The bytes after the opening brace begin with a quote, unless there are no members. -/
theorem encode_members_front (m : String × Json) (rest : List (String × Json)) :
    ∃ after, Utf8.encodeChars (charsMembers (m :: rest)) = 34 :: after := by
  obtain ⟨k, v⟩ := m
  cases rest with
  | nil => exact ⟨_, encode_members_single k v⟩
  | cons n rest => exact ⟨_, encode_members_cons k v n rest⟩

/-- The bytes after the opening bracket begin with those of the first item. -/
theorem encode_items_front (v : Json) (rest : List Json) :
    ∃ b after, Utf8.encodeChars (charsItems (v :: rest)) = b :: after ∧ isSpace b = false ∧ b ≠ 93 := by
  obtain ⟨b, after, front, noSpace, opens⟩ := encode_eq_cons v
  cases rest with
  | nil => exact ⟨b, _, by rw [encode_items_single, front]; rfl, noSpace, opens⟩
  | cons w rest => exact ⟨b, _, by rw [encode_items_cons, front]; rfl, noSpace, opens⟩

/-! ## Reading within a container -/

/-- A reader gets from the text of a value what the value is reread as, and leaves what follows. -/
def Reads (value : Bytes → Reading Json) (v : Json) : Prop :=
  ∀ rest, EndsNumber rest → value (encode v ++ rest) = (reread v).map fun v => (v, rest)

/-- Items are read up to the bracket that closes them. -/
theorem readItems_encode {value : Bytes → Reading Json} (v : Json) (items done : List Json) {fuel : Nat}
    (rest : Bytes) (reads : ∀ w ∈ v :: items, Reads value w) (enough : (v :: items).length ≤ fuel) :
    readItems value fuel done (Utf8.encodeChars (charsItems (v :: items)) ++ rest) =
      (rereadItems (v :: items)).map fun vs => (done.reverse ++ vs, rest) := by
  induction items generalizing v done fuel with
  | nil =>
      obtain ⟨fuel, rfl, -⟩ := exists_less enough
      have head := reads v List.mem_cons_self (93 :: rest) (endsNumber_cons (by decide) rest)
      rw [encode_items_single, List.append_assoc, readItems, List.singleton_append, head, rereadItems,
        rereadItems]
      cases reread v with
      | error e => rfl
      | ok u => simp [Except.map, skipSpace_cons (b := 93) rfl]
  | cons w items ih =>
      obtain ⟨fuel, rfl, less⟩ := exists_less enough
      have head := reads v List.mem_cons_self (44 :: (Utf8.encodeChars (charsItems (w :: items)) ++ rest))
        (endsNumber_cons (by decide) _)
      rw [encode_items_cons, List.append_assoc, List.cons_append, readItems, head, rereadItems]
      cases reread v with
      | error e => rfl
      | ok u =>
          have tail := ih w (u :: done) (fun x member => reads x (List.mem_cons_of_mem v member)) less
          simp only [Except.map, skipSpace_cons (b := 44) rfl]
          show readItems _ _ _ _ = _
          rw [tail]
          cases rereadItems (w :: items) <;> simp [Except.map]

/-- Members are read up to the brace that closes them. -/
theorem readMembers_encode {value : Bytes → Reading Json} (m : String × Json)
    (members done : List (String × Json)) {fuel : Nat} (rest : Bytes)
    (reads : ∀ n ∈ m :: members, Reads value n.2) (enough : (m :: members).length ≤ fuel) :
    readMembers value fuel done (Utf8.encodeChars (charsMembers (m :: members)) ++ rest) =
      (rereadMembers (m :: members)).map fun ms => (done.reverse ++ ms, rest) := by
  induction members generalizing m done fuel with
  | nil =>
      obtain ⟨fuel, rfl, -⟩ := exists_less enough
      obtain ⟨k, v⟩ := m
      have head := reads (k, v) List.mem_cons_self (125 :: rest) (endsNumber_cons (by decide) rest)
      rw [encode_members_single, List.cons_append, List.append_assoc, List.append_assoc, readMembers,
        readKey_keyBytes, List.singleton_append]
      simp only [head, rereadMembers]
      cases reread v with
      | error e => rfl
      | ok u => simp [Except.map, skipSpace_cons (b := 125) rfl]
  | cons n members ih =>
      obtain ⟨fuel, rfl, less⟩ := exists_less enough
      obtain ⟨k, v⟩ := m
      have head := reads (k, v) List.mem_cons_self
        (44 :: (Utf8.encodeChars (charsMembers (n :: members)) ++ rest)) (endsNumber_cons (by decide) _)
      rw [encode_members_cons, List.cons_append, List.append_assoc, List.append_assoc, List.cons_append,
        readMembers, readKey_keyBytes]
      simp only [head]
      rw [rereadMembers]
      cases reread v with
      | error e => rfl
      | ok u =>
          have tail := ih n ((k, u) :: done) (fun x member => reads x (List.mem_cons_of_mem _ member)) less
          simp only [Except.map, skipSpace_cons (b := 44) rfl]
          show readMembers _ _ _ _ = _
          rw [tail]
          cases rereadMembers (n :: members) <;> simp [Except.map]

/-! ## The whole value -/

/-- A value that is no container is read whatever reads the values within containers. -/
theorem reads_scalar (inner : Option (Bytes → Reading Json)) (v : Json) (wellFormed : WellFormed v)
    (scalar : depth v = 0) : Reads (readAny inner) v := by
  intro rest ends
  cases v with
  | null => rfl
  | bool b => cases b <;> rfl
  | int n =>
      rw [readAny_int inner wellFormed ends]
      rfl
  | float bits =>
      obtain ⟨outcome, float⟩ := readsFloat_encode bits
      have alone := float none [] EndsNumber.nil
      rw [List.append_nil] at alone
      rw [float inner rest ends, reread, readValue, alone]
      cases outcome <;> rfl
  | str s =>
      rw [readAny, encode, chars, encodeChars_quote, List.cons_append, skipSpace_cons rfl]
      simp [readString_quote, reread, Except.map]
  | arr items => simp [depth] at scalar
  | obj members => simp [depth] at scalar

/-- Reading the text of an array is reading its items. -/
theorem readAny_arr (value : Bytes → Reading Json) (v : Json) (items : List Json) (rest : Bytes) :
    readAny (some value) (encode (.arr (v :: items)) ++ rest) =
      (readItems value (Utf8.encodeChars (charsItems (v :: items)) ++ rest).length []
        (Utf8.encodeChars (charsItems (v :: items)) ++ rest)).map fun (vs, rest) => (.arr vs, rest) := by
  obtain ⟨b, after, front, noSpace, opens⟩ := encode_items_front v items
  have shape : encode (.arr (v :: items)) ++ rest = 91 :: b :: (after ++ rest) := by
    rw [encode, chars, Utf8.encodeChars_cons, front]
    rfl
  rw [shape, readAny, skipSpace_cons rfl, front, List.cons_append]
  show readArray value (b :: (after ++ rest)) = _
  simp only [readArray, skipSpace_cons noSpace, if_neg opens]

/-- Reading the text of an object is reading its members. -/
theorem readAny_obj (value : Bytes → Reading Json) (m : String × Json) (members : Members) (rest : Bytes) :
    readAny (some value) (encode (.obj (m :: members)) ++ rest) =
      (readMembers value (Utf8.encodeChars (charsMembers (m :: members)) ++ rest).length []
        (Utf8.encodeChars (charsMembers (m :: members)) ++ rest)).map fun (ms, rest) => (ofMembers ms, rest) := by
  obtain ⟨after, front⟩ := encode_members_front m members
  have shape : encode (.obj (m :: members)) ++ rest = 123 :: 34 :: (after ++ rest) := by
    rw [encode, chars, Utf8.encodeChars_cons, front]
    rfl
  have opens : ¬ (34 : UInt8) = 125 := by decide
  rw [shape, readAny, skipSpace_cons rfl, front, List.cons_append]
  show readObject value (34 :: (after ++ rest)) = _
  simp only [readObject, skipSpace_cons (b := 34) rfl, if_neg opens]

/-- An array is read if its items are. -/
theorem reads_arr {value : Bytes → Reading Json} (items : List Json) (reads : ∀ v ∈ items, Reads value v) :
    Reads (readAny (some value)) (.arr items) := by
  intro rest ends
  cases items with
  | nil => rfl
  | cons w items =>
      have enough : (w :: items).length ≤ (Utf8.encodeChars (charsItems (w :: items)) ++ rest).length := by
        rw [List.length_append]
        exact Nat.le_add_right_of_le (length_le_encode_items (w :: items))
      rw [readAny_arr, readItems_encode w items [] rest reads enough, reread]
      cases rereadItems (w :: items) <;> rfl

/-- An object is read if the values of its members are. -/
theorem reads_obj {value : Bytes → Reading Json} (members : Members)
    (reads : ∀ m ∈ members, Reads value m.2) : Reads (readAny (some value)) (.obj members) := by
  intro rest ends
  cases members with
  | nil => rfl
  | cons m members =>
      have enough : (m :: members).length ≤ (Utf8.encodeChars (charsMembers (m :: members)) ++ rest).length := by
        rw [List.length_append]
        exact Nat.le_add_right_of_le (length_le_encode_members (m :: members))
      rw [readAny_obj, readMembers_encode m members [] rest reads enough, reread]
      cases rereadMembers (m :: members) <;> rfl

/-- A value is read from the front of its text if the reader allows its depth. -/
theorem reads_value {limit : Nat} (v : Json) (wellFormed : WellFormed v) (shallow : depth v ≤ limit) :
    Reads (readValue limit) v := by
  induction limit generalizing v with
  | zero => exact reads_scalar none v wellFormed (Nat.le_zero.mp shallow)
  | succ limit ih =>
      cases v with
      | arr items =>
          refine reads_arr items fun w member => ih w (wellFormedItems_iff.mp wellFormed w member) ?_
          exact depthItems_le_iff.mp (Nat.le_of_succ_le_succ shallow) w member
      | obj members =>
          refine reads_obj members fun m member => ih m.2 (wellFormedMembers_iff.mp wellFormed.2 m member) ?_
          exact depthMembers_le_iff.mp (Nat.le_of_succ_le_succ shallow) m member
      | null | bool b | int n | float bits | str s => exact reads_scalar _ _ wellFormed rfl

/-- A text is read as its value, reread, if that is not nested too deep. -/
theorem decode_encode {v : Json} (shaped : Shaped depthLimit v) : decode (encode v) = reread v := by
  have read := reads_value v shaped.1 shaped.2 [] EndsNumber.nil
  rw [List.append_nil] at read
  rw [decode, decodeWithin, read]
  cases reread v <;> rfl

/-! ## What comes back -/

mutual

/-- Without fractions and exponents a value comes back as it was. -/
theorem reread_eq_self {v : Json} (wellFormed : WellFormed v) (floatFree : FloatFree v) :
    reread v = .ok v := by
  match v with
  | .null | .bool _ | .int _ | .str _ => rfl
  | .float _ => exact floatFree.elim
  | .arr items => rw [reread, rereadItems_eq_self wellFormed floatFree]; rfl
  | .obj members =>
      rw [reread, rereadMembers_eq_self wellFormed.2 floatFree]
      exact congrArg (fun ms => Except.ok (Json.obj ms)) (Members.ofList_eq_self wellFormed.1)

theorem rereadItems_eq_self {items : List Json} (wellFormed : WellFormedItems items)
    (floatFree : FloatFreeItems items) : rereadItems items = .ok items := by
  match items with
  | [] => rfl
  | v :: rest =>
      rw [rereadItems, reread_eq_self wellFormed.1 floatFree.1]
      simp only [rereadItems_eq_self wellFormed.2 floatFree.2, Except.map]

/-- Members without floats come back as they are. -/
theorem rereadMembers_eq_self {members : List (String × Json)} (wellFormed : WellFormedMembers members)
    (floatFree : FloatFreeMembers members) : rereadMembers members = .ok members := by
  match members with
  | [] => rfl
  | (k, v) :: rest =>
      rw [rereadMembers, reread_eq_self wellFormed.1 floatFree.1]
      simp only [rereadMembers_eq_self wellFormed.2 floatFree.2, Except.map]

end

/-- A value without fractions and exponents is read back from its text. -/
theorem decode_encode_of_exact {v : Json} (exact : Exact depthLimit v) : decode (encode v) = .ok v :=
  (decode_encode exact.1).trans (reread_eq_self exact.1.1 exact.2)

/-- A number with a fraction or an exponent stays one of that kind. -/
theorem float_of_reread {bits : UInt64} {w : Json} (returned : reread (.float bits) = .ok w) :
    ∃ other, w = .float other := by
  obtain ⟨outcome, float⟩ := readsFloat_encode bits
  have alone := float none [] EndsNumber.nil
  rw [List.append_nil] at alone
  rw [reread, readValue, alone] at returned
  cases outcome with
  | error e => cases returned
  | ok other =>
      cases returned
      exact ⟨other, rfl⟩

/-- Texts, small integers and truth values come back as they were, and nothing else comes back as one. -/
theorem scalars_of_reread {v w : Json} (returned : reread v = .ok w) :
    w.asString? = v.asString? ∧ w.asInt? = v.asInt? ∧ w.asBool? = v.asBool? := by
  cases v with
  | null | bool b | int n | str s =>
      cases returned
      exact ⟨rfl, rfl, rfl⟩
  | float bits =>
      obtain ⟨other, rfl⟩ := float_of_reread returned
      exact ⟨rfl, rfl, rfl⟩
  | arr items =>
      obtain ⟨read, -, rfl⟩ := ok_of_map returned
      exact ⟨rfl, rfl, rfl⟩
  | obj members =>
      obtain ⟨read, -, rfl⟩ := ok_of_map returned
      exact ⟨rfl, rfl, rfl⟩

section Members

variable {members read : Members}

/-- Keys come back as they are. -/
theorem keys_of_rereadMembers (returned : rereadMembers members = .ok read) :
    read.map Prod.fst = members.map Prod.fst := by
  induction members generalizing read with
  | nil =>
      cases returned
      rfl
  | cons m members ih =>
      obtain ⟨k, v⟩ := m
      rw [rereadMembers] at returned
      split at returned
      · cases returned
      · obtain ⟨others, rest, rfl⟩ := ok_of_map returned
        rw [List.map_cons, List.map_cons, ih rest]

/-- Members come back in order. -/
theorem sorted_of_rereadMembers (returned : rereadMembers members = .ok read)
    (sorted : Members.Sorted members) : Members.Sorted read := by
  have keys := List.pairwise_map.mpr sorted
  rw [← keys_of_rereadMembers returned] at keys
  exact List.pairwise_map.mp keys

/-- What is found under a key afterwards is what was found before, reread. -/
theorem lookup_of_rereadMembers (returned : rereadMembers members = .ok read) (key : String) :
    members.lookup key = none ∧ read.lookup key = none ∨
      ∃ v w, members.lookup key = some v ∧ reread v = .ok w ∧ read.lookup key = some w := by
  induction members generalizing read with
  | nil =>
      cases returned
      exact .inl ⟨rfl, rfl⟩
  | cons m members ih =>
      obtain ⟨k, v⟩ := m
      rw [rereadMembers] at returned
      split at returned
      · cases returned
      · next w value =>
          obtain ⟨others, rest, rfl⟩ := ok_of_map returned
          cases same : key == k with
          | true => exact .inr ⟨v, w, by simp [List.lookup, same], value, by simp [List.lookup, same]⟩
          | false => simpa only [List.lookup, same] using ih rest

end Members

section Fields

variable {v w : Json}

/-- What is found under a key afterwards is what was found before, reread. -/
theorem get?_of_reread (wellFormed : WellFormed v) (returned : reread v = .ok w) (key : String) :
    v.get? key = none ∧ w.get? key = none ∨
      ∃ a b, v.get? key = some a ∧ reread a = .ok b ∧ w.get? key = some b := by
  cases v with
  | null | bool b | int n | str s =>
      cases returned
      exact .inl ⟨rfl, rfl⟩
  | float bits =>
      obtain ⟨other, rfl⟩ := float_of_reread returned
      exact .inl ⟨rfl, rfl⟩
  | arr items =>
      obtain ⟨read, -, rfl⟩ := ok_of_map returned
      exact .inl ⟨rfl, rfl⟩
  | obj members =>
      obtain ⟨read, inner, rfl⟩ := ok_of_map returned
      rw [ofMembers, Members.ofList_eq_self (sorted_of_rereadMembers inner wellFormed.1)]
      exact lookup_of_rereadMembers inner key

/-- A text, a small integer or a truth value under a key comes back as it was. -/
theorem fields_of_reread (wellFormed : WellFormed v) (returned : reread v = .ok w) (key : String) :
    w.getString? key = v.getString? key ∧ w.getInt? key = v.getInt? key ∧
      w.getBool? key = v.getBool? key := by
  simp only [getString?, getInt?, getBool?]
  rcases get?_of_reread wellFormed returned key with ⟨before, after⟩ | ⟨a, b, before, value, after⟩
  · rw [before, after]
    exact ⟨rfl, rfl, rfl⟩
  · rw [before, after]
    exact scalars_of_reread value

end Fields

end DebugBridge.Json
