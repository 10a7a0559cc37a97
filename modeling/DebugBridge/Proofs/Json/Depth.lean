import DebugBridge.Proofs.Json.RoundTrip

/-!
# Values that are too deep

The reader refuses a text whose containers nest deeper than its limit, so whatever the writer's text is read as
comes from a value within the limit (`shaped_of_decode_encode`).
-/

namespace DebugBridge.Json

/-- A reader refuses the text of a value, whatever follows. -/
def Refuses (value : Bytes → Reading Json) (v : Json) : Prop :=
  ∀ rest, ∃ e, value (encode v ++ rest) = .error e

/-- Items are refused if one of them is and the others are read. -/
theorem readItems_refuses {value : Bytes → Reading Json} (v : Json) (items done : List Json) (fuel : Nat)
    (rest : Bytes) (each : ∀ w ∈ v :: items, Reads value w ∨ Refuses value w)
    (one : ∃ w ∈ v :: items, Refuses value w) :
    ∃ e, readItems value fuel done (Utf8.encodeChars (charsItems (v :: items)) ++ rest) = .error e := by
  induction items generalizing v done fuel with
  | nil =>
      obtain ⟨w, member, refused⟩ := one
      cases List.mem_singleton.mp member
      cases fuel with
      | zero => exact ⟨_, rfl⟩
      | succ fuel =>
          obtain ⟨e, failed⟩ := refused (93 :: rest)
          rw [encode_items_single, List.append_assoc, readItems, List.singleton_append, failed]
          exact ⟨e, rfl⟩
  | cons w items ih =>
      cases fuel with
      | zero => exact ⟨_, rfl⟩
      | succ fuel =>
          let after := Utf8.encodeChars (charsItems (w :: items)) ++ rest
          rw [encode_items_cons, List.append_assoc, List.cons_append, readItems]
          rcases each v List.mem_cons_self with reads | refuses
          · have head := reads (44 :: after) (endsNumber_cons (by decide) _)
            rw [head]
            cases same : reread v with
            | error e => exact ⟨e, rfl⟩
            | ok u =>
                simp only [Except.map, skipSpace_cons (b := 44) rfl]
                refine ih w (u :: done) fuel (fun x member => each x (List.mem_cons_of_mem v member)) ?_
                obtain ⟨x, member, refused⟩ := one
                rcases List.mem_cons.mp member with rfl | later
                · obtain ⟨e, failed⟩ := refused (44 :: after)
                  rw [head, same] at failed
                  cases failed
                · exact ⟨x, later, refused⟩
          · obtain ⟨e, failed⟩ := refuses (44 :: after)
            rw [failed]
            exact ⟨e, rfl⟩

/-- Members are refused if the value of one of them is and the others are read. -/
theorem readMembers_refuses {value : Bytes → Reading Json} (m : String × Json)
    (members done : List (String × Json)) (fuel : Nat) (rest : Bytes)
    (each : ∀ n ∈ m :: members, Reads value n.2 ∨ Refuses value n.2)
    (one : ∃ n ∈ m :: members, Refuses value n.2) :
    ∃ e, readMembers value fuel done (Utf8.encodeChars (charsMembers (m :: members)) ++ rest) = .error e := by
  induction members generalizing m done fuel with
  | nil =>
      obtain ⟨n, member, refused⟩ := one
      cases List.mem_singleton.mp member
      obtain ⟨k, v⟩ := m
      cases fuel with
      | zero => exact ⟨_, rfl⟩
      | succ fuel =>
          obtain ⟨e, failed⟩ := refused (125 :: rest)
          rw [encode_members_single, List.cons_append, List.append_assoc, List.append_assoc, readMembers,
            readKey_keyBytes, List.singleton_append]
          simp only [failed]
          exact ⟨e, rfl⟩
  | cons n members ih =>
      obtain ⟨k, v⟩ := m
      cases fuel with
      | zero => exact ⟨_, rfl⟩
      | succ fuel =>
          let after := Utf8.encodeChars (charsMembers (n :: members)) ++ rest
          rw [encode_members_cons, List.cons_append, List.append_assoc, List.append_assoc, List.cons_append,
            readMembers, readKey_keyBytes]
          rcases each (k, v) List.mem_cons_self with reads | refuses
          · have head := reads (44 :: after) (endsNumber_cons (by decide) _)
            simp only [after] at head
            simp only [head]
            cases same : reread v with
            | error e => exact ⟨e, rfl⟩
            | ok u =>
                simp only [Except.map, skipSpace_cons (b := 44) rfl]
                refine ih n ((k, u) :: done) fuel (fun x member => each x (List.mem_cons_of_mem _ member)) ?_
                obtain ⟨x, member, refused⟩ := one
                rcases List.mem_cons.mp member with rfl | later
                · obtain ⟨e, failed⟩ := refused (44 :: after)
                  simp only [after] at failed
                  rw [head, same] at failed
                  cases failed
                · exact ⟨x, later, refused⟩
          · obtain ⟨e, failed⟩ := refuses (44 :: after)
            simp only [after] at failed
            simp only [failed]
            exact ⟨e, rfl⟩

theorem refuses_arr {value : Bytes → Reading Json} (items : List Json)
    (each : ∀ v ∈ items, Reads value v ∨ Refuses value v) (one : ∃ v ∈ items, Refuses value v) :
    Refuses (readAny (some value)) (.arr items) := by
  intro rest
  cases items with
  | nil =>
      obtain ⟨v, member, -⟩ := one
      cases member
  | cons w items =>
      obtain ⟨e, failed⟩ := readItems_refuses w items [] _ rest each one
      rw [readAny_arr, failed]
      exact ⟨e, rfl⟩

theorem refuses_obj {value : Bytes → Reading Json} (members : Members)
    (each : ∀ m ∈ members, Reads value m.2 ∨ Refuses value m.2) (one : ∃ m ∈ members, Refuses value m.2) :
    Refuses (readAny (some value)) (.obj members) := by
  intro rest
  cases members with
  | nil =>
      obtain ⟨m, member, -⟩ := one
      cases member
  | cons m members =>
      obtain ⟨e, failed⟩ := readMembers_refuses m members [] _ rest each one
      rw [readAny_obj, failed]
      exact ⟨e, rfl⟩

/-- A value is refused by a reader that does not allow its depth. -/
theorem refuses_value {limit : Nat} (v : Json) (wellFormed : WellFormed v) (deep : limit < depth v) :
    Refuses (readValue limit) v := by
  induction limit generalizing v with
  | zero =>
      cases v with
      | arr items => exact fun rest => ⟨_, rfl⟩
      | obj members => exact fun rest => ⟨_, rfl⟩
      | null | bool b | int n | float bits | str s => cases deep
  | succ limit ih =>
      have either (w : Json) (inner : WellFormed w) : Reads (readValue limit) w ∨ Refuses (readValue limit) w := by
        rcases Nat.lt_or_ge limit (depth w) with below | shallow
        · exact .inr (ih w inner below)
        · exact .inl (reads_value w inner shallow)
      cases v with
      | arr items =>
          have inner := wellFormedItems_iff.mp wellFormed
          refine refuses_arr items (fun w member => either w (inner w member)) ?_
          have exceeds : ¬ depthItems items ≤ limit := Nat.not_le.mpr (Nat.lt_of_succ_lt_succ deep)
          simp only [depthItems_le_iff, Classical.not_forall, Nat.not_le] at exceeds
          obtain ⟨w, member, below⟩ := exceeds
          exact ⟨w, member, ih w (inner w member) below⟩
      | obj members =>
          have inner := wellFormedMembers_iff.mp wellFormed.2
          refine refuses_obj members (fun m member => either m.2 (inner m member)) ?_
          have exceeds : ¬ depthMembers members ≤ limit := Nat.not_le.mpr (Nat.lt_of_succ_lt_succ deep)
          simp only [depthMembers_le_iff, Classical.not_forall, Nat.not_le] at exceeds
          obtain ⟨m, member, below⟩ := exceeds
          exact ⟨m, member, ih m.2 (inner m member) below⟩
      | null | bool b | int n | float bits | str s => cases deep

/-- A text that is read is that of a value that is not nested too deep. -/
theorem shaped_of_decode_encode {v w : Json} (wellFormed : WellFormed v) (read : decode (encode v) = .ok w) :
    Shaped depthLimit v := by
  refine ⟨wellFormed, Nat.le_of_not_lt fun deep => ?_⟩
  obtain ⟨e, refused⟩ := refuses_value v wellFormed deep []
  rw [List.append_nil] at refused
  rw [decode, decodeWithin, refused] at read
  cases read

end DebugBridge.Json
