import DebugBridge.Proofs.Rendering.Leftovers
import Mathlib.Logic.Equiv.Basic

/-!
# The names of slots

Two numbers never share a global: the digits of a number have a fixed width and tell the number, and the data of one
slot is shorter than the metadata of any. `exchange` reads the globals of two slots as those of each other.
-/

namespace DebugBridge.Slot

variable {id other : BitVec 128}

theorem hexDigit_inj : ∀ m < 16, ∀ n < 16, Json.hexDigit m = Json.hexDigit n → m = n := by
  decide

theorem isAlphanum_hexDigit : ∀ n < 16, (Json.hexDigit n).isAlphanum = true := by
  decide

/-- A number is its digits. -/
theorem eq_of_digits_eq {width m n : Nat} (mFits : m < 16 ^ width) (nFits : n < 16 ^ width)
    (same : ∀ i < width, m / 16 ^ i % 16 = n / 16 ^ i % 16) : m = n := by
  induction width generalizing m n with
  | zero => simp_all
  | succ width ih =>
      have last : m % 16 = n % 16 := by simpa using same 0 (Nat.succ_pos width)
      have front : m / 16 = n / 16 := by
        refine ih (by omega) (by omega) fun i inside => ?_
        rw [Nat.div_div_eq_div_mul, Nat.div_div_eq_div_mul, ← Nat.pow_succ']
        exact same (i + 1) (Nat.succ_lt_succ inside)
      omega

/-- The digits of a slot's number are hexadecimal, the highest first. -/
theorem toList_digits (id : BitVec 128) :
    (digits id).toList = (List.range 32).map fun i => Json.hexDigit (id.toNat / 16 ^ (31 - i) % 16) := by
  simp [digits]

@[simp] theorem length_digits (id : BitVec 128) : (digits id).toList.length = 32 := by
  simp [toList_digits]

/-- Digits are plain characters. -/
theorem isAlphanum_of_mem_digits {c : Char} (member : c ∈ (digits id).toList) : c.isAlphanum = true := by
  rw [toList_digits] at member
  obtain ⟨i, -, rfl⟩ := List.mem_map.mp member
  exact isAlphanum_hexDigit _ (Nat.mod_lt _ (by decide))

/-- Different numbers have different digits. -/
theorem digits_inj (same : (digits id).toList = (digits other).toList) : id = other := by
  rw [toList_digits, toList_digits, List.map_inj_left] at same
  apply BitVec.eq_of_toNat_eq
  refine @eq_of_digits_eq 32 _ _ id.isLt other.isLt fun i inside => ?_
  have digit := same (31 - i) (List.mem_range.mpr (by omega))
  rw [show 31 - (31 - i) = i by omega] at digit
  exact hexDigit_inj _ (Nat.mod_lt _ (by decide)) _ (Nat.mod_lt _ (by decide)) digit

/-- Different slots have different names for their data. -/
theorem data_inj : (ofId id).data = (ofId other).data ↔ id = other := by
  refine ⟨fun same => ?_, fun same => by rw [same]⟩
  have texts := congrArg String.toList same
  rw [toList_data, toList_data, List.append_right_inj, List.append_left_inj] at texts
  exact digits_inj texts

/-- Different slots have different names for their metadata. -/
theorem metadata_inj : (ofId id).metadata = (ofId other).metadata ↔ id = other := by
  refine ⟨fun same => ?_, fun same => by rw [same]⟩
  have texts := congrArg String.toList same
  rw [toList_metadata, toList_metadata, List.append_right_inj, List.append_left_inj] at texts
  exact digits_inj texts

/-- The data of a slot is never the metadata of one, be it the same or another. -/
theorem data_ne_metadata (id other : BitVec 128) : (ofId id).data ≠ (ofId other).metadata := by
  intro same
  have lengths := congrArg (fun name : String => name.toList.length) same
  simp [toList_data, toList_metadata] at lengths

/-- The two globals of a slot. -/
def names (slot : Slot) : List String := [slot.data, slot.metadata]

/-- Slots of different numbers have no global in common. -/
theorem names_disjoint (different : id ≠ other) : (ofId id).names.Disjoint (ofId other).names := by
  have data := mt data_inj.mp different.symm
  have metadata := mt metadata_inj.mp different.symm
  have mixed := data_ne_metadata other id
  have mixed' := (data_ne_metadata id other).symm
  simp [names, data, metadata, mixed, mixed']

/-- Reads the globals of two slots as those of each other, and every other name as itself. -/
def exchange (slot other : Slot) : Equiv.Perm String :=
  (Equiv.swap slot.data other.data).trans (Equiv.swap slot.metadata other.metadata)

/-- Exchanging two slots exchanges the names of their data. -/
theorem exchange_data (id other : BitVec 128) : exchange (ofId id) (ofId other) (ofId id).data = (ofId other).data := by
  rw [exchange, Equiv.trans_apply, Equiv.swap_apply_left]
  exact Equiv.swap_apply_of_ne_of_ne (data_ne_metadata other id) (data_ne_metadata other other)

/-- It exchanges the names of their metadata. -/
theorem exchange_metadata (id other : BitVec 128) :
    exchange (ofId id) (ofId other) (ofId id).metadata = (ofId other).metadata := by
  rw [exchange, Equiv.trans_apply,
    Equiv.swap_apply_of_ne_of_ne (data_ne_metadata id id).symm (data_ne_metadata other id).symm, Equiv.swap_apply_left]

/-- It leaves all other names as they are. -/
theorem exchange_other {slot other : Slot} {name : String} (apart : name ∉ slot.names) (further : name ∉ other.names) :
    exchange slot other name = name := by
  simp only [names, List.mem_cons, List.not_mem_nil, or_false, not_or] at apart further
  rw [exchange, Equiv.trans_apply, Equiv.swap_apply_of_ne_of_ne apart.1 further.1,
    Equiv.swap_apply_of_ne_of_ne apart.2 further.2]

end DebugBridge.Slot
