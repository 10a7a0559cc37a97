import Mathlib
import DebugBridge.Cell.File

/-!
# Files of edited cells

An edit within one block of a cell's source moves the cell to another file. Every step of the hash can be undone when
the rest of its input is known, so two sources that agree but for one block never come to one hash: the block makes
the states differ, and what follows it keeps them apart.
-/

namespace DebugBridge.Cell

/-! ## Steps that can be undone -/

/-- The inverse of the multiplier modulo `2 ^ 32`. -/
def inverse : UInt32 := 0xe59b19bd

/-- The multiplier of the hash is odd, so it has an inverse modulo `2 ^ 32`. -/
theorem multiplier_mul_inverse : multiplier * inverse = 1 := by
  decide

/-- Multiplying by it can be undone. -/
theorem mul_multiplier_injective : Function.Injective (· * multiplier) := by
  intro x y same
  have undo (z : UInt32) : z * multiplier * inverse = z := by
    rw [UInt32.mul_assoc, multiplier_mul_inverse, UInt32.mul_one]
  calc x = x * multiplier * inverse := (undo x).symm
    _ = y * multiplier * inverse := congrArg (· * inverse) same
    _ = y := undo y

/-- Only zero is its own shift. -/
theorem eq_zero_of_eq_shiftRight {x r : UInt32} (proper : 0 < r.toNat % 32) (fixed : x = x >>> r) : x = 0 := by
  have value : x.toNat = x.toNat / 2 ^ (r.toNat % 32) := by
    rw [← Nat.shiftRight_eq_div_pow, ← UInt32.toNat_shiftRight, ← fixed]
  have large : 1 < 2 ^ (r.toNat % 32) := Nat.one_lt_two_pow (by omega)
  apply UInt32.toNat.inj
  by_contra positive
  have less := Nat.div_lt_self (Nat.pos_of_ne_zero positive) large
  omega

/-- A word mixed with its own upper bits can be taken apart again, from the top down. -/
theorem xor_shiftRight_injective {r : UInt32} (proper : 0 < r.toNat % 32) :
    Function.Injective fun x : UInt32 => x ^^^ x >>> r := by
  intro x y same
  -- The bits in which the two differ are their own shift.
  have difference : x ^^^ y = (x ^^^ y) >>> r := by
    apply UInt32.xor_eq_zero_iff.mp
    rw [UInt32.shiftRight_xor]
    calc x ^^^ y ^^^ (x >>> r ^^^ y >>> r) = x ^^^ x >>> r ^^^ (y ^^^ y >>> r) := by ac_rfl
      _ = 0 := UInt32.xor_eq_zero_iff.mpr same
  exact UInt32.xor_eq_zero_iff.mp (eq_zero_of_eq_shiftRight proper difference)

/-- The mixing of a word can be undone. -/
theorem mix_injective : Function.Injective mix :=
  mul_multiplier_injective.comp ((xor_shiftRight_injective (by decide)).comp mul_multiplier_injective)

/-- So can the last mixing of the state. -/
theorem finish_injective : Function.Injective finish :=
  (xor_shiftRight_injective (by decide)).comp
    (mul_multiplier_injective.comp (xor_shiftRight_injective (by decide)))

/-- Different states stay different when they take in the same word. -/
theorem absorbWord_left_injective (k : UInt32) : Function.Injective (absorbWord · k) := by
  intro x y same
  exact mul_multiplier_injective ((UInt32.xor_left_inj (mix k)).mp same)

/-- A state that takes in different words becomes different states. -/
theorem absorbWord_right_injective (h : UInt32) : Function.Injective (absorbWord h) := by
  intro x y same
  exact mix_injective ((UInt32.xor_right_inj (h * multiplier)).mp same)

/-! ## Words -/

/-- A byte above the bits of a word is added to it. -/
theorem toNat_or_shiftLeft {w r : UInt32} {n : Nat} (b : UInt8) (shift : r.toNat = n) (room : n ≤ 24)
    (low : w.toNat < 2 ^ n) : (w ||| b.toUInt32 <<< r).toNat = w.toNat + b.toNat * 2 ^ n := by
  have small : b.toNat <<< n < 2 ^ 32 := by
    calc b.toNat <<< n = b.toNat * 2 ^ n := Nat.shiftLeft_eq _ _
      _ < 2 ^ 8 * 2 ^ n := Nat.mul_lt_mul_of_pos_right b.toNat_lt (Nat.two_pow_pos _)
      _ ≤ 2 ^ 8 * 2 ^ 24 := Nat.mul_le_mul_left _ (Nat.pow_le_pow_right (by decide) room)
  rw [UInt32.toNat_or, UInt32.toNat_shiftLeft, UInt8.toNat_toUInt32, shift, Nat.mod_eq_of_lt (by omega : n < 32),
    Nat.mod_eq_of_lt small, Nat.or_comm, ← Nat.shiftLeft_add_eq_or_of_lt low, Nat.shiftLeft_eq, Nat.add_comm]

/-- Where no bits meet, it is the same to set bits and to flip them. -/
theorem xor_shiftLeft_eq_or {w r x : UInt32} {n : Nat} (shift : r.toNat = n) (room : n < 32) (low : w.toNat < 2 ^ n) :
    w ^^^ x <<< r = w ||| x <<< r := by
  apply UInt32.toNat.inj
  rw [UInt32.toNat_or, UInt32.toNat_xor, UInt32.toNat_shiftLeft, shift, Nat.mod_eq_of_lt room]
  apply Nat.eq_of_testBit_eq
  intro i
  rw [Nat.testBit_or, Nat.testBit_xor, Nat.testBit_mod_two_pow, Nat.testBit_shiftLeft]
  by_cases above : n ≤ i
  · have clear : w.toNat.testBit i = false :=
      Nat.testBit_lt_two_pow (low.trans_le (Nat.pow_le_pow_right (by decide) above))
    simp [clear]
  · simp [above]

theorem toNat_word (a b c d : UInt8) :
    (word a b c d).toNat = a.toNat + b.toNat * 2 ^ 8 + c.toNat * 2 ^ 16 + d.toNat * 2 ^ 24 := by
  have first : a.toUInt32.toNat = a.toNat := UInt8.toNat_toUInt32 a
  have inFirst := a.toNat_lt
  have inSecond := b.toNat_lt
  have inThird := c.toNat_lt
  have second := @toNat_or_shiftLeft a.toUInt32 8 8 b rfl (by decide) (by omega)
  have third := @toNat_or_shiftLeft (a.toUInt32 ||| b.toUInt32 <<< 8) 16 16 c rfl (by decide) (by omega)
  have fourth := @toNat_or_shiftLeft (a.toUInt32 ||| b.toUInt32 <<< 8 ||| c.toUInt32 <<< 16) 24 24 d rfl (by decide)
    (by omega)
  rw [word, fourth, third, second, first]

/-- A word is its four bytes. -/
theorem word_inj {a b c d a' b' c' d' : UInt8} (same : word a b c d = word a' b' c' d') :
    a = a' ∧ b = b' ∧ c = c' ∧ d = d' := by
  have value := congrArg UInt32.toNat same
  rw [toNat_word, toNat_word] at value
  have := a.toNat_lt
  have := a'.toNat_lt
  have := b.toNat_lt
  have := b'.toNat_lt
  have := c.toNat_lt
  have := c'.toNat_lt
  refine ⟨UInt8.toNat.inj ?_, UInt8.toNat.inj ?_, UInt8.toNat.inj ?_, UInt8.toNat.inj ?_⟩ <;> omega

/-! ## Last bytes -/

/-- The word of the last bytes, of which there are at most three. -/
def lastWord : Bytes → UInt32
  | [] => 0
  | [a] => word a 0 0 0
  | [a, b] => word a b 0 0
  | a :: b :: c :: _ => word a b c 0

theorem word_two (a b : UInt8) : word a b 0 0 = a.toUInt32 ^^^ b.toUInt32 <<< 8 := by
  have zeros : word a b 0 0 = a.toUInt32 ||| b.toUInt32 <<< 8 := by
    simp [word]
  have low : a.toUInt32.toNat < 2 ^ 8 := a.toNat_lt
  rw [zeros, xor_shiftLeft_eq_or rfl (by decide) low]

theorem word_three (a b c : UInt8) : word a b c 0 = a.toUInt32 ^^^ b.toUInt32 <<< 8 ^^^ c.toUInt32 <<< 16 := by
  have zeros : word a b c 0 = word a b 0 0 ||| c.toUInt32 <<< 16 := by
    simp [word]
  have low : (word a b 0 0).toNat < 2 ^ 16 := by
    have := a.toNat_lt
    have := b.toNat_lt
    rw [toNat_word]
    simp only [UInt8.toNat_zero]
    omega
  rw [zeros, ← xor_shiftLeft_eq_or rfl (by decide) low, word_two]

/-- The last bytes enter the state as one word. -/
theorem absorbTail_eq (h : UInt32) {tail : Bytes} (remains : tail ≠ []) :
    absorbTail h tail = (h ^^^ lastWord tail) * multiplier := by
  match tail with
  | [a] => simp [absorbTail, lastWord, word]
  | [a, b] =>
      rw [absorbTail, lastWord, word_two, UInt32.xor_assoc, UInt32.xor_comm (b.toUInt32 <<< 8)]
  | a :: b :: c :: rest =>
      rw [absorbTail, lastWord, word_three, UInt32.xor_assoc, UInt32.xor_assoc, UInt32.xor_comm (c.toUInt32 <<< 16),
        UInt32.xor_comm (b.toUInt32 <<< 8)]

/-- The word of the last bytes tells them apart, if there are equally many. -/
theorem lastWord_inj {xs ys : Bytes} (short : xs.length < 4) (sameLength : xs.length = ys.length)
    (same : lastWord xs = lastWord ys) : xs = ys := by
  match xs, ys with
  | [], [] => rfl
  | [a], [a'] =>
      obtain ⟨rfl, -⟩ := word_inj same
      rfl
  | [a, b], [a', b'] =>
      obtain ⟨rfl, rfl, -⟩ := word_inj same
      rfl
  | [a, b, c], [a', b', c'] =>
      obtain ⟨rfl, rfl, rfl, -⟩ := word_inj same
      rfl

/-- Different states stay different at the same last bytes. -/
theorem absorbTail_left_injective (tail : Bytes) : Function.Injective (absorbTail · tail) := by
  intro x y same
  cases tail with
  | nil => exact same
  | cons a tail =>
      have states : (x ^^^ lastWord (a :: tail)) * multiplier = (y ^^^ lastWord (a :: tail)) * multiplier := by
        rw [← absorbTail_eq x (List.cons_ne_nil a tail), ← absorbTail_eq y (List.cons_ne_nil a tail)]
        exact same
      exact (UInt32.xor_left_inj _).mp (mul_multiplier_injective states)

/-- Different last bytes, if there are equally many, lead to different states. -/
theorem absorbTail_right_inj {h : UInt32} {xs ys : Bytes} (short : xs.length < 4) (sameLength : xs.length = ys.length)
    (same : absorbTail h xs = absorbTail h ys) : xs = ys := by
  by_cases nothing : xs = []
  · subst nothing
    exact (List.eq_nil_of_length_eq_zero sameLength.symm).symm
  · have others : ys ≠ [] := fun none => nothing (List.eq_nil_of_length_eq_zero (by rw [sameLength, none]; rfl))
    rw [absorbTail_eq h nothing, absorbTail_eq h others] at same
    exact lastWord_inj short sameLength ((UInt32.xor_right_inj h).mp (mul_multiplier_injective same))

/-! ## Runs over all bytes -/

theorem length_lt_of_no_block {bs : Bytes} (incomplete : ∀ a b c d rest, bs = a :: b :: c :: d :: rest → False) :
    bs.length < 4 := by
  match bs with
  | [] | [_] | [_, _] | [_, _, _] => simp
  | a :: b :: c :: d :: rest => exact (incomplete a b c d rest rfl).elim

/-- Fewer than four bytes are last bytes. -/
theorem absorb_of_length_lt (h : UInt32) {tail : Bytes} (short : tail.length < 4) :
    absorb h tail = absorbTail h tail := by
  match tail with
  | [] | [_] | [_, _] | [_, _, _] => rfl

/-- The same bytes keep two states apart. -/
theorem absorb_left_injective (bs : Bytes) : Function.Injective (absorb · bs) := by
  intro x y same
  change absorb x bs = absorb y bs at same
  fun_induction absorb x bs generalizing y with
  | case1 x a b c d rest ih => exact absorbWord_left_injective _ (ih same)
  | case2 x tail incomplete =>
      have others := absorb_of_length_lt y (length_lt_of_no_block incomplete)
      exact absorbTail_left_injective tail (same.trans others)

/-- Whole blocks are absorbed before what follows them. -/
theorem absorb_append (h : UInt32) {before : Bytes} (aligned : 4 ∣ before.length) (rest : Bytes) :
    absorb h (before ++ rest) = absorb (absorb h before) rest := by
  fun_induction absorb h before with
  | case1 h a b c d before ih =>
      have fewer : 4 ∣ before.length := by
        simpa [Nat.dvd_add_left] using aligned
      exact ih fewer
  | case2 h tail incomplete =>
      have short := length_lt_of_no_block incomplete
      obtain rfl : tail = [] := List.eq_nil_of_length_eq_zero (Nat.eq_zero_of_dvd_of_lt aligned short)
      rfl

/-! ## Edits -/

/-- Two byte sequences of one length that differ, but only within one block of four bytes, or within the last block,
which may have less. -/
structure LocalEdit (xs ys : Bytes) : Prop where
  sameLength : xs.length = ys.length
  different : xs ≠ ys
  within : ∃ block, ∀ i, xs[i]? ≠ ys[i]? → i / 4 = block

theorem lt_length_of_ne {xs ys : Bytes} (sameLength : xs.length = ys.length) {i : Nat} (apart : xs[i]? ≠ ys[i]?) :
    i < xs.length := by
  by_contra beyond
  rw [List.getElem?_eq_none (by omega), List.getElem?_eq_none (by omega)] at apart
  exact apart rfl

/-- The block of an edit has bytes. -/
theorem LocalEdit.block_reached {xs ys : Bytes} (edit : LocalEdit xs ys) {block : Nat}
    (within : ∀ i, xs[i]? ≠ ys[i]? → i / 4 = block) : 4 * block < xs.length := by
  have somewhere : ∃ i : Nat, xs[i]? ≠ ys[i]? := by
    by_contra nowhere
    push Not at nowhere
    exact edit.different (List.ext_getElem? nowhere)
  obtain ⟨i, apart⟩ := somewhere
  have here := within i apart
  have inside := lt_length_of_ne edit.sameLength apart
  omega

/-- A local edit changes some bytes of one block, and none anywhere else. -/
theorem localEdit_iff {xs ys : Bytes} : LocalEdit xs ys ↔ xs.length = ys.length ∧ xs ≠ ys ∧
    ∃ block < xs.length, ∀ i < xs.length, xs[i]? ≠ ys[i]? → i / 4 = block := by
  constructor
  · intro edit
    obtain ⟨block, within⟩ := edit.within
    have reached := edit.block_reached within
    exact ⟨edit.sameLength, edit.different, block, by omega, fun i _ => within i⟩
  · rintro ⟨sameLength, different, block, -, within⟩
    exact ⟨sameLength, different, block, fun i apart => within i (lt_length_of_ne sameLength apart) apart⟩

instance (xs ys : Bytes) : Decidable (LocalEdit xs ys) :=
  decidable_of_iff _ localEdit_iff.symm

/-- What lies before the block of an edit, and behind it, stays as it is. -/
theorem LocalEdit.exists_block {xs ys : Bytes} (edit : LocalEdit xs ys) :
    ∃ before left right after, xs = before ++ (left ++ after) ∧ ys = before ++ (right ++ after) ∧ 4 ∣ before.length ∧
      left.length = right.length ∧ left ≠ right ∧ (left.length = 4 ∨ left.length < 4 ∧ after = []) := by
  obtain ⟨block, within⟩ := edit.within
  have reached := edit.block_reached within
  have outside : ∀ i, i / 4 ≠ block → xs[i]? = ys[i]? := fun i elsewhere =>
    by_contra fun apart => elsewhere (within i apart)
  have front : xs.take (4 * block) = ys.take (4 * block) := by
    apply List.ext_getElem?
    intro i
    rw [List.getElem?_take, List.getElem?_take]
    split
    · exact outside i (by omega)
    · rfl
  have back : (xs.drop (4 * block)).drop 4 = (ys.drop (4 * block)).drop 4 := by
    apply List.ext_getElem?
    intro i
    rw [List.getElem?_drop, List.getElem?_drop, List.getElem?_drop, List.getElem?_drop]
    exact outside _ (by omega)
  have inXs : xs = xs.take (4 * block) ++ ((xs.drop (4 * block)).take 4 ++ (xs.drop (4 * block)).drop 4) := by
    rw [List.take_append_drop, List.take_append_drop]
  have inYs : ys = xs.take (4 * block) ++ ((ys.drop (4 * block)).take 4 ++ (xs.drop (4 * block)).drop 4) := by
    rw [back, front, List.take_append_drop, List.take_append_drop]
  refine ⟨_, _, _, _, inXs, inYs, ?_, ?_, ?_, ?_⟩
  · rw [List.length_take, Nat.min_eq_left (by omega)]
    exact Nat.dvd_mul_right 4 block
  · simp [edit.sameLength]
  · intro same
    rw [same] at inXs
    exact edit.different (inXs.trans inYs.symm)
  · simp only [List.length_take, List.length_drop, List.drop_eq_nil_iff]
    omega

/-- The states after two inputs that are a local edit apart differ. -/
theorem LocalEdit.absorb_ne {xs ys : Bytes} (edit : LocalEdit xs ys) (h : UInt32) : absorb h xs ≠ absorb h ys := by
  obtain ⟨before, left, right, after, rfl, rfl, aligned, sameLength, different, full | ⟨short, rfl⟩⟩ :=
    edit.exists_block
  · rw [absorb_append h aligned, absorb_append h aligned]
    match left, right with
    | [a, b, c, d], [a', b', c', d'] =>
        intro same
        have words := absorbWord_right_injective _ (absorb_left_injective after same)
        obtain ⟨rfl, rfl, rfl, rfl⟩ := word_inj words
        exact different rfl
  · rw [absorb_append h aligned, absorb_append h aligned, List.append_nil, List.append_nil, absorb_of_length_lt _ short,
      absorb_of_length_lt _ (by omega : right.length < 4)]
    exact fun same => different (absorbTail_right_inj short sameLength same)

/-- A local edit changes the hash, under every seed. -/
theorem LocalEdit.hash_ne {xs ys : Bytes} (edit : LocalEdit xs ys) (seed : UInt32) :
    hash seed xs ≠ hash seed ys := by
  intro same
  have states := finish_injective same
  rw [edit.sameLength] at states
  exact edit.absorb_ne _ states

/-! ## Files -/

/-- In one process two sources have one file exactly if they have one hash. -/
theorem file_eq_iff (k : Kernel) (left right : String) :
    file k left = file k right ↔ hash seed (Utf8.encode left) = hash seed (Utf8.encode right) := by
  constructor
  · intro same
    have chars := congrArg String.toList same
    simp only [file, String.toList_append, String.toList_ofList, List.append_cancel_left_eq,
      List.append_cancel_right_eq] at chars
    exact UInt32.toNat.inj (decimal_inj chars)
  · intro same
    rw [file, file, same]

/-- Byte sequences of any length that are a local edit apart have different hashes, under any seed. So a local edit
moves a cell to another file: in one process the files of two sources are the same exactly if the hashes are. -/
theorem local_edits_move :
    (∀ seed xs ys, LocalEdit xs ys → hash seed xs ≠ hash seed ys) ∧
      (∀ k left right, LocalEdit (Utf8.encode left) (Utf8.encode right) → file k left ≠ file k right) ∧
      ∀ k left right, file k left = file k right ↔ hash seed (Utf8.encode left) = hash seed (Utf8.encode right) := by
  refine ⟨fun seed xs ys edit => edit.hash_ne seed, fun k left right edit => ?_, file_eq_iff⟩
  rw [Ne, file_eq_iff]
  exact edit.hash_ne seed

/-- Two bytes of a last block change places, and a number in a cell changes. -/
theorem local_edits_move_digits :
    hash 0 [1, 2, 3, 4, 5, 6] ≠ hash 0 [1, 2, 3, 4, 6, 5] ∧
      file ⟨"/tmp", "7"⟩ "print(12)" ≠ file ⟨"/tmp", "7"⟩ "print(34)" := by
  have lastBytes : LocalEdit [1, 2, 3, 4, 5, 6] [1, 2, 3, 4, 6, 5] := by decide
  have digits : LocalEdit (Utf8.encode "print(12)") (Utf8.encode "print(34)") := by decide +kernel
  exact ⟨local_edits_move.1 _ _ _ lastBytes, local_edits_move.2.1 _ _ _ digits⟩

/-- An edit in two blocks may leave the hash as it is. -/
example : hash seed (Utf8.encode "k = 1235") = hash seed (Utf8.encode "o = 6768") := by
  decide +kernel

end DebugBridge.Cell
