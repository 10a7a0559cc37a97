import Mathlib
import DebugBridge.Text.Utf8

/-!
# Decoding what was encoded

The decoder takes the bytes of a character back to the character, whatever follows, so it takes the bytes
of a text back to the text. The bytes of a character outside ASCII all lie above ASCII.
-/

namespace DebugBridge.Utf8

theorem toNat_toUInt8 {n : Nat} (small : n < 256) : n.toUInt8.toNat = n := by
  simp [Nat.toUInt8, Nat.mod_eq_of_lt small]

/-- The code points that characters have. -/
theorem toNat_bounds (c : Char) : c.toNat < 0xD800 ∨ 0xDFFF < c.toNat ∧ c.toNat < 0x110000 :=
  c.valid

/-- A character below 128 is one byte, its own number. -/
theorem encodeChar_ascii {c : Char} (ascii : c.toNat < 0x80) : encodeChar c = [c.toNat.toUInt8] := by
  simp [encodeChar, ascii]

/-- Bytes of a character outside ASCII are no ASCII bytes. -/
theorem high_of_mem_encodeChar {c : Char} {b : UInt8} (beyond : 0x80 ≤ c.toNat)
    (member : b ∈ encodeChar c) : 0x80 ≤ b.toNat := by
  have bounds := toNat_bounds c
  simp only [encodeChar] at member
  split at member
  · omega
  · split at member
    · simp only [List.mem_cons, List.not_mem_nil, or_false] at member
      rcases member with rfl | rfl <;> rw [toNat_toUInt8 (by omega)] <;> omega
    · split at member
      · simp only [List.mem_cons, List.not_mem_nil, or_false] at member
        rcases member with rfl | rfl | rfl <;> rw [toNat_toUInt8 (by omega)] <;> omega
      · simp only [List.mem_cons, List.not_mem_nil, or_false] at member
        rcases member with rfl | rfl | rfl | rfl <;> rw [toNat_toUInt8 (by omega)] <;> omega

/-- A further byte within its bounds ends its character if no more are owed. -/
theorem next_last (low high code : Nat) {n : Nat} (inLow : low ≤ n) (inHigh : n ≤ high) (small : n < 256) :
    Pending.next ⟨1, low, high, code⟩ n.toUInt8 = .char (Char.ofNat (code * 64 + (n - 0x80))) := by
  simp [Pending.next, toNat_toUInt8 small, inLow, inHigh]

/-- A further byte within its bounds leaves one less owed. -/
theorem next_more (code : Nat) {owed low high n : Nat} (more : 2 ≤ owed) (inLow : low ≤ n)
    (inHigh : n ≤ high) (small : n < 256) :
    Pending.next ⟨owed, low, high, code⟩ n.toUInt8 =
      .pending ⟨owed - 1, 0x80, 0xBF, code * 64 + (n - 0x80)⟩ := by
  simp [Pending.next, toNat_toUInt8 small, inLow, inHigh, Nat.not_le.mpr more]

private theorem decodeFrom_two {c : Char} (low : 0x80 ≤ c.toNat) (high : c.toNat < 0x800)
    (done : List Char) (rest : Bytes) :
    decodeFrom none done ((0xC0 + c.toNat / 64).toUInt8 :: (0x80 + c.toNat % 64).toUInt8 :: rest) =
      decodeFrom none (c :: done) rest := by
  have first : start (0xC0 + c.toNat / 64).toUInt8 = .pending ⟨1, 0x80, 0xBF, c.toNat / 64⟩ := by
    have byte := toNat_toUInt8 (show 0xC0 + c.toNat / 64 < 256 by omega)
    simp only [start, byte]
    rw [if_neg (by omega), if_neg (by omega), if_pos (by omega), Nat.add_sub_cancel_left]
  have last := next_last 0x80 0xBF (c.toNat / 64)
    (show 0x80 ≤ 0x80 + c.toNat % 64 by omega) (by omega) (by omega)
  have whole : c.toNat / 64 * 64 + (0x80 + c.toNat % 64 - 0x80) = c.toNat := by omega
  rw [whole, Char.ofNat_toNat] at last
  simp only [decodeFrom, step, first, last]

/-- The first of three bytes fixes the bounds of the second, which lies within them. -/
private theorem start_three {c : Char} (low : 0x800 ≤ c.toNat) (high : c.toNat < 0x10000) :
    ∃ least most, start (0xE0 + c.toNat / 4096).toUInt8 = .pending ⟨2, least, most, c.toNat / 4096⟩ ∧
      least ≤ 0x80 + c.toNat / 64 % 64 ∧ 0x80 + c.toNat / 64 % 64 ≤ most := by
  have bounds := toNat_bounds c
  have byte := toNat_toUInt8 (show 0xE0 + c.toNat / 4096 < 256 by omega)
  simp only [start, byte]
  rw [if_neg (by omega), if_neg (by omega), if_neg (by omega)]
  by_cases isFirst : c.toNat / 4096 = 0
  · rw [if_pos (by omega), isFirst]
    exact ⟨_, _, rfl, by omega, by omega⟩
  · rw [if_neg (by omega)]
    by_cases surrogates : c.toNat / 4096 = 13
    · rw [if_pos (by omega), surrogates]
      exact ⟨_, _, rfl, by omega, by omega⟩
    · rw [if_neg (by omega), if_pos (by omega), Nat.add_sub_cancel_left]
      exact ⟨_, _, rfl, by omega, by omega⟩

private theorem decodeFrom_three {c : Char} (low : 0x800 ≤ c.toNat) (high : c.toNat < 0x10000)
    (done : List Char) (rest : Bytes) :
    decodeFrom none done ((0xE0 + c.toNat / 4096).toUInt8 :: (0x80 + c.toNat / 64 % 64).toUInt8 ::
      (0x80 + c.toNat % 64).toUInt8 :: rest) = decodeFrom none (c :: done) rest := by
  obtain ⟨least, most, first, inLow, inHigh⟩ := start_three low high
  have second := next_more (c.toNat / 4096) (Nat.le_refl 2) inLow inHigh (by omega)
  have last := next_last 0x80 0xBF
    (c.toNat / 4096 * 64 + (0x80 + c.toNat / 64 % 64 - 0x80))
    (show 0x80 ≤ 0x80 + c.toNat % 64 by omega) (by omega) (by omega)
  have whole : (c.toNat / 4096 * 64 + (0x80 + c.toNat / 64 % 64 - 0x80)) * 64 +
      (0x80 + c.toNat % 64 - 0x80) = c.toNat := by omega
  rw [whole, Char.ofNat_toNat] at last
  simp only [decodeFrom, step, first, second, last]

/-- The first of four bytes fixes the bounds of the second, which lies within them. -/
private theorem start_four {c : Char} (low : 0x10000 ≤ c.toNat) :
    ∃ least most,
      start (0xF0 + c.toNat / 262144).toUInt8 = .pending ⟨3, least, most, c.toNat / 262144⟩ ∧
      least ≤ 0x80 + c.toNat / 4096 % 64 ∧ 0x80 + c.toNat / 4096 % 64 ≤ most := by
  have bounds := toNat_bounds c
  have byte := toNat_toUInt8 (show 0xF0 + c.toNat / 262144 < 256 by omega)
  simp only [start, byte]
  rw [if_neg (by omega), if_neg (by omega), if_neg (by omega), if_neg (by omega), if_neg (by omega),
    if_neg (by omega)]
  by_cases isFirst : c.toNat / 262144 = 0
  · rw [if_pos (by omega), isFirst]
    exact ⟨_, _, rfl, by omega, by omega⟩
  · rw [if_neg (by omega)]
    by_cases isLast : c.toNat / 262144 = 4
    · rw [if_neg (by omega), if_pos (by omega), isLast]
      exact ⟨_, _, rfl, by omega, by omega⟩
    · rw [if_pos (by omega), Nat.add_sub_cancel_left]
      exact ⟨_, _, rfl, by omega, by omega⟩

private theorem decodeFrom_four {c : Char} (low : 0x10000 ≤ c.toNat) (done : List Char)
    (rest : Bytes) :
    decodeFrom none done ((0xF0 + c.toNat / 262144).toUInt8 :: (0x80 + c.toNat / 4096 % 64).toUInt8 ::
      (0x80 + c.toNat / 64 % 64).toUInt8 :: (0x80 + c.toNat % 64).toUInt8 :: rest) =
        decodeFrom none (c :: done) rest := by
  obtain ⟨least, most, first, inLow, inHigh⟩ := start_four low
  have second := next_more (c.toNat / 262144) (show 2 ≤ 3 by omega) inLow inHigh (by omega)
  have third := next_more (c.toNat / 262144 * 64 + (0x80 + c.toNat / 4096 % 64 - 0x80)) (Nat.le_refl 2)
    (show 0x80 ≤ 0x80 + c.toNat / 64 % 64 by omega) (show _ ≤ 0xBF by omega) (by omega)
  have last := next_last 0x80 0xBF
    ((c.toNat / 262144 * 64 + (0x80 + c.toNat / 4096 % 64 - 0x80)) * 64 +
      (0x80 + c.toNat / 64 % 64 - 0x80))
    (show 0x80 ≤ 0x80 + c.toNat % 64 by omega) (by omega) (by omega)
  have whole : ((c.toNat / 262144 * 64 + (0x80 + c.toNat / 4096 % 64 - 0x80)) * 64 +
      (0x80 + c.toNat / 64 % 64 - 0x80)) * 64 + (0x80 + c.toNat % 64 - 0x80) = c.toNat := by omega
  rw [whole, Char.ofNat_toNat] at last
  simp only [decodeFrom, step, first, second, third, last]

/-- The bytes of a character are read as that character. -/
theorem decodeFrom_encodeChar (c : Char) (done : List Char) (rest : Bytes) :
    decodeFrom none done (encodeChar c ++ rest) = decodeFrom none (c :: done) rest := by
  by_cases one : c.toNat < 0x80
  · have byte := toNat_toUInt8 (show c.toNat < 256 by omega)
    have first : start c.toNat.toUInt8 = .char c := by
      simp only [start, byte, if_pos one, Char.ofNat_toNat]
    simp only [encodeChar, if_pos one, List.cons_append, List.nil_append, decodeFrom, step, first]
  · by_cases two : c.toNat < 0x800
    · simpa only [encodeChar, if_neg one, if_pos two, List.cons_append, List.nil_append] using
        decodeFrom_two (by omega) two done rest
    · by_cases three : c.toNat < 0x10000
      · simpa only [encodeChar, if_neg one, if_neg two, if_pos three, List.cons_append,
          List.nil_append] using decodeFrom_three (by omega) three done rest
      · simpa only [encodeChar, if_neg one, if_neg two, if_neg three, List.cons_append,
          List.nil_append] using decodeFrom_four (by omega) done rest

/-- Encoded characters are decoded one after the other. -/
theorem decodeFrom_encodeChars (cs done : List Char) :
    decodeFrom none done (encodeChars cs) = some (done.reverse ++ cs) := by
  induction cs generalizing done with
  | nil => simp [decodeFrom]
  | cons c rest ih => simp [decodeFrom_encodeChar, ih]

/-- The bytes of characters are read as these characters. -/
theorem decodeChars?_encodeChars (cs : List Char) : decodeChars? (encodeChars cs) = some cs :=
  decodeFrom_encodeChars cs []

/-- The bytes of characters are read as their text. -/
theorem decode?_encodeChars (cs : List Char) : decode? (encodeChars cs) = some (String.ofList cs) := by
  simp [decode?, decodeChars?_encodeChars]

/-! ## Line feeds -/

/-- A line feed is among the bytes of characters that have it. -/
theorem lineFeed_mem_encodeChars {cs : List Char} (within : '\n' ∈ cs) : 10 ∈ encodeChars cs :=
  List.mem_flatMap.mpr ⟨'\n', within, by decide⟩

/-- A line feed is among bytes only if it is among their characters. -/
theorem lineFeed_not_mem_encodeChars {cs : List Char} (within : '\n' ∉ cs) : 10 ∉ encodeChars cs := by
  intro member
  obtain ⟨c, inside, byte⟩ := List.mem_flatMap.mp member
  by_cases ascii : c.toNat < 0x80
  · rw [encodeChar_ascii ascii, List.mem_singleton] at byte
    have code : c.toNat = 10 := by rw [← toNat_toUInt8 (show c.toNat < 256 by omega), ← byte]; rfl
    have feed : c = '\n' := by rw [← Char.ofNat_toNat c, code]
    exact within (feed ▸ inside)
  · have high := high_of_mem_encodeChar (Nat.le_of_not_lt ascii) byte
    exact absurd high (by decide)

end DebugBridge.Utf8
