import DebugBridge.Proofs.Text.Utf8

/-!
# Bytes that decode

The decoder accepts the bytes of characters and no others: `decodeChars?_eq_some_iff`. A first byte opens the bytes of
one character (`Opens`), and the bounds that it sets on the byte after it leave exactly the code points that are
written in so many bytes.
-/

namespace DebugBridge.Utf8

theorem eq_toUInt8 {b : UInt8} {n : Nat} (value : b.toNat = n) : n.toUInt8 = b := by
  subst value
  exact UInt8.ofNat_toNat

/-- What a first byte opens. `k` holds its bits of the code point, and what lies within the bounds on the next byte
completes no overlong form, no surrogate and nothing above the last code point. -/
inductive Opens (b : UInt8) : Step → Prop where
  | one (ascii : b.toNat < 0x80) : Opens b (.char (Char.ofNat b.toNat))
  | two {k : Nat} (value : b.toNat = 0xC0 + k) (least : 2 ≤ k) (most : k < 0x20) :
      Opens b (.pending ⟨1, 0x80, 0xBF, k⟩)
  | three {low high k : Nat} (value : b.toNat = 0xE0 + k) (most : k < 0x10)
      (within : ∀ n, low ≤ n → n ≤ high → 0x80 ≤ n ∧ n ≤ 0xBF ∧ 0x20 ≤ k * 64 + (n - 0x80) ∧
        (k * 64 + (n - 0x80) < 0x360 ∨ 0x380 ≤ k * 64 + (n - 0x80))) :
      Opens b (.pending ⟨2, low, high, k⟩)
  | four {low high k : Nat} (value : b.toNat = 0xF0 + k)
      (within : ∀ n, low ≤ n → n ≤ high → 0x80 ≤ n ∧ n ≤ 0xBF ∧ 0x10 ≤ k * 64 + (n - 0x80) ∧
        k * 64 + (n - 0x80) < 0x110) :
      Opens b (.pending ⟨3, low, high, k⟩)
  | refused : Opens b .refused

/-- What a first byte opens. -/
theorem opens (b : UInt8) : Opens b (start b) := by
  have byte := b.toNat_lt
  simp only [start]
  split
  · next ascii => exact .one ascii
  · split
    · exact .refused
    · split
      · exact .two (by omega) (by omega) (by omega)
      · split
        · exact .three (by omega) (by omega) (by omega)
        · split
          · exact .three (by omega) (by omega) (by omega)
          · split
            · exact .three (by omega) (by omega) (by omega)
            · split
              · exact .four (by omega) (by omega)
              · split
                · exact .four (k := b.toNat - 0xF0) (by omega) (by omega)
                · split
                  · exact .four (by omega) (by omega)
                  · exact .refused

/-- The code point of a character made of a number that is one. -/
theorem toNat_ofNat {n : Nat} (valid : n < 0xD800 ∨ 0xDFFF < n ∧ n < 0x110000) : (Char.ofNat n).toNat = n := by
  have isValid : n.isValidChar := valid
  rw [Char.ofNat, dif_pos isValid]
  rfl

/-- Two bytes that were read as a character are its encoding. -/
theorem encodeChar_two {n : Nat} {a b : UInt8} (least : 0x80 ≤ n) (most : n < 0x800) (first : a.toNat = 0xC0 + n / 64)
    (second : b.toNat = 0x80 + n % 64) : encodeChar (Char.ofNat n) = [a, b] := by
  have code : (Char.ofNat n).toNat = n := toNat_ofNat (.inl (by omega))
  simp only [encodeChar, code, if_neg (Nat.not_lt.mpr least), if_pos most, eq_toUInt8 first, eq_toUInt8 second]

/-- Three bytes that were read as a character are its encoding. -/
theorem encodeChar_three {n : Nat} {a b c : UInt8} (least : 0x800 ≤ n) (most : n < 0x10000)
    (noSurrogate : n < 0xD800 ∨ 0xDFFF < n) (first : a.toNat = 0xE0 + n / 4096)
    (second : b.toNat = 0x80 + n / 64 % 64) (third : c.toNat = 0x80 + n % 64) :
    encodeChar (Char.ofNat n) = [a, b, c] := by
  have code : (Char.ofNat n).toNat = n := toNat_ofNat (by omega)
  simp only [encodeChar, code, if_neg (show ¬ n < 0x80 by omega), if_neg (Nat.not_lt.mpr least), if_pos most,
    eq_toUInt8 first, eq_toUInt8 second, eq_toUInt8 third]

/-- Four bytes that were read as a character are its encoding. -/
theorem encodeChar_four {n : Nat} {a b c d : UInt8} (least : 0x10000 ≤ n) (most : n < 0x110000)
    (first : a.toNat = 0xF0 + n / 262144) (second : b.toNat = 0x80 + n / 4096 % 64)
    (third : c.toNat = 0x80 + n / 64 % 64) (fourth : d.toNat = 0x80 + n % 64) :
    encodeChar (Char.ofNat n) = [a, b, c, d] := by
  have code : (Char.ofNat n).toNat = n := toNat_ofNat (by omega)
  simp only [encodeChar, code, if_neg (show ¬ n < 0x80 by omega), if_neg (show ¬ n < 0x800 by omega),
    if_neg (Nat.not_lt.mpr least), eq_toUInt8 first, eq_toUInt8 second, eq_toUInt8 third, eq_toUInt8 fourth]

section Pending

variable {low high code : Nat} {done out : List Char} {bs : Bytes}

/-- The last byte that is owed ends its character. -/
theorem exists_last (decoded : decodeFrom (some ⟨1, low, high, code⟩) done bs = some out) :
    ∃ b rest, bs = b :: rest ∧ low ≤ b.toNat ∧ b.toNat ≤ high ∧
      decodeFrom none (Char.ofNat (code * 64 + (b.toNat - 0x80)) :: done) rest = some out := by
  cases bs with
  | nil => cases decoded
  | cons b rest =>
      by_cases within : low ≤ b.toNat ∧ b.toNat ≤ high
      · simp only [decodeFrom, step, Pending.next, within, and_self, if_true, Nat.le_refl] at decoded
        exact ⟨b, rest, rfl, within.1, within.2, decoded⟩
      · simp [decodeFrom, step, Pending.next, within] at decoded

/-- A byte that is not the last one owed leaves one less. -/
theorem exists_further (owed : Nat) (decoded : decodeFrom (some ⟨owed + 2, low, high, code⟩) done bs = some out) :
    ∃ b rest, bs = b :: rest ∧ low ≤ b.toNat ∧ b.toNat ≤ high ∧
      decodeFrom (some ⟨owed + 1, 0x80, 0xBF, code * 64 + (b.toNat - 0x80)⟩) done rest = some out := by
  cases bs with
  | nil => cases decoded
  | cons b rest =>
      by_cases within : low ≤ b.toNat ∧ b.toNat ≤ high
      · have more : ¬ owed + 2 ≤ 1 := by omega
        simp only [decodeFrom, step, Pending.next, within, and_self, if_true, more, if_false] at decoded
        exact ⟨b, rest, rfl, within.1, within.2, decoded⟩
      · simp [decodeFrom, step, Pending.next, within] at decoded

end Pending

/-- Bytes that decode begin with those of a character, and what is behind them decodes. -/
theorem exists_encodeChar {b : UInt8} {rest : Bytes} {done out : List Char}
    (decoded : decodeFrom none done (b :: rest) = some out) :
    ∃ c after, b :: rest = encodeChar c ++ after ∧ decodeFrom none (c :: done) after = some out := by
  have opened := opens b
  simp only [decodeFrom, step] at decoded
  generalize start b = outcome at opened decoded
  cases opened with
  | one ascii =>
      have code : (Char.ofNat b.toNat).toNat = b.toNat := toNat_ofNat (.inl (by omega))
      refine ⟨_, rest, ?_, decoded⟩
      rw [encodeChar_ascii (by omega), code, eq_toUInt8 rfl]
      rfl
  | @two k value least most =>
      obtain ⟨b₂, rest, rfl, low, high, decoded⟩ := exists_last decoded
      refine ⟨_, rest, ?_, decoded⟩
      rw [encodeChar_two (a := b) (b := b₂) (by omega) (by omega) (by omega) (by omega)]
      rfl
  | @three low high k value most within =>
      obtain ⟨b₂, rest, rfl, low₂, high₂, decoded⟩ := exists_further 0 decoded
      obtain ⟨b₃, rest, rfl, low₃, high₃, decoded⟩ := exists_last decoded
      have second := within b₂.toNat low₂ high₂
      refine ⟨_, rest, ?_, decoded⟩
      rw [encodeChar_three (a := b) (b := b₂) (c := b₃) (by omega) (by omega) (by omega) (by omega) (by omega)
        (by omega)]
      rfl
  | @four low high k value within =>
      obtain ⟨b₂, rest, rfl, low₂, high₂, decoded⟩ := exists_further 1 decoded
      obtain ⟨b₃, rest, rfl, low₃, high₃, decoded⟩ := exists_further 0 decoded
      obtain ⟨b₄, rest, rfl, low₄, high₄, decoded⟩ := exists_last decoded
      have second := within b₂.toNat low₂ high₂
      refine ⟨_, rest, ?_, decoded⟩
      rw [encodeChar_four (a := b) (b := b₂) (c := b₃) (d := b₄) (by omega) (by omega) (by omega) (by omega) (by omega)
        (by omega)]
      rfl
  | refused => cases decoded

theorem length_encodeChar_pos (c : Char) : 0 < (encodeChar c).length := by
  simp only [encodeChar]
  repeat' split
  all_goals simp

/-- Whatever decodes is made of the bytes of characters. -/
theorem decodeFrom_eq_some {n : Nat} {bs : Bytes} {done out : List Char} (short : bs.length ≤ n)
    (decoded : decodeFrom none done bs = some out) : ∃ cs, bs = encodeChars cs ∧ out = done.reverse ++ cs := by
  induction n generalizing bs done with
  | zero =>
      obtain rfl := List.length_eq_zero_iff.mp (Nat.le_zero.mp short)
      cases decoded
      exact ⟨[], rfl, by simp⟩
  | succ n ih =>
      cases bs with
      | nil =>
          cases decoded
          exact ⟨[], rfl, by simp⟩
      | cons b rest =>
          obtain ⟨c, after, front, decoded⟩ := exists_encodeChar decoded
          have shorter : after.length ≤ n := by
            have whole := congrArg List.length front
            have taken := length_encodeChar_pos c
            rw [List.length_append] at whole
            omega
          obtain ⟨cs, rfl, rfl⟩ := ih shorter decoded
          exact ⟨c :: cs, front, by simp⟩

/-- Bytes decode exactly if they are those of characters, and give these. -/
theorem decodeChars?_eq_some_iff {bs : Bytes} {cs : List Char} : decodeChars? bs = some cs ↔ bs = encodeChars cs := by
  constructor
  · intro decoded
    obtain ⟨found, rfl, rfl⟩ := decodeFrom_eq_some (Nat.le_refl _) decoded
    rfl
  · rintro rfl
    exact decodeChars?_encodeChars cs

end DebugBridge.Utf8
