import DebugBridge.Json.Printer
import DebugBridge.Json.Reader
import DebugBridge.Proofs.Text.Utf8

/-!
# Reading written strings

`readString_quote` reads what `quote` writes: the escapes come back as the characters that they stand for,
every other byte stands for itself, and the first quote that is not escaped ends the string.
-/

namespace DebugBridge.Json

/-- An byte that a string holds as it is. -/
def IsPlain (b : UInt8) : Prop :=
  b ≠ 34 ∧ b ≠ 92 ∧ 32 ≤ b.toNat

/-- Plain bytes of a string are read as they are. -/
theorem readText_plain {bytes : Bytes} (plain : ∀ b ∈ bytes, IsPlain b) (fuel : Nat)
    (done rest : Bytes) :
    readText (bytes.length + fuel) done (bytes ++ rest) =
      readText fuel (bytes.reverse ++ done) rest := by
  induction bytes generalizing done with
  | nil => simp
  | cons b bytes ih =>
      obtain ⟨noQuote, noEscape, printable⟩ := plain b List.mem_cons_self
      have others : ∀ c ∈ bytes, IsPlain c := fun c member => plain c (List.mem_cons_of_mem b member)
      have count : (b :: bytes).length + fuel = bytes.length + fuel + 1 := by
        simp only [List.length_cons]
        omega
      rw [count, List.cons_append, readText, if_neg noQuote, if_neg noEscape,
        if_neg (Nat.not_lt.mpr printable), ih others, List.reverse_cons, List.append_assoc]
      rfl

/-- An escape stands for its bytes. -/
theorem readText_escape {fuel : Nat} {done rest bytes after : Bytes}
    (stands : readEscape rest = .ok (bytes, after)) :
    readText (fuel + 1) done (92 :: rest) = readText fuel (bytes.reverse ++ done) after := by
  simp [readText, stands]

/-- The bytes of a character that is written as it is are plain. -/
theorem plain_of_mem_encodeChar {c : Char} (noQuote : c ≠ '"') (noEscape : c ≠ '\\')
    (printable : 32 ≤ c.toNat) {b : UInt8} (member : b ∈ Utf8.encodeChar c) : IsPlain b := by
  by_cases ascii : c.toNat < 0x80
  · rw [Utf8.encodeChar_ascii ascii, List.mem_singleton] at member
    subst member
    have byte := Utf8.toNat_toUInt8 (show c.toNat < 256 by omega)
    refine ⟨?_, ?_, by omega⟩
    · intro same
      have code : c.toNat = 34 := by rw [← byte, same]; rfl
      exact noQuote (by rw [← Char.ofNat_toNat c, code])
    · intro same
      have code : c.toNat = 92 := by rw [← byte, same]; rfl
      exact noEscape (by rw [← Char.ofNat_toNat c, code])
  · have high := Utf8.high_of_mem_encodeChar (Nat.not_lt.mp ascii) member
    refine ⟨?_, ?_, by omega⟩ <;>
    · rintro rfl
      exact absurd high (by decide)

private theorem hexDigit_table : ∀ n, n < 16 →
    hexDigitValue? (hexDigit n).toNat = some n ∧ (hexDigit n).toNat < 0x80 := by
  decide

/-- A hexadecimal digit has the value that it was written for. -/
theorem hexDigitValue?_hexDigit {n : Nat} (small : n < 16) :
    hexDigitValue? (hexDigit n).toNat = some n :=
  (hexDigit_table n small).1

theorem hexDigit_ascii {n : Nat} (small : n < 16) : (hexDigit n).toNat < 0x80 :=
  (hexDigit_table n small).2

/-- An escape sequence and the bytes of its character. -/
theorem readEscape_control {c : Char} (control : c.toNat < 32) (rest : Bytes) :
    readEscape (117 :: 48 :: 48 :: (hexDigit (c.toNat / 16)).toNat.toUInt8 ::
      (hexDigit (c.toNat % 16)).toNat.toUInt8 :: rest) = .ok (Utf8.encodeChar c, rest) := by
  have upper := hexDigitValue?_hexDigit (show c.toNat / 16 < 16 by omega)
  have lower := hexDigitValue?_hexDigit (show c.toNat % 16 < 16 by omega)
  have upperAscii := hexDigit_ascii (show c.toNat / 16 < 16 by omega)
  have lowerAscii := hexDigit_ascii (show c.toNat % 16 < 16 by omega)
  have zero : hexDigitValue? (48 : UInt8).toNat = some 0 := rfl
  have whole : ((0 * 16 + 0) * 16 + c.toNat / 16) * 16 + c.toNat % 16 = c.toNat := by omega
  have unit : readUnit (48 :: 48 :: (hexDigit (c.toNat / 16)).toNat.toUInt8 ::
      (hexDigit (c.toNat % 16)).toNat.toUInt8 :: rest) = .ok (c.toNat, rest) := by
    simp only [readUnit, zero, Utf8.toNat_toUInt8 (Nat.lt_trans upperAscii (by decide)),
      Utf8.toNat_toUInt8 (Nat.lt_trans lowerAscii (by decide)), upper, lower, whole]
  have letter : escaped? 117 = none := rfl
  simp only [readEscape, letter, readUnicode, unit]
  rw [if_pos trivial, if_neg (by omega), if_neg (by omega), Char.ofNat_toNat]

/-- How a character is written: as it is, by a letter after a backslash, or by its code. -/
theorem escape_cases (c : Char) :
    escape c = [c] ∧ c ≠ '"' ∧ c ≠ '\\' ∧ 32 ≤ c.toNat ∨
      (∃ letter, escape c = ['\\', letter] ∧ letter.toNat < 0x80 ∧ c.toNat < 0x80 ∧
        escaped? letter.toNat.toUInt8 = some c.toNat.toUInt8) ∨
      escape c = ['\\', 'u', '0', '0', hexDigit (c.toNat / 16), hexDigit (c.toNat % 16)] ∧
        c.toNat < 32 := by
  unfold escape
  split
  · next quote => subst quote; exact .inr (.inl ⟨'"', rfl, by decide, by decide, rfl⟩)
  · next noQuote =>
    split
    · next backslash => subst backslash; exact .inr (.inl ⟨'\\', rfl, by decide, by decide, rfl⟩)
    · next noEscape =>
      split
      · next control =>
        split
        · next code => exact .inr (.inl ⟨'b', rfl, by decide, by omega, by rw [code]; rfl⟩)
        · split
          · next code => exact .inr (.inl ⟨'t', rfl, by decide, by omega, by rw [code]; rfl⟩)
          · split
            · next code => exact .inr (.inl ⟨'n', rfl, by decide, by omega, by rw [code]; rfl⟩)
            · split
              · next code => exact .inr (.inl ⟨'f', rfl, by decide, by omega, by rw [code]; rfl⟩)
              · split
                · next code => exact .inr (.inl ⟨'r', rfl, by decide, by omega, by rw [code]; rfl⟩)
                · exact .inr (.inr ⟨rfl, control⟩)
      · next printable => exact .inl ⟨rfl, noQuote, noEscape, Nat.not_lt.mp printable⟩

/-- Reading one written character puts its bytes to those read, at no more fuel than its bytes. -/
theorem readText_escape_char (c : Char) {fuel : Nat} (done rest : Bytes)
    (enough : (Utf8.encodeChars (escape c)).length ≤ fuel) :
    ∃ left, fuel - (Utf8.encodeChars (escape c)).length ≤ left ∧
      readText fuel done (Utf8.encodeChars (escape c) ++ rest) =
        readText left ((Utf8.encodeChar c).reverse ++ done) rest := by
  rcases escape_cases c with ⟨asIs, noQuote, noEscape, printable⟩ |
    ⟨letter, byLetter, letterAscii, ascii, stands⟩ | ⟨byCode, control⟩
  · rw [asIs] at enough ⊢
    simp only [Utf8.encodeChars_cons, Utf8.encodeChars_nil, List.append_nil] at enough ⊢
    obtain ⟨left, rfl⟩ := Nat.exists_eq_add_of_le enough
    exact ⟨left, by omega,
      readText_plain (fun b member => plain_of_mem_encodeChar noQuote noEscape printable member) _ _ _⟩
  · rw [byLetter] at enough ⊢
    have written : Utf8.encodeChars ['\\', letter] = [92, letter.toNat.toUInt8] := by
      simp [Utf8.encodeChar_ascii letterAscii, Utf8.encodeChar_ascii (c := '\\') (by decide)]
    rw [written] at enough ⊢
    obtain ⟨left, rfl⟩ := Nat.exists_eq_add_of_lt (Nat.lt_of_lt_of_le Nat.zero_lt_two enough)
    refine ⟨left, by simp only [List.length_cons]; omega, ?_⟩
    rw [Utf8.encodeChar_ascii ascii, Nat.zero_add]
    apply readText_escape
    simp only [List.append_eq, List.cons_append, List.nil_append, readEscape, stands]
  · rw [byCode] at enough ⊢
    have upperAscii := hexDigit_ascii (show c.toNat / 16 < 16 by omega)
    have lowerAscii := hexDigit_ascii (show c.toNat % 16 < 16 by omega)
    have written : Utf8.encodeChars
        ['\\', 'u', '0', '0', hexDigit (c.toNat / 16), hexDigit (c.toNat % 16)] =
          [92, 117, 48, 48, (hexDigit (c.toNat / 16)).toNat.toUInt8,
            (hexDigit (c.toNat % 16)).toNat.toUInt8] := by
      simp only [Utf8.encodeChars_cons, Utf8.encodeChars_nil, Utf8.encodeChar_ascii upperAscii,
        Utf8.encodeChar_ascii lowerAscii]
      rfl
    rw [written] at enough ⊢
    obtain ⟨left, rfl⟩ := Nat.exists_eq_add_of_lt (Nat.lt_of_lt_of_le (by decide : 0 < 6) enough)
    refine ⟨left, by simp only [List.length_cons]; omega, ?_⟩
    rw [Nat.zero_add]
    exact readText_escape (readEscape_control control rest)

/-- Reading a written text up to its closing quote. -/
theorem readText_escaped (cs read : List Char) {fuel : Nat} (rest : Bytes)
    (enough : (Utf8.encodeChars (cs.flatMap escape)).length < fuel) :
    readText fuel (Utf8.encodeChars read).reverse (Utf8.encodeChars (cs.flatMap escape) ++ 34 :: rest) =
      .ok (String.ofList (read ++ cs), rest) := by
  induction cs generalizing read fuel with
  | nil =>
      obtain ⟨left, rfl⟩ := Nat.exists_eq_add_of_lt enough
      simp [readText, Utf8.decode?_encodeChars]
  | cons c cs ih =>
      rw [List.flatMap_cons, Utf8.encodeChars_append] at enough ⊢
      rw [List.length_append] at enough
      rw [List.append_assoc]
      have less : (Utf8.encodeChars (escape c)).length ≤ fuel := by omega
      obtain ⟨left, most, step⟩ := readText_escape_char c (Utf8.encodeChars read).reverse
        (Utf8.encodeChars (cs.flatMap escape) ++ 34 :: rest) less
      have bytes : (Utf8.encodeChar c).reverse ++ (Utf8.encodeChars read).reverse =
          (Utf8.encodeChars (read ++ [c])).reverse := by simp
      rw [step, bytes, ih (read ++ [c]) (by omega)]
      simp

/-- A written string is read back, whatever follows it. -/
theorem readString_quote (s : String) (rest : Bytes) :
    readString (Utf8.encodeChars (s.toList.flatMap escape) ++ 34 :: rest) = .ok (s, rest) := by
  have enough : (Utf8.encodeChars (s.toList.flatMap escape)).length <
      (Utf8.encodeChars (s.toList.flatMap escape) ++ 34 :: rest).length := by simp
  have read := readText_escaped s.toList [] rest enough
  simpa [readString] using read

/-- The bytes of a written string. -/
theorem encodeChars_quote (s : String) :
    Utf8.encodeChars (quote s) = 34 :: (Utf8.encodeChars (s.toList.flatMap escape) ++ [34]) := by
  simp only [quote, Utf8.encodeChars_cons, Utf8.encodeChars_append, Utf8.encodeChars_nil,
    List.append_nil]
  rfl

end DebugBridge.Json
