import DebugBridge.Proofs.Json.Numbers
import DebugBridge.Text.Trim

/-!
# Numerals

What `readUnsigned` accepts: the digits of a number, at least one and as many zeros in front as one likes, perhaps
after a plus sign (`readUnsigned_eq_some_iff`).
-/

namespace DebugBridge

/-- A text is that of a natural number. -/
inductive Numeral : List Char → Nat → Prop where
  | plain {digits : List Nat} (some : digits ≠ []) (small : ∀ d ∈ digits, d < 10) :
      Numeral (digits.map digitChar) (continued 0 digits)
  | signed {digits : List Nat} (some : digits ≠ []) (small : ∀ d ∈ digits, d < 10) :
      Numeral ('+' :: digits.map digitChar) (continued 0 digits)

/-- A decimal digit is no sign and no blank. -/
theorem digitChar_plain {d : Nat} (small : d < 10) :
    digitChar d ≠ '+' ∧ isBlank (digitChar d) = false := by
  match d, small with
  | 0, _ | 1, _ | 2, _ | 3, _ | 4, _ | 5, _ | 6, _ | 7, _ | 8, _ | 9, _ => decide

/-- A digit has one value. -/
theorem digitValue?_eq_some {c : Char} {d : Nat} (value : digitValue? c = some d) : d < 10 ∧ c = digitChar d := by
  rw [digitValue?] at value
  split at value
  · next digit =>
      have least : '0'.toNat ≤ c.toNat := digit.1
      have most : c.toNat ≤ '9'.toNat := digit.2
      have nine : '9'.toNat = '0'.toNat + 9 := rfl
      obtain rfl : c.toNat - '0'.toNat = d := Option.some.inj value
      refine ⟨by omega, ?_⟩
      rw [digitChar, show '0'.toNat + (c.toNat - '0'.toNat) = c.toNat by omega, Char.ofNat_toNat]
  · cases value

/-- Digits are read as the number that they continue, and nothing but digits is read. -/
theorem readDigits_eq_some_iff {n m : Nat} {cs : List Char} :
    readDigits n cs = some m ↔
      ∃ digits, cs = digits.map digitChar ∧ (∀ d ∈ digits, d < 10) ∧ m = continued n digits := by
  constructor
  · intro reads
    induction cs generalizing n with
    | nil =>
        cases reads
        exact ⟨[], rfl, by simp, rfl⟩
    | cons c cs ih =>
        rw [readDigits] at reads
        split at reads
        · next d value =>
            obtain ⟨small, rfl⟩ := digitValue?_eq_some value
            obtain ⟨digits, rfl, others, rfl⟩ := ih reads
            exact ⟨d :: digits, rfl, List.forall_mem_cons.mpr ⟨small, others⟩, rfl⟩
        · cases reads
  · rintro ⟨digits, rfl, small, rfl⟩
    induction digits generalizing n with
    | nil => rfl
    | cons d digits ih =>
        obtain ⟨here, there⟩ := List.forall_mem_cons.mp small
        rw [List.map_cons, readDigits, digitValue?_digitChar d here]
        exact ih there

theorem dropPlus_digits {digits : List Nat} (small : ∀ d ∈ digits, d < 10) :
    dropPlus (digits.map digitChar) = digits.map digitChar := by
  cases digits with
  | nil => rfl
  | cons d digits =>
      have noSign := (digitChar_plain (small d List.mem_cons_self)).1
      rw [List.map_cons, dropPlus.eq_def]
      split
      · next shape => exact absurd (List.cons.inj shape).1 noSign
      · rfl

/-- A numeral may begin with a plus. -/
theorem Numeral.dropPlus {cs : List Char} {n : Nat} (numeral : Numeral cs n) :
    DebugBridge.dropPlus cs ≠ [] ∧ readDigits 0 (DebugBridge.dropPlus cs) = some n := by
  cases numeral with
  | plain some small =>
      rw [dropPlus_digits small]
      exact ⟨by simpa using some, readDigits_eq_some_iff.mpr ⟨_, rfl, small, rfl⟩⟩
  | signed some small =>
      exact ⟨by simpa [DebugBridge.dropPlus] using some, readDigits_eq_some_iff.mpr ⟨_, rfl, small, rfl⟩⟩

/-- A text without its plus sign is the text, or the text has a plus sign in front. -/
theorem dropPlus_cases (cs : List Char) : dropPlus cs = cs ∨ cs = '+' :: dropPlus cs := by
  rw [dropPlus.eq_def]
  split
  · exact .inr rfl
  · exact .inl rfl

/-- Exactly the numerals of numbers that fit the width are read, as these numbers. -/
theorem readUnsigned_eq_some_iff {width n : Nat} {cs : List Char} :
    readUnsigned width cs = some n ↔ Numeral cs n ∧ n < 2 ^ width := by
  constructor
  · intro reads
    simp only [readUnsigned] at reads
    split at reads
    · cases reads
    · next some =>
        obtain ⟨value, fits⟩ := Option.filter_eq_some_iff.mp reads
        obtain ⟨digits, shape, small, rfl⟩ := readDigits_eq_some_iff.mp value
        have fits : continued 0 digits < 2 ^ width := of_decide_eq_true fits
        refine ⟨?_, fits⟩
        have nonempty : digits ≠ [] := by simpa [shape] using some
        rcases dropPlus_cases cs with plain | signed
        · rw [← plain, shape]
          exact .plain nonempty small
        · rw [signed, shape]
          exact .signed nonempty small
  · rintro ⟨numeral, fits⟩
    obtain ⟨some, value⟩ := numeral.dropPlus
    have word : n < Nat.pow 2 width := fits
    simp only [readUnsigned, List.isEmpty_iff, some, if_false, value, Option.filter, word, decide_true, if_true]

theorem Numeral.ne_nil {text : List Char} {n : Nat} (numeral : Numeral text n) : text ≠ [] := by
  cases numeral with
  | plain some small => simpa using some
  | signed some small => simp

/-- No blank stands in a numeral. -/
theorem Numeral.plain_chars {text : List Char} {n : Nat} (numeral : Numeral text n) :
    ∀ c ∈ text, isBlank c = false := by
  have digits {ds : List Nat} (small : ∀ d ∈ ds, d < 10) : ∀ c ∈ ds.map digitChar, isBlank c = false := by
    intro c member
    obtain ⟨d, inside, rfl⟩ := List.mem_map.mp member
    exact (digitChar_plain (small d inside)).2
  cases numeral with
  | plain some small => exact digits small
  | signed some small => exact List.forall_mem_cons.mpr ⟨by decide, digits small⟩

end DebugBridge
